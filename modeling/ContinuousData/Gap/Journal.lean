import ContinuousData.Gap.Store

/-! A store that keeps a journal of what it is asked for, and of which operations can be out of
service. An operation that is out of service is in the journal, too. -/
namespace ContinuousData

inductive StoreCall where
  | load (station : String)
  | store (station : String) (state : GapState)
  | remove (station : String)
  deriving DecidableEq, Repr

namespace StoreCall

def operation : StoreCall → String
  | load _ => "load"
  | store _ _ => "store"
  | remove _ => "remove"

end StoreCall

structure JournalStore where
  states : MemoryStore := {}
  /-- In the order in which they were made. -/
  calls : List StoreCall := []
  outOfService : List String := []
  deriving DecidableEq, Repr

namespace JournalStore

/-- Notes a call, and passes it on unless its operation is out of service. -/
def perform {α : Type} (store : JournalStore) (call : StoreCall)
    (operate : MemoryStore → Except Error α × MemoryStore) : Except Error α × JournalStore :=
  let noted := { store with calls := store.calls ++ [call] }
  if call.operation ∈ store.outOfService then
    (.error (.storeOutOfService call.operation), noted)
  else
    let (result, states) := operate store.states
    (result, { noted with states })

instance : GapStore JournalStore where
  load store station := store.perform (.load station) (GapStore.load · station)
  store store station state :=
    store.perform (.store station state) (GapStore.store · station state)
  remove store station := store.perform (.remove station) (GapStore.remove · station)

end JournalStore

end ContinuousData
