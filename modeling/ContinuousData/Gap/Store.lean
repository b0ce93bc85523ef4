import ContinuousData.Gap.State

/-! Stores of gap states, which keep one state for each station. -/
namespace ContinuousData

/-- What a store offers. An operation may fail; it returns the store as it is afterwards. -/
class GapStore (σ : Type) where
  load : σ → String → Except Error (Option GapState) × σ
  store : σ → String → GapState → Except Error Unit × σ
  remove : σ → String → Except Error Unit × σ

/-- A store that forgets everything with the program. -/
structure MemoryStore where
  states : List (String × GapState) := []
  deriving DecidableEq, Repr

namespace MemoryStore

def empty : MemoryStore := {}

def get? (store : MemoryStore) (station : String) : Option GapState :=
  store.states.lookup station

def erase (store : MemoryStore) (station : String) : MemoryStore :=
  ⟨store.states.filter (·.1 ≠ station)⟩

def insert (store : MemoryStore) (station : String) (state : GapState) : MemoryStore :=
  ⟨(station, state) :: (store.erase station).states⟩

instance : GapStore MemoryStore where
  load store station := (.ok (store.get? station), store)
  store store station state := (.ok (), store.insert station state)
  remove store station := (.ok (), store.erase station)

end MemoryStore

end ContinuousData
