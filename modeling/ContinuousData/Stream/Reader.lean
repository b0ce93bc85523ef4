import ContinuousData.Stream.Splitter

/-! Reading a stream piece by piece. Reads bring what the peer sends in portions of any size; a read
that brings nothing is the end of the stream. Bytes behind a piece stay in the buffer. -/
namespace ContinuousData

/-- What comes of waiting for the stream. -/
inductive Delivery where
  | bytes (portion : Bytes)
  | cancelled
  deriving DecidableEq, Repr

namespace Delivery

/-- A read brings at most this many bytes. -/
def portionLimit : Nat := 8192

/-- What is sent at once may take several reads to arrive. -/
def ofSent (sent : Bytes) : List Delivery :=
  if sent = [] then [.bytes []] else (Bytes.cut portionLimit sent).map .bytes

def size : Delivery → Nat
  | bytes portion => portion.length
  | cancelled => 0

/-- How much comes with all of them. -/
def total (deliveries : List Delivery) : Nat :=
  deliveries.foldr (fun delivery rest => delivery.size + rest) 0

@[simp] theorem total_nil : total [] = 0 :=
  rfl

@[simp] theorem total_cons (delivery : Delivery) (deliveries : List Delivery) :
    total (delivery :: deliveries) = delivery.size + total deliveries :=
  rfl

end Delivery

inductive ReadResult where
  | piece (piece : Piece)
  /-- The stream ended between two frames, or reading was cancelled. -/
  | ended
  | failed (reason : Error)
  deriving DecidableEq, Repr

namespace StreamReader

/-- What the end of the stream means for the bytes that are left. -/
def atEnd (buffer : Bytes) : ReadResult :=
  if buffer = [] then .ended else .failed (.closedInsideFrame buffer.length)

/-- Reads until the buffer holds a piece. The stream ends where its deliveries do. -/
def read (limit : Nat) (buffer : Bytes) :
    List Delivery → ReadResult × Bytes × List Delivery
  | [] =>
    match Splitter.next limit buffer with
    | some (piece, rest) => (.piece piece, rest, [])
    | none => (atEnd buffer, buffer, [])
  | delivery :: later =>
    match Splitter.next limit buffer with
    | some (piece, rest) => (.piece piece, rest, delivery :: later)
    | none =>
      match delivery with
      | .cancelled => (.ended, buffer, later)
      | .bytes [] => (atEnd buffer, buffer, later)
      | .bytes portion => read limit (buffer ++ portion) later

theorem read_length {limit : Nat} {buffer left : Bytes} {deliveries later : List Delivery}
    {piece : Piece} (h : read limit buffer deliveries = (.piece piece, left, later)) :
    left.length + Delivery.total later <
      buffer.length + Delivery.total deliveries := by
  induction deliveries generalizing buffer with
  | nil =>
    simp only [read] at h
    split at h
    · rename_i found
      obtain ⟨rfl, rfl, rfl⟩ := by simpa using h
      have := Splitter.next_length found
      simp
      omega
    · simp [atEnd] at h
      split at h <;> simp at h
  | cons delivery deliveries ih =>
    simp only [read] at h
    split at h
    · rename_i found
      obtain ⟨rfl, rfl, rfl⟩ := by simpa using h
      have := Splitter.next_length found
      simp
      omega
    · split at h
      · simp at h
      · simp only [atEnd] at h
        split at h <;> simp at h
      · have := ih h
        simp [Delivery.size] at this ⊢
        omega

/-- Reads one piece after the other up to the end of the stream, or to the first failure. With each
result goes the buffer it leaves. -/
def readAll (limit : Nat) (buffer : Bytes) (deliveries : List Delivery) :
    List (ReadResult × Bytes) :=
  match _found : read limit buffer deliveries with
  | (.piece piece, left, later) => (.piece piece, left) :: readAll limit left later
  | (result, left, _) => [(result, left)]
termination_by buffer.length + Delivery.total deliveries
decreasing_by exact read_length _found

end StreamReader

end ContinuousData
