import ContinuousData.Frame.Header
import ContinuousData.Frame.Trailer

/-! Splits a stream of bytes into frames, without a look at their bodies. A header tells where the
trailer starts, and the trailer's first eight bytes how long it is. Where one of them makes no sense
it is dropped, with everything up to the next four bytes, counted from there in steps of four, that
may be the start of a frame. Each outcome is a piece from the front of the buffer. -/
namespace ContinuousData

/-- What is found at the front of a buffer. -/
inductive Piece where
  | frame (raw : Bytes)
  | garbage (raw : Bytes) (reason : Error)
  deriving DecidableEq, Repr

namespace Piece

def raw : Piece → Bytes
  | frame raw => raw
  | garbage raw _ => raw

end Piece

namespace Splitter

def defaultLimit : Nat := 16 * 1024 * 1024

/-- The signed number of four bytes. -/
def word (bytes : Bytes) : Int32 :=
  (UInt32.ofNat (Bytes.ofBigEndian bytes)).toInt32

/-- How many bytes to drop before the next type code. -/
def distance : Bytes → Nat
  | a :: b :: c :: d :: rest =>
    if (FrameType.ofWire? (word [a, b, c, d])).isSome then 0 else 4 + distance rest
  | _ => 0

theorem distance_le (bytes : Bytes) : distance bytes ≤ bytes.length := by
  fun_induction distance bytes with
  | case1 a b c d rest found => exact Nat.zero_le _
  | case2 a b c d rest notFound ih =>
    simp only [List.length_cons]
    omega
  | case3 bytes short => exact Nat.zero_le _

/-- The length of the garbage whose first `least` bytes are at fault. -/
def garbageLength (least : Nat) (buffer : Bytes) : Nat :=
  least + distance (buffer.drop least)

def dropGarbage (least : Nat) (reason : Error) (buffer : Bytes) : Option (Piece × Bytes) :=
  let count := garbageLength least buffer
  some (.garbage (buffer.take count) reason, buffer.drop count)

/-- The first piece and the rest, or none while the buffer is too short to tell. -/
def next (limit : Nat) (buffer : Bytes) : Option (Piece × Bytes) :=
  if buffer.length < Header.width then none
  else match Header.readTypeAndOffset buffer with
    | .error reason _ => dropGarbage Header.width reason buffer
    | .ok (_, offset) _ =>
      if limit < offset then
        dropGarbage Header.width (.offsetExceedsLimit offset limit) buffer
      else
        let fixedEnd := offset + Trailer.fixedWidth
        if buffer.length < fixedEnd then none
        else
          let size := word ((buffer.drop (fixedEnd - 4)).take 4)
          if size < 0 then dropGarbage fixedEnd (.negativeAuthenticationSize size) buffer
          else
            let length := offset + Trailer.lengthFor size.toInt.toNat
            if limit < length then dropGarbage fixedEnd (.frameExceedsLimit length limit) buffer
            else if buffer.length < length then none
            else some (.frame (buffer.take length), buffer.drop length)

theorem next_append {limit : Nat} {buffer rest : Bytes} {piece : Piece}
    (h : next limit buffer = some (piece, rest)) : piece.raw ++ rest = buffer := by
  revert h
  unfold next dropGarbage
  dsimp only
  repeat' split
  all_goals
    intro h
    first
      | contradiction
      | (injection h with h
         injection h with hp hr
         subst hp hr
         simp [Piece.raw])

/-- Every piece takes at least a header's length off the buffer. -/
theorem next_length {limit : Nat} {buffer rest : Bytes} {piece : Piece}
    (h : next limit buffer = some (piece, rest)) : rest.length + 36 ≤ buffer.length := by
  revert h
  unfold next dropGarbage garbageLength Trailer.lengthFor Trailer.fixedWidth Header.width
  dsimp only
  split
  · intro h; contradiction
  split
  · intro h
    injection h with h
    injection h with _ hr
    subst hr
    simp only [List.length_drop]
    omega
  · rename_i type offset _ read
    have : 36 ≤ offset := Header.offset_of_readTypeAndOffset read
    repeat' split
    all_goals
      intro h
      first
        | contradiction
        | (injection h with h
           injection h with _ hr
           subst hr
           simp only [List.length_drop]
           omega)

/-- All pieces at the front of the buffer, and what is left for later. -/
def pieces (limit : Nat) (buffer : Bytes) : List Piece × Bytes :=
  match _found : next limit buffer with
  | none => ([], buffer)
  | some (piece, rest) =>
    let (others, left) := pieces limit rest
    (piece :: others, left)
termination_by buffer.length
decreasing_by
  have := next_length _found
  omega

/-- What arrives is put behind the buffer, and all complete pieces are taken off it. -/
def feed (limit : Nat) (buffer chunk : Bytes) : List Piece × Bytes :=
  pieces limit (buffer ++ chunk)

/-- The pieces found while chunks arrive one after the other. -/
def feedAll (limit : Nat) : Bytes → List Bytes → List Piece × Bytes
  | buffer, [] => ([], buffer)
  | buffer, chunk :: chunks =>
    let (found, left) := feed limit buffer chunk
    let (later, left) := feedAll limit left chunks
    (found ++ later, left)

end Splitter

end ContinuousData
