import ContinuousData.Proofs.StreamConservation

/-! Reading by index. A cursor keeps a place in a buffer, and has no result at all where it would
leave the buffer or count beyond 64 bits. One that follows a decoder never does: it finds what the
decoder makes of the bytes from its place on, and stops where the decoder leaves off. -/
namespace ContinuousData

open Splitter

/-- A reader of the bytes from a place in a buffer on: its value or the reason of its failure, and
the place where it stops. -/
abbrev Cursor := ReaderT Bytes (ExceptT Error (StateT Nat Option))

namespace Cursor

variable {α β : Type}

/-- The number of bytes from here to the end of the buffer. -/
def remaining : Cursor Nat := fun buffer place => do
  return (.ok (← difference? buffer.length place), place)

/-- The next bytes of the buffer, without a look at how many there are. -/
def take (count : Nat) : Cursor Bytes := fun buffer place => do
  let stop ← sum? place count
  return (.ok (← slice? place stop buffer), stop)

/-- The next bytes, if there are so many. -/
def counted (count : Nat) (missing : Nat → Error) : Cursor Bytes := do
  let left ← remaining
  if left < count then throw (missing left)
  take count

def number (scalar : Scalar) : Cursor Nat :=
  return Bytes.ofBigEndian (← counted scalar.width fun _ => .missingScalar scalar)

def u8 : Cursor UInt8 := return UInt8.ofNat (← number .u8)

def i16 : Cursor Int16 := return (UInt16.ofNat (← number .i16)).toInt16

def u16 : Cursor UInt16 := return UInt16.ofNat (← number .u16)

def i32 : Cursor Int32 := return (UInt32.ofNat (← number .i32)).toInt32

def u32 : Cursor UInt32 := return UInt32.ofNat (← number .u32)

def u64 : Cursor UInt64 := return UInt64.ofNat (← number .i64)

def f32 : Cursor UInt32 := return UInt32.ofNat (← number .f32)

def bytes (count : Nat) : Cursor Bytes :=
  counted count (.missingBytes count)

def skip (count : Nat) : Cursor Unit := do
  let _ ← counted count (.missingPadding count)

def all : Cursor Bytes := do
  take (← remaining)

def text (width : Nat) : Cursor String :=
  return Text.strip (← bytes width)

def length (field : String) : Cursor Nat := do
  let value ← i32
  if value < 0 then throw (.negativeLength field value)
  return value.toInt.toNat

/-- A number that is worked out without an overflow. -/
def checked (value? : Option α) : Cursor α := fun _ place => do
  return (.ok (← value?), place)

/-- A check on what has been read, which goes without an overflow. -/
def ofExcept (result? : Option (Except Error α)) : Cursor α := fun _ place => do
  return (← result?, place)

def paddedBytes (count : Nat) : Cursor Bytes := do
  let value ← bytes count
  skip (← checked (padding? count))
  return value

def sized (field : String) : Cursor Bytes := do
  paddedBytes (← length field)

theorem bind_of_ok {first : Cursor α} {next : α → Cursor β} {buffer : Bytes} {place stop : Nat}
    {value : α} (h : first buffer place = some (.ok value, stop)) :
    (first >>= next) buffer place = next value buffer stop := by
  change Option.bind (first buffer place) _ = _
  rw [h]
  rfl

theorem bind_of_error {first : Cursor α} {next : α → Cursor β} {buffer : Bytes}
    {place stop : Nat} {reason : Error} (h : first buffer place = some (.error reason, stop)) :
    (first >>= next) buffer place = some (.error reason, stop) := by
  change Option.bind (first buffer place) _ = _
  rw [h]
  rfl

theorem remaining_eq {buffer : Bytes} {place : Nat} (inside : place ≤ buffer.length) :
    remaining buffer place = some (.ok (buffer.drop place).length, place) := by
  rw [remaining, difference?, if_pos inside, List.length_drop]
  rfl

theorem take_eq {buffer : Bytes} {place count : Nat} (room : buffer.length ≤ capacity)
    (inside : place ≤ buffer.length) (enough : count ≤ (buffer.drop place).length) :
    take count buffer place = some (.ok ((buffer.drop place).take count), place + count) := by
  rw [List.length_drop] at enough
  unfold capacity at room
  rw [take, sum?_eq (by omega), Option.bind_eq_bind, Option.bind_some,
    slice?_eq (Nat.le_add_right place count) (by omega), List.drop_take, Nat.add_sub_cancel_left]
  rfl

/-- What a decoder has come to, and the bytes that it leaves. -/
def outcome (result : Except Error α) (rest : Bytes) : EStateM.Result Error Bytes α :=
  match result with
  | .ok value => .ok value rest
  | .error reason => .error reason rest

/-- From any place in a buffer the cursor gets on without leaving it. It comes to the same as the
decoder on the bytes that start there, and leaves the same bytes behind. -/
def Follows (cursor : Cursor α) (decoder : Decoder α) : Prop :=
  ∀ buffer place, buffer.length ≤ capacity → place ≤ buffer.length →
    ∃ result stop, cursor buffer place = some (result, stop) ∧ stop ≤ buffer.length ∧
      decoder (buffer.drop place) = outcome result (buffer.drop stop)

theorem Follows.pure (value : α) : Follows (Pure.pure value) (Pure.pure value) :=
  fun _ place _ inside => ⟨.ok value, place, rfl, inside, rfl⟩

theorem Follows.throw (reason : Error) :
    Follows (throw reason : Cursor α) (throw reason : Decoder α) :=
  fun _ place _ inside => ⟨.error reason, place, rfl, inside, rfl⟩

theorem Follows.bind {first : Cursor α} {next : α → Cursor β} {first' : Decoder α}
    {next' : α → Decoder β} (h : Follows first first')
    (hn : ∀ value, Follows (next value) (next' value)) :
    Follows (first >>= next) (first' >>= next') := by
  intro buffer place room inside
  obtain ⟨result, stop, found, within, same⟩ := h buffer place room inside
  cases result with
  | error reason =>
    exact ⟨.error reason, stop, bind_of_error found, within, Decoder.bind_of_error same⟩
  | ok value =>
    obtain ⟨result, last, later, beyond, alike⟩ := hn value buffer stop room within
    refine ⟨result, last, (bind_of_ok found).trans later, beyond, ?_⟩
    rw [Decoder.bind_of_ok same, alike]

theorem Follows.map {cursor : Cursor α} {decoder : Decoder α} (f : α → β)
    (h : Follows cursor decoder) :
    Follows (do return f (← cursor)) (do return f (← decoder)) :=
  h.bind fun value => Follows.pure (f value)

/-- A number that is not read, but worked out on the way. -/
theorem Follows.checked {value? : Option α} {value : α} {next : α → Cursor β} {decoder : Decoder β}
    (exact : value? = some value) (h : Follows (next value) decoder) :
    Follows (Cursor.checked value? >>= next) decoder := by
  intro buffer place room inside
  have worked : Cursor.checked value? buffer place = some (.ok value, place) := by
    rw [exact]
    rfl
  rw [bind_of_ok worked]
  exact h buffer place room inside

theorem Follows.ofExcept {result? : Option (Except Error α)} {result : Except Error α}
    (exact : result? = some result) :
    Follows (Cursor.ofExcept result?) (Decoder.ofExcept result) := by
  subst exact
  intro buffer place _ inside
  refine ⟨result, place, rfl, inside, ?_⟩
  cases result <;> rfl

/-- A check in front of other reads. -/
theorem Follows.refuse {c : Prop} [Decidable c] {reason : Error} {next : β → Cursor α}
    {next' : β → Decoder α} {others : Cursor α} {others' : Decoder α}
    (h : Follows others others') :
    Follows (if c then MonadExcept.throw reason >>= next else others)
      (if c then MonadExcept.throw reason >>= next' else others') := by
  split
  · exact fun _ place _ inside => ⟨.error reason, place, rfl, inside, rfl⟩
  · exact h

theorem follows_remaining : Follows remaining Decoder.remaining :=
  fun _ place _ inside => ⟨_, place, remaining_eq inside, inside, rfl⟩

/-- A check whether there are enough bytes, with a number of them that may be cut off. -/
theorem Follows.saturated {count : Nat} {reason : Nat → Error} {next : β → Cursor α}
    {next' : β → Decoder α} {others : Cursor α} {others' : Decoder α}
    (h : Follows others others') :
    Follows
      (do
        let left ← remaining
        if left < min count (2 ^ 64 - 1) then MonadExcept.throw (reason left) >>= next else others)
      (do
        let left ← Decoder.remaining
        if left < count then MonadExcept.throw (reason left) >>= next' else others') := by
  intro buffer place room inside
  have found : Decoder.remaining (buffer.drop place) =
      .ok (buffer.drop place).length (buffer.drop place) := rfl
  have least : (buffer.drop place).length < min count (2 ^ 64 - 1) ↔
      (buffer.drop place).length < count := by
    unfold capacity at room
    rw [List.length_drop]
    omega
  rw [bind_of_ok (remaining_eq inside), Decoder.bind_of_ok found]
  simp only [least]
  exact Follows.refuse h buffer place room inside

theorem follows_all : Follows all Decoder.all := by
  intro buffer place room inside
  have enough := Nat.le_refl (buffer.drop place).length
  refine ⟨_, _, (bind_of_ok (remaining_eq inside)).trans (take_eq room inside enough), ?_, ?_⟩
  · rw [List.length_drop]
    omega
  · have last : place + (buffer.drop place).length = buffer.length := by
      rw [List.length_drop]
      omega
    rw [List.take_length, last, List.drop_length]
    rfl

theorem follows_counted (count : Nat) (missing : Nat → Error) :
    Follows (counted count missing) fun input =>
      if input.length < count then .error (missing input.length) input
      else .ok (input.take count) (input.drop count) := by
  intro buffer place room inside
  unfold counted
  rw [bind_of_ok (remaining_eq inside)]
  dsimp only
  by_cases short : (buffer.drop place).length < count
  · rw [if_pos short, if_pos short]
    exact ⟨_, place, rfl, inside, rfl⟩
  · rw [if_neg short, if_neg short]
    have enough := Nat.not_lt.mp short
    refine ⟨_, _, take_eq room inside enough, ?_, ?_⟩
    · rw [List.length_drop] at enough
      omega
    · rw [List.drop_drop]
      rfl

/-- A value that is made of a number of bytes. -/
theorem follows_counted_map (count : Nat) (missing : Nat → Error) (f : Bytes → α) :
    Follows (do return f (← counted count missing)) fun input =>
      if input.length < count then .error (missing input.length) input
      else .ok (f (input.take count)) (input.drop count) := by
  intro buffer place room inside
  obtain ⟨result, stop, found, within, same⟩ :=
    (follows_counted count missing).map f buffer place room inside
  refine ⟨result, stop, found, within, ?_⟩
  rw [← same]
  change _ = EStateM.bind _ _ _
  unfold EStateM.bind
  dsimp only
  split_ifs <;> rfl

theorem follows_number (scalar : Scalar) : Follows (number scalar) (Decoder.number scalar) :=
  follows_counted_map scalar.width _ Bytes.ofBigEndian

theorem follows_u8 : Follows u8 Decoder.u8 := (follows_number .u8).map _

theorem follows_i16 : Follows i16 Decoder.i16 := (follows_number .i16).map _

theorem follows_u16 : Follows u16 Decoder.u16 := (follows_number .u16).map _

theorem follows_i32 : Follows i32 Decoder.i32 := (follows_number .i32).map _

theorem follows_u32 : Follows u32 Decoder.u32 := (follows_number .u32).map _

theorem follows_u64 : Follows u64 Decoder.u64 := (follows_number .i64).map _

theorem follows_f32 : Follows f32 Decoder.f32 := (follows_number .f32).map _

theorem follows_bytes (count : Nat) : Follows (bytes count) (Decoder.bytes count) :=
  follows_counted count _

theorem follows_skip (count : Nat) : Follows (skip count) (Decoder.skip count) :=
  follows_counted_map count _ fun _ => ()

theorem follows_text (width : Nat) : Follows (text width) (Decoder.text width) :=
  (follows_bytes width).map Text.strip

theorem follows_length (field : String) : Follows (length field) (Decoder.length field) :=
  follows_i32.bind fun _ => Follows.refuse (Follows.pure _)

theorem follows_paddedBytes (count : Nat) :
    Follows (paddedBytes count) (Decoder.paddedBytes count) :=
  (follows_bytes count).bind fun value =>
    Follows.checked (padding?_eq count) ((follows_skip _).map fun _ => value)

theorem follows_sized (field : String) : Follows (sized field) (Decoder.sized field) :=
  (follows_length field).bind follows_paddedBytes

end Cursor

end ContinuousData
