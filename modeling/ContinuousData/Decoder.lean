import ContinuousData.Error
import ContinuousData.Text.Field

/-! Checked reads of the fields of a frame. A read that fails leaves its input as it was; a
sequence of reads keeps what the reads before the failing one have consumed. -/
namespace ContinuousData

/-- A reader of bytes: its value or the reason of its failure, and the bytes that are left. -/
abbrev Decoder := EStateM Error Bytes

namespace Decoder

@[simp] theorem pure_apply {α : Type} (value : α) (input : Bytes) :
    (pure value : Decoder α) input = .ok value input := rfl

@[simp] theorem throw_apply {α : Type} (error : Error) (input : Bytes) :
    (throw error : Decoder α) input = .error error input := rfl

theorem bind_of_ok {α β : Type} {first : Decoder α} {next : α → Decoder β} {input rest : Bytes}
    {value : α} (h : first input = .ok value rest) : (first >>= next) input = next value rest := by
  simp [bind, EStateM.bind, h]

theorem bind_of_error {α β : Type} {first : Decoder α} {next : α → Decoder β} {input rest : Bytes}
    {error : Error} (h : first input = .error error rest) :
    (first >>= next) input = .error error rest := by
  simp [bind, EStateM.bind, h]

/-- A check on what has been read, which consumes nothing. -/
def ofExcept {α : Type} (result : Except Error α) : Decoder α :=
  match result with
  | .ok value => pure value
  | .error error => throw error

def remaining : Decoder Nat := fun input => .ok input.length input

/-- An unsigned number in the width of `scalar`. -/
def number (scalar : Scalar) : Decoder Nat := fun input =>
  if input.length < scalar.width then .error (.missingScalar scalar) input
  else .ok (Bytes.ofBigEndian (input.take scalar.width)) (input.drop scalar.width)

def u8 : Decoder UInt8 := return UInt8.ofNat (← number .u8)

def i16 : Decoder Int16 := return (UInt16.ofNat (← number .i16)).toInt16

def u16 : Decoder UInt16 := return UInt16.ofNat (← number .u16)

def i32 : Decoder Int32 := return (UInt32.ofNat (← number .i32)).toInt32

def u32 : Decoder UInt32 := return UInt32.ofNat (← number .u32)

def i64 : Decoder Int64 := return (UInt64.ofNat (← number .i64)).toInt64

/-- The wire carries sequence numbers as signed numbers; their bits are read as unsigned. -/
def u64 : Decoder UInt64 := return UInt64.ofNat (← number .i64)

def f32 : Decoder UInt32 := return UInt32.ofNat (← number .f32)

def bytes (count : Nat) : Decoder Bytes := fun input =>
  if input.length < count then .error (.missingBytes count input.length) input
  else .ok (input.take count) (input.drop count)

def skip (count : Nat) : Decoder Unit := fun input =>
  if input.length < count then .error (.missingPadding count input.length) input
  else .ok () (input.drop count)

/-- Everything that is left. -/
def all : Decoder Bytes := fun input => .ok input []

def text (width : Nat) : Decoder String :=
  return Text.strip (← bytes width)

/-- A length field, which must not be negative. -/
def length (field : String) : Decoder Nat := do
  let value ← i32
  if value < 0 then throw (.negativeLength field value)
  return value.toInt.toNat

def paddedBytes (count : Nat) : Decoder Bytes := do
  let value ← bytes count
  skip (Bytes.padding count 4)
  return value

/-- A length and as many bytes, filled up to a multiple of four. -/
def sized (field : String) : Decoder Bytes := do
  paddedBytes (← length field)

end Decoder

end ContinuousData
