import ContinuousData.Error
import ContinuousData.Text.Field

/-! The written forms of the fields of a frame. -/
namespace ContinuousData.Encoder

def u8 (value : UInt8) : Bytes := [value]

def i16 (value : Int16) : Bytes := Bytes.bigEndian 2 value.toUInt16.toNat

def u16 (value : UInt16) : Bytes := Bytes.bigEndian 2 value.toNat

def i32 (value : Int32) : Bytes := Bytes.bigEndian 4 value.toUInt32.toNat

def u32 (value : UInt32) : Bytes := Bytes.bigEndian 4 value.toNat

def u64 (value : UInt64) : Bytes := Bytes.bigEndian 8 value.toNat

/-- The largest value of a length field. -/
def maxLength : Nat := 0x7FFFFFFF

/-- A length that is known to fit its field. -/
def length (value : Nat) : Bytes := Bytes.bigEndian 4 value

/-- A text in a field of fixed width, filled up with NUL bytes. -/
def text (value : String) (width : Nat) : Except Error Bytes :=
  if width < Text.size value then throw (.textTooWide value width)
  else return Text.encode value ++ Bytes.zeros (width - Text.size value)

def padded (value : Bytes) : Bytes :=
  value ++ Bytes.zeros (Bytes.padding value.length 4)

/-- A length and the bytes, filled up to a multiple of four. -/
def sized (value : Bytes) : Except Error Bytes :=
  if maxLength < value.length then throw (.fieldTooLong value.length)
  else return length value.length ++ padded value

end ContinuousData.Encoder
