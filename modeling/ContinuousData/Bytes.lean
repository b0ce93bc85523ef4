/-! Byte strings, the padding of variable fields and big-endian numbers. A number written in a
width that holds it is read back unchanged. -/
namespace ContinuousData

abbrev Bytes := List UInt8

namespace Bytes

/-- The number of bytes missing to the next multiple of `unit`. -/
def padding (size unit : Nat) : Nat :=
  if size % unit = 0 then 0 else unit - size % unit

def padded (size unit : Nat) : Nat :=
  size + padding size unit

/-- Variable fields are aligned to four bytes. -/
def aligned (size : Nat) : Nat :=
  padded size 4

def zeros (count : Nat) : Bytes :=
  List.replicate count 0

@[simp] theorem length_zeros (count : Nat) : (zeros count).length = count := by
  simp [zeros]

theorem aligned_mod (size : Nat) : aligned size % 4 = 0 := by
  unfold aligned padded padding
  split <;> omega

/-- The first `count` pieces of `width` bytes. -/
def pieces (width : Nat) : Nat → Bytes → List Bytes
  | 0, _ => []
  | count + 1, bytes => bytes.take width :: pieces width count (bytes.drop width)

/-- All bytes in pieces of `width` bytes, the last of which may be shorter. -/
def cut (width : Nat) (bytes : Bytes) : List Bytes :=
  pieces width ((bytes.length + width - 1) / width) bytes

/-- The low `width` bytes of a number, most significant first. -/
def bigEndian : Nat → Nat → Bytes
  | 0, _ => []
  | width + 1, value => bigEndian width (value / 256) ++ [UInt8.ofNat value]

def ofBigEndian (bytes : Bytes) : Nat :=
  bytes.foldl (fun value byte => value * 256 + byte.toNat) 0

@[simp] theorem length_bigEndian (width value : Nat) : (bigEndian width value).length = width := by
  induction width generalizing value with
  | zero => rfl
  | succ width ih => simp [bigEndian, ih]

theorem ofBigEndian_concat (bytes : Bytes) (byte : UInt8) :
    ofBigEndian (bytes ++ [byte]) = ofBigEndian bytes * 256 + byte.toNat := by
  simp [ofBigEndian]

theorem ofBigEndian_bigEndian (width value : Nat) :
    ofBigEndian (bigEndian width value) = value % Nat.pow 256 width := by
  induction width generalizing value with
  | zero => simp [bigEndian, ofBigEndian, Nat.mod_one]
  | succ width ih =>
    have split : value % Nat.pow 256 (width + 1) =
        value % 256 + 256 * (value / 256 % Nat.pow 256 width) := by
      rw [← Nat.mod_mul, Nat.mul_comm]
      rfl
    have low : (UInt8.ofNat value).toNat = value % 256 := by simp
    rw [bigEndian, ofBigEndian_concat, ih, low, split]
    omega

end Bytes

end ContinuousData
