import ContinuousData.Decoder
import ContinuousData.Encoder

/-! Frame trailers: authentication key (i32), authentication value (sized field) and checksum
(u64). Authentication values are carried, not verified. -/
namespace ContinuousData

structure Trailer where
  authKeyId : Int32
  authValue : Bytes
  checksum : UInt64
  deriving DecidableEq, Repr

namespace Trailer

/-- Authentication key and size. -/
def fixedWidth : Nat := 8

def checksumWidth : Nat := 8

/-- The length of a trailer whose authentication value has `size` bytes. -/
def lengthFor (size : Nat) : Nat :=
  fixedWidth + Bytes.aligned size + checksumWidth

def wireLength (trailer : Trailer) : Nat :=
  lengthFor trailer.authValue.length

def read : Decoder Trailer := do
  let authKeyId ← Decoder.i32
  let authValue ← Decoder.sized "authentication size"
  let checksum ← Decoder.u64
  return { authKeyId, authValue, checksum }

def write (trailer : Trailer) : Except Error Bytes := do
  if Encoder.maxLength < trailer.authValue.length then throw .authenticationTooLong
  let authValue ← Encoder.sized trailer.authValue
  return Encoder.i32 trailer.authKeyId ++ authValue ++ Encoder.u64 trailer.checksum

end Trailer

end ContinuousData
