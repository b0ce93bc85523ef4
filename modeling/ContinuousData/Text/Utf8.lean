import ContinuousData.Bytes

/-! UTF-8: texts to bytes, and any bytes to characters. Each maximal ill-formed part of a byte
string is read as one replacement character. -/
namespace ContinuousData.Text

def encode (s : String) : Bytes :=
  s.toList.flatMap String.utf8EncodeChar

/-- The number of bytes of a text. -/
def size (s : String) : Nat :=
  (encode s).length

def replacement : Char := '\uFFFD'

/-- The length that a lead byte announces, zero for a byte that leads nothing. -/
def announced (lead : UInt8) : Nat :=
  if lead < 0x80 then 1
  else if lead < 0xC2 then 0
  else if lead < 0xE0 then 2
  else if lead < 0xF0 then 3
  else if lead < 0xF5 then 4
  else 0

def isContinuation (byte : UInt8) : Bool :=
  0x80 ≤ byte && byte ≤ 0xBF

/-- The second byte is restricted after leads that could encode a value too long, a surrogate, or
a value above the last code point. -/
def isSecond (lead second : UInt8) : Bool :=
  (if lead = 0xE0 then 0xA0 else if lead = 0xF0 then 0x90 else 0x80) ≤ second &&
    second ≤ (if lead = 0xED then 0x9F else if lead = 0xF4 then 0x8F else 0xBF)

/-- The bytes after `lead` that belong to its sequence, complete or not. -/
def continuation (lead : UInt8) : Bytes → Bytes
  | [] => []
  | second :: rest =>
    if isSecond lead second then
      ((second :: rest).take (announced lead - 1)).takeWhile isContinuation
    else []

/-- The value of a complete sequence: the payload bits of the lead, then six of each other byte. -/
def codePoint (lead : UInt8) (tail : Bytes) : Nat :=
  tail.foldl (fun value byte => value * 64 + byte.toNat % 64)
    (if tail.length = 0 then lead.toNat else lead.toNat % (1 <<< (6 - tail.length)))

/-- The character at the front, and how many bytes it takes besides its lead. -/
def front (lead : UInt8) (rest : Bytes) : Char × Nat :=
  let tail := continuation lead rest
  if tail.length + 1 = announced lead then (Char.ofNat (codePoint lead tail), tail.length)
  else (replacement, tail.length)

/-- Reads characters after skipping `skip` bytes. -/
def decodeFrom : Nat → Bytes → List Char
  | _, [] => []
  | skip + 1, _ :: rest => decodeFrom skip rest
  | 0, lead :: rest => (front lead rest).1 :: decodeFrom (front lead rest).2 rest

def decode (bytes : Bytes) : List Char :=
  decodeFrom 0 bytes

end ContinuousData.Text
