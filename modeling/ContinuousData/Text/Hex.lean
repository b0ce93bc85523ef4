import ContinuousData.Bytes

/-! Bytes in hexadecimal notation, two digits for each. Where bytes are repeated they may be written
once, in brackets and with their count, as in `00[ab*3]01`. -/
namespace ContinuousData.Hex

def digit (n : Nat) : Char :=
  if n < 10 then Char.ofNat (48 + n) else Char.ofNat (87 + n)

def write (bytes : Bytes) : String :=
  String.ofList (bytes.flatMap fun byte => [digit (byte.toNat / 16), digit (byte.toNat % 16)])

def value? (c : Char) : Option UInt8 :=
  if '0' ≤ c && c ≤ '9' then some (UInt8.ofNat (c.toNat - 48))
  else if 'a' ≤ c && c ≤ 'f' then some (UInt8.ofNat (c.toNat - 87))
  else none

/-- Bytes without repetitions. -/
def plain? : List Char → Option Bytes
  | [] => some []
  | [_] => none
  | a :: b :: rest => do
    let byte := (← value? a) * 16 + (← value? b)
    return byte :: (← plain? rest)

def repeated (count : Nat) (bytes : Bytes) : Bytes :=
  (List.replicate count bytes).flatten

/-- The text in front of an opening bracket, or of a closing one. -/
private def before (bracket : Char) (cs : List Char) : List Char × List Char :=
  (cs.takeWhile (· ≠ bracket), (cs.dropWhile (· ≠ bracket)).drop 1)

/-- Bytes with up to `repetitions` repetitions. -/
private def readParts? : (repetitions : Nat) → List Char → Option Bytes
  | 0, cs => plain? cs
  | repetitions + 1, cs => do
    if '[' ∉ cs then plain? cs
    else
      let (front, rest) := before '[' cs
      let (digits, rest) := before '*' rest
      let (count, rest) := before ']' rest
      let count ← (String.ofList count).toNat?
      return (← plain? front) ++ repeated count (← plain? digits) ++ (← readParts? repetitions rest)

def read? (text : String) : Option Bytes :=
  let cs := text.toList
  readParts? (cs.count '[') cs

end ContinuousData.Hex
