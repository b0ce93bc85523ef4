/-! Integers of YAML scalars: decimal, or in base 16, 8 or 2 behind `0x`, `0o` or `0b`. A decimal
number of more than one digit does not start with a zero. -/
namespace ContinuousData.Yaml

def digitValue (c : Char) : Nat :=
  if c.isDigit then c.toNat - 48
  else if 'a' ≤ c && c ≤ 'z' then c.toNat - 87
  else if 'A' ≤ c && c ≤ 'Z' then c.toNat - 55
  else 36

/-- The number that digits of a base stand for. -/
def natOfDigits? (base : Nat) (digits : List Char) : Option Nat :=
  if digits = [] then none
  else digits.foldlM
    (fun value c => if digitValue c < base then some (value * base + digitValue c) else none) 0

/-- Digits that start with a zero they do not need are no number. -/
def hasLeadingZero : List Char → Bool
  | '0' :: c :: rest => (c :: rest).all Char.isDigit
  | _ => false

/-- A number without a sign. -/
def magnitude? (digits : List Char) : Option Nat :=
  match digits with
  | '0' :: 'x' :: rest => natOfDigits? 16 rest
  | '0' :: 'o' :: rest => natOfDigits? 8 rest
  | '0' :: 'b' :: rest => natOfDigits? 2 rest
  | _ => if hasLeadingZero digits then none else natOfDigits? 10 digits

def unsigned? (text : List Char) : Option UInt64 := do
  let magnitude ← magnitude? (match text with
    | '+' :: rest => rest
    | _ => text)
  guard (magnitude < UInt64.size)
  return UInt64.ofNat magnitude

def signed? (text : List Char) : Option Int64 := do
  let value ← match text with
    | '-' :: rest => (- Int.ofNat ·) <$> magnitude? rest
    | '+' :: rest => Int.ofNat <$> magnitude? rest
    | _ => Int.ofNat <$> magnitude? text
  guard (Int64.minValue.toInt ≤ value && value ≤ Int64.maxValue.toInt)
  return Int64.ofInt value

end ContinuousData.Yaml
