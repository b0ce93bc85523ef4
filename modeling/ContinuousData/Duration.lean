/-! Lengths of time and their text: the largest unit of which there is one, with as many decimals as
it takes. -/
namespace ContinuousData

/-- Nanoseconds. -/
abbrev Duration := Nat

namespace Duration

def ofMillis (millis : Nat) : Duration :=
  millis * 1000000

def ofSeconds (seconds : Nat) : Duration :=
  seconds * 1000000000

def millis (duration : Duration) : Nat :=
  duration / 1000000

/-- The decimals of `rest` parts of `10 ^ places`, without zeros at the end. -/
def decimals (places rest : Nat) : List Char :=
  let digits := Nat.toDigits 10 rest
  let padded := List.replicate (places - digits.length) '0' ++ digits
  (padded.reverse.dropWhile (· = '0')).reverse

def inUnit (duration places : Nat) (unit : String) : String :=
  let size := Nat.pow 10 places
  let whole := s!"{duration / size}"
  let rest := duration % size
  if rest = 0 then whole ++ unit
  else whole ++ "." ++ String.ofList (decimals places rest) ++ unit

def text (duration : Duration) : String :=
  if 1000000000 ≤ duration then inUnit duration 9 "s"
  else if 1000000 ≤ duration then inUnit duration 6 "ms"
  else if 1000 ≤ duration then inUnit duration 3 "µs"
  else inUnit duration 0 "ns"

end Duration

end ContinuousData
