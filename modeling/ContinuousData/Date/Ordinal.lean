import ContinuousData.Date.Calendar
import ContinuousData.Date.Timestamp
import ContinuousData.Decoder
import ContinuousData.Encoder

/-! The written form of dates: year, day of the year and time of day down to milliseconds, as in
`2020257 12:26:40.123`. Its fields have fixed places and widths, so texts sort like times. -/
namespace ContinuousData

namespace OrdinalDate

def width : Nat := 20

def shape : List Char := "ddddddd dd:dd:dd.ddd".toList

/-- Digits stand where the shape has a `d`, and its own characters elsewhere. -/
def hasShape (cs : List Char) : Bool :=
  cs.length == shape.length &&
    (cs.zip shape).all fun (c, s) => if s = 'd' then c.isDigit else c == s

def isValid (text : String) : Bool :=
  hasShape text.toList

/-- The value of the digits in the places from `first` up to `last`. -/
def field (cs : List Char) (first last : Nat) : Nat :=
  ((cs.drop first).take (last - first)).foldl (fun value c => value * 10 + (c.toNat - 48)) 0

def millisPerDay : Int := 86400000

def parse (text : String) : Except Error Timestamp := do
  let cs := text.toList
  unless hasShape cs do throw (.notADate text)
  let year := field cs 0 4
  let day := field cs 4 7
  let hour := field cs 8 10
  let minute := field cs 11 13
  let second := field cs 14 16
  let millis := field cs 17 20
  if day < 1 ∨ Calendar.daysInYear year < day then throw (.dayOutOfRange day text)
  if 23 < hour ∨ 59 < minute ∨ 59 < second then throw (.timeOutOfRange text)
  let days := Calendar.newYear year + day - 1
  let millisOfDay := ((hour * 60 + minute) * 60 + second) * 1000 + millis
  return (days * millisPerDay + millisOfDay) * 1000000

/-- The last `count` decimal digits of a number. -/
def digits : Nat → Nat → List Char
  | 0, _ => []
  | count + 1, value => digits count (value / 10) ++ [Nat.digitChar (value % 10)]

/-- Times below a millisecond are cut off, towards the past. -/
def format (time : Timestamp) : Except Error String := do
  let millis := time.millis.toInt
  let days := millis / millisPerDay
  let year := (Calendar.dateOf days).year
  if year < 0 ∨ 9999 < year then throw (.yearOutOfRange year)
  let day := (days - Calendar.newYear year + 1).toNat
  let rest := (millis % millisPerDay).toNat
  return String.ofList <|
    digits 4 year.toNat ++ digits 3 day ++ [' '] ++
    digits 2 (rest / 3600000) ++ [':'] ++
    digits 2 (rest / 60000 % 60) ++ [':'] ++
    digits 2 (rest / 1000 % 60) ++ ['.'] ++
    digits 3 (rest % 1000)

def read : Decoder Timestamp := do
  Decoder.ofExcept (parse (← Decoder.text width))

def write (time : Timestamp) : Except Error Bytes :=
  return Text.encode (← format time)

end OrdinalDate

end ContinuousData
