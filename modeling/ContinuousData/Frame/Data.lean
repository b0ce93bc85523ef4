import ContinuousData.Frame.Notice
import ContinuousData.Frame.Subframe

/-! The body of DATA frames: a header,

```
 0  number of channels (i32), frame time length in milliseconds (i32)
 8  nominal time (date, 20 characters)
28  channel string: a length (i32) and ten bytes for each channel, aligned to four bytes
```

and a subframe for each channel that the channel string lists. A subframe that cannot be read ends
the list; those before it are kept. -/
namespace ContinuousData

structure DataHeader where
  channels : Int32
  timeLength : Int32
  nominalTime : Timestamp
  channelString : Bytes
  deriving DecidableEq, Repr

namespace DataHeader

def channelIdWidth : Nat := 10

def check (header : DataHeader) : Except Error Unit := do
  if header.channels ≤ 0 then throw (.channelCountNotPositive header.channels)
  if header.timeLength ≤ 0 then throw (.frameTimeNotPositive header.timeLength)

/-- The number of complete ids in the channel string. -/
def idCount (header : DataHeader) : Nat :=
  header.channelString.length / channelIdWidth

def ids (header : DataHeader) : List Bytes :=
  Bytes.pieces channelIdWidth header.idCount header.channelString

/-- Letters, digits, underscores, bars and NUL bytes. -/
def isIdByte (byte : UInt8) : Bool :=
  (Char.ofNat byte.toNat).isAlphanum || byte == 0x5F || byte == 0x7C || byte == 0

/-- The fields as they stand. Some senders do not align the channel string, so its padding is
skipped only where the next four bytes are zero; the second value tells whether it was in place. -/
def readFields : Decoder (DataHeader × Bool) := do
  let channels ← Decoder.i32
  let timeLength ← Decoder.i32
  let nominalTime ← OrdinalDate.read
  let count ← Decoder.length "channel string count"
  let channelString ← Decoder.bytes count
  let header : DataHeader := { channels, timeLength, nominalTime, channelString }
  let padding := Bytes.padding count 4
  if padding = 0 then return (header, true)
  if (← nextIsZero) then
    Decoder.skip padding
    return (header, true)
  return (header, false)
where
  nextIsZero : Decoder Bool := fun input =>
    .ok (input.take 4 == Bytes.zeros 4) input

def notices (header : DataHeader) : List Notice :=
  (if header.channelString.length % channelIdWidth ≠ 0 then
    [.channelStringLength header.channelString.length] else []) ++
  (if (header.idCount : Int) ≠ header.channels.toInt then
    [.channelCount header.idCount header.channels] else []) ++
  (header.ids.filter (!·.all isIdByte)).map fun id =>
    .invalidChannelId (String.ofList (Text.decode id))

def write (header : DataHeader) : Except Error Bytes := do
  header.check
  let time ← OrdinalDate.write header.nominalTime
  let channelString ← Encoder.sized header.channelString
  return Encoder.i32 header.channels ++ Encoder.i32 header.timeLength ++ time ++ channelString

end DataHeader

structure DataFrame where
  header : DataHeader
  subframes : List Subframe
  deriving DecidableEq, Repr

namespace DataFrame

/-- Reads up to `count` subframes, of which the first is number `index`. -/
def readSubframes : (count index : Nat) → Bytes → List Subframe × List Notice × Bytes
  | 0, _, input => ([], [], input)
  | count + 1, index, input =>
    match Subframe.read input with
    | .ok subframe rest =>
      let (subframes, notices, rest) := readSubframes count (index + 1) rest
      (subframe :: subframes, notices, rest)
    | .error reason rest => ([], [.stoppedAtSubframe index reason], rest)

/-- A body, which is consumed as a whole. -/
def read (input : Bytes) : Except Error DataFrame × List Notice :=
  match DataHeader.readFields input with
  | .error reason _ => (.error reason, [])
  | .ok (header, aligned) rest =>
    let unaligned := if aligned then [] else [.channelStringUnaligned]
    match header.check with
    | .error reason => (.error reason, unaligned)
    | .ok () =>
      let (subframes, stopped, rest) := readSubframes header.idCount 0 rest
      let notices := unaligned ++ header.notices ++ stopped
      if subframes = [] then (.error .noParseableSubframe, notices)
      else
        let left := if rest = [] then [] else [.unparsedBytes rest.length]
        (.ok { header, subframes }, notices ++ left)

def write (frame : DataFrame) : Except Error Bytes := do
  let header ← frame.header.write
  let subframes ← frame.subframes.mapM Subframe.write
  return header ++ subframes.flatten

/-- The frame of some subframes: its time length is that of the first, its nominal time the
earliest of their times. -/
def ofSubframes (subframes : List Subframe) : Except Error DataFrame :=
  match subframes with
  | [] => throw .noSubframes
  | first :: others => do
    let ids ← subframes.mapM fun subframe => do
      subframe.check
      subframe.channelId
    if Encoder.maxLength < subframes.length then throw .countTooLarge
    let header : DataHeader :=
      { channels := Int32.ofNat subframes.length
        timeLength := first.timeLength
        nominalTime := others.foldl (fun earliest subframe => min earliest subframe.time) first.time
        channelString := ids.flatten }
    header.check
    return { header, subframes }

end DataFrame

end ContinuousData
