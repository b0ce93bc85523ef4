import ContinuousData.Date.Ordinal

/-! Channel subframes, the parts of a DATA frame that carry one channel each:

```
 0  channel length (i32), authentication offset (i32)
 8  authentication on (u8), compression (u8), sensor (u8), calibration (u8)
12  site (5), channel (3), location (2), data format (2 characters)
24  calibration factor (f32), calibration period (f32)
32  date (20 characters), time length in milliseconds (i32), samples (i32)
60  channel status, data (sized fields)
    subframe count (i32), authentication key (i32), authentication value (sized field)
```

Lengths of sized fields are taken from their values; channel length and authentication offset are
what the sender reports. -/
namespace ContinuousData

inductive Compression where
  | none
  | canadianAfterSignature
  | steim
  | canadianBeforeSignature
  deriving DecidableEq, Repr

namespace Compression

def code : Compression → UInt8
  | none => 0
  | canadianAfterSignature => 1
  | steim => 2
  | canadianBeforeSignature => 3

def ofCode? (code : UInt8) : Option Compression :=
  [none, canadianAfterSignature, steim, canadianBeforeSignature].find? (·.code = code)

theorem ofCode?_code (c : Compression) : ofCode? c.code = some c := by
  cases c <;> decide

end Compression

/-- What a channel measures, with room for kinds of sensors without a name. -/
inductive Sensor where
  | seismic
  | hydroacoustic
  | infrasonic
  | weather
  | other (code : UInt8)
  deriving DecidableEq, Repr

namespace Sensor

def code : Sensor → UInt8
  | seismic => 0
  | hydroacoustic => 1
  | infrasonic => 2
  | weather => 3
  | other code => code

def ofCode (code : UInt8) : Sensor :=
  ([seismic, hydroacoustic, infrasonic, weather].find? (·.code = code)).getD (other code)

def isOther : Sensor → Bool
  | other _ => true
  | _ => false

@[simp] theorem code_ofCode (code : UInt8) : (ofCode code).code = code := by
  unfold ofCode
  cases h : [seismic, hydroacoustic, infrasonic, weather].find? (·.code = code) with
  | none => rfl
  | some sensor => simpa using List.find?_some h

end Sensor

/-- The type of the samples before compression, with room for codes without a name. -/
inductive DataFormat where
  | s4
  | s3
  | s2
  | i4
  | i2
  | cd
  | other (code : String)
  deriving DecidableEq, Repr

namespace DataFormat

def code : DataFormat → String
  | s4 => "s4"
  | s3 => "s3"
  | s2 => "s2"
  | i4 => "i4"
  | i2 => "i2"
  | cd => "cd"
  | other code => code

def ofCode (code : String) : DataFormat :=
  ([s4, s3, s2, i4, i2, cd].find? (·.code = code)).getD (other code)

def isOther : DataFormat → Bool
  | other _ => true
  | _ => false

@[simp] theorem code_ofCode (code : String) : (ofCode code).code = code := by
  unfold ofCode
  cases h : [s4, s3, s2, i4, i2, cd].find? (·.code = code) with
  | none => rfl
  | some format => simpa using List.find?_some h

end DataFormat

/-- A floating point number of 32 bits, as the bits that the wire carries. -/
structure Single where
  bits : UInt32
  deriving DecidableEq, Repr

namespace Single

/-- All bits of the exponent are set, and some of the fraction. -/
def isNaN (x : Single) : Bool :=
  0x7F800000 < x.bits &&& 0x7FFFFFFF

end Single

structure Subframe where
  channelLength : Int32
  authOffset : Int32
  authenticated : Bool
  compression : Compression
  sensor : Sensor
  calibration : Bool
  site : String
  channel : String
  location : String
  format : DataFormat
  calibrationFactor : Single
  calibrationPeriod : Single
  time : Timestamp
  timeLength : Int32
  samples : Int32
  status : Bytes
  data : Bytes
  subframeCount : Int32
  authKeyId : Int32
  authValue : Bytes
  deriving DecidableEq, Repr

namespace Subframe

def siteWidth : Nat := 5
def channelWidth : Nat := 3
def locationWidth : Nat := 2
def formatWidth : Nat := 2

/-- The length of a subframe whose sized fields are empty. -/
def minLength : Nat := 80

/-- The length on the wire, which the reported channel length need not agree with. -/
def wireLength (subframe : Subframe) : Nat :=
  minLength + Bytes.aligned subframe.status.length + Bytes.aligned subframe.data.length +
    Bytes.aligned subframe.authValue.length

def check (s : Subframe) : Except Error Unit := do
  if s.channelLength < 80 then throw (.channelLengthTooSmall s.channelLength)
  if s.channelLength % 4 ≠ 0 then throw (.channelLengthUnaligned s.channelLength)
  if s.authOffset < 80 then throw (.authOffsetTooSmall s.authOffset)
  if s.site = "" then throw .emptySite
  if s.channel = "" then throw .emptyChannel
  if siteWidth < Text.size s.site ∨ channelWidth < Text.size s.channel ∨
      locationWidth < Text.size s.location then
    throw (.channelIdTooWide s.site s.channel s.location)
  if formatWidth < Text.size s.format.code then throw (.dataFormatTooLong s.format.code)
  if s.timeLength < 0 then throw (.negativeTimeLength s.timeLength)
  if s.samples < 0 then throw (.negativeSamples s.samples)
  if s.subframeCount < 0 then throw (.negativeSubframeCount s.subframeCount)

/-- The ten bytes that name the channel: site, channel and location in their fixed widths. -/
def channelId (s : Subframe) : Except Error Bytes := do
  let site ← Encoder.text s.site siteWidth
  let channel ← Encoder.text s.channel channelWidth
  let location ← Encoder.text s.location locationWidth
  return site ++ channel ++ location

def readCompression : Decoder Compression := do
  let code ← Decoder.u8
  match Compression.ofCode? code with
  | some compression => return compression
  | none => throw (.unknownCompression code)

def read : Decoder Subframe := do
  let remaining ← Decoder.remaining
  if remaining < minLength then throw (.shortSubframe remaining)
  let channelLength ← Decoder.i32
  let authOffset ← Decoder.i32
  let authenticated ← Decoder.u8
  let compression ← readCompression
  let sensor ← Decoder.u8
  let calibration ← Decoder.u8
  let site ← Decoder.text siteWidth
  let channel ← Decoder.text channelWidth
  let location ← Decoder.text locationWidth
  let format ← Decoder.text formatWidth
  let calibrationFactor ← Decoder.f32
  let calibrationPeriod ← Decoder.f32
  let time ← OrdinalDate.read
  let timeLength ← Decoder.i32
  let samples ← Decoder.i32
  let status ← Decoder.sized "channel status size"
  let data ← Decoder.sized "data size"
  let subframeCount ← Decoder.i32
  let authKeyId ← Decoder.i32
  let authValue ← Decoder.sized "authentication size"
  let subframe : Subframe :=
    { channelLength, authOffset, authenticated := authenticated = 1, compression
      sensor := Sensor.ofCode sensor, calibration := calibration = 1, site, channel, location
      format := DataFormat.ofCode format, calibrationFactor := ⟨calibrationFactor⟩
      calibrationPeriod := ⟨calibrationPeriod⟩, time, timeLength, samples, status, data
      subframeCount, authKeyId, authValue }
  Decoder.ofExcept subframe.check
  return subframe

def flag (value : Bool) : Bytes :=
  Encoder.u8 (if value then 1 else 0)

def write (s : Subframe) : Except Error Bytes := do
  s.check
  let id ← s.channelId
  let format ← Encoder.text s.format.code formatWidth
  let time ← OrdinalDate.write s.time
  let status ← Encoder.sized s.status
  let data ← Encoder.sized s.data
  let authValue ← Encoder.sized s.authValue
  return Encoder.i32 s.channelLength ++ Encoder.i32 s.authOffset ++
    flag s.authenticated ++ Encoder.u8 s.compression.code ++
    Encoder.u8 s.sensor.code ++ flag s.calibration ++ id ++ format ++
    Encoder.u32 s.calibrationFactor.bits ++ Encoder.u32 s.calibrationPeriod.bits ++
    time ++ Encoder.i32 s.timeLength ++ Encoder.i32 s.samples ++ status ++ data ++
    Encoder.i32 s.subframeCount ++ Encoder.i32 s.authKeyId ++ authValue

/-- Whether all numbers in it equal themselves. -/
def isComparable (s : Subframe) : Bool :=
  !s.calibrationFactor.isNaN && !s.calibrationPeriod.isNaN

/-- Samples per second. -/
def sampleRate (s : Subframe) : Float :=
  if s.timeLength = 0 then 0
  else Float.ofInt s.samples.toInt / Float.ofInt s.timeLength.toInt * 1000

/-- The time of the last sample: the end of the subframe less one sample period. -/
def endTime (s : Subframe) : Timestamp :=
  let rate := s.sampleRate
  if rate ≤ 0 then s.time
  else
    let nanos := Float.ofInt s.timeLength.toInt * 1e6 - 1e9 / rate
    s.time + (if 0 < nanos then nanos.toUInt64.toNat else 0)

end Subframe

end ContinuousData
