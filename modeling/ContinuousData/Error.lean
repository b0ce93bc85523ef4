import ContinuousData.Frame.Kind

/-! Why an operation on frames is refused, and the text that reports it. -/
namespace ContinuousData

/-- The scalar fields of a frame. -/
inductive Scalar where
  | u8 | i16 | u16 | i32 | u32 | i64 | f32
  deriving DecidableEq, Repr

namespace Scalar

def name : Scalar → String
  | u8 => "u8"
  | i16 => "i16"
  | u16 => "u16"
  | i32 => "i32"
  | u32 => "u32"
  | i64 => "i64"
  | f32 => "f32"

def width : Scalar → Nat
  | u8 => 1
  | i16 | u16 => 2
  | i32 | u32 | f32 => 4
  | i64 => 8

end Scalar

inductive Error where
  -- fields read and written
  | missingScalar (scalar : Scalar)
  | missingBytes (needed remaining : Nat)
  | missingPadding (needed remaining : Nat)
  | negativeLength (field : String) (length : Int32)
  | textTooWide (text : String) (width : Nat)
  | fieldTooLong (size : Nat)
  | countTooLarge
  -- dates
  | notADate (text : String)
  | dayOutOfRange (day : Nat) (text : String)
  | timeOutOfRange (text : String)
  | yearOutOfRange (year : Int)
  -- headers, trailers and whole frames
  | unknownFrameType (code : Int32)
  | trailerInsideHeader (offset : Int32)
  | trailerOffsetOutOfRange (offset : Nat)
  | authenticationTooLong
  | unparseableType (kind : FrameType)
  | typeMismatch (header body : FrameType)
  | trailerMisplaced (offset bodyLength : Nat)
  | bodyLengthMismatch (kind : FrameType) (expected actual : Nat)
  | endsBeforeTrailer (size offset : Nat)
  | bytesAfterTrailer (count : Nat)
  -- bodies of control frames
  | unknownService (text : String)
  | negativeVersion (major minor : Int16)
  | nameTooLong (text : String) (limit : Nat)
  | typeTooLong (text : String) (limit : Nat)
  | unsupportedOption (code : Int32)
  | optionLength (text : String)
  | emptyAlert
  | missingGaps (announced remaining : Nat)
  | targetTooLong (field text : String) (limit : Nat)
  | blankMessage (field : String)
  -- channel subframes and data frames
  | shortSubframe (remaining : Nat)
  | unknownCompression (code : UInt8)
  | channelLengthTooSmall (length : Int32)
  | channelLengthUnaligned (length : Int32)
  | authOffsetTooSmall (offset : Int32)
  | emptySite
  | emptyChannel
  | channelIdTooWide (site channel location : String)
  | dataFormatTooLong (code : String)
  | negativeTimeLength (length : Int32)
  | negativeSamples (count : Int32)
  | negativeSubframeCount (count : Int32)
  | channelCountNotPositive (count : Int32)
  | frameTimeNotPositive (length : Int32)
  | noSubframes
  | noParseableSubframe
  -- streams
  | offsetExceedsLimit (offset limit : Nat)
  | negativeAuthenticationSize (size : Int32)
  | frameExceedsLimit (size limit : Nat)
  | closedInsideFrame (buffered : Nat)
  -- gap lists
  | emptyRange (min max : UInt64)
  | gapOutside (start stop min max : UInt64)
  | gapsTouch (start : UInt64)
  | reversedRange (start stop : UInt64)
  | rangeOutside (start stop min max : UInt64)
  -- stored gap state
  | stationNotAFileName (quotedName : String)
  | readingFailed (quotedPath : String)
  | parsingFailed (quotedPath : String)
  | writingFailed (quotedPath : String)
  | renamingFailed (quotedSource quotedTarget : String)
  | removingFailed (quotedPath : String)
  | storeOutOfService (operation : String)
  | noSuchFile
  | fileExists
  | isDirectory
  | fileNameTooLong
  | ioFailed
  -- endpoints and configurations
  | creatorTooLong (text : String) (limit : Nat)
  | destinationTooLong (text : String) (limit : Nat)
  | responderNameTooLong (text : String) (limit : Nat)
  | responderTypeTooLong (text : String) (limit : Nat)
  | endpointVersionNegative
  | framesetTooLong (text : String) (limit : Nat)
  | blankStation
  | acknackIntervalZero
  | expiryBelowAcknack (limit interval : String)
  | storeIntervalZero
  | queueCapacityZero
  | frameSizeLimitTooSmall (limit : Nat)
  | heartbeatZero
  | addressNotV4 (address station : String)
  | stationTwice (station : String)
  -- connections
  | unreachable (address : String) (attempts : Nat) (reason : String)
  | networkUnreachable
  | connectionRefused
  | publisherGone (sequence : UInt64) (station : String)
  | notData (kind : FrameType)
  | clientClosed
  | requestSuperseded
  | closedBeforeResponse
  | connectionClosed
  | writeFailed
  deriving DecidableEq, Repr

namespace Error

def message : Error → String
  | missingScalar scalar => "buffer underflow reading " ++ scalar.name
  | missingBytes needed remaining =>
    s!"buffer underflow: need {needed} bytes, {remaining} remaining"
  | missingPadding needed remaining =>
    s!"buffer underflow: cannot skip {needed} bytes, {remaining} remaining"
  | negativeLength field length => s!"{field} must be non-negative, was {length}"
  | textTooWide text width =>
    s!"string '{text}' is longer than its field width of {width} bytes"
  | fieldTooLong size => s!"field of {size} bytes exceeds the CD-1.1 size limit"
  | countTooLarge => "out of range integral type conversion attempted"
  | notADate text => s!"'{text}' is not a valid CD-1.1 julian date (yyyyddd hh:mm:ss.mmm)"
  | dayOutOfRange day text => s!"day of year {day} out of range in '{text}'"
  | timeOutOfRange text => s!"time of day out of range in '{text}'"
  | yearOutOfRange year => s!"year {year} cannot be represented as a CD-1.1 julian date"
  | unknownFrameType code => s!"invalid CD-1.1 frame type {code}"
  | trailerInsideHeader offset =>
    s!"trailer offset {offset} is smaller than the header length 36"
  | trailerOffsetOutOfRange offset => s!"trailer offset {offset} out of range"
  | authenticationTooLong => "authentication value too long"
  | unparseableType kind => kind.name ++ " is not a frame type that can be parsed"
  | typeMismatch header body =>
    "header frame type " ++ header.name ++ " does not match body frame type " ++ body.name
  | trailerMisplaced offset bodyLength =>
    s!"trailer offset {offset} does not match header length 36 + body length {bodyLength}"
  | bodyLengthMismatch kind expected actual =>
    kind.name ++ s!" frame body should be {expected} bytes, was {actual}"
  | endsBeforeTrailer size offset =>
    s!"frame of {size} bytes ends before its trailer offset {offset}"
  | bytesAfterTrailer count => s!"{count} bytes after the frame trailer"
  | unknownService text => s!"invalid service type '{text}', expected TCP or UDP"
  | negativeVersion major minor =>
    s!"protocol version must be non-negative, was {major}.{minor}"
  | nameTooLong text limit => s!"name '{text}' exceeds {limit} characters"
  | typeTooLong text limit => s!"type '{text}' exceeds {limit} characters"
  | unsupportedOption code => s!"unsupported option type {code}"
  | optionLength text =>
    s!"option value must be between 1 and 8 characters, was '{text}'"
  | emptyAlert => "alert message must not be empty"
  | missingGaps announced remaining =>
    s!"acknack announces {announced} gaps, but only {remaining} bytes remain"
  | targetTooLong field text limit => s!"{field} '{text}' exceeds {limit} characters"
  | blankMessage field => s!"{field} must not be blank"
  | shortSubframe remaining =>
    s!"channel subframe needs at least 80 bytes, {remaining} remaining"
  | unknownCompression code => s!"invalid compression format {code}"
  | channelLengthTooSmall length => s!"channel length must be at least 80, was {length}"
  | channelLengthUnaligned length => s!"channel length must be divisible by 4, was {length}"
  | authOffsetTooSmall offset => s!"authentication offset must be at least 80, was {offset}"
  | emptySite => "site name must not be empty"
  | emptyChannel => "channel name must not be empty"
  | channelIdTooWide site channel location =>
    s!"channel id {site}.{channel}.{location} exceeds its field widths"
  | dataFormatTooLong code => s!"data format code '{code}' exceeds 2 characters"
  | negativeTimeLength length => s!"subframe time length must be >= 0, was {length}"
  | negativeSamples count => s!"samples must be >= 0, was {count}"
  | negativeSubframeCount count => s!"subframe count must be >= 0, was {count}"
  | channelCountNotPositive count => s!"number of channels must be positive, was {count}"
  | frameTimeNotPositive length => s!"frame time length must be positive, was {length}"
  | noSubframes => "a DATA frame needs at least one channel subframe"
  | noParseableSubframe => "DATA frame does not contain a parseable channel subframe"
  | offsetExceedsLimit offset limit =>
    s!"trailer offset {offset} exceeds the maximum frame size {limit}"
  | negativeAuthenticationSize size => s!"negative authentication size {size}"
  | frameExceedsLimit size limit =>
    s!"frame length {size} exceeds the maximum frame size {limit}"
  | closedInsideFrame buffered =>
    s!"stream closed in the middle of a frame, {buffered} bytes buffered"
  | emptyRange min max => s!"gap list minimum {min} is greater than maximum {max}"
  | gapOutside start stop min max =>
    s!"gap [{start}, {stop}] is not a valid range within [{min}, {max}]"
  | gapsTouch start => s!"gaps overlap or touch at {start}"
  | reversedRange start stop => s!"range start {start} is greater than its end {stop}"
  | rangeOutside start stop min max =>
    s!"range [{start}, {stop}] is outside of the tracked range [{min}, {max}]"
  | stationNotAFileName quotedName =>
    s!"station name {quotedName} cannot be used as a file name"
  | readingFailed quotedPath => s!"reading gap state {quotedPath}"
  | parsingFailed quotedPath => s!"parsing gap state {quotedPath}"
  | writingFailed quotedPath => s!"writing gap state {quotedPath}"
  | renamingFailed quotedSource quotedTarget => s!"renaming {quotedSource} to {quotedTarget}"
  | removingFailed quotedPath => s!"removing gap state {quotedPath}"
  | storeOutOfService operation => s!"{operation} failed"
  | noSuchFile => "No such file or directory (os error 2)"
  | fileExists => "File exists (os error 17)"
  | isDirectory => "Is a directory (os error 21)"
  | fileNameTooLong => "File name too long (os error 36)"
  | ioFailed => "Input/output error (os error 5)"
  | creatorTooLong text limit => s!"frame creator '{text}' exceeds {limit} characters"
  | destinationTooLong text limit => s!"frame destination '{text}' exceeds {limit} characters"
  | responderNameTooLong text limit => s!"responder name '{text}' exceeds {limit} characters"
  | responderTypeTooLong text limit => s!"responder type '{text}' exceeds {limit} characters"
  | endpointVersionNegative => "protocol version must be non-negative"
  | framesetTooLong text limit => s!"frameset acked '{text}' exceeds {limit} characters"
  | blankStation => "station name must not be empty"
  | acknackIntervalZero => "acknack interval must be positive"
  | expiryBelowAcknack limit interval =>
    s!"connection expired limit ({limit}) must be greater than the acknack interval ({interval})"
  | storeIntervalZero => "gap store interval must be positive"
  | queueCapacityZero => "publisher queue capacity must be positive"
  | frameSizeLimitTooSmall limit => s!"max frame size of {limit} is too small for any frame"
  | heartbeatZero => "heartbeat interval must be positive"
  | addressNotV4 address station =>
    s!"data consumer address {address} of station {station} is not IPv4"
  | stationTwice station => s!"station {station} is registered more than once"
  | unreachable address attempts reason =>
    s!"could not connect to {address} after {attempts} attempt(s): {reason}"
  | networkUnreachable => "Network is unreachable (os error 101)"
  | connectionRefused => "Connection refused (os error 111)"
  | publisherGone sequence station =>
    s!"data frame receiver was dropped, discarding frame #{sequence} from {station}"
  | notData kind => "expected a DATA frame, got " ++ kind.name
  | clientClosed => "client is closed"
  | requestSuperseded => "no CONNECTION_RESPONSE: the request was superseded"
  | closedBeforeResponse => "connection closed before a CONNECTION_RESPONSE arrived"
  | connectionClosed => "connection closed"
  | writeFailed => "Broken pipe (os error 32)"

end Error

end ContinuousData
