import ContinuousData.Frame.Body
import ContinuousData.Frame.Checksum
import ContinuousData.Frame.Header
import ContinuousData.Frame.Trailer

/-! Frames: header, body and trailer together with the bytes that were received or will be sent. -/
namespace ContinuousData

structure Frame where
  header : Header
  body : Body
  trailer : Trailer
  raw : Bytes
  deriving DecidableEq, Repr

namespace Frame

def type (frame : Frame) : FrameType :=
  frame.header.type

def sequence (frame : Frame) : UInt64 :=
  frame.header.sequence

def hasValidChecksum (frame : Frame) : Bool :=
  Checksum.isValid frame.raw

/-- The bytes of a frame with these parts. A trailer offset that is out of range is refused, however
large it is: no room is set aside for the bytes before the header is checked, as a program may do that
then fails for want of memory. -/
def encode (header : Header) (body : Body) (trailer : Trailer) : Except Error Bytes := do
  if header.type ≠ body.type then throw (.typeMismatch header.type body.type)
  let headerBytes ← header.write
  let bodyBytes ← body.write
  if Header.width + bodyBytes.length ≠ header.trailerOffset then
    throw (.trailerMisplaced header.trailerOffset bodyBytes.length)
  let trailerBytes ← trailer.write
  return headerBytes ++ bodyBytes ++ trailerBytes

/-- The bytes of the frame are those of its parts, as they are in every frame that is made and not
read. -/
def IsEncoded (frame : Frame) : Prop :=
  encode frame.header frame.body frame.trailer = .ok frame.raw

/-- A frame of these parts as they are; they must fit together. -/
def assemble (header : Header) (body : Body) (trailer : Trailer) : Except Error Frame := do
  return { header, body, trailer, raw := ← encode header body trailer }

/-- A frame around a body, whose trailer offset and checksum follow from the rest. -/
def compose (creator destination : String) (sequence : UInt64) (series : Int32) (body : Body)
    (authKeyId : Int32) (authValue : Bytes) : Except Error Frame := do
  let bodyBytes ← body.write
  let header : Header :=
    { type := body.type, trailerOffset := Header.width + bodyBytes.length, creator, destination
      sequence, series }
  let raw ← encode header body { authKeyId, authValue, checksum := 0 }
  return { header, body, trailer := { authKeyId, authValue, checksum := Checksum.compute raw }
           raw := Checksum.patch raw }

end Frame

/-- What could be read of bytes that are no frame. -/
structure PartialFrame where
  header : Option Header
  body : Option Bytes
  trailer : Option Trailer
  reason : Error
  raw : Bytes
  deriving DecidableEq, Repr

namespace PartialFrame

/-- The type that the header claims, where there is one. -/
def claimedType (frame : PartialFrame) : Option FrameType :=
  frame.header.map (·.type)

def hasValidChecksum (frame : PartialFrame) : Bool :=
  Checksum.isValid frame.raw

def text (frame : PartialFrame) : String :=
  let claim := match frame.claimedType with
    | some type => type.name ++ " "
    | none => ""
  "malformed " ++ claim ++ s!"frame ({frame.raw.length} bytes): " ++ frame.reason.message

end PartialFrame

namespace Frame

/-- The body announced by a header. -/
def readBody (header : Header) (body : Bytes) : Except Error Body × List Notice :=
  if body.length ≠ header.bodyLength then
    (.error (.bodyLengthMismatch header.type header.bodyLength body.length), [])
  else Body.read header.type body

/-- Reads bytes that should be exactly one frame. -/
def parse (raw : Bytes) : Except PartialFrame Frame × List Notice :=
  match Header.read raw with
  | .error reason _ => (.error ⟨none, none, none, reason, raw⟩, [])
  | .ok header _ =>
    if raw.length < header.trailerOffset then
      (.error ⟨some header, none, none, .endsBeforeTrailer raw.length header.trailerOffset, raw⟩, [])
    else
      let body := (raw.take header.trailerOffset).drop Header.width
      match Trailer.read (raw.drop header.trailerOffset) with
      | .error reason _ => (.error ⟨some header, some body, none, reason, raw⟩, [])
      | .ok trailer rest =>
        if rest ≠ [] then
          (.error ⟨some header, some body, some trailer, .bytesAfterTrailer rest.length, raw⟩, [])
        else
          match readBody header body with
          | (.ok body, notices) => (.ok { header, body, trailer, raw }, notices)
          | (.error reason, notices) =>
            (.error ⟨some header, some body, some trailer, reason, raw⟩, notices)

end Frame

end ContinuousData
