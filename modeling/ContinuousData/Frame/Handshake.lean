import ContinuousData.Address
import ContinuousData.Decoder
import ContinuousData.Encoder

/-! The body of CONNECTION_REQUEST and CONNECTION_RESPONSE frames, 32 bytes:

```
 0  major version (i16), minor version (i16)
 4  name (8 characters), type (4 characters), service (4 characters)
20  address (u32), port (u16)
26  secondary address (u32), secondary port (u16), zero where there is none
```
-/
namespace ContinuousData

inductive Service where
  | tcp
  | udp
  deriving DecidableEq, Repr

namespace Service

def text : Service → String
  | tcp => "TCP"
  | udp => "UDP"

def ofText (text : String) : Except Error Service :=
  if text = "TCP" then .ok tcp
  else if text = "UDP" then .ok udp
  else .error (.unknownService text)

theorem ofText_text (service : Service) : ofText service.text = .ok service := by
  cases service <;> rfl

end Service

/-- In a request, the station that asks and its address; in a response, the responder and the
address where the station's data is expected. -/
structure Handshake where
  major : Int16
  minor : Int16
  name : String
  type : String
  service : Service
  ip : Ipv4
  port : UInt16
  secondary : Option (Ipv4 × UInt16)
  deriving DecidableEq, Repr

namespace Handshake

def nameWidth : Nat := 8
def typeWidth : Nat := 4
def serviceWidth : Nat := 4

def check (body : Handshake) : Except Error Unit := do
  if body.major < 0 ∨ body.minor < 0 then throw (.negativeVersion body.major body.minor)
  if nameWidth < Text.size body.name then throw (.nameTooLong body.name nameWidth)
  if typeWidth < Text.size body.type then throw (.typeTooLong body.type typeWidth)

/-- An address and a port of zero stand for no secondary address. -/
def secondaryOf (ip : UInt32) (port : UInt16) : Option (Ipv4 × UInt16) :=
  if ip = 0 ∧ port = 0 then none else some (⟨ip⟩, port)

def read : Decoder Handshake := do
  let major ← Decoder.i16
  let minor ← Decoder.i16
  let name ← Decoder.text nameWidth
  let type ← Decoder.text typeWidth
  let service ← Decoder.ofExcept (Service.ofText (← Decoder.text serviceWidth))
  let ip ← Decoder.u32
  let port ← Decoder.u16
  let secondaryIp ← Decoder.u32
  let secondaryPort ← Decoder.u16
  let body : Handshake :=
    { major, minor, name, type, service, ip := ⟨ip⟩, port
      secondary := secondaryOf secondaryIp secondaryPort }
  Decoder.ofExcept body.check
  return body

def write (body : Handshake) : Except Error Bytes := do
  body.check
  let name ← Encoder.text body.name nameWidth
  let type ← Encoder.text body.type typeWidth
  let service ← Encoder.text body.service.text serviceWidth
  let (secondaryIp, secondaryPort) := body.secondary.getD (.unspecified, 0)
  return Encoder.i16 body.major ++ Encoder.i16 body.minor ++ name ++ type ++ service ++
    Encoder.u32 body.ip.value ++ Encoder.u16 body.port ++
    Encoder.u32 secondaryIp.value ++ Encoder.u16 secondaryPort

end Handshake

end ContinuousData
