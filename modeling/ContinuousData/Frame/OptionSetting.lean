import ContinuousData.Decoder
import ContinuousData.Encoder

/-! The body of OPTION_REQUEST and OPTION_RESPONSE frames: an option count that is not looked at,
the option's type, and its value as a sized field. -/
namespace ContinuousData

structure OptionSetting where
  type : Int32
  value : String
  deriving DecidableEq, Repr

namespace OptionSetting

/-- The only type of option there is: how a connection is established. -/
def connectionEstablishment : Int32 := 1

def check (body : OptionSetting) : Except Error Unit := do
  if body.type ≠ connectionEstablishment then throw (.unsupportedOption body.type)
  let size := Text.size (Text.trim body.value)
  if size = 0 ∨ 8 < size then throw (.optionLength body.value)

def read : Decoder OptionSetting := do
  let _count ← Decoder.i32
  let type ← Decoder.i32
  let raw ← Decoder.sized "option size"
  let body : OptionSetting := { type, value := Text.strip raw }
  Decoder.ofExcept body.check
  return body

def write (body : OptionSetting) : Except Error Bytes := do
  body.check
  let value ← Encoder.sized (Text.encode body.value)
  return Encoder.i32 1 ++ Encoder.i32 body.type ++ value

end OptionSetting

end ContinuousData
