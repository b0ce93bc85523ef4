import ContinuousData.Decoder
import ContinuousData.Encoder

/-! The body of ALERT frames: a message as a sized field, never blank. -/
namespace ContinuousData

namespace Alert

def check (message : String) : Except Error Unit :=
  if Text.isBlankText message then throw .emptyAlert else return

def read : Decoder String := do
  let message := Text.strip (← Decoder.sized "alert size")
  Decoder.ofExcept (check message)
  return message

def write (message : String) : Except Error Bytes := do
  check message
  Encoder.sized (Text.encode message)

end Alert

end ContinuousData
