/-! Frame types and their codes. -/
namespace ContinuousData

/-- The types of frames. A custom reset is an agreement between single peers; `malformed` marks
bytes that are no frame, and is never sent. -/
inductive FrameType where
  | connectionRequest
  | connectionResponse
  | optionRequest
  | optionResponse
  | data
  | acknack
  | alert
  | commandRequest
  | commandResponse
  | encapsulation
  | customReset
  | malformed
  deriving DecidableEq, Repr

namespace FrameType

def all : List FrameType :=
  [connectionRequest, connectionResponse, optionRequest, optionResponse, data, acknack, alert,
    commandRequest, commandResponse, encapsulation, customReset, malformed]

def code : FrameType → Int32
  | connectionRequest => 1
  | connectionResponse => 2
  | optionRequest => 3
  | optionResponse => 4
  | data => 5
  | acknack => 6
  | alert => 7
  | commandRequest => 8
  | commandResponse => 9
  | encapsulation => 13
  | customReset => 26
  | malformed => 27

def name : FrameType → String
  | connectionRequest => "CONNECTION_REQUEST"
  | connectionResponse => "CONNECTION_RESPONSE"
  | optionRequest => "OPTION_REQUEST"
  | optionResponse => "OPTION_RESPONSE"
  | data => "DATA"
  | acknack => "ACKNACK"
  | alert => "ALERT"
  | commandRequest => "COMMAND_REQUEST"
  | commandResponse => "COMMAND_RESPONSE"
  | encapsulation => "CD_ONE_ENCAPSULATION"
  | customReset => "CUSTOM_RESET_FRAME"
  | malformed => "MALFORMED_FRAME"

def ofCode? (code : Int32) : Option FrameType :=
  all.find? (·.code = code)

/-- The type that a code read from the wire stands for. -/
def ofWire? (code : Int32) : Option FrameType :=
  (ofCode? code).filter (· ≠ malformed)

theorem ofCode?_code (kind : FrameType) : ofCode? kind.code = some kind := by
  cases kind <;> decide

theorem ofWire?_code {kind : FrameType} (h : kind ≠ malformed) : ofWire? kind.code = some kind := by
  simp [ofWire?, ofCode?_code, h]

theorem ofWire?_eq_some {code : Int32} {kind : FrameType} (h : ofWire? code = some kind) :
    kind.code = code ∧ kind ≠ malformed := by
  obtain ⟨found, sent⟩ := Option.filter_eq_some_iff.mp h
  exact ⟨by simpa using List.find?_some found, by simpa using sent⟩

end FrameType

end ContinuousData
