import ContinuousData.Gap.State
import ContinuousData.Yaml.Integer
import ContinuousData.Yaml.Node

/-! The text of a gap state: a YAML mapping with the bounds and the list of gaps. Texts are read in
any form that YAML has for such a mapping; fields in addition are passed over. -/
namespace ContinuousData

namespace GapRecord

def write (record : GapRecord) : String :=
  s!"- start: {record.first}\n  end: {record.last}\n  modified_millis: {record.modifiedMillis}\n"

end GapRecord

namespace GapState

def write (state : GapState) : String :=
  s!"min: {state.min}\nmax: {state.max}\ngaps:" ++
    (if state.gaps = [] then " []\n" else "\n" ++ String.join (state.gaps.map GapRecord.write))

/-- The entries of a mapping, which may be left out altogether where it is empty. -/
def entries? : Yaml.Node → Option (List (Yaml.Node × Yaml.Node))
  | .mapping entries => some entries
  | .scalar [] true => some []
  | _ => none

def items? : Yaml.Node → Option (List Yaml.Node)
  | .sequence items => some items
  | .scalar [] true => some []
  | _ => none

def key? : Yaml.Node → Option String
  | .scalar text _ => some (String.ofList text)
  | _ => none

/-- The value of a field that a mapping must have exactly once. -/
def field? (entries : List (Yaml.Node × Yaml.Node)) (name : String) : Option Yaml.Node :=
  match entries.filter (fun entry => key? entry.1 = some name) with
  | [(_, value)] => some value
  | _ => none

def unsigned? : Yaml.Node → Option UInt64
  | .scalar text true => Yaml.unsigned? text
  | _ => none

def signed? : Yaml.Node → Option Int64
  | .scalar text true => Yaml.signed? text
  | _ => none

def recordOf? (node : Yaml.Node) : Option GapRecord := do
  let entries ← entries? node
  guard (entries.all (key? ·.1 |>.isSome))
  let first ← unsigned? (← field? entries "start")
  let last ← unsigned? (← field? entries "end")
  let modifiedMillis ← signed? (← field? entries "modified_millis")
  return { first, last, modifiedMillis }

def ofNode? (node : Yaml.Node) : Option GapState := do
  let entries ← entries? node
  guard (entries.all (key? ·.1 |>.isSome))
  let min ← unsigned? (← field? entries "min")
  let max ← unsigned? (← field? entries "max")
  let gaps ← (← items? (← field? entries "gaps")).mapM recordOf?
  return { min, max, gaps }

def read? (text : String) : Option GapState := do
  ofNode? (← Yaml.document? text)

end GapState

/-- The format of the files that are stored by default. -/
def StateFormat.yaml : StateFormat where
  write state := .ok state.write
  read? := GapState.read?

end ContinuousData
