import Trimtab.Manifest
import Trimtab.PyLines

set_option autoImplicit false

/-!
# The text of a manifest

The parser reads a manifest line by line, told by the indentation, and `load` makes knobs of what
it has read.
-/
namespace Trimtab.ManifestText
open PyText

inductive Field where
  | scalar (text : String)
  | mapping (entries : Dict String String)
  deriving DecidableEq

abbrev RawKnob := Dict String Field

/-- The locals of the loop: `knobs` without its last one, which is `cur`. -/
structure Locals where
  top : Dict String String
  knobs : List RawKnob
  cur : Option RawKnob
  inValidator : Bool

def Locals.start : Locals := ⟨∅, [], none, false⟩

def stripQuotes (cs : List Char) : List Char :=
  ((cs.dropWhile (· = '"')).reverse.dropWhile (· = '"')).reverse

def rstrip (cs : List Char) : List Char := (cs.reverse.dropWhile isSpace).reverse

/-- `key.strip(), val.strip().strip('"')` of `body.partition(":")` -/
def partition (body : List Char) : String × String :=
  let (key, val) := cut ':' body
  (String.ofList (strip key), String.ofList (stripQuotes (strip (val.getD []))))

def noItems : PyErr := .typeError "'NoneType' object does not support item assignment"

def Locals.assign (s : Locals) (indent : Nat) (key val : String) : Except PyErr Locals :=
  match s.cur with
  | none => .error noItems
  | some cur =>
    if s.inValidator && decide (6 ≤ indent) then
      match cur.get? "validator" with
      | some (.mapping entries) =>
        .ok { s with cur := some (cur.insert "validator" (.mapping (entries.insert key val))) }
      | some (.scalar _) => .error (.typeError "'str' object does not support item assignment")
      | none => .error (.keyError "validator")
    else .ok { s with cur := some (cur.insert key (.scalar val)), inValidator := false }

/-- The loop body, where `line` is not blank. -/
def Locals.read (s : Locals) (line : List Char) : Except PyErr Locals :=
  let indent := line.length - (line.dropWhile isSpace).length
  let body := strip line
  if indent = 0 then
    if body = "knobs:".toList then .ok { s with inValidator := false }
    else
      let (key, val) := partition body
      .ok { s with top := s.top.insert key val, inValidator := false }
  else if "- ".toList.isPrefixOf body then
    let (key, val) := partition (body.drop 2)
    .ok { s with
      knobs := s.knobs ++ s.cur.toList
      cur := some ((∅ : RawKnob).insert key (.scalar val))
      inValidator := false }
  else if body = "validator:".toList then
    match s.cur with
    | none => .error noItems
    | some cur => .ok { s with cur := some (cur.insert "validator" (.mapping ∅)), inValidator := true }
  else
    let (key, val) := partition body
    s.assign indent key val

def Locals.step (s : Locals) (raw : List Char) : Except PyErr Locals :=
  let line := rstrip (cut '#' raw).1
  if strip line = [] then .ok s else s.read line

def parseYaml (text : List Char) : Except PyErr (Dict String String × List RawKnob) := do
  let s ← (splitLines text).foldlM Locals.step Locals.start
  return (s.top, s.knobs ++ s.cur.toList)

/-- `r[key]`, which is a text but under `validator`. -/
def RawKnob.text (r : RawKnob) (key : String) : Except PyErr String :=
  match r.get? key with
  | some (.scalar text) => .ok text
  | some (.mapping _) => .error (.typeError "unhashable type: 'dict'")
  | none => .error (.keyError key)

/-- `r.get("validator", {})`. A text has no `get`, and is searched for the bounds before. -/
def RawKnob.validator (r : RawKnob) : Except PyErr (Dict String String) :=
  match r.get? "validator" with
  | none => .ok ∅
  | some (.mapping entries) => .ok entries
  | some (.scalar text) =>
    if isIn "min" text || isIn "max" text then
      .error (.typeError "string indices must be integers, not 'str'")
    else .error (.attributeError "'str' object has no attribute 'get'")

/-- `float(v[key]) if key in v else None` -/
def bound (v : Dict String String) (key : String) : Except PyErr (Option PyFloat) :=
  match v.get? key with
  | none => .ok none
  | some text => (textToFloat text).map some

/-- `tuple(c.strip() for c in text.split(",") if c.strip())` -/
def choicesOf (text : String) : List String :=
  ((text.toList.splitOn ',').map strip).filterMap fun c =>
    if c = [] then none else some (String.ofList c)

def RawKnob.toKnob (r : RawKnob) : Except PyErr Knob := do
  let field ← r.text "field"
  let klass ← r.text "klass"
  let v ← r.validator
  let vmin ← bound v "min"
  let vmax ← bound v "max"
  return {
    field, klass, vmin, vmax
    maxSource := v.get? "max_source"
    vtype := (v.get? "type").getD "int"
    choices := choicesOf ((v.get? "choices").getD "") }

def topText (top : Dict String String) (key : String) : Except PyErr String :=
  match top.get? key with
  | some text => .ok text
  | none => .error (.keyError key)

/-- `load`, of the text of the file. -/
def load (text : List Char) : Except PyErr Manifest := do
  let (top, rawKnobs) ← parseYaml text
  let knobs ← rawKnobs.mapM RawKnob.toKnob
  let engine ← topText top "engine"
  let engineCommit ← topText top "engine_commit"
  return Manifest.ofKnobs engine engineCommit knobs

end Trimtab.ManifestText
