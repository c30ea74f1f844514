import Trimtab.SglangScheduler
import Trimtab.VllmReinit

set_option autoImplicit false

/-! The engine that stands in for both in the tests of the control plane. Its lock and the delay of
a reinit are left out. -/
namespace Trimtab.MockEngine
open PyText Effects
open SglangScheduler (isReinit reinitFields)

structure State where
  engine : String
  tokens : Int
  knobs : Fields
  ceilings : Dict String Int
  appliedCalls : Nat
  lastReinit : Option Json
  deriving DecidableEq

def knobsOf (engine : String) (mrr mqr cps tokens : Int) : Fields :=
  Dict.ofList <|
    if engine = "sglang" then
      [("max_running_requests", .int mrr), ("max_queued_requests", .int mqr),
        ("chunked_prefill_size", .int cps), ("max_prefill_tokens", .int tokens),
        ("schedule_policy", .str "fcfs"), ("schedule_conservativeness", .float (.fin 1)),
        ("log_level", .str "INFO")]
    else
      [("max_num_seqs", .int mrr), ("max_num_batched_tokens", .int tokens),
        ("long_prefill_token_threshold", .int 0), ("log_level", .str "INFO")]

def capped : List String :=
  ["max_running_requests", "max_num_seqs", "max_num_batched_tokens", "max_prefill_tokens"]

/-- `State(engine, mrr, mqr, cps, tokens)` -/
def State.start (engine : String) (mrr mqr cps tokens : Int) : State where
  engine := engine
  tokens := tokens
  knobs := knobsOf engine mrr mqr cps tokens
  ceilings := (knobsOf engine mrr mqr cps tokens).filterMap fun k v =>
    if capped.contains k then v.toInt? else none
  appliedCalls := 0
  lastReinit := none

def strChoices (key : String) : Option (List String) :=
  if key = "schedule_policy" then some ["fcfs", "lpm", "dfs-weight", "lof", "random", "priority"]
  else if key = "log_level" then some ["DEBUG", "INFO", "WARNING", "ERROR"]
  else none

def reprTuple (ss : List String) : String := "(" ++ join ", " (ss.map pyRepr) ++ ")"

def allowed (engine : String) : List String :=
  if engine = "sglang" then
    ["mem_fraction_static", "max_total_tokens", "kv_cache_dtype", "max_running_requests"]
  else ["gpu_memory_utilization", "max_num_seqs", "max_num_batched_tokens"]

/-- `sorted(set(fields) - allowed)` -/
def bad (engine : String) (fields : Fields) : List String :=
  (fields.keys.filter fun k => !(allowed engine).contains k).insertionSort (· ≤ ·)

/-- `if field in fields: write(convert(fields[field]))` -/
def whenGiven {α : Type} (fields : Fields) (field : String) (convert : Json → Except PyErr α)
    (write : α → State → State) : EStateM PyErr State Unit :=
  match fields.get? field with
  | none => pure ()
  | some v => do
    let x ← ofExcept (convert v)
    modify (write x)

/-- `self.knobs[key] = n; self.ceilings[key] = n` -/
def State.resize (key : String) (n : Int) (s : State) : State :=
  { s with knobs := s.knobs.insert key (.int n), ceilings := s.ceilings.insert key n }

/-- `int(16384 * float(v))` -/
def share (v : Json) : Except PyErr Int := do (PyFloat.times 16384 (← v.asFloat)).toInt

def setTokens (n : Int) (s : State) : State :=
  let s := { s with tokens := n }
  if s.knobs.contains "max_prefill_tokens" then s.resize "max_prefill_tokens" n else s

def resized (fields : Fields) (tokens : Int) : Json :=
  .dict [("ok", .bool true), ("fields", .dict fields.entries), ("max_total_num_tokens", .int tokens),
    ("num_gpu_blocks", .int (Int.fdiv tokens 16)), ("total_s", .float (.fin (1 / 20)))]

/-- `reinit`: the result, or the text of its `error`. -/
def reinit (fields : Fields) : EStateM PyErr State (Except String Json) := do
  let engine := (← get).engine
  if bad engine fields ≠ [] then
    return .error ("not warm-reinitable: " ++ reprList (bad engine fields))
  else do
    whenGiven fields "max_total_tokens" Json.asInt setTokens
    whenGiven fields "max_running_requests" Json.asInt (State.resize "max_running_requests")
    whenGiven fields "max_num_seqs" Json.asInt (State.resize "max_num_seqs")
    whenGiven fields "max_num_batched_tokens" Json.asInt (State.resize "max_num_batched_tokens")
    whenGiven fields "gpu_memory_utilization" share fun n s => { s with tokens := n }
    let r := resized fields (← get).tokens
    modify fun s => { s with lastReinit := some r }
    return .ok r

/-- A call of `apply`: the state, and the two dicts it fills. -/
structure Call where
  state : State
  applied : Dict String Json
  rejected : Dict String String
  deriving DecidableEq

abbrev CallM := EStateM PyErr Call

def reject (key text : String) : CallM Unit :=
  modify fun c => { c with rejected := c.rejected.insert key text }

def write (key : String) (value : Json) : CallM Unit :=
  modify fun c => { c with
    state := { c.state with knobs := c.state.knobs.insert key value }
    applied := c.applied.insert key value }

def low (key : String) : Int :=
  if key = "max_queued_requests" ∨ key = "long_prefill_token_threshold" then 0 else 1

def showHigh : Option Int → String
  | some n => toString n
  | none => "None"

def handle (key : String) (value : Json) : CallM Unit := do
  let s := (← get).state
  if !s.knobs.contains key then reject key "unknown knob"
  else
    match strChoices key with
    | some choices =>
      if !((choices.map lower).contains (lower value.pyStr)) then
        reject key ("must be one of " ++ reprTuple choices)
      else write key (.str (if key = "log_level" then upper value.pyStr else value.pyStr))
    | none =>
      if key = "schedule_conservativeness" then
        match value.num? with
        | none => reject key "must be > 0"
        | some x =>
          if x.nonpos then reject key "must be > 0"
          else do
            let x ← ofExcept value.toFloat
            write key (.float x)
      else
        let lo := low key
        let hi := s.ceilings.get? key
        let range := "valid range is " ++ toString lo ++ ".." ++ showHigh hi
        match value.num? with
        | none => reject key range
        | some x =>
          let n ← ofExcept x.toInt
          if n < lo ∨ hi.any (· < n) then reject key range else write key (.int n)

def handleReinit (changes : Fields) : CallM Unit := do
  if !(reinitFields changes).entries.isEmpty then
    match ← zoom Call.state (fun s c => { c with state := s }) (reinit (reinitFields changes)) with
    | .ok r => modify fun c => { c with applied := c.applied.insert "reinit" r }
    | .error text => modify fun c => { c with rejected := c.rejected.insert "reinit" text }

/-- `{k: v for k, v in changes.items() if not k.startswith("reinit.")}` -/
def otherChanges (changes : Fields) : Fields := changes.filter fun k _ => !isReinit k

def apply (changes : Fields) : CallM (Dict String Json × Dict String String) := do
  handleReinit changes
  (otherChanges changes).entries.forM fun p => handle p.1 p.2
  modify fun c => { c with state := { c.state with appliedCalls := c.state.appliedCalls + 1 } }
  let c ← get
  return (c.applied, c.rejected)

def begin (s : State) : Call := ⟨s, ∅, ∅⟩

end Trimtab.MockEngine
