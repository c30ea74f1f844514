import Trimtab.Manifest

set_option autoImplicit false

/-! The command line that starts an engine with its cold fields. -/
namespace Trimtab
open PyText

def COLD_FLAGS : Dict String (Dict String String) := Dict.ofList
  [("sglang", Dict.ofList
      [("tp_size", "--tp"), ("ep_size", "--ep-size"), ("quantization", "--quantization"),
        ("kv_cache_dtype", "--kv-cache-dtype"), ("mem_fraction_static", "--mem-fraction-static"),
        ("max_total_num_tokens", "--max-total-tokens"),
        ("cuda_graph_max_bs", "--cuda-graph-max-bs"), ("attention_backend", "--attention-backend"),
        ("page_size", "--page-size"), ("speculative_algorithm", "--speculative-algorithm"),
        ("speculative_draft_model_path", "--speculative-draft-model-path")]),
    ("vllm", Dict.ofList
      [("tensor_parallel_size", "--tensor-parallel-size"), ("quantization", "--quantization"),
        ("kv_cache_dtype", "--kv-cache-dtype"), ("max_model_len", "--max-model-len"),
        ("cuda_graph_sizes", "--cuda-graph-sizes"), ("speculative_config", "--speculative-config")]),
    ("mock", Dict.ofList [("max_total_num_tokens", "--tokens"), ("tp_size", "--tp")])]

/-- What starts an engine and stays the same for the life of its supervisor. -/
structure LaunchCommand where
  launcher : String
  model : String
  port : Nat
  extraFlags : List String
  mockEngine : String
  /-- `sys.executable` -/
  executable : String

namespace LaunchCommand

variable (l : LaunchCommand)

def baseCommand : Except PyErr (List String) :=
  if l.launcher = "sglang" then
    .ok ["python3", "-m", "sglang.launch_server", "--model-path", l.model, "--host", "0.0.0.0",
      "--port", toString l.port, "--enable-memory-saver"]
  else if l.launcher = "vllm" then
    .ok ["vllm", "serve", l.model, "--served-model-name", "default", "--host", "0.0.0.0",
      "--port", toString l.port, "--enable-sleep-mode"]
  else if l.launcher = "mock" then
    .ok [l.executable, "-m", "trimtab.mock_engine", "--engine", l.mockEngine,
      "--port", toString l.port]
  else .error (.valueError l.launcher)

def flag? (k : String) : Option String := (COLD_FLAGS.get? l.launcher).bind fun table => table.get? k

/-- The cold fields that the launcher has no flag for, in order. -/
def unknown (coldFields : Fields) : List String :=
  (coldFields.keys.filter fun k => (l.flag? k).isNone).insertionSort (· ≤ ·)

def buildCommand (coldFields : Fields) : Except PyErr (List String) := do
  if (COLD_FLAGS.get? l.launcher).isNone then throw (.keyError l.launcher)
  if !(l.unknown coldFields).isEmpty then
    throw (.valueError ("no launch flag for cold fields " ++ reprList (l.unknown coldFields) ++
      " on " ++ l.launcher))
  let cmd ← l.baseCommand
  return cmd ++ l.extraFlags ++ coldFields.sortKeys.entries.flatMap fun p =>
    [(l.flag? p.1).getD "", p.2.pyStr]

theorem mem_unknown {coldFields : Fields} {k : String} :
    k ∈ l.unknown coldFields ↔ k ∈ coldFields.keys ∧ l.flag? k = none := by
  rw [unknown, (List.perm_insertionSort _ _).mem_iff, List.mem_filter, Option.isNone_iff_eq_none]

/-- A field without a flag is refused, not guessed. -/
theorem buildCommand_refuses {coldFields : Fields} {k : String} (hk : k ∈ coldFields.keys)
    (hflag : l.flag? k = none) : ∃ e, l.buildCommand coldFields = .error e := by
  have hunknown : (l.unknown coldFields).isEmpty = false := by
    have hmem := l.mem_unknown.mpr ⟨hk, hflag⟩
    cases h : l.unknown coldFields with
    | nil => rw [h] at hmem; cases hmem
    | cons a as => rfl
  unfold buildCommand
  cases COLD_FLAGS.get? l.launcher with
  | none => exact ⟨_, rfl⟩
  | some table =>
    rw [hunknown]
    exact ⟨_, rfl⟩

end LaunchCommand
end Trimtab
