import Trimtab.Manifest

set_option autoImplicit false

/-! The two manifests under `engine/`, as `load` reads them. -/
namespace Trimtab
open PyText

def logLevelKnob : Knob :=
  { field := "log_level", klass := HOT, vtype := "str",
    choices := ["DEBUG", "INFO", "WARNING", "ERROR"] }

def vllmManifest : Manifest := .ofKnobs "vllm" "c0adee9"
  [{ field := "max_num_seqs", klass := HOT, vmin := some (.fin 1), maxSource := some "boot_value" },
    { field := "max_num_batched_tokens", klass := HOT, vmin := some (.fin 1),
      maxSource := some "boot_value" },
    { field := "long_prefill_token_threshold", klass := HOT, vmin := some (.fin 0) },
    logLevelKnob,
    { field := "policy", klass := DEFERRED },
    { field := "num_speculative_tokens", klass := COLD },
    { field := "tensor_parallel_size", klass := COLD },
    { field := "quantization", klass := COLD },
    { field := "kv_cache_dtype", klass := COLD },
    { field := "gpu_memory_utilization", klass := WARM },
    { field := "max_model_len", klass := COLD },
    { field := "cuda_graph_sizes", klass := COLD },
    { field := "speculative_config", klass := COLD }]

def sglangManifest : Manifest := .ofKnobs "sglang" "3315356"
  [{ field := "max_running_requests", klass := HOT, vmin := some (.fin 1),
      maxSource := some "boot_value" },
    { field := "max_queued_requests", klass := HOT, vmin := some (.fin 0) },
    { field := "chunked_prefill_size", klass := HOT, vmin := some (.fin 1) },
    { field := "max_prefill_tokens", klass := HOT, vmin := some (.fin 1),
      maxSource := some "kv_pool" },
    { field := "schedule_policy", klass := HOT, vtype := "str",
      choices := ["fcfs", "lpm", "dfs-weight", "lof", "random", "priority"] },
    { field := "schedule_conservativeness", klass := HOT, vmin := some (.fin (1 / 100)),
      vtype := "float" },
    logLevelKnob,
    { field := "pp_max_micro_batch_size", klass := HOT },
    { field := "speculative_accept_threshold_single", klass := HOT, vtype := "float" },
    { field := "speculative_accept_threshold_acc", klass := HOT, vtype := "float" },
    { field := "dspark_force_budget_frac", klass := HOT, vtype := "float" },
    { field := "dspark_clear_info_records", klass := HOT },
    { field := "speculative_num_steps", klass := COLD },
    { field := "speculative_num_draft_tokens", klass := COLD },
    { field := "watchdog_timeout", klass := COLD },
    { field := "tp_size", klass := COLD },
    { field := "ep_size", klass := COLD },
    { field := "quantization", klass := COLD },
    { field := "kv_cache_dtype", klass := COLD },
    { field := "mem_fraction_static", klass := WARM },
    { field := "max_total_num_tokens", klass := WARM },
    { field := "cuda_graph_max_bs", klass := COLD },
    { field := "attention_backend", klass := COLD },
    { field := "speculative_algorithm", klass := COLD },
    { field := "speculative_draft_model_path", klass := COLD },
    { field := "page_size", klass := COLD }]

def choicesPlain (m : Manifest) : Bool :=
  m.knobs.entries.all fun p =>
    !isIn "cold" ("must be one of " ++ join ", " p.2.choices) &&
      !isIn "warm" ("must be one of " ++ join ", " p.2.choices)

theorem plainChoices_of_check {m : Manifest} (h : choicesPlain m = true) : m.PlainChoices := by
  intro k knob hk
  have hp := List.all_eq_true.mp h _ (Dict.get?_eq_some_iff.mp hk)
  simpa only [Bool.and_eq_true, Bool.not_eq_true'] using hp

theorem vllm_plainChoices : vllmManifest.PlainChoices := plainChoices_of_check (by decide +kernel)

theorem sglang_plainChoices : sglangManifest.PlainChoices :=
  plainChoices_of_check (by decide +kernel)

end Trimtab
