import Trimtab.SglangPatchRuns
import Trimtab.VllmPatchRuns

set_option autoImplicit false

/-! The two patchers: what a failed run leaves behind, and what `--check` tells of a run. -/
namespace Trimtab.PatchScripts
open Effects PyText Substrings InstalledTree

/-- Each leaves a half-patched engine exactly where it has edited a file before it looks at
another one that has drifted. -/
theorem patched_or_untouched_iff (parses : Text → Bool) (reinitBody : Text) (texts : VllmPatch.Texts)
    (sglang vllm : String) (files : Files) :
    (SglangPatch.AllOrNothing parses reinitBody sglang files ↔
      ¬(SglangPatch.IoEditable sglang files ∧ SglangPatch.SchedulerDrifted sglang files)) ∧
    (VllmPatch.AllOrNothing parses texts vllm files ↔
      ∀ pre, VllmPatch.StopsAt parses files (VllmPatch.edits texts vllm) pre →
        ∀ d ∈ pre, d.Patched files) :=
  ⟨SglangPatch.allOrNothing_iff, VllmPatch.allOrNothing_iff⟩

/-! ### A tree whose scheduler has lost its read-back line -/

def ioText : Text :=
  "class SetInternalStateReq:
    server_args: Dict[str, Union[int, float]]
".toList

def noReadback : Text :=
  "class Scheduler:
    def set_internal_state(self, recv_req: SetInternalStateReq):
        server_args_dict = recv_req.server_args

    def flush_cache(self, empty_cache: bool = True):
        pass
".toList

def sglangTree (scheduler : Text) : Files := fun path =>
  if path = "/opt/sglang/srt/managers/io_struct.py" then some ioText
  else if path = "/opt/sglang/srt/managers/scheduler.py" then some scheduler
  else none

theorem ioText_editable : '\r' ∉ ioText ∧ ¬SglangPatch.IO_BODY <:+: ioText ∧
    count SglangPatch.IO_ANCHOR ioText = 1 := by
  unfold SglangPatch.IO_BODY SglangPatch.IO_ANCHOR ioText
  rw [toList_literal rfl, toList_literal rfl, toList_literal rfl]
  decide +kernel

theorem opt_paths : SglangPatch.ioPath (SglangPatch.findTarget "/opt/sglang") =
      "/opt/sglang/srt/managers/io_struct.py" ∧
    SglangPatch.findTarget "/opt/sglang" = "/opt/sglang/srt/managers/scheduler.py" ∧
    SglangPatch.findTarget "/opt/sglang" ≠ "/opt/sglang/srt/managers/io_struct.py" := by
  decide +kernel

theorem reading_io (scheduler : Text) : reading (sglangTree scheduler)
    (SglangPatch.ioPath (SglangPatch.findTarget "/opt/sglang")) = some ioText := by
  refine reading_of_content ?_ ioText_editable.1
  rw [opt_paths.1]
  exact if_pos rfl

theorem reading_scheduler {scheduler : Text} (hreturn : '\r' ∉ scheduler) :
    reading (sglangTree scheduler) (SglangPatch.findTarget "/opt/sglang") = some scheduler := by
  refine reading_of_content ?_ hreturn
  exact (if_neg opt_paths.2.2).trans (if_pos opt_paths.2.1)

theorem noReadback_drifted : '\r' ∉ noReadback ∧ ¬SglangPatch.MARKER <:+: noReadback ∧
    count SglangPatch.ANCHOR noReadback = 1 ∧ count SglangPatch.READBACK_ANCHOR noReadback = 0 := by
  unfold SglangPatch.MARKER SglangPatch.ANCHOR SglangPatch.READBACK_ANCHOR noReadback
  rw [toList_literal rfl, toList_literal rfl, toList_literal rfl, toList_literal rfl]
  decide +kernel

theorem noReadback_anchors : ¬SglangPatch.AnchorsMatch noReadback := by
  intro h
  have hcount := h.1
  rw [noReadback_drifted.2.2.2] at hcount
  exact Nat.zero_ne_one hcount

/-- The message type is patched, the scheduler is not. -/
theorem noReadback_half_patched :
    ¬SglangPatch.AllOrNothing (fun _ => true) [] "/opt/sglang" (sglangTree noReadback) := by
  rw [SglangPatch.allOrNothing_iff, not_not]
  exact ⟨⟨ioText, reading_io _, ioText_editable.2⟩, noReadback, reading_scheduler noReadback_drifted.1,
    noReadback_drifted.2.1, noReadback_anchors⟩

/-- The check passes over the read-back and the reinit anchor, and over what the patched text
parses to. -/
theorem check_predicts_iff (parses : Text → Bool) (reinitBody : Text) (texts : VllmPatch.Texts)
    (sglang vllm : String) (files : Files) (hrouter : parses texts.ROUTER_FILE = true) :
    (SglangPatch.Unpatched sglang files →
      (SglangPatch.CheckPredicts parses reinitBody sglang files ↔
        ∀ src, reading files (SglangPatch.findTarget sglang) = some src →
          SglangPatch.IoEditable sglang files → count SglangPatch.ANCHOR src = 1 →
          SglangPatch.AnchorsMatch src ∧
            parses (SglangPatch.patchedText reinitBody src) = true)) ∧
    (VllmPatch.Unpatched texts vllm files →
      (VllmPatch.CheckPredicts parses texts vllm files ↔
        ((∀ e ∈ VllmPatch.edits texts vllm, e.Anchored files) →
          ∀ e ∈ VllmPatch.edits texts vllm, e.Editable parses files))) :=
  ⟨SglangPatch.checkPredicts_iff, VllmPatch.checkPredicts_iff hrouter⟩

theorem noReadback_unpatched : SglangPatch.Unpatched "/opt/sglang" (sglangTree noReadback) :=
  ⟨⟨ioText, reading_io _, ioText_editable.2.1⟩, noReadback, reading_scheduler noReadback_drifted.1,
    noReadback_drifted.2.1⟩

/-- The check ends with status 0, the run does not. -/
theorem noReadback_unpredicted : SglangPatch.Unpatched "/opt/sglang" (sglangTree noReadback) ∧
    ¬SglangPatch.CheckPredicts (fun _ => true) [] "/opt/sglang" (sglangTree noReadback) := by
  refine ⟨noReadback_unpatched, ?_⟩
  rw [SglangPatch.checkPredicts_iff noReadback_unpatched]
  intro h
  exact noReadback_anchors (h noReadback (reading_scheduler noReadback_drifted.1)
    ⟨ioText, reading_io _, ioText_editable.2⟩ noReadback_drifted.2.2.1).1

/-! ### A tree as the patchers expect it -/

def stockScheduler : Text :=
  "class Scheduler:
    def get_internal_state(self, recv_req):
        ret = dict(vars(self.server_args))
        ret[\"effective_max_running_requests_per_dp\"] = self.max_running_requests
        return ret

    def set_internal_state(self, recv_req: SetInternalStateReq):
        server_args_dict = recv_req.server_args

    def flush_cache(self, empty_cache: bool = True):
        pass
".toList

theorem stockScheduler_anchors : '\r' ∉ stockScheduler ∧ ¬SglangPatch.MARKER <:+: stockScheduler ∧
    count SglangPatch.READBACK_ANCHOR stockScheduler = 1 ∧
    count SglangPatch.ANCHOR stockScheduler = 1 ∧
    count SglangPatch.REINIT_ANCHOR stockScheduler = 1 := by
  unfold SglangPatch.MARKER SglangPatch.ANCHOR SglangPatch.READBACK_ANCHOR SglangPatch.REINIT_ANCHOR
    stockScheduler
  rw [toList_literal rfl, toList_literal rfl, toList_literal rfl, toList_literal rfl,
    toList_literal rfl]
  decide +kernel

theorem stock_unpatched : SglangPatch.Unpatched "/opt/sglang" (sglangTree stockScheduler) :=
  ⟨⟨ioText, reading_io _, ioText_editable.2.1⟩, stockScheduler,
    reading_scheduler stockScheduler_anchors.1, stockScheduler_anchors.2.1⟩

def coreText : Text :=
  "class EngineCore:
    def _reject_add_in_shutdown(self, request: Request) -> bool:
        return False
".toList

def serveText : Text :=
  "def register_vllm_dev_api_routers(app):
    from .dev.sleep.api_router import attach_router as attach_sleep_router

    attach_sleep_router(app)
".toList

def schedText : Text :=
  "class Scheduler:
    def schedule(self, throttle_prefills: bool = False) -> SchedulerOutput:
        self.current_step += 1
".toList

def workerText : Text :=
  "class Worker:
    def sleep(self, level: int = 1) -> None:
        pass
".toList

def vllmTree : Files := fun path =>
  if path = "/opt/vllm" ++ "/v1/engine/core.py" then some coreText
  else if path = "/opt/vllm" ++ "/entrypoints/serve/__init__.py" then some serveText
  else if path = "/opt/vllm" ++ "/v1/core/sched/scheduler.py" then some schedText
  else if path = "/opt/vllm" ++ "/v1/worker/gpu_worker.py" then some workerText
  else none

theorem texts_unpatched : ('\r' ∉ coreText ∧ ¬VllmPatch.AlreadyPatched coreText) ∧
    ('\r' ∉ serveText ∧ ¬VllmPatch.AlreadyPatched serveText) ∧
    ('\r' ∉ schedText ∧ ¬VllmPatch.AlreadyPatched schedText) ∧
    '\r' ∉ workerText ∧ ¬VllmPatch.AlreadyPatched workerText := by
  unfold VllmPatch.AlreadyPatched VllmPatch.MARKER coreText serveText schedText workerText
  simp only [toList_literal rfl]
  decide +kernel

def noTexts : VllmPatch.Texts := ⟨[], [], []⟩

theorem vllmTree_unpatched : VllmPatch.Unpatched noTexts "/opt/vllm" vllmTree := by
  have skip {a b : String} {x y : Option Text} (h : a ≠ b) :
      (if "/opt/vllm" ++ a = "/opt/vllm" ++ b then x else y) = y := if_neg (VllmPatch.path_ne _ h)
  intro e he
  simp only [VllmPatch.edits, List.mem_cons, List.not_mem_nil, or_false] at he
  rcases he with rfl | rfl | rfl | rfl
  · exact ⟨coreText, reading_of_content (if_pos rfl) texts_unpatched.1.1, texts_unpatched.1.2⟩
  · refine ⟨serveText, reading_of_content ?_ texts_unpatched.2.1.1, texts_unpatched.2.1.2⟩
    exact (skip (by decide)).trans (if_pos rfl)
  · refine ⟨schedText, reading_of_content ?_ texts_unpatched.2.2.1.1, texts_unpatched.2.2.1.2⟩
    exact (skip (by decide)).trans ((skip (by decide)).trans (if_pos rfl))
  · refine ⟨workerText, reading_of_content ?_ texts_unpatched.2.2.2.1, texts_unpatched.2.2.2.2⟩
    exact (skip (by decide)).trans ((skip (by decide)).trans ((skip (by decide)).trans (if_pos rfl)))

theorem stock_predicted :
    SglangPatch.CheckPredicts (fun _ => true) [] "/opt/sglang" (sglangTree stockScheduler) ∧
      VllmPatch.CheckPredicts (fun _ => true) noTexts "/opt/vllm" vllmTree := by
  constructor
  · refine ((check_predicts_iff (fun _ => true) [] noTexts "/opt/sglang" "/opt/vllm"
      (sglangTree stockScheduler) rfl).1 stock_unpatched).mpr fun src hread _ _ => ?_
    rw [reading_scheduler stockScheduler_anchors.1] at hread
    rw [← Option.some.inj hread]
    exact ⟨stockScheduler_anchors.2.2, rfl⟩
  · refine ((check_predicts_iff (fun _ => true) [] noTexts "/opt/sglang" "/opt/vllm" vllmTree
      rfl).2 vllmTree_unpatched).mpr fun hall e he => ?_
    obtain ⟨src, hread, hpatched, hcount⟩ := hall e he
    exact ⟨src, hread, hpatched, hcount, rfl⟩

end Trimtab.PatchScripts
