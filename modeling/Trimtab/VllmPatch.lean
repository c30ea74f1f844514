import Trimtab.InstalledTree

set_option autoImplicit false

/-!
# The script that patches an installed vLLM

Anchors and inserted texts, then the script. The two bodies that stand in files of their own, the
text of the router and the parser are parameters.
-/
namespace Trimtab.VllmPatch
open Effects Substrings InstalledTree

def MARKER : Text := "trimtab_set_knobs".toList

def CORE_ANCHOR : Text := "    def _reject_add_in_shutdown(self, request: Request) -> bool:\n".toList

def WORKER_ANCHOR : Text := "    def sleep(self, level: int = 1) -> None:\n".toList

/-- `workerBody` is what stands in `reinit_worker_body.py`. -/
def WORKER_BODY (workerBody : Text) : Text := universalNewlines workerBody ++ WORKER_ANCHOR

def CORE_METHODS : Text := "    def trimtab_set_knobs(self, knobs: dict) -> dict:
        \"\"\"trimtab (github.com/numinous-technology/trimtab) hot scheduler knobs.

        Applies validated values to the live scheduler, which reads them on
        the next step. Ceilings are the values allocated at boot.
        \"\"\"
        sched = self.scheduler
        if not hasattr(sched, \"_trimtab_ceilings\"):
            sched._trimtab_ceilings = \x7b
                \"max_num_seqs\": sched.max_num_running_reqs,
                \"max_num_batched_tokens\": sched.max_num_scheduled_tokens,
            \x7d
        applied, rejected = \x7b\x7d, \x7b\x7d
        for key, value in knobs.items():
            if key == \"long_prefill_token_threshold\":
                if not isinstance(value, (int, float)) or int(value) < 0:
                    rejected[key] = \"must be >= 0 (0 disables the threshold)\"
                else:
                    sched.scheduler_config.long_prefill_token_threshold = int(value)
                    applied[key] = int(value)
                continue
            if key == \"log_level\":
                level = str(value).upper()
                if level not in (\"DEBUG\", \"INFO\", \"WARNING\", \"ERROR\"):
                    rejected[key] = \"must be DEBUG, INFO, WARNING or ERROR\"
                else:
                    \x69mport logging as _logging

                    _logging.getLogger(\"vllm\").setLevel(level)
                    sched._trimtab_log_level = level
                    applied[key] = level
                continue
            if key not in sched._trimtab_ceilings:
                rejected[key] = \"unknown knob\"
                continue
            ceiling = sched._trimtab_ceilings[key]
            if not isinstance(value, (int, float)) or not (1 <= int(value) <= ceiling):
                rejected[key] = f\"valid range is 1..\x7bceiling\x7d (the boot allocation)\"
                continue
            if key == \"max_num_seqs\":
                # The scheduler asserts len(running) <= cap every step, so a cap
                # below current occupancy is applied as \"stop admitting now\" and
                # tightened to the target in schedule() as requests finish.
                target = int(value)
                sched._trimtab_pending_max_num_seqs = target
                sched.max_num_running_reqs = max(target, len(sched.running))
            else:
                sched.max_num_scheduled_tokens = int(value)
            applied[key] = int(value)
        return \x7b\"ok\": not rejected, \"applied\": applied, \"rejected\": rejected\x7d

    def trimtab_get_knobs(self) -> dict:
        sched = self.scheduler
        pending = getattr(sched, \"_trimtab_pending_max_num_seqs\", None)
        return \x7b
            \"max_num_seqs\": pending if pending is not None else sched.max_num_running_reqs,
            \"max_num_seqs_effective\": sched.max_num_running_reqs,
            \"max_num_batched_tokens\": sched.max_num_scheduled_tokens,
            \"long_prefill_token_threshold\": sched.scheduler_config.long_prefill_token_threshold,
            \"log_level\": getattr(sched, \"_trimtab_log_level\", None),
            \"running\": len(sched.running),
            \"ceilings\": getattr(sched, \"_trimtab_ceilings\", \x7b\x7d),
            \"last_reinit\": getattr(self, \"_trimtab_last_reinit\", None),
            \"num_gpu_blocks\": self.vllm_config.cache_config.num_gpu_blocks,
        \x7d

".toList

/-- `coreBody` is what stands in `reinit_core_body.py`. -/
def CORE_BODY (coreBody : Text) : Text := universalNewlines coreBody ++ CORE_METHODS

def SCHED_ANCHOR : Text := "    def schedule(self, throttle_prefills: bool = False) -> SchedulerOutput:\n        self.current_step += 1\n".toList

def SCHED_LINES : Text := "        pending = getattr(self, \"_trimtab_pending_max_num_seqs\", None)
        if pending is not None:  # trimtab: tighten the cap as occupancy allows
            self.max_num_running_reqs = max(pending, len(self.running))
            if len(self.running) <= pending:
                self._trimtab_pending_max_num_seqs = None
".toList

def SCHED_BODY : Text := SCHED_ANCHOR ++ SCHED_LINES

def INIT_ANCHOR : Text := "    from .dev.sleep.api_router import attach_router as attach_sleep_router\n".toList

def INIT_LINES : Text := "
    from .dev.trimtab.api_router import attach_router as attach_trimtab_router

    attach_trimtab_router(app)
".toList

def INIT_BODY : Text := INIT_ANCHOR ++ INIT_LINES

def AlreadyPatched (src : Text) : Prop :=
  MARKER <:+: src ∨ "attach_trimtab_router".toList <:+: src ∨
    "_trimtab_pending_max_num_seqs".toList <:+: src ∨ "trimtab_release_kv".toList <:+: src

instance (src : Text) : Decidable (AlreadyPatched src) := inferInstanceAs (Decidable (_ ∨ _ ∨ _ ∨ _))

def edit (parses : Text → Bool) (path : String) (anchor body : Text) (checkOnly : Bool) :
    Script String := do
  let src ← readText path
  if AlreadyPatched src then return "already patched"
  else if count anchor src ≠ 1 then
    throw (.anchorMismatch
      s!"anchor matched {count anchor src} times in {path}, refusing to edit")
  else if checkOnly then return "anchor ok"
  else if parses (replaceFirst anchor body src) then do
    copyfile path (backup path)
    writeText path (replaceFirst anchor body src)
    return "patched"
  else throw .syntaxError

/-- The files that stand beside the script, and `ROUTER_FILE`. -/
structure Texts where
  coreBody : Text
  workerBody : Text
  ROUTER_FILE : Text

/-- `main`, once the files are edited. -/
def writeRouter (parses : Text → Bool) (texts : Texts) (r : String) : Script Unit := do
  touch (r ++ "/entrypoints/serve/dev/trimtab/__init__.py")
  writeText (r ++ "/entrypoints/serve/dev/trimtab/api_router.py") texts.ROUTER_FILE
  if parses texts.ROUTER_FILE then return else throw .syntaxError

def main (parses : Text → Bool) (texts : Texts) (r : String) (checkOnly : Bool) : Script Unit := do
  let _ ← edit parses (r ++ "/v1/engine/core.py") CORE_ANCHOR
    (CORE_BODY texts.coreBody ++ CORE_ANCHOR) checkOnly
  let _ ← edit parses (r ++ "/entrypoints/serve/__init__.py") INIT_ANCHOR INIT_BODY checkOnly
  let _ ← edit parses (r ++ "/v1/core/sched/scheduler.py") SCHED_ANCHOR SCHED_BODY checkOnly
  let _ ← edit parses (r ++ "/v1/worker/gpu_worker.py") WORKER_ANCHOR
    (WORKER_BODY texts.workerBody) checkOnly
  if checkOnly then return else writeRouter parses texts r

end Trimtab.VllmPatch
