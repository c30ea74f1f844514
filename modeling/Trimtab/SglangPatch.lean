import Trimtab.InstalledTree

set_option autoImplicit false

/-!
# The script that patches an installed SGLang

Anchors and inserted texts, then the script. The body of the reinit method stands in a file of its
own beside the script and is a parameter, as is the parser.
-/
namespace Trimtab.SglangPatch
open Effects Substrings InstalledTree

def MARKER : Text := "_trimtab_apply_hot_knobs".toList

def INJECT_BODY : Text := "
        # trimtab (github.com/numinous-technology/trimtab)
        # Hot scheduler knobs applied to the live instance. The scheduler
        # loop reads these attributes every step, so a change takes effect
        # on the next step. Values are validated against ceilings recorded
        # at boot. Handled keys are consumed here; any remaining keys fall
        # through to the stock allowlist below.
        server_args_dict = dict(server_args_dict)
        trimtab_ok, trimtab_msgs = _trimtab_apply_hot_knobs(self, server_args_dict)
        for _m in trimtab_msgs:
            logger.info(_m)
        if not server_args_dict:
            return SetInternalStateReqOutput(updated=trimtab_ok)

".toList

def TAIL : Text := "

def _trimtab_apply_hot_knobs(scheduler, args: dict):
    \"\"\"Apply trimtab hot knobs to a live scheduler.

    Mutates ``args``, consuming the keys it handles, and returns
    ``(ok, messages)``. Handled knobs, all read by the scheduler loop on
    every step.

    max_running_requests   logical cap on concurrent running requests,
                           valid range 1..the value allocated at boot
    max_queued_requests    admission cap on the waiting queue, >= 0
    chunked_prefill_size   prefill chunk size for the next batch, > 0
    max_prefill_tokens     prefill token budget per batch, 1..KV pool size
    schedule_policy        fcfs, lpm, dfs-weight, lof, random, priority
    schedule_conservativeness  > 0, rebuilds the new-token-ratio watermarks
    log_level              DEBUG, INFO, WARNING, ERROR
    \"\"\"
    if not hasattr(scheduler, \"_trimtab_ceilings\"):
        scheduler._trimtab_ceilings = \x7b
            \"max_running_requests\": scheduler.max_running_requests,
        \x7d
    ok = True
    msgs = []
    reinit = \x7bk[7:]: args.pop(k) for k in list(args) if k.startswith(\"reinit.\")\x7d
    if reinit:
        r = scheduler.trimtab_reinit(reinit)
        ok = ok and r[\"ok\"]
        msgs.append(f\"trimtab reinit \x7br\x7d\")
    if \"max_running_requests\" in args:
        v = args.pop(\"max_running_requests\")
        ceiling = scheduler._trimtab_ceilings[\"max_running_requests\"]
        if not isinstance(v, (int, float)) or not (1 <= int(v) <= ceiling):
            ok = False
            msgs.append(
                f\"trimtab rejected max_running_requests=\x7bv\x7d, \"
                f\"valid range is 1..\x7bceiling\x7d (the boot allocation)\"
            )
        else:
            scheduler.max_running_requests = int(v)
            msgs.append(f\"trimtab applied max_running_requests=\x7bint(v)\x7d\")
    if \"max_queued_requests\" in args:
        v = args.pop(\"max_queued_requests\")
        if not isinstance(v, (int, float)) or int(v) < 0:
            ok = False
            msgs.append(f\"trimtab rejected max_queued_requests=\x7bv\x7d, must be >= 0\")
        else:
            scheduler.max_queued_requests = int(v)
            msgs.append(f\"trimtab applied max_queued_requests=\x7bint(v)\x7d\")
    if \"chunked_prefill_size\" in args:
        v = args.pop(\"chunked_prefill_size\")
        if not isinstance(v, (int, float)) or int(v) <= 0:
            ok = False
            msgs.append(f\"trimtab rejected chunked_prefill_size=\x7bv\x7d, must be > 0\")
        else:
            scheduler.chunked_prefill_size = int(v)
            msgs.append(f\"trimtab applied chunked_prefill_size=\x7bint(v)\x7d\")
    if \"max_prefill_tokens\" in args:
        v = args.pop(\"max_prefill_tokens\")
        hi = scheduler.max_total_num_tokens
        if not isinstance(v, (int, float)) or not (1 <= int(v) <= hi):
            ok = False
            msgs.append(f\"trimtab rejected max_prefill_tokens=\x7bv\x7d, valid range is 1..\x7bhi\x7d (the KV pool)\")
        else:
            scheduler.max_prefill_tokens = int(v)
            msgs.append(f\"trimtab applied max_prefill_tokens=\x7bint(v)\x7d\")
    if \"schedule_policy\" in args:
        v = args.pop(\"schedule_policy\")
        try:
            new = scheduler.policy._validate_and_adjust_policy(str(v), scheduler.policy.tree_cache)
        except ValueError as e:
            ok = False
            msgs.append(f\"trimtab rejected schedule_policy=\x7bv\x7d, \x7be\x7d\")
        else:
            scheduler.policy.policy = new
            scheduler.schedule_policy = str(v)
            msgs.append(f\"trimtab applied schedule_policy=\x7bv\x7d (effective \x7bnew.value\x7d)\")
    if \"schedule_conservativeness\" in args:
        v = args.pop(\"schedule_conservativeness\")
        if not isinstance(v, (int, float)) or v <= 0:
            ok = False
            msgs.append(f\"trimtab rejected schedule_conservativeness=\x7bv\x7d, must be > 0\")
        else:
            from sglang.srt.environ import envs

            t = scheduler.new_token_ratio_tracker
            t.init = min(envs.SGLANG_INIT_NEW_TOKEN_RATIO.get() * float(v), 1.0)
            t.min = min(t.init * envs.SGLANG_MIN_NEW_TOKEN_RATIO_FACTOR.get(), 1.0)
            t.decay = (t.init - t.min) / envs.SGLANG_NEW_TOKEN_RATIO_DECAY_STEPS.get()
            t.current = t.init
            scheduler._trimtab_conservativeness = float(v)
            msgs.append(f\"trimtab applied schedule_conservativeness=\x7bv\x7d (new_token_ratio init \x7bt.init:.3f\x7d min \x7bt.min:.3f\x7d)\")
    if \"log_level\" in args:
        v = str(args.pop(\"log_level\")).upper()
        if v not in (\"DEBUG\", \"INFO\", \"WARNING\", \"ERROR\"):
            ok = False
            msgs.append(f\"trimtab rejected log_level=\x7bv\x7d, must be DEBUG, INFO, WARNING or ERROR\")
        else:
            \x69mport logging as _logging

            _logging.getLogger(\"sglang\").setLevel(v)
            _logging.getLogger().setLevel(v)
            scheduler._trimtab_log_level = v
            msgs.append(f\"trimtab applied log_level=\x7bv\x7d\")
    return ok, msgs
".toList

def READBACK_ANCHOR : Text := "        ret[\"effective_max_running_requests_per_dp\"] = self.max_running_requests\n".toList

def READBACK_LINES : Text := "        ret[\"trimtab\"] = \x7b
            \"max_running_requests\": self.max_running_requests,
            \"max_queued_requests\": self.max_queued_requests,
            \"chunked_prefill_size\": self.chunked_prefill_size,
            \"max_prefill_tokens\": self.max_prefill_tokens,
            \"schedule_policy\": self.schedule_policy,
            \"schedule_conservativeness\": getattr(self, \"_trimtab_conservativeness\", None),
            \"log_level\": getattr(self, \"_trimtab_log_level\", None),
            \"ceilings\": dict(getattr(self, \"_trimtab_ceilings\", \x7b\x7d), max_prefill_tokens=self.max_total_num_tokens),
            \"last_reinit\": getattr(self, \"_trimtab_last_reinit\", None),
            \"max_total_num_tokens\": self.max_total_num_tokens,
        \x7d
".toList

def READBACK_BODY : Text := READBACK_ANCHOR ++ READBACK_LINES

def IO_ANCHOR : Text := "    server_args: Dict[str, Union[int, float]]\n".toList

def IO_BODY : Text := "    server_args: Dict[str, Union[int, float, str]]  # trimtab: str for schedule_policy, log_level\n".toList

def REINIT_ANCHOR : Text := "    def flush_cache(self, empty_cache: bool = True):\n".toList

/-- `reinitBody` is what stands in `reinit_body.py`. -/
def REINIT_BODY (reinitBody : Text) : Text := universalNewlines reinitBody ++ REINIT_ANCHOR

/-- The two lines of `ANCHOR_RE`, which has no other match. -/
def ANCHOR : Text := "    def set_internal_state(self, recv_req: SetInternalStateReq):\n        server_args_dict = recv_req.server_args\n".toList

def findTarget (root : String) : String := root ++ "/srt/managers/scheduler.py"

def ioPath (schedulerPath : String) : String :=
  String.ofList
    (replaceAll "scheduler.py".toList "io_struct.py".toList schedulerPath.toList)

def patchIoStruct (schedulerPath : String) (checkOnly : Bool) : Script String := do
  let path := ioPath schedulerPath
  let src ← readText path
  if IO_BODY <:+: src then return "already patched"
  else if count IO_ANCHOR src ≠ 1 then
    throw (.anchorMismatch
      s!"io_struct anchor matched {count IO_ANCHOR src} times, refusing to edit")
  else if checkOnly then return "anchor ok"
  else do
    copyfile path (backup path)
    writeText path (replaceFirst IO_ANCHOR IO_BODY src)
    return "patched"

def rstripNewlines (text : Text) : Text := text.rdropWhile (· = '\n')

/-- `out` where the reinit anchor is counted. -/
def injected (src : Text) : Text :=
  replaceFirst READBACK_ANCHOR READBACK_BODY (replaceFirst ANCHOR (ANCHOR ++ INJECT_BODY) src)

/-- `out` at the end. -/
def patchedText (reinitBody src : Text) : Text :=
  rstripNewlines (replaceFirst REINIT_ANCHOR (REINIT_BODY reinitBody) (injected src)) ++
    '\n' :: TAIL

/-- `main`, once `io_struct.py` is done. -/
def patchScheduler (parses : Text → Bool) (reinitBody : Text) (target : String) (src : Text)
    (checkOnly : Bool) : Script Unit :=
  if MARKER <:+: src then return
  else if checkOnly then throw (.status (if count ANCHOR src = 1 then 0 else 2))
  else if count READBACK_ANCHOR src ≠ 1 then
    throw (.anchorMismatch
      s!"read-back anchor matched {count READBACK_ANCHOR src} times, refusing to edit")
  else if count ANCHOR src ≠ 1 then
    throw (.anchorMismatch s!"anchor matched {count ANCHOR src} times in {target}, refusing to edit. The installed SGLang version differs from what this patch expects.")
  else do
    copyfile target (backup target)
    if count REINIT_ANCHOR (injected src) ≠ 1 then
      throw (.anchorMismatch
        s!"reinit anchor matched {count REINIT_ANCHOR (injected src)} times, refusing to edit")
    else if parses (patchedText reinitBody src) then
      writeText target (patchedText reinitBody src)
    else throw (.exit "patched file failed to parse, original left untouched")

def main (parses : Text → Bool) (reinitBody : Text) (root : String) (checkOnly : Bool) :
    Script Unit := do
  let target := findTarget root
  let src ← readText target
  let _ ← patchIoStruct target checkOnly
  patchScheduler parses reinitBody target src checkOnly

end Trimtab.SglangPatch
