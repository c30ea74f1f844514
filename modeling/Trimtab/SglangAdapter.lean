import Trimtab.Reconciler
import Trimtab.SglangAnswer
import Trimtab.ShippedManifests

set_option autoImplicit false

/-! `SGLangAdapter`: a request fanned out to the ranks of a patched server, and the values that
the first of them shows. -/
namespace Trimtab.SglangAdapter
open PyText Effects SglangScheduler

/-- A server: the first rank is the one it shows, and an answer for each is a bare boolean or a
dict with one. -/
structure Engine where
  first : Sched
  others : List Sched
  bare : Bool

def Engine.ranks (e : Engine) : List Sched := e.first :: e.others

/-! ## The adapter -/

/-- One rank's share of a body, as `_all_updated` reads it. -/
def updatedEntry : Json → Except PyErr Bool
  | .bool b => .ok b
  | .dict kvs => .ok ((kvs.lookup "updated").getD .null).truthy
  | v => .error (.attributeError ("'" ++ v.typeName ++ "' object has no attribute 'get'"))

/-- `all`, which stops at the first rank that does not agree. -/
def allEntries : List Json → Except PyErr Bool
  | [] => .ok true
  | e :: es => do
    if !(← updatedEntry e) then return false
    allEntries es

def allUpdated (body : Json) : Except PyErr Bool :=
  let entries := match body with
    | .list xs => xs
    | v => [v]
  if entries.isEmpty then .ok false else allEntries entries

structure InternalState where
  effectiveMaxRunningRequestsPerDp : Json
  trimtab : Option Fields

def readKnobs (states : List InternalState) : Fields :=
  match states with
  | [] => ∅
  | state :: _ =>
    match state.trimtab with
    | some knobs =>
      knobs.filter fun k _ => !(["ceilings", "last_reinit", "max_total_num_tokens"].contains k)
    | none => .ofList [("max_running_requests", state.effectiveMaxRunningRequestsPerDp)]

def sameKeys (applied changes : Fields) : Bool :=
  applied.keys.all changes.contains && changes.keys.all applied.contains

/-- What `set_hot` makes of the server's verdict and the values it shows. -/
def report (changes live : Fields) (ok : Bool) : ApplyResult :=
  let applied := changes.filter fun k v => Json.pyEq ((live.get? k).getD .null) v
  let rejected := if ok then ∅ else changes.filterMap fun _ _ => some "engine rejected the update"
  ⟨ok && sameKeys applied changes, applied, rejected⟩

/-! ## The server -/

def internalState (s : Sched) : InternalState where
  effectiveMaxRunningRequestsPerDp := .int s.maxRunningRequests
  trimtab := some (.ofList
    [("max_running_requests", .int s.maxRunningRequests),
      ("max_queued_requests", (s.maxQueuedRequests.map Json.int).getD .null),
      ("chunked_prefill_size", (s.chunkedPrefillSize.map Json.int).getD .null),
      ("max_prefill_tokens", .int s.maxPrefillTokens),
      ("schedule_policy", .str s.schedulePolicy),
      ("schedule_conservativeness", (s.conservativeness.map Json.float).getD .null),
      ("log_level", (s.logLevel.map Json.str).getD .null),
      ("ceilings", .dict (((s.ceilings.map fun c => ("max_running_requests", Json.int c)).toList) ++
        [("max_prefill_tokens", .int s.maxTotalNumTokens)])),
      ("last_reinit", s.lastReinit),
      ("max_total_num_tokens", .int s.maxTotalNumTokens)])

def serverInfo (e : Engine) : List InternalState := e.ranks.map internalState

def entry (bare updated : Bool) : Json :=
  if bare then .bool updated else .dict [("updated", .bool updated)]

section Server

variable (R : Stock)

def Engine.after (changes : Fields) (e : Engine) : Engine where
  first := final (setInternalState R changes) e.first
  others := e.others.map (final (setInternalState R changes))
  bare := e.bare

/-- `POST /set_internal_state`. A rank that raises takes the server's answer with it. -/
def post (changes : Fields) : EStateM PyErr Engine Json := fun e =>
  if e.ranks.all fun s => (value? (setInternalState R changes) s).isSome then
    let answers := e.ranks.filterMap (value? (setInternalState R changes))
    .ok (.list (answers.map (entry e.bare))) (e.after R changes)
  else .error (.osError "Remote end closed connection without response") (e.after R changes)

def setHot (changes : Fields) : EStateM PyErr Engine ApplyResult := do
  let body ← post R changes
  let ok ← ofExcept (allUpdated body)
  let info := serverInfo (← get)
  return report changes (if ok then readKnobs info else ∅) ok

/-! ## What `set_hot` answers -/

def agreed (changes : Fields) (e : Engine) : Bool :=
  e.ranks.all fun s => value? (setInternalState R changes) s = some true

variable {R}

theorem updatedEntry_entry (bare updated : Bool) :
    updatedEntry (entry bare updated) = .ok updated := by
  cases bare <;> rfl

theorem allEntries_entry (bare : Bool) (answers : List Bool) :
    allEntries (answers.map (entry bare)) = .ok (answers.all id) := by
  induction answers with
  | nil => rfl
  | cons answer answers ih =>
    rw [List.map_cons, allEntries, updatedEntry_entry]
    cases answer with
    | false => rfl
    | true => exact ih

theorem allUpdated_entry (bare : Bool) {answers : List Bool} (h : answers ≠ []) :
    allUpdated (.list (answers.map (entry bare))) = .ok (answers.all id) := by
  unfold allUpdated
  rw [← allEntries_entry bare]
  cases answers with
  | nil => exact absurd rfl h
  | cons answer answers => rfl

theorem answers_all {x : EStateM PyErr Sched Bool} {ranks : List Sched}
    (hret : ∀ s ∈ ranks, (value? x s).isSome) :
    (ranks.filterMap (value? x)).all id = ranks.all fun s => value? x s = some true := by
  induction ranks with
  | nil => rfl
  | cons s ranks ih =>
    rw [List.forall_mem_cons] at hret
    obtain ⟨answer, hanswer⟩ := Option.isSome_iff_exists.mp hret.1
    rw [List.filterMap_cons_some hanswer, List.all_cons, List.all_cons, ih hret.2, hanswer]
    cases answer <;> rfl

theorem setHot_run {changes : Fields} {e : Engine}
    (hret : ∀ s ∈ e.ranks, (value? (setInternalState R changes) s).isSome) :
    (setHot R changes).run e = .ok
      (report changes (if agreed R changes e then readKnobs (serverInfo (e.after R changes)) else ∅)
        (agreed R changes e)) (e.after R changes) := by
  have hpost : (post R changes).run e = .ok
      (.list ((e.ranks.filterMap (value? (setInternalState R changes))).map (entry e.bare)))
      (e.after R changes) := if_pos (List.all_eq_true.mpr hret)
  have hne : e.ranks.filterMap (value? (setInternalState R changes)) ≠ [] := by
    intro hnil
    have hfirst := hret e.first List.mem_cons_self
    rw [List.filterMap_eq_nil_iff.mp hnil e.first List.mem_cons_self] at hfirst
    cases hfirst
  unfold setHot
  simp only [EStateM.run_bind, hpost, allUpdated_entry e.bare hne, ofExcept_run,
    answers_all hret, EStateM.run_get]
  rfl

theorem setHot_raises {changes : Fields} {e : Engine} {s : Sched} (hs : s ∈ e.ranks)
    (hraise : value? (setInternalState R changes) s = none) :
    value? (setHot R changes) e = none := by
  have hpost : (post R changes).run e =
      .error (.osError "Remote end closed connection without response") (e.after R changes) := by
    refine if_neg fun hall => ?_
    have hsome := List.all_eq_true.mp hall s hs
    rw [hraise] at hsome
    cases hsome
  rw [value?, setHot, error_bind hpost]

/-! ## A rank and an admitted request -/

theorem not_reinit_of_admits {changes : Fields} (ha : sglangManifest.Admits changes) :
    ∀ p ∈ changes.entries, isReinit p.1 = false := by
  intro p hp
  have hplain : ∀ q ∈ sglangManifest.knobs.entries, isReinit q.1 = false := by decide +kernel
  obtain ⟨knob, hknob, -⟩ := reject_eq_none (ha p.1 p.2 (Dict.get?_eq_some_iff.mpr hp))
  exact hplain _ (Dict.get?_eq_some_iff.mp hknob)

/-- The types that the manifest gives the knobs of the patch. -/
theorem hotKeys_typed : ∀ p ∈ sglangManifest.knobs.entries, p.1 ∈ hotKeys →
    if p.1 = "schedule_policy" ∨ p.1 = "log_level" then p.2.vtype = "str"
    else if p.1 = "schedule_conservativeness" then
      p.2.vtype = "float" ∧ p.2.vmin = some (.fin (1 / 100))
    else p.2.vtype = "int" := by decide +kernel

theorem nonpos_of_not_below {v : Json} {x : PyFloat} (hx : v.num? = some x)
    (h : below v (.fin (1 / 100)) = false) : x.nonpos = false := by
  unfold below at h
  rw [hx] at h
  cases x with
  | fin q =>
    simp only [PyFloat.lt, decide_eq_false_iff_not] at h
    have hcent : ¬(1 / 100 : Rat) ≤ 0 := by decide +kernel
    have hq : ¬q ≤ 0 := fun hle => hcent (Rat.le_trans (Rat.not_lt.mp h) hle)
    simp [PyFloat.nonpos, hq]
  | inf neg => exact h
  | nan => rfl

/-- Of the admitted values only an integer too large for a float makes the patch raise. -/
theorem decides_of_admitted {s : Sched} {k : String} {v : Json} (hk : k ∈ hotKeys)
    (h : sglangManifest.reject k v = none) (hc : s.ceilings.isSome = true) :
    decides s k v = (k != "schedule_conservativeness" || v.toFloat.isOk) := by
  obtain ⟨knob, hknob, hcheck⟩ := reject_eq_none h
  have htyped := hotKeys_typed (k, knob) (Dict.get?_eq_some_iff.mp hknob) hk
  unfold decides
  by_cases htext : k = "schedule_policy" ∨ k = "log_level"
  · rcases htext with rfl | rfl <;> rfl
  rw [if_neg htext] at htyped
  rw [not_or] at htext
  by_cases hcons : k = "schedule_conservativeness"
  · subst hcons
    rw [if_pos rfl] at htyped
    rw [htyped.1, if_neg (by decide)] at hcheck
    obtain ⟨-, hnum, hmin⟩ := checkNumber_eq_none hcheck
    rw [htyped.1, if_neg (by decide)] at hnum
    rw [htyped.2, Option.any_some] at hmin
    obtain ⟨x, hx⟩ := Option.isSome_iff_exists.mp hnum
    simp [hx, nonpos_of_not_below hx hmin]
  · rw [if_neg hcons] at htyped
    rw [htyped, if_neg (by decide)] at hcheck
    obtain ⟨hbool, hint, -⟩ := checkNumber_eq_none hcheck
    rw [if_pos htyped] at hint
    cases v with
    | int n => simp [htext, hcons, hc, Json.num?, PyFloat.toInt_intCast, Except.isOk, Except.toBool]
    | bool b => cases hbool
    | _ => cases hint

/-- The integer that stands for a conservativeness is one that a float can hold. -/
def floats (changes : Fields) : Bool :=
  (changes.get? "schedule_conservativeness").all fun v => v.toFloat.isOk

theorem decided_iff {changes : Fields} (ha : sglangManifest.Admits changes) {s : Sched}
    (hc : s.ceilings.isSome = true) :
    (∀ k ∈ hotKeys, ∀ v, changes.get? k = some v → decides s k v = true) ↔
      floats changes = true := by
  unfold floats
  rw [Option.all_eq_true]
  constructor
  · intro h v hv
    have hmem : "schedule_conservativeness" ∈ hotKeys := by decide
    have hdecides := h _ hmem v hv
    rw [decides_of_admitted hmem (ha _ v hv) hc] at hdecides
    simpa using hdecides
  · intro h k hk v hv
    rw [decides_of_admitted hk (ha k v hv) hc]
    by_cases hcons : k = "schedule_conservativeness"
    · subst hcons
      rw [h v hv, Bool.or_true]
    · simp [hcons]

structure Handled (R : Stock) (changes : Fields) (s : Sched) (updated : Bool) : Prop where
  updated : updated = true ↔
    if (rest changes).entries = [] then ownApplied R changes s = true
    else stockApplied R changes s = true
  live : (rest changes).entries = [] → ∀ k v, changes.get? k = some v →
    applied R changes s k v = true →
      live (final (setInternalState R changes) s) k = some (stored k v)

theorem call_consumed {changes : Fields} (ha : sglangManifest.Admits changes) (s : Sched) :
    Consumed R hotKeys (begin changes s) ((applyHotKnobs R).run (begin changes s)) := by
  unfold applyHotKnobs
  rw [EStateM.run_bind, applyReinit_none (not_reinit_of_admits ha)]
  exact hotKnobs_consumed _

/-- The keys of an admitted request that leaves nothing to the stock handler. -/
theorem mem_hotKeys_of_rest {changes : Fields} (ha : sglangManifest.Admits changes)
    (hrest : (rest changes).entries = []) {k : String} {v : Json} (hv : changes.get? k = some v) :
    k ∈ hotKeys := by
  by_contra hk
  have hp := Dict.get?_eq_some_iff.mp hv
  have hmem : (k, v) ∈ (rest changes).entries :=
    rest_entries.mpr ⟨hp, by simp [not_reinit_of_admits ha _ hp, hk]⟩
  rw [hrest] at hmem
  cases hmem

theorem applied_of_admits {changes : Fields} (ha : sglangManifest.Admits changes) {k : String}
    (hk : k ∈ hotKeys) (s : Sched) (v : Json) :
    applied R changes s k v = takes R (recordCeilings s) k v := by
  rw [applied_hot hk, reinited_none (not_reinit_of_admits ha)]
  rfl

theorem call_returns_iff {changes : Fields} (ha : sglangManifest.Admits changes) (s : Sched) :
    (∃ h, (applyHotKnobs R).run (begin changes s) = .ok () h) ↔ floats changes = true := by
  have hconsumed := call_consumed (R := R) ha s
  have hdecided := decided_iff ha (s := recordCeilings s) rfl
  constructor
  · rintro ⟨h, hcall⟩
    rw [hcall] at hconsumed
    obtain _ | ⟨_, decided, -, -, -, -⟩ := hconsumed
    exact hdecided.mp decided
  · intro hf
    cases hcall : (applyHotKnobs R).run (begin changes s) with
    | error e h =>
      rw [hcall] at hconsumed
      obtain ⟨_, _, key, v, mem, arg, undecided⟩ := hconsumed
      have hdecides := hdecided.mpr hf key mem v arg
      change decides (recordCeilings s) key v = false at undecided
      rw [undecided] at hdecides
      cases hdecides
    | ok u h => exact ⟨h, rfl⟩

theorem rank_raises {changes : Fields} (ha : sglangManifest.Admits changes)
    (hf : ¬floats changes = true) (s : Sched) :
    value? (setInternalState R changes) s = none := by
  cases hcall : (applyHotKnobs R).run (begin changes s) with
  | error e h => rw [value?, setInternalState_error hcall]
  | ok u h => exact absurd ((call_returns_iff ha s).mp ⟨h, hcall⟩) hf

theorem rank_answers {changes : Fields} (ha : sglangManifest.Admits changes)
    (hf : floats changes = true) (s : Sched) : ∃ updated,
      value? (setInternalState R changes) s = some updated ∧ Handled R changes s updated := by
  obtain ⟨h, hcall⟩ := (call_returns_iff (R := R) ha s).mpr hf
  have hconsumed := call_consumed (R := R) ha s
  rw [hcall] at hconsumed
  obtain _ | ⟨_, -, -, -, -, live⟩ := hconsumed
  obtain ⟨updated, t, hrun⟩ : ∃ updated t, (setInternalState R changes).run s = .ok updated t := by
    rw [setInternalState_ok hcall]
    split_ifs <;> exact ⟨_, _, rfl⟩
  refine ⟨updated, by rw [value?, hrun], setInternalState_run hrun, ?_⟩
  intro hrest k v hv happlied
  have hk := mem_hotKeys_of_rest ha hrest hv
  have hempty : h.args.entries.isEmpty = true := by
    rw [(returned_own hcall).1, hrest]
    rfl
  have hfinal : (setInternalState R changes).run s = .ok h.ok h.sched := by
    rw [setInternalState_ok hcall]
    exact if_pos hempty
  rw [applied_of_admits ha hk] at happlied
  rw [final_of_ok hfinal, live k, if_pos hk]
  change settled R (recordCeilings s) k (changes.get? k) = _
  rw [hv, settled, if_pos happlied]

/-- The keys a reader is left with are the knobs of the patch. -/
theorem readKnobs_get? (s : Sched) (states : List InternalState) (k : String) :
    (readKnobs (internalState s :: states)).get? k = live s k := by
  change (Dict.filter _ fun k _ =>
    !(["ceilings", "last_reinit", "max_total_num_tokens"].contains k)).get? k = _
  rw [Dict.get?_filter_key]
  by_cases hk : k ∈ hotKeys
  · simp only [hotKeys, List.mem_cons, List.not_mem_nil, or_false] at hk
    rcases hk with rfl | rfl | rfl | rfl | rfl | rfl | rfl <;> rfl
  · rw [live_eq_none hk, ite_eq_right_iff]
    intro hshown
    simp only [hotKeys, List.mem_cons, List.not_mem_nil, or_false, not_or] at hk
    obtain ⟨h₁, h₂, h₃, h₄, h₅, h₆, h₇⟩ := hk
    simp only [List.contains_cons, List.contains_nil, Bool.or_false, Bool.not_eq_true',
      Bool.or_eq_false_iff, beq_eq_false_iff_ne, ne_eq] at hshown
    simp [Dict.ofList, Dict.get?_insert, h₁, h₂, h₃, h₄, h₅, h₆, h₇, hshown]

/-! ## What the answer says -/

section Report

variable {changes live : Fields} {ok : Bool}

theorem report_applied {k : String} : (report changes live ok).applied.contains k = true ↔
    ∃ v, changes.get? k = some v ∧ Json.pyEq ((live.get? k).getD .null) v = true := by
  rw [Dict.contains, Option.isSome_iff_exists]
  simp only [report, Dict.get?_filter, Option.filter_eq_some_iff]

theorem report_rejected {k : String} {v : Json} (hv : changes.get? k = some v) :
    (report changes live ok).rejected.contains k = !ok := by
  rw [Dict.contains, report]
  cases ok with
  | true => rfl
  | false =>
    simp only [Bool.false_eq_true, if_false, Dict.get?_filterMap, hv]
    rfl

theorem report_ok : (report changes live ok).ok = true ↔ ok = true ∧
    ∀ k v, changes.get? k = some v → (report changes live ok).applied.contains k = true := by
  change (ok && sameKeys _ changes) = true ↔ _
  rw [Bool.and_eq_true, sameKeys, Bool.and_eq_true, List.all_eq_true, List.all_eq_true]
  refine and_congr_right fun _ => ⟨fun h k v hv => ?_, fun h => ⟨fun k hk => ?_, fun k hk => ?_⟩⟩
  · exact h.2 k (Dict.get?_isSome_iff.mp (by rw [hv]; rfl))
  · rw [← Dict.get?_isSome_iff] at hk
    have happlied : (report changes live ok).applied.contains k = true := hk
    obtain ⟨v, hv, -⟩ := report_applied.mp happlied
    rw [Dict.contains, hv]
    rfl
  · obtain ⟨v, hv⟩ := Option.isSome_iff_exists.mp (Dict.get?_isSome_iff.mpr hk)
    exact h k v hv

end Report

variable (R)

def inForce (changes : Fields) (e : Engine) (k : String) (v : Json) : Bool :=
  e.ranks.all fun s => applied R changes s k v

structure Exact (changes : Fields) (e : Engine) (r : ApplyResult) : Prop where
  applied : ∀ k, r.applied.contains k = true ↔
    ∃ v, changes.get? k = some v ∧ inForce R changes e k v = true
  rejected : ∀ k v, changes.get? k = some v → inForce R changes e k v = true →
    r.rejected.contains k = false
  ok : r.ok = true ↔ ∀ k v, changes.get? k = some v → inForce R changes e k v = true

/-- A tick towards a version with these fields ends healthy. -/
def Converges (changes : Fields) (e : Engine) : Prop :=
  ∀ (store : Store) (appliedVersionId : Option Int) (replicaId group : String) (d : ConfigVersion),
    value? (Store.desiredFor replicaId group) store = some (some d) → d.fields = changes →
      value? (Reconciler.tickOver sglangManifest (setHot R) replicaId group)
        ⟨store, appliedVersionId, e⟩ = some HEALTHY

/-- `set_hot` reports what happened, and a request that every rank accepts as a whole converges. -/
def ReportsExactly (changes : Fields) (e : Engine) : Prop :=
  (∃ r, value? (setHot R changes) e = some r ∧ Exact R changes e r) ∧
    ((∀ k v, changes.get? k = some v → inForce R changes e k v = true) → Converges R changes e)

variable {R}

theorem converges_of_ok {changes : Fields} {e : Engine} (ha : sglangManifest.Admits changes)
    {r : ApplyResult} (hr : value? (setHot R changes) e = some r) (hok : r.ok = true) :
    Converges R changes e := by
  intro store appliedVersionId replicaId group d hd hfields
  subst hfields
  have hread := value?_eq_some_iff.mp hd
  rw [(Store.desiredFor_found hread).1] at hread
  exact Reconciler.tickOver_healthy hread ha ⟨r, _, value?_eq_some_iff.mp hr, hok⟩

theorem agreed_iff {changes : Fields} {e : Engine} (ha : sglangManifest.Admits changes)
    (hf : floats changes = true) : agreed R changes e = true ↔ ∀ s ∈ e.ranks,
      if (rest changes).entries = [] then ownApplied R changes s = true
      else stockApplied R changes s = true := by
  rw [agreed, List.all_eq_true]
  refine forall₂_congr fun s _ => ?_
  obtain ⟨updated, hvalue, handled⟩ := rank_answers (R := R) ha hf s
  rw [hvalue, decide_eq_true_eq, Option.some_inj]
  exact handled.updated

theorem inForce_all_iff {changes : Fields} {e : Engine} :
    (∀ k v, changes.get? k = some v → inForce R changes e k v = true) ↔
      ∀ s ∈ e.ranks, ownApplied R changes s = true ∧ stockApplied R changes s = true := by
  simp only [inForce, List.all_eq_true, ← applied_all_iff]
  exact ⟨fun h s hs k v hv => h k v hv s hs, fun h k v hv s hs => h s hs k v hv⟩

/-- What the server shows once the patch has taken a whole request. -/
theorem shown_of_inForce {changes : Fields} {e : Engine} (ha : sglangManifest.Admits changes)
    (hf : floats changes = true) (hrest : (rest changes).entries = []) {k : String} {v : Json}
    (hv : changes.get? k = some v) (hforce : inForce R changes e k v = true) :
    (readKnobs (serverInfo (e.after R changes))).get? k = some (stored k v) := by
  obtain ⟨updated, -, handled⟩ := rank_answers (R := R) ha hf e.first
  have hfirst := List.all_eq_true.mp hforce e.first List.mem_cons_self
  exact (readKnobs_get? _ _ k).trans (handled.live hrest k v hv hfirst)

/-- A rank that refuses a key can agree only through the stock handler. -/
theorem inForce_of_agreed {changes : Fields} {e : Engine} (ha : sglangManifest.Admits changes)
    (hf : floats changes = true) (hagreed : agreed R changes e = true) :
    if (rest changes).entries = [] then
      ∀ k v, changes.get? k = some v → inForce R changes e k v = true
    else ∃ k v, changes.get? k = some v ∧ k ∉ hotKeys ∧ inForce R changes e k v = true := by
  have hranks := (agreed_iff ha hf).mp hagreed
  by_cases hrest : (rest changes).entries = []
  · rw [if_pos hrest]
    refine inForce_all_iff.mpr fun s hs => ?_
    have hown := hranks s hs
    rw [if_pos hrest] at hown
    exact ⟨hown, by rw [stockApplied, hrest]; rfl⟩
  · rw [if_neg hrest]
    obtain ⟨p, hp⟩ := List.exists_mem_of_ne_nil _ hrest
    obtain ⟨hp', hk⟩ := rest_entries.mp hp
    refine ⟨p.1, p.2, Dict.get?_eq_some_iff.mpr hp', ?_, List.all_eq_true.mpr fun s hs => ?_⟩
    · rw [Bool.or_eq_false_iff] at hk
      simpa using hk.2
    · have hstock := hranks s hs
      rw [if_neg hrest, stockApplied, List.all_eq_true] at hstock
      rw [applied_rest hk]
      exact hstock p hp

theorem agreed_of_inForce {changes : Fields} {e : Engine} (ha : sglangManifest.Admits changes)
    (hf : floats changes = true)
    (hall : ∀ k v, changes.get? k = some v → inForce R changes e k v = true) :
    agreed R changes e = true := by
  refine (agreed_iff ha hf).mpr fun s hs => ?_
  obtain ⟨hown, hstock⟩ := inForce_all_iff.mp hall s hs
  split_ifs
  · exact hown
  · exact hstock

theorem setHot_reports {changes : Fields} {e : Engine} (ha : sglangManifest.Admits changes)
    (hf : floats changes = true) : value? (setHot R changes) e = some (report changes
      (if agreed R changes e then readKnobs (serverInfo (e.after R changes)) else ∅)
      (agreed R changes e)) := by
  have hret : ∀ s ∈ e.ranks, (value? (setInternalState R changes) s).isSome := by
    intro s _
    obtain ⟨updated, hvalue, -⟩ := rank_answers (R := R) ha hf s
    rw [hvalue]
    rfl
  rw [value?, setHot_run hret]

theorem setHot_lost {changes : Fields} {e : Engine} (ha : sglangManifest.Admits changes)
    (hf : ¬floats changes = true) : value? (setHot R changes) e = none :=
  setHot_raises List.mem_cons_self (rank_raises ha hf e.first)

/-! ## When it tells what happened -/

def spelled (k : String) (v : Json) : Bool := Json.pyEq (stored k v) v

theorem exact_of_all {changes : Fields} {e : Engine} (ha : sglangManifest.Admits changes)
    (hf : floats changes = true)
    (hall : ∀ k v, changes.get? k = some v →
      k ∈ hotKeys ∧ inForce R changes e k v = true ∧ spelled k v = true) :
    ∃ r, value? (setHot R changes) e = some r ∧ Exact R changes e r := by
  have hforce : ∀ k v, changes.get? k = some v → inForce R changes e k v = true :=
    fun k v hv => (hall k v hv).2.1
  have hagreed := agreed_of_inForce ha hf hforce
  have hrest : (rest changes).entries = [] := by
    rw [List.eq_nil_iff_forall_not_mem]
    intro p hp
    obtain ⟨hp, hk⟩ := rest_entries.mp hp
    have hhot := (hall p.1 p.2 (Dict.get?_eq_some_iff.mpr hp)).1
    simp [hhot] at hk
  refine ⟨_, setHot_reports ha hf, ?_⟩
  simp only [hagreed, if_true]
  have happlied : ∀ k v, changes.get? k = some v → (report changes
      (readKnobs (serverInfo (e.after R changes))) true).applied.contains k = true := by
    intro k v hv
    refine report_applied.mpr ⟨v, hv, ?_⟩
    rw [shown_of_inForce ha hf hrest hv (hforce k v hv), Option.getD_some]
    exact (hall k v hv).2.2
  refine ⟨fun k => ⟨fun h => ?_, ?_⟩, fun k v hv _ => report_rejected hv, ?_⟩
  · obtain ⟨v, hv, -⟩ := report_applied.mp h
    exact ⟨v, hv, hforce k v hv⟩
  · rintro ⟨v, hv, -⟩
    exact happlied k v hv
  · rw [report_ok]
    exact ⟨fun _ => hforce, fun _ => ⟨rfl, happlied⟩⟩

theorem exact_of_none {changes : Fields} {e : Engine} (ha : sglangManifest.Admits changes)
    (hf : floats changes = true)
    (hnone : ∀ k v, changes.get? k = some v → inForce R changes e k v = false) :
    ∃ r, value? (setHot R changes) e = some r ∧ Exact R changes e r := by
  -- A server that agrees has a key in force: then there is no key at all.
  have hvoid : agreed R changes e = true → ∀ k v, changes.get? k ≠ some v := by
    intro hagreed k v hv
    obtain ⟨k', v', hv', hforce⟩ :
        ∃ k v, changes.get? k = some v ∧ inForce R changes e k v = true := by
      have hsome := inForce_of_agreed ha hf hagreed
      split_ifs at hsome
      · exact ⟨k, v, hv, hsome k v hv⟩
      · obtain ⟨k', v', hv', -, hforce⟩ := hsome
        exact ⟨k', v', hv', hforce⟩
    rw [hnone k' v' hv'] at hforce
    cases hforce
  refine ⟨_, setHot_reports ha hf, fun k => ⟨fun h => ?_, ?_⟩, fun k v hv hforce => ?_, ?_⟩
  · obtain ⟨v, hv, heq⟩ := report_applied.mp h
    cases hagreed : agreed R changes e with
    | true => exact absurd hv (hvoid hagreed k v)
    | false =>
      rw [hagreed] at heq
      exact absurd (Json.eq_null_of_pyEq heq) (ne_null_of_admitted (ha k v hv))
  · rintro ⟨v, hv, hforce⟩
    rw [hnone k v hv] at hforce
    cases hforce
  · rw [hnone k v hv] at hforce
    cases hforce
  · rw [report_ok]
    refine ⟨fun h k v hv => absurd hv (hvoid h.1 k v), fun hall => ?_⟩
    have hagreed := agreed_of_inForce ha hf hall
    exact ⟨hagreed, fun k v hv => absurd hv (hvoid hagreed k v)⟩

theorem all_of_exact {changes : Fields} {e : Engine} (ha : sglangManifest.Admits changes)
    (hf : floats changes = true) {r : ApplyResult} (hr : value? (setHot R changes) e = some r)
    (hexact : Exact R changes e r) {k₀ : String} {v₀ : Json} (hv₀ : changes.get? k₀ = some v₀)
    (hforce₀ : inForce R changes e k₀ v₀ = true) (k : String) (v : Json)
    (hv : changes.get? k = some v) :
    k ∈ hotKeys ∧ inForce R changes e k v = true ∧ spelled k v = true := by
  rw [setHot_reports ha hf, Option.some_inj] at hr
  subst hr
  have hagreed : agreed R changes e = true := by
    have hrejected := hexact.rejected k₀ v₀ hv₀ hforce₀
    rw [report_rejected hv₀, Bool.not_eq_false'] at hrejected
    exact hrejected
  simp only [hagreed, if_true] at hexact
  -- A key in force is among those the server shows.
  have hshown : ∀ k v, changes.get? k = some v → inForce R changes e k v = true →
      k ∈ hotKeys ∧
        Json.pyEq (((readKnobs (serverInfo (e.after R changes))).get? k).getD .null) v = true := by
    intro k v hv hforce
    obtain ⟨w, hw, heq⟩ := report_applied.mp ((hexact.applied k).mpr ⟨v, hv, hforce⟩)
    rw [hv, Option.some_inj] at hw
    subst hw
    refine ⟨?_, heq⟩
    by_contra hk
    have hunshown : (readKnobs (serverInfo (e.after R changes))).get? k = none :=
      (readKnobs_get? _ _ k).trans (live_eq_none hk)
    rw [hunshown] at heq
    exact ne_null_of_admitted (ha k v hv) (Json.eq_null_of_pyEq heq)
  have hsome := inForce_of_agreed ha hf hagreed
  by_cases hrest : (rest changes).entries = []
  · rw [if_pos hrest] at hsome
    have hforce := hsome k v hv
    obtain ⟨hk, heq⟩ := hshown k v hv hforce
    rw [shown_of_inForce ha hf hrest hv hforce, Option.getD_some] at heq
    exact ⟨hk, hforce, heq⟩
  · rw [if_neg hrest] at hsome
    obtain ⟨k', v', hv', hk', hforce⟩ := hsome
    exact absurd (hshown k' v' hv' hforce).1 hk'

/-- `set_hot` tells what happened exactly when every rank answers and either takes the whole of
the request, spelled as it reads back and without a key of the stock allowlist, or the ranks
take no key together. -/
theorem set_hot_exact_iff (R : Stock) (e : Engine) (changes : Fields)
    (ha : sglangManifest.Admits changes) : ReportsExactly R changes e ↔
      floats changes = true ∧
        ((∀ k v, changes.get? k = some v →
            k ∈ hotKeys ∧ inForce R changes e k v = true ∧ spelled k v = true) ∨
          ∀ k v, changes.get? k = some v → inForce R changes e k v = false) := by
  constructor
  · rintro ⟨⟨r, hr, hexact⟩, -⟩
    have hf : floats changes = true := by
      by_contra hf
      rw [setHot_lost ha hf] at hr
      cases hr
    refine ⟨hf, ?_⟩
    by_cases hsome : ∃ k v, changes.get? k = some v ∧ inForce R changes e k v = true
    · obtain ⟨k₀, v₀, hv₀, hforce₀⟩ := hsome
      exact .inl (all_of_exact ha hf hr hexact hv₀ hforce₀)
    · refine .inr fun k v hv => ?_
      rw [← Bool.not_eq_true]
      exact fun hforce => hsome ⟨k, v, hv, hforce⟩
  · rintro ⟨hf, hcond⟩
    obtain ⟨r, hr, hexact⟩ : ∃ r, value? (setHot R changes) e = some r ∧ Exact R changes e r := by
      rcases hcond with hall | hnone
      · exact exact_of_all ha hf hall
      · exact exact_of_none ha hf hnone
    exact ⟨⟨r, hr, hexact⟩, fun hall => converges_of_ok ha hr (hexact.ok.mpr hall)⟩

end Server

/-! ## A log level in either case -/

def twoRanks : Engine := ⟨booted, [booted], true⟩

def caps (level : String) : Fields :=
  ⟨[("max_running_requests", .int 16), ("log_level", .str level)], by simp⟩

theorem caps_in_force (level : String) (h : level = "INFO" ∨ level = "info") :
    sglangManifest.Admits (caps level) ∧ ∀ k v, (caps level).get? k = some v →
      k ∈ hotKeys ∧ inForce allowlisted (caps level) twoRanks k v = true := by
  rw [Manifest.Admits, Dict.forall_get?_iff, Dict.forall_get?_iff]
  rcases h with rfl | rfl <;> decide +kernel

theorem upper_case_reported : ReportsExactly allowlisted (caps "INFO") twoRanks := by
  obtain ⟨hadmits, hforce⟩ := caps_in_force "INFO" (.inl rfl)
  have hspelled : ∀ k v, (caps "INFO").get? k = some v → spelled k v = true := by
    rw [Dict.forall_get?_iff]
    decide +kernel
  exact (set_hot_exact_iff allowlisted twoRanks (caps "INFO") hadmits).mpr ⟨by decide +kernel,
    .inl fun k v hv => ⟨(hforce k v hv).1, (hforce k v hv).2, hspelled k v hv⟩⟩

/-- Both ranks take `info` and store `INFO`: the answer is not ok, so the version never
converges. -/
theorem lower_case_denied : ¬ ∀ (R : Stock) (e : Engine) (changes : Fields),
    sglangManifest.Admits changes → ReportsExactly R changes e := by
  intro hall
  obtain ⟨hadmits, hforce⟩ := caps_in_force "info" (.inr rfl)
  obtain ⟨⟨r, hr, hexact⟩, -⟩ := hall allowlisted twoRanks (caps "info") hadmits
  have hok : r.ok = true := hexact.ok.mpr fun k v hv => (hforce k v hv).2
  have hdenied : (value? (setHot allowlisted (caps "info")) twoRanks).map (·.ok) = some false := by
    decide +kernel
  rw [hr, Option.map_some, hok] at hdenied
  cases hdenied

end Trimtab.SglangAdapter
