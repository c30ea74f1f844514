import Trimtab.CanaryOverrides

set_option autoImplicit false

/-! What an open canary compares: its candidate inside its scope, the group's desired outside. -/
namespace Trimtab.CanaryBaseline
open Canary CanaryOverrides Effects Runs StoreHistory

/-- `desired_for` gives the canary's candidate to its scope, and to the other replicas of
the group what `desired` gives. -/
def Compares (s : Store) (group : String) (row : CanaryRow) : Prop :=
  (∀ r ∈ row.scope, ∃ v, v.id = row.candidateVersionId ∧
    (Store.desiredFor r group).run s = .ok (some v) s) ∧
  ∀ r, r ∉ row.scope → ∃ d, (Store.desired group).run s = .ok d s ∧
    (Store.desiredFor r group).run s = .ok d s

def OpenCompares (s : Store) (group : String) : Prop :=
  ∀ id row, s.canaryTable.get? id = some row → row.status = "observing" → Compares s group row

def OnGroup (group : String) (op : ClientOp) : Prop := ∀ c, op.canary? = some c → c.group = group

/-- A start that passes its checks names a version of the group, and finds no other open
canary but one that, like itself, steers no replica. -/
def Undisturbed (s : Store) : ClientOp → Prop
  | .start c candidateId scope _ _ =>
    c.checkScope scope = .ok () →
      (scope ≠ [] → ∃ v, s.find candidateId = some v ∧ v.replicaGroup = c.group) ∧
      ∀ id row, s.canaryTable.get? id = some row → row.status = "observing" →
        scope = [] ∧ row.scope = []
  | _ => True

structure Baseline (group : String) (s : Store) : Prop where
  history : History s
  steered : Steered s
  covered : ∀ id row, s.canaryTable.get? id = some row → row.status = "observing" →
    ∀ r ∈ row.scope, ∃ o, s.replicaOverride.get? r = some o ∧ o.canaryId = id
  candidate : ∀ id row, s.canaryTable.get? id = some row → row.status = "observing" →
    row.scope ≠ [] → ∃ v, s.find row.candidateVersionId = some v ∧ v.replicaGroup = group
  alone : ∀ id row id' row', s.canaryTable.get? id = some row → row.status = "observing" →
    s.canaryTable.get? id' = some row' → row'.status = "observing" → id ≠ id' →
    row.scope = [] ∧ row'.scope = []

theorem baseline_empty (group : String) : Baseline group Store.empty where
  history := history_empty
  steered := steered_empty
  covered _ _ h := by cases h
  candidate _ _ h := by cases h
  alone _ _ _ _ h := by cases h

theorem openCompares_of_baseline {s : Store} {group : String} (h : Baseline group s) :
    OpenCompares s group := by
  intro id row hrow hopen
  constructor
  · intro r hr
    obtain ⟨o, ho, hid⟩ := h.covered id row hrow hopen r hr
    obtain ⟨row', hrow', -, hv, -⟩ := h.steered r o ho
    have hsame : row' = row := by
      rw [hid, hrow] at hrow'
      exact (Option.some.inj hrow').symm
    obtain ⟨v, hf, -⟩ := h.candidate id row hrow hopen (List.ne_nil_of_mem hr)
    refine ⟨v, (Store.find_eq_some_iff.mp hf).2, ?_⟩
    rw [Store.desiredFor_run, ho]
    simp only [hv, hsame, hf]
  · intro r hr
    obtain ⟨d, hd, -⟩ := desired_run_of_history h.history group
    have hnone : s.replicaOverride.get? r = none := by
      rw [Option.eq_none_iff_forall_ne_some]
      intro o ho
      obtain ⟨row', hrow', hopen', -, hmem⟩ := h.steered r o ho
      by_cases hid : o.canaryId = id
      · rw [hid, hrow] at hrow'
        cases hrow'
        exact hr hmem
      · have he := (h.alone _ _ _ _ hrow' hopen' hrow hopen hid).1
        rw [he] at hmem
        cases hmem
    refine ⟨d, hd, ?_⟩
    rw [Store.desiredFor_run, hnone]
    exact hd

section Step

variable {s t : Store} {group : String} {op : ClientOp}

theorem covered_step (hs : Baseline group s) (hon : OnGroup group op) (hu : Undisturbed s op)
    (h : Steers s op t) (id : Int) (row : CanaryRow) (hrow : t.canaryTable.get? id = some row)
    (hopen : row.status = "observing") (r : String) (hr : r ∈ row.scope) :
    ∃ o, t.replicaOverride.get? r = some o ∧ o.canaryId = id := by
  cases h with
  | kept overrides canaries =>
    rw [canaries] at hrow
    rw [overrides]
    exact hs.covered id row hrow hopen r hr
  | opens c base candidateId scope gates windowS call accepted state =>
    subst call state
    rw [opened, SerialTable.get?_insert] at hrow
    split_ifs at hrow with hid
    · cases hrow
      have hmem : r ∈ scope := (List.perm_insertionSort _ _).mem_iff.mp hr
      exact ⟨_, by rw [opened_override, if_pos hmem], hid.symm⟩
    · have he := ((hu accepted).2 id row hrow hopen).2
      rw [he] at hr
      cases hr
  | clears c canaryId row' call found refused overrides canaries =>
    rw [canaries] at hrow
    obtain ⟨o, ho, hid⟩ := hs.covered id row hrow hopen r hr
    refine ⟨o, ?_, hid⟩
    rw [overrides, cleared_get?]
    refine ⟨ho, fun hsame => ?_⟩
    -- a refused promotion is not of a canary that steers a replica: its candidate is sound
    rw [← hid, hsame, found] at hrow
    cases hrow
    obtain ⟨v, hv, hg⟩ := hs.candidate canaryId row found hopen (List.ne_nil_of_mem hr)
    exact refused v hv (hg.trans (hon c call).symm)
  | closes canaryId status decision final overrides canaries =>
    rw [canaries, closed, SerialTable.get?_modify] at hrow
    split_ifs at hrow with hid
    · obtain ⟨old, -, rfl⟩ := Option.map_eq_some_iff.mp hrow
      exact absurd hopen final
    · obtain ⟨o, ho, hown⟩ := hs.covered id row hrow hopen r hr
      refine ⟨o, ?_, hown⟩
      rw [overrides, cleared_get?]
      exact ⟨ho, hown ▸ hid⟩

/-- An open row was open before, or it is the one this call has opened. -/
theorem open_before (h : Steers s op t) {id : Int} {row : CanaryRow}
    (hrow : t.canaryTable.get? id = some row) (hopen : row.status = "observing") :
    s.canaryTable.get? id = some row ∨
      ∃ c candidateId scope gates windowS, op = .start c candidateId scope gates windowS ∧
        c.checkScope scope = .ok () ∧ id = s.canaryTable.nextId ∧
        row.candidateVersionId = candidateId ∧ row.scope = scope.insertionSort (· ≤ ·) := by
  cases h with
  | kept overrides canaries => exact .inl (canaries ▸ hrow)
  | opens c base candidateId scope gates windowS call accepted state =>
    subst state
    rw [opened, SerialTable.get?_insert] at hrow
    split_ifs at hrow with hid
    · cases hrow
      exact .inr ⟨c, candidateId, scope, gates, windowS, call, accepted, hid, rfl, rfl⟩
    · exact .inl hrow
  | clears c canaryId row' call found refused overrides canaries => exact .inl (canaries ▸ hrow)
  | closes canaryId status decision final overrides canaries =>
    rw [canaries, closed, SerialTable.get?_modify] at hrow
    split_ifs at hrow with hid
    · obtain ⟨old, -, rfl⟩ := Option.map_eq_some_iff.mp hrow
      exact absurd hopen final
    · exact .inl hrow

theorem sort_eq_nil {scope : List String} (h : scope = []) :
    scope.insertionSort (· ≤ ·) = [] := by rw [h]; rfl

theorem baseline_step (hs : Baseline group s) (hon : OnGroup group op) (hu : Undisturbed s op) :
    Baseline group (op.apply s) := by
  have h := apply_steers s op
  have hext : Extends s (op.apply s) := client_extends s op
  refine ⟨client_history hs.history op, steered_of_steers h hs.steered, covered_step hs hon hu h,
    ?_, ?_⟩
  · intro id row hrow hopen hne
    rcases open_before h hrow hopen with hold | ⟨c, v, scope, gates, w, rfl, hc, -, hv, hscope⟩
    · obtain ⟨v, hv, hg⟩ := hs.candidate id row hold hopen hne
      exact ⟨v, find_of_extends hext hv, hg⟩
    · obtain ⟨v', hv', hg⟩ := (hu hc).1 fun he => hne (hscope.trans (sort_eq_nil he))
      exact ⟨v', hv ▸ find_of_extends hext hv', hg.trans (hon c rfl)⟩
  · intro id row id' row' hrow hopen hrow' hopen' hne
    rcases open_before h hrow hopen with hold | ⟨c, v, scope, gates, w, rfl, hc, hid, -, hscope⟩
    · rcases open_before h hrow' hopen' with hold' | ⟨c, v, scope, gates, w, rfl, hc, -, -, hscope⟩
      · exact hs.alone id row id' row' hold hopen hold' hopen' hne
      · have he := (hu hc).2 id row hold hopen
        exact ⟨he.2, hscope.trans (sort_eq_nil he.1)⟩
    · rcases open_before h hrow' hopen' with hold' | ⟨-, -, -, -, -, -, -, hid', -, -⟩
      · have he := (hu hc).2 id' row' hold' hopen'
        exact ⟨hscope.trans (sort_eq_nil he.1), he.2⟩
      · exact absurd (hid.trans hid'.symm) hne

end Step

/-- A canary that never meets another one compares its candidate with the baseline. -/
theorem open_compares_undisturbed (group : String) (ops : List ClientOp)
    (hon : ∀ op ∈ ops, OnGroup group op) (hu : Along ClientOp.apply Undisturbed Store.empty ops) :
    OpenCompares (run ClientOp.apply Store.empty ops) group := by
  have hb : Along ClientOp.apply (fun s op => OnGroup group op ∧ Undisturbed s op)
      Store.empty ops := along_and (along_of_mem hon) hu
  exact openCompares_of_baseline
    (run_invariant_along (fun s op hs hp => baseline_step hs hp.1 hp.2) hb (baseline_empty group))

def fleet : Canary := ⟨"g", ["r0", "r1", "r2"]⟩

def capVersion (cap : Int) : ClientOp :=
  .propose "g" (Dict.ofList [("max_num_seqs", .int cap)]) "t" ""

theorem open_compares_one_canary :
    OpenCompares (run ClientOp.apply Store.empty
      [capVersion 16, .promote "g" 1, capVersion 8, .start fleet 2 ["r0"] [] 60]) "g" := by
  refine open_compares_undisturbed "g" _ ?_ ?_
  · intro op hop c hc
    simp only [List.mem_cons, List.not_mem_nil, or_false] at hop
    rcases hop with rfl | rfl | rfl | rfl <;> cases hc
    rfl
  · refine ⟨trivial, trivial, trivial, fun _ => ⟨fun _ => ⟨_, rfl, rfl⟩, fun id row h => ?_⟩, trivial⟩
    cases h

/-- Two open canaries: the second one's replica is on the baseline side of the first. -/
def twoCanaries : List ClientOp :=
  [capVersion 16, .promote "g" 1, capVersion 8, capVersion 4, .start fleet 2 ["r0"] [] 60,
    .start fleet 3 ["r1"] [] 60]

theorem second_canary_on_baseline :
    ¬∀ (group : String) (ops : List ClientOp), (∀ op ∈ ops, OnGroup group op) →
      OpenCompares (run ClientOp.apply Store.empty ops) group := by
  intro h
  have hon : ∀ op ∈ twoCanaries, OnGroup "g" op := by
    intro op hop c hc
    simp only [twoCanaries, List.mem_cons, List.not_mem_nil, or_false] at hop
    rcases hop with rfl | rfl | rfl | rfl | rfl | rfl <;> cases hc <;> rfl
  have hrow : (run ClientOp.apply Store.empty twoCanaries).canaryTable.get? 1 =
      some ⟨"g", 2, some 1, ["r0"], [], 60, "observing", ""⟩ := by decide +kernel
  obtain ⟨d, hd, hfor⟩ := (h "g" twoCanaries hon 1 _ hrow rfl).2 "r1" (by decide)
  have hne : value? (Store.desired "g") (run ClientOp.apply Store.empty twoCanaries) ≠
      value? (Store.desiredFor "r1" "g") (run ClientOp.apply Store.empty twoCanaries) := by
    decide +kernel
  apply hne
  rw [value?, value?, hd, hfor]

end Trimtab.CanaryBaseline
