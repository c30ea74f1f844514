import Trimtab.CanaryBaseline

set_option autoImplicit false

/-! Where `desired_for` points a replica, over whole runs of client calls. -/
namespace Trimtab.CanaryTargets
open Canary CanaryOverrides CanaryBaseline Effects Runs StoreHistory

variable {member : String → String → Prop}

/-- Every replica of a group is pointed at a version of that group, or at none. -/
def Pointed (member : String → String → Prop) (s : Store) : Prop :=
  ∀ r group, member r group →
    ∃ d, (Store.desiredFor r group).run s = .ok d s ∧ ∀ v ∈ d, v.replicaGroup = group

/-- A start that passes the checks on its scope names a version on record, of the group of
every replica in the scope, or an id that the database does not take. -/
def NamesOwn (member : String → String → Prop) (s : Store) : ClientOp → Prop
  | .start c candidateId scope _ _ =>
    c.checkScope scope = .ok () → Store.binds s.configVersion candidateId = true →
      ∀ r ∈ scope, ∀ group, member r group →
        ∃ v, s.find candidateId = some v ∧ v.replicaGroup = group
  | _ => True

structure Targets (member : String → String → Prop) (s : Store) : Prop where
  history : History s
  override_own : ∀ r o, s.replicaOverride.get? r = some o → ∀ group, member r group →
    ∃ v, s.find o.versionId = some v ∧ v.replicaGroup = group

theorem targets_empty : Targets member Store.empty where
  history := history_empty
  override_own _ _ h := by cases h

theorem pointed_of_targets {s : Store} (h : Targets member s) : Pointed member s := by
  intro r group hr
  cases ho : s.replicaOverride.get? r with
  | none =>
    obtain ⟨d, hd, hown⟩ := desired_run_of_history h.history group
    refine ⟨d, ?_, fun v hv => (hown v hv).2⟩
    rw [Store.desiredFor_run, ho]
    exact hd
  | some o =>
    obtain ⟨v, hv, hown⟩ := h.override_own r o ho group hr
    refine ⟨some v, ?_, ?_⟩
    · rw [Store.desiredFor_run, ho]
      simp only [hv]
    · rintro w ⟨⟩
      exact hown

theorem targets_step {s : Store} {op : ClientOp} (hs : Targets member s)
    (hn : NamesOwn member s op) : Targets member (op.apply s) := by
  have hext : Extends s (op.apply s) := client_extends s op
  refine ⟨client_history hs.history op, fun r o ho group hr => ?_⟩
  have hold : s.replicaOverride.get? r = some o →
      ∃ v, (op.apply s).find o.versionId = some v ∧ v.replicaGroup = group := by
    intro ho
    obtain ⟨v, hv, hown⟩ := hs.override_own r o ho group hr
    exact ⟨v, find_of_extends hext hv, hown⟩
  cases apply_steers s op with
  | kept overrides canaries =>
    rw [overrides] at ho
    exact hold ho
  | opens c base candidateId scope gates windowS call accepted state bound =>
    subst call
    rw [state, opened_override] at ho
    split_ifs at ho with hmem
    · cases ho
      obtain ⟨v, hv, hown⟩ := hn accepted bound r hmem group hr
      exact ⟨v, find_of_extends hext hv, hown⟩
    · exact hold ho
  | clears c canaryId row call found refused overrides canaries =>
    rw [overrides, cleared_get?] at ho
    exact hold ho.1
  | closes canaryId status decision final overrides canaries =>
    rw [overrides, cleared_get?] at ho
    exact hold ho.1

/-- A start that goes through steers its scope, whatever version it names. -/
theorem start_apply {s : Store} (hs : History s) {c : Canary} {candidateId : Int}
    {scope : List String} (gates : List Gate) (windowS : Rat) (hc : c.checkScope scope = .ok ())
    (hid : Store.binds s.configVersion candidateId = true) :
    ∃ base, (ClientOp.start c candidateId scope gates windowS).apply s =
      opened s c.group base candidateId scope gates windowS := by
  obtain ⟨base, hb, -⟩ := desired_run_of_history hs c.group
  refine ⟨base, ?_⟩
  have hr := c.start_run s candidateId scope gates windowS
  simp only [hc, hb, hid, if_true] at hr
  rw [ClientOp.apply, ClientOp.exec, final_discard, final_of_ok hr]

theorem namesOwn_of_pointed {s : Store} {op : ClientOp} (hs : Targets member s)
    (hp : Pointed member (op.apply s)) : NamesOwn member s op := by
  cases op with
  | start c candidateId scope gates windowS =>
    intro hc hid r hmem group hr
    obtain ⟨base, ht⟩ := start_apply hs.history gates windowS hc hid
    rw [ht] at hp
    obtain ⟨d, hd, hown⟩ := hp r group hr
    have hfind : (opened s c.group base candidateId scope gates windowS).find candidateId =
        s.find candidateId := find_kept rfl candidateId
    rw [Store.desiredFor_run, opened_override, if_pos hmem] at hd
    simp only [hfind] at hd
    cases hv : s.find candidateId with
    | none =>
      rw [hv] at hd
      cases hd
    | some v =>
      rw [hv] at hd
      cases hd
      exact ⟨v, rfl, hown v rfl⟩
  | _ => trivial

/-- In every state of a run each replica is pointed at a version of its own group exactly
when every start that the database takes names such a version. -/
theorem pointed_always_iff (member : String → String → Prop) (ops : List ClientOp) :
    (∀ before after, ops = before ++ after →
        Pointed member (run ClientOp.apply Store.empty before)) ↔
      Along ClientOp.apply (NamesOwn member) Store.empty ops :=
  always_iff_along (I := Targets member) (P := Pointed member) (C := NamesOwn member)
    (fun _ => pointed_of_targets) (fun _ _ => targets_step) (fun _ _ => namesOwn_of_pointed)
    targets_empty

/-- A canary whose candidate was never proposed. -/
theorem start_dangling :
    ¬∀ (member : String → String → Prop) (ops : List ClientOp),
      Pointed member (run ClientOp.apply Store.empty ops) := by
  intro h
  have hp := h (fun r group => r ∈ fleet.all ∧ group = fleet.group) [.start fleet 7 ["r0"] [] 60]
  obtain ⟨d, hd, -⟩ := hp "r0" "g" ⟨by decide, rfl⟩
  have hraises : value? (Store.desiredFor "r0" "g")
      (run ClientOp.apply Store.empty [.start fleet 7 ["r0"] [] 60]) = none := by decide +kernel
  rw [value?, hd] at hraises
  cases hraises

end Trimtab.CanaryTargets
