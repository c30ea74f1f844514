import Trimtab.CanaryBaseline
import Trimtab.CanaryInterleaving
import Trimtab.ControlPlane

set_option autoImplicit false

/-!
# The replicas of a passing canary

What their ticks read while `decide` goes through its store operations. A tick reads the
store with `desired_for` and writes it with `record_status`, each at any moment.
-/
namespace Trimtab.CanaryHandover
open Canary CanaryOverrides CanaryBaseline CanaryInterleaving Effects Runs StoreHistory

/-- The steps of the call under way, reports of the ticks, and proposals: nobody else
promotes or opens a canary. -/
def Quiet : Event → Prop
  | .act _ | .other (.recordStatus _ _ _ _ _) | .other (.propose _ _ _ _) => True
  | _ => False

def OnCandidate (group : String) (candidate : Int) (s : Store) (r : String) : Prop :=
  ∃ v, v.id = candidate ∧ (Store.desiredFor r group).run s = .ok (some v) s

/-- From the store that `start` leaves, whatever comes between the steps of `decide`. -/
def HandsOver (c : Canary) (canaryId candidate : Int) (scope : List String) (cm bm : Metrics)
    (started : Store) : Prop :=
  ∀ es, (∀ e ∈ es, Quiet e) → ∀ r ∈ scope, OnCandidate c.group candidate
    (run step ⟨started, [(Request.decide c canaryId cm bm).begin]⟩ es).store r

/-! ## The candidate is the group's desired version already -/

def Decides (c : Canary) (canaryId candidate : Int) : Call → Prop
  | .deciding c' id _ _ => c' = c ∧ id = canaryId
  | .clearing c' id v _ _ => c' = c ∧ id = canaryId ∧ v = candidate
  | .promoting c' id v _ => c' = c ∧ id = canaryId ∧ v = candidate
  | .closing id _ _ => id = canaryId
  | .ended => True
  | _ => False

structure Handing (c : Canary) (canaryId candidate : Int) (scope : List String) (s : Plane) :
    Prop where
  found : ∃ v, s.store.find candidate = some v ∧ v.replicaGroup = c.group
  desired : s.store.desiredState.get? c.group = some candidate
  overrides : ∀ r ∈ scope, ∀ o, s.store.replicaOverride.get? r = some o → o.versionId = candidate
  row : ∃ row, s.store.canaryTable.get? canaryId = some row ∧ row.candidateVersionId = candidate
  calls : ∃ call, s.calls = [call] ∧ Decides c canaryId candidate call

variable {c : Canary} {canaryId candidate : Int} {scope : List String}

theorem onCandidate_of_handing {s : Plane} (h : Handing c canaryId candidate scope s) {r : String}
    (hr : r ∈ scope) : OnCandidate c.group candidate s.store r := by
  obtain ⟨v, hv, -⟩ := h.found
  refine ⟨v, (Store.find_eq_some_iff.mp hv).2, ?_⟩
  rw [Store.desiredFor_run]
  cases ho : s.store.replicaOverride.get? r with
  | none =>
    rw [Store.desired_run, h.desired]
    simp only [hv]
  | some o =>
    simp only [h.overrides r hr o ho, hv]

/-- What a quiet operation of somebody else leaves as it is. -/
theorem quiet_keeps {op : StoreOp} (hq : Quiet (.other op)) (s : Store) :
    closesCanary op = false ∧ Extends s (StoreHistory.apply s op) ∧
      (StoreHistory.apply s op).desiredState = s.desiredState ∧
      (StoreHistory.apply s op).replicaOverride = s.replicaOverride ∧
      (StoreHistory.apply s op).canaryTable = s.canaryTable := by
  have hext : Extends s (StoreHistory.apply s op) := extends_of_advances (apply_advances s op)
  cases op with
  | propose group fields createdBy reason =>
    have hk := propose_keeps s group fields createdBy reason
    have hd : (StoreHistory.apply s (.propose group fields createdBy reason)).desiredState =
        s.desiredState := by
      rw [StoreHistory.apply, StoreOp.exec, final_discard, final, Store.propose_run]
      rcases Store.desired_reads s group with ⟨parent, hp⟩ | ⟨e, he⟩
      · rw [hp]
      · rw [he]
    refine ⟨rfl, hext, hd, ?_, ?_⟩
    · rw [StoreHistory.apply, StoreOp.exec, final_discard]
      exact hk.1
    · rw [StoreHistory.apply, StoreOp.exec, final_discard]
      exact hk.2
  | recordStatus replicaId group applied state detail => exact ⟨rfl, hext, rfl, rfl, rfl⟩
  | _ => cases hq

/-- One step of the decision: what it does to the rows that the replicas read. -/
theorem handing_next {s : Store} {call : Call}
    (h : Handing c canaryId candidate scope ⟨s, [call]⟩) :
    Handing c canaryId candidate scope ⟨(call.next s).1, [(call.next s).2]⟩ := by
  obtain ⟨⟨v, hv, hg⟩, hd, ho, ⟨row, hrow, hcand⟩, call', hsame, hcall⟩ := h
  cases hsame
  cases call with
  | deciding c' id cm bm =>
    obtain ⟨rfl, rfl⟩ := hcall
    simp only [Call.next, Call.read, Store.canary_run, hrow]
    cases evaluate row.gates cm bm with
    | error e => exact ⟨⟨v, hv, hg⟩, hd, ho, ⟨row, hrow, hcand⟩, _, rfl, trivial⟩
    | ok verdict => exact ⟨⟨v, hv, hg⟩, hd, ho, ⟨row, hrow, hcand⟩, _, rfl, rfl, rfl, hcand⟩
  | clearing c' id w passed findings =>
    obtain ⟨rfl, rfl, rfl⟩ := hcall
    simp only [Call.next, clearOverrides_run hrow]
    refine ⟨⟨v, hv, hg⟩, hd, fun r hr o hget => ?_, ⟨row, hrow, hcand⟩, _, rfl, ?_⟩
    · exact ho r hr o ((cleared_get? s id r o).mp hget).1
    · cases passed
      · exact rfl
      · exact ⟨rfl, rfl, rfl⟩
  | promoting c' id w findings =>
    obtain ⟨rfl, rfl, rfl⟩ := hcall
    simp only [Call.next, Store.promote_found hv hg]
    exact ⟨⟨v, hv, hg⟩, Dict.get?_insert_self _ _ _, ho, ⟨row, hrow, hcand⟩, _, rfl, rfl⟩
  | closing id status decision =>
    obtain rfl := hcall
    have hclose : Call.next s (.closing id status decision) =
        (closed s id status decision, .ended) :=
      congrArg (·, Call.ended) (Store.closeCanary_final s id status decision)
    rw [hclose]
    refine ⟨⟨v, hv, hg⟩, hd, ho, ?_, _, rfl, trivial⟩
    refine ⟨{ row with status := status, decision := decision }, ?_, hcand⟩
    change (s.canaryTable.modify id _).get? id = _
    rw [SerialTable.get?_modify_self, hrow]
    rfl
  | ended => exact ⟨⟨v, hv, hg⟩, hd, ho, ⟨row, hrow, hcand⟩, _, rfl, trivial⟩
  | checking => cases hcall
  | sampling => cases hcall
  | aborting => cases hcall

theorem handing_step {s : Plane} (h : Handing c canaryId candidate scope s) {e : Event}
    (hq : Quiet e) : Handing c canaryId candidate scope (step s e) := by
  obtain ⟨store, calls⟩ := s
  obtain ⟨call, rfl, hcall⟩ := id h.calls
  cases e with
  | issue request => cases hq
  | act client =>
    cases client with
    | zero => exact handing_next h
    | succ n => exact h
  | other op =>
    obtain ⟨hop, hext, hd, ho, hc⟩ := quiet_keeps hq store
    obtain ⟨v, hv, hg⟩ := h.found
    rw [step_other hop]
    exact ⟨⟨v, find_of_extends hext hv, hg⟩, hd ▸ h.desired, ho ▸ h.overrides, hc ▸ h.row,
      call, rfl, hcall⟩

theorem handing_run {s : Plane} (h : Handing c canaryId candidate scope s) {es : List Event}
    (hq : ∀ e ∈ es, Quiet e) : Handing c canaryId candidate scope (run step s es) :=
  run_invariant_along (P := fun _ e => Quiet e) (I := Handing c canaryId candidate scope)
    (fun _ _ h hq => handing_step h hq) (along_of_mem hq) h

/-! ## From the start -/

theorem start_returned {s t : Store} {gates : List Gate} {windowS : Rat}
    (h : (c.start candidate scope gates windowS).run s = .ok canaryId t) :
    canaryId = s.canaryTable.nextId ∧
      ∃ base, t = opened s c.group base candidate scope gates windowS := by
  rw [start_run] at h
  cases hc : c.checkScope scope with
  | error e =>
    rw [hc] at h
    cases h
  | ok u =>
    rcases Store.desired_reads s c.group with ⟨base, hb⟩ | ⟨e, he⟩
    · rw [hc, hb] at h
      dsimp only at h
      split_ifs at h
      cases h
      exact ⟨rfl, base, rfl⟩
    · rw [hc, he] at h
      cases h

theorem handing_started (scope : List String) {s : Store} (hs : History s) (base : Option ConfigVersion)
    (gates : List Gate) (windowS : Rat) (cm bm : Metrics)
    (hd : s.desiredState.get? c.group = some candidate) :
    Handing c s.canaryTable.nextId candidate scope
      ⟨opened s c.group base candidate scope gates windowS,
        [(Request.decide c s.canaryTable.nextId cm bm).begin]⟩ where
  found := hs.desired_own c.group candidate hd
  desired := hd
  overrides r hr o ho := by
    rw [opened_override, if_pos hr] at ho
    cases ho
    rfl
  row := ⟨_, opened_row s c.group base candidate scope gates windowS, rfl⟩
  calls := ⟨_, rfl, rfl, rfl⟩

/-- Once `decide` has cleared the overrides its replicas are back on the group's desired. -/
theorem onCandidate_cleared {s : Store} (base : Option ConfigVersion) {gates : List Gate}
    (windowS : Rat) {cm bm : Metrics} {findings : List String}
    (hpass : evaluate gates cm bm = .ok (true, findings)) {r : String} (hr : r ∈ scope)
    (h : OnCandidate c.group candidate
      (run step ⟨opened s c.group base candidate scope gates windowS,
        [(Request.decide c s.canaryTable.nextId cm bm).begin]⟩ [.act 0, .act 0]).store r) :
    s.desiredState.get? c.group = some candidate := by
  have hrun : (run step ⟨opened s c.group base candidate scope gates windowS,
      [(Request.decide c s.canaryTable.nextId cm bm).begin]⟩ [.act 0, .act 0]).store =
      cleared (opened s c.group base candidate scope gates windowS) s.canaryTable.nextId := by
    have hread : Call.next (opened s c.group base candidate scope gates windowS)
        (Request.decide c s.canaryTable.nextId cm bm).begin =
        (opened s c.group base candidate scope gates windowS,
          .clearing c s.canaryTable.nextId candidate true findings) := by
      simp only [Request.begin, Call.next, Call.read, Store.canary_run, opened_row, hpass]
    have hclear := clearOverrides_run
      (opened_row s c.group base candidate scope gates windowS)
    rw [run_cons, step_act rfl, hread, run_cons, step_act rfl, Call.next, hclear]
    rfl
  rw [hrun] at h
  obtain ⟨v, rfl, hv⟩ := h
  have hnone : (cleared (opened s c.group base v.id scope gates windowS)
      s.canaryTable.nextId).replicaOverride.get? r = none := by
    rw [Option.eq_none_iff_forall_ne_some]
    intro o ho
    rw [cleared_get?, opened_override, if_pos hr] at ho
    exact ho.2 (congrArg OverrideRow.canaryId (Option.some.inj ho.1)).symm
  rw [Store.desiredFor_run, hnone] at hv
  exact Store.pointer_of_desired hv

/-- A passing canary keeps its replicas on the candidate exactly when it has none, or the
candidate was the group's desired version when it started. -/
theorem hands_over_iff (ops : List PlaneOp) (c : Canary) (candidate : Int) (scope : List String)
    (gates : List Gate) (windowS : Rat) (cm bm : Metrics) (findings : List String)
    (canaryId : Int) (started : Store)
    (hstart : (c.start candidate scope gates windowS).run (run PlaneOp.apply Store.empty ops) =
      .ok canaryId started)
    (hpass : evaluate gates cm bm = .ok (true, findings)) :
    HandsOver c canaryId candidate scope cm bm started ↔
      scope = [] ∨
        (run PlaneOp.apply Store.empty ops).desiredState.get? c.group = some candidate := by
  obtain ⟨rfl, base, rfl⟩ := start_returned hstart
  constructor
  · intro h
    cases scope with
    | nil => exact .inl rfl
    | cons r scope =>
      have hquiet : ∀ e ∈ [Event.act 0, .act 0], Quiet e := by simp [Quiet]
      exact .inr (onCandidate_cleared base windowS hpass List.mem_cons_self
        (h _ hquiet r List.mem_cons_self))
  · rintro (rfl | hd)
    · exact fun es _ r hr => by cases hr
    · intro es hquiet r hr
      have hs := handing_started scope (PlaneOp.history_run ops) base gates windowS cm bm hd
      exact onCandidate_of_handing (handing_run hs hquiet) hr

def twoVersions : List PlaneOp :=
  [.client (capVersion 16), .client (.promote "g" 1), .client (capVersion 8)]

/-- A canary of the version that the group runs already. -/
theorem hands_over_same_version : HandsOver fleet 1 1 ["r0"] ∅ ∅
    (final (fleet.start 1 ["r0"] [] 60) (run PlaneOp.apply Store.empty twoVersions)) :=
  (hands_over_iff twoVersions fleet 1 ["r0"] [] 60 ∅ ∅ [] 1 _ (by rfl) rfl).mpr (.inr rfl)

theorem bounced_to_baseline :
    ¬∀ (ops : List PlaneOp) (c : Canary) (candidate : Int) (scope : List String)
      (gates : List Gate) (windowS : Rat) (cm bm : Metrics) (findings : List String)
      (canaryId : Int) (started : Store),
      (c.start candidate scope gates windowS).run (run PlaneOp.apply Store.empty ops) =
        .ok canaryId started →
      evaluate gates cm bm = .ok (true, findings) →
      HandsOver c canaryId candidate scope cm bm started := by
  intro h
  have hs := h twoVersions fleet 2 ["r0"] [] 60 ∅ ∅ [] 1
    (final (fleet.start 2 ["r0"] [] 60) (run PlaneOp.apply Store.empty twoVersions)) (by rfl) rfl
  obtain ⟨v, hv, hrun⟩ := hs [.act 0, .act 0] (by simp [Quiet]) "r0" (by decide)
  have hbaseline : (value? (Store.desiredFor "r0" fleet.group) (run step
      ⟨final (fleet.start 2 ["r0"] [] 60) (run PlaneOp.apply Store.empty twoVersions),
        [(Request.decide fleet 1 ∅ ∅).begin]⟩ [.act 0, .act 0]).store).map (Option.map (·.id)) =
      some (some 1) := by decide +kernel
  rw [value?, hrun] at hbaseline
  simp [hv] at hbaseline

end Trimtab.CanaryHandover
