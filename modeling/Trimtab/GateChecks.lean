import Trimtab.Canary

set_option autoImplicit false

/-! What the check of a gate finds, and how its findings are written down. -/
namespace Trimtab.GateChecks
open PyText

/-! ## Texts of ASCII -/

def Ascii (t : String) : Prop := ∀ c ∈ t.toList, c.val < 128

theorem ascii_append {s t : String} (hs : Ascii s) (ht : Ascii t) : Ascii (s ++ t) := by
  intro c hc
  rw [String.toList_append, List.mem_append] at hc
  exact hc.elim (hs c) (ht c)

theorem ascii_of_all {t : String} (h : (t.toList.all fun c => c.val < 128) = true) : Ascii t :=
  fun c hc => of_decide_eq_true (List.all_eq_true.mp h c hc)

theorem ascii_of_subset {s t : String} (hs : Ascii s) (h : t.toList ⊆ s.toList) : Ascii t :=
  fun c hc => hs c (h hc)

theorem ascii_of_numeric {t : String} (h : ∀ c ∈ t.toList, numeric c = true) : Ascii t := by
  intro c hc
  have hnum := h c hc
  rw [numeric, Bool.or_eq_true, List.contains_iff_mem] at hnum
  rcases hnum with hdigit | hmem
  · rw [Char.isDigit, Bool.and_eq_true, decide_eq_true_eq, decide_eq_true_eq] at hdigit
    exact UInt32.lt_of_le_of_lt hdigit.2 (by decide)
  · have hall : Ascii "-+.einfa" := ascii_of_all (by decide)
    exact hall c hmem

theorem ascii_nat (n : Nat) : Ascii (toString n) := ascii_of_numeric fun _ => numeric_toString

theorem ascii_int (n : Int) : Ascii (toString n) := by
  cases n with
  | ofNat n => exact ascii_nat n
  | negSucc n => exact ascii_append (ascii_of_all (t := "-") (by decide)) (ascii_nat (n + 1))

theorem ascii_padLeft (width : Nat) {t : String} (h : Ascii t) : Ascii (padLeft width t) :=
  ascii_append (ascii_of_numeric (numeric_ofList numeric_zeros)) h

theorem ascii_fixedPoint (places n : Nat) : Ascii (fixedPoint places n) := by
  unfold fixedPoint
  split_ifs
  · exact ascii_nat _
  · exact ascii_append (ascii_append (ascii_nat _) (ascii_of_all (by decide)))
      (ascii_padLeft places (ascii_nat _))

theorem ascii_stripZeros {t : String} (h : Ascii t) : Ascii (stripZeros t) := by
  unfold stripZeros
  split_ifs
  · refine ascii_of_subset h ?_
    rw [String.toList_ofList]
    have hsub : t.toList.reverse.dropWhile (· = '0') ⊆ t.toList.reverse :=
      (List.dropWhile_sublist _).subset
    split
    · rename_i cs heq
      rw [heq] at hsub
      intro c hc
      exact List.mem_reverse.mp (hsub (List.mem_cons_of_mem _ (List.mem_reverse.mp hc)))
    · intro c hc
      exact List.mem_reverse.mp (hsub (List.mem_reverse.mp hc))
  · exact h

theorem ascii_sign (p : Prop) [Decidable p] : Ascii (if p then "-" else "") := by
  split_ifs <;> exact ascii_of_all (by decide)

theorem ascii_format3f (q : Rat) : Ascii (format3f q) :=
  ascii_append (ascii_sign _) (ascii_fixedPoint 3 _)

theorem ascii_significant (p : Prop) [Decidable p] (m : Nat) (e : Int) :
    Ascii (if -4 ≤ e ∧ e < 4 then
        (if p then "-" else "") ++ stripZeros (fixedPoint (3 - e).toNat m)
      else (if p then "-" else "") ++ stripZeros (fixedPoint 3 m) ++ exponentText e) := by
  have hdigits : ∀ places, Ascii ((if p then "-" else "") ++ stripZeros (fixedPoint places m)) :=
    fun places => ascii_append (ascii_sign p) (ascii_stripZeros (ascii_fixedPoint places m))
  by_cases he : -4 ≤ e ∧ e < 4
  · rw [if_pos he]
    exact hdigits _
  · rw [if_neg he]
    exact ascii_append (hdigits 3) (ascii_of_numeric (numeric_exponentText e))

theorem ascii_format4g (q : Rat) : Ascii (format4g q) := by
  unfold format4g
  by_cases hzero : q.num.natAbs = 0
  · rw [if_pos hzero]
    exact ascii_of_all (by decide)
  · rw [if_neg hzero]
    dsimp only
    exact ascii_significant (q.num < 0) _ _

/-- A number, a truth value or a null prints in ASCII. -/
theorem ascii_pyStr {v : Json} (h : v = .null ∨ v.num?.isSome = true) : Ascii v.pyStr := by
  cases v with
  | null => exact ascii_of_all (by decide)
  | bool b => cases b <;> exact ascii_of_all (by decide)
  | int n => exact ascii_int n
  | float x => exact ascii_of_numeric fun _ => numeric_reprNum
  | str t => rcases h with h | h <;> cases h
  | list xs => rcases h with h | h <;> cases h
  | dict kvs => rcases h with h | h <;> cases h

/-! ## Gates -/

def Bounded (r : PyFloat → Prop) (g : Gate) (key : String) : Prop :=
  ∀ bound, g.get? key = some bound → ∃ y, bound.num? = some y ∧ r y

/-- The gate holds of the means of the two sides, where its bounds are read by `above` and
`below`. -/
def Holds (above below : Gate → String → Rat → Prop) (g : Gate)
    (canary baseline : String → Option Rat) : Prop :=
  ∃ metric c, g.get? "metric" = some (.str metric) ∧ canary metric = some c ∧
    above g "max_abs" c ∧ below g "min_abs" c ∧
    ((g.contains "max_ratio" || g.contains "min_ratio") = true → ∃ b, baseline metric = some b ∧
      b ≠ 0 ∧ above g "max_ratio" (c / b) ∧ below g "min_ratio" (c / b))

def AtMost (g : Gate) (key : String) (x : Rat) : Prop := Bounded (fun y => (PyFloat.fin x).atMost y) g key

def AtLeast (g : Gate) (key : String) (x : Rat) : Prop := Bounded (fun y => y.atMost (.fin x)) g key

def Met : Gate → (String → Option Rat) → (String → Option Rat) → Prop := Holds AtMost AtLeast

/-- `x` is not above the bound: so it is of a bound that is no number. -/
def NotAbove (g : Gate) (key : String) (x : Rat) : Prop := Bounded (fun y => y.lt (.fin x) = false) g key

def NotBelow (g : Gate) (key : String) (x : Rat) : Prop :=
  Bounded (fun y => PyFloat.lt (.fin x) y = false) g key

def Passed : Gate → (String → Option Rat) → (String → Option Rat) → Prop := Holds NotAbove NotBelow

def boundKeys : List String := ["max_abs", "min_abs", "max_ratio", "min_ratio"]

structure Judgeable (g : Gate) : Prop where
  metric : ∃ metric, g.get? "metric" = some (.str metric)
  bounds : ∀ key ∈ boundKeys, Bounded (fun _ => True) g key

def Finding (g : Gate) (text : String) : Prop :=
  ∃ metric rest, g.get? "metric" = some metric ∧ text = metric.pyStr ++ rest ∧ Ascii rest ∧
    ((∃ name, metric = .str name) ∨ Ascii metric.pyStr)

theorem broken_max (g : Gate) (key : String) (x : Rat) :
    g.broken key ">" x = .ok none ↔ NotAbove g key x := by
  unfold Gate.broken NotAbove Bounded
  cases g.get? key with
  | none => exact iff_of_true rfl nofun
  | some bound =>
    cases hnum : bound.num? with
    | none => simp [hnum]
    | some y =>
      cases hlt : y.lt (.fin x) <;> simp [hnum, hlt, pure, Except.pure]

theorem broken_min (g : Gate) (key : String) (x : Rat) :
    g.broken key "<" x = .ok none ↔ NotBelow g key x := by
  unfold Gate.broken NotBelow Bounded
  cases g.get? key with
  | none => exact iff_of_true rfl nofun
  | some bound =>
    cases hnum : bound.num? with
    | none => simp [hnum]
    | some y =>
      cases hlt : PyFloat.lt (.fin x) y <;> simp [hnum, hlt, pure, Except.pure]

inductive Checked (g : Gate) (canary baseline : String → Option Rat) :
    Except PyErr (Bool × String) → Prop where
  | met (text : String) (holds : Passed g canary baseline) (about : Finding g text) :
      Checked g canary baseline (.ok (true, text))
  | unmet (text : String) (fails : ¬Passed g canary baseline) (about : Finding g text) :
      Checked g canary baseline (.ok (false, text))
  | raised (e : PyErr) (fails : ¬Passed g canary baseline) (odd : ¬Judgeable g) :
      Checked g canary baseline (.error e)

theorem not_judgeable_of_broken {g : Gate} {key op : String} {x : Rat} {e : PyErr}
    (hkey : key ∈ boundKeys)
    (h : g.broken key op x = .error e) : ¬Judgeable g := by
  intro hj
  unfold Gate.broken at h
  cases hb : g.get? key with
  | none => simp [hb, pure, Except.pure] at h
  | some bound =>
    obtain ⟨y, hn, -⟩ := hj.bounds key hkey bound hb
    simp [hb, hn, pure, Except.pure] at h

/-- The text of a bound is that of a number. -/
theorem broken_ascii {g : Gate} {key op : String} {x : Rat} {text : String}
    (h : g.broken key op x = .ok (some text)) : Ascii text := by
  unfold Gate.broken at h
  cases hb : g.get? key with
  | none => simp [hb, pure, Except.pure] at h
  | some bound =>
    cases hn : bound.num? with
    | none => simp [hb, hn] at h
    | some y =>
      simp only [hb, hn, pure, Except.pure, Except.ok.injEq] at h
      cases (Option.ite_none_right_eq_some.mp h).2
      exact ascii_pyStr (.inr (by rw [hn]; rfl))

theorem finding_append {g : Gate} {text more : String} (h : Finding g text) (hmore : Ascii more) :
    Finding g (text ++ more) := by
  obtain ⟨metric, rest, hm, rfl, hrest, hname⟩ := h
  exact ⟨metric, rest ++ more, hm, String.append_assoc .., ascii_append hrest hmore, hname⟩

theorem lookupMetric_other {value : Json} (h : ∀ metric, value ≠ .str metric) (metrics : Metrics) :
    lookupMetric metrics value = .ok none ∧ Ascii value.pyStr ∨
      ∃ e, lookupMetric metrics value = .error e := by
  cases value with
  | str metric => exact absurd rfl (h metric)
  | list xs => exact .inr ⟨_, rfl⟩
  | dict kvs => exact .inr ⟨_, rfl⟩
  | null => exact .inl ⟨rfl, ascii_pyStr (.inl rfl)⟩
  | bool b | int n | float x => exact .inl ⟨rfl, ascii_pyStr (.inr rfl)⟩

/-- A bound that the check comes to, where `rest` goes on when it holds. -/
theorem checked_bound {g : Gate} {canary baseline : String → Option Rat} {key op : String} {x : Rat}
    {H : Prop} (hkey : key ∈ boundKeys)
    (hiff : g.broken key op x = .ok none ↔ H) (hneed : Passed g canary baseline → H)
    {check : Except PyErr (Bool × String)}
    (hraises : ∀ e, g.broken key op x = .error e → check = .error e)
    (hbroken : ∀ bound, g.broken key op x = .ok (some bound) → Ascii bound →
      ∃ text, check = .ok (false, text) ∧ Finding g text)
    (hrest : H → Checked g canary baseline check) : Checked g canary baseline check := by
  cases hb : g.broken key op x with
  | error e =>
    rw [hraises e hb]
    refine .raised e (fun hmet => ?_) (not_judgeable_of_broken hkey hb)
    rw [hiff.mpr (hneed hmet)] at hb
    cases hb
  | ok v =>
    cases v with
    | none => exact hrest (hiff.mp hb)
    | some bound =>
      obtain ⟨text, hcheck, habout⟩ := hbroken bound hb (broken_ascii hb)
      rw [hcheck]
      refine .unmet _ (fun hmet => ?_) habout
      rw [hiff.mpr (hneed hmet)] at hb
      cases hb

/-- A gate without the name of a metric. -/
theorem checkGate_unnamed {g : Gate} (h : ∀ metric, g.get? "metric" ≠ some (.str metric))
    (cm bm : Metrics) : Checked g cm.get? bm.get? (checkGate g cm bm) := by
  have hunmet : ¬Passed g cm.get? bm.get? := fun ⟨metric, _, hm, _⟩ => h metric hm
  have hodd : ¬Judgeable g := fun hj => hj.metric.elim h
  unfold checkGate
  cases hm : g.get? "metric" with
  | none => exact .raised _ hunmet hodd
  | some value =>
    have hother : ∀ metric, value ≠ .str metric := fun metric hv => h metric (hv ▸ hm)
    simp only [bind, Except.bind, pure, Except.pure]
    rcases lookupMetric_other hother cm with ⟨hc, hascii⟩ | ⟨e, hc⟩
    · rcases lookupMetric_other hother bm with ⟨hb, -⟩ | ⟨e, hb⟩
      · rw [hc, hb]
        have habout : Finding g value.pyStr :=
          ⟨value, "", hm, (String.append_empty ..).symm, ascii_of_all (by decide), .inr hascii⟩
        exact .unmet _ hunmet (finding_append habout (ascii_of_all (by decide)))
      · rw [hc, hb]
        exact .raised e hunmet hodd
    · rw [hc]
      exact .raised e hunmet hodd

section Named

variable {g : Gate} {metric : String} {cm bm : Metrics} {c : Rat}

theorem finding_named (hm : g.get? "metric" = some (.str metric)) {text : String}
    (htext : Ascii text) : Finding g ((Json.str metric).pyStr ++ text) :=
  ⟨_, text, hm, rfl, htext, .inl ⟨metric, rfl⟩⟩

/-- What the check writes of a bound that is broken, or of one that holds. -/
theorem finding_bound (hm : g.get? "metric" = some (.str metric)) {before number after bound : String}
    (hbefore : Ascii before) (hnumber : Ascii number) (hafter : Ascii after) (hbound : Ascii bound) :
    Finding g ((Json.str metric).pyStr ++ before ++ number ++ after ++ bound) :=
  finding_append (finding_append (finding_append (finding_named hm hbefore) hnumber) hafter) hbound

theorem passed_iff (hm : g.get? "metric" = some (.str metric)) (hc : cm.get? metric = some c) :
    Passed g cm.get? bm.get? ↔ NotAbove g "max_abs" c ∧ NotBelow g "min_abs" c ∧
      ((g.contains "max_ratio" || g.contains "min_ratio") = true → ∃ b, bm.get? metric = some b ∧
        b ≠ 0 ∧ NotAbove g "max_ratio" (c / b) ∧ NotBelow g "min_ratio" (c / b)) := by
  simp [Passed, Holds, hm, hc]

/-- The absolute bounds hold, and no ratio is asked for. -/
theorem checkGate_absolute (hm : g.get? "metric" = some (.str metric)) (hc : cm.get? metric = some c)
    (hmax : NotAbove g "max_abs" c) (hmin : NotBelow g "min_abs" c)
    (hratio : ¬(g.contains "max_ratio" || g.contains "min_ratio") = true) :
    Checked g cm.get? bm.get? (checkGate g cm bm) := by
  unfold checkGate
  rw [hm]
  simp only [bind, Except.bind, pure, Except.pure, lookupMetric]
  rw [hc]
  dsimp only
  rw [(broken_max ..).mpr hmax, (broken_min ..).mpr hmin]
  dsimp only
  rw [if_neg hratio]
  refine .met _ ((passed_iff hm hc).mpr ⟨hmax, hmin, fun h => absurd h hratio⟩)
    (finding_append (finding_bound hm (ascii_of_all (by decide)) (ascii_format4g c)
      (ascii_of_all (by decide)) ?_) (ascii_of_all (by decide)))
  cases bm.get? metric with
  | none => exact ascii_of_all (by decide)
  | some b => exact ascii_format4g b

/-- The absolute bounds hold, and a ratio is asked for. -/
theorem checkGate_ratio (hm : g.get? "metric" = some (.str metric)) (hc : cm.get? metric = some c)
    (hmax : NotAbove g "max_abs" c) (hmin : NotBelow g "min_abs" c)
    (hratio : (g.contains "max_ratio" || g.contains "min_ratio") = true) :
    Checked g cm.get? bm.get? (checkGate g cm bm) := by
  have hpassed : Passed g cm.get? bm.get? ↔ ∃ b, bm.get? metric = some b ∧
      b ≠ 0 ∧ NotAbove g "max_ratio" (c / b) ∧ NotBelow g "min_ratio" (c / b) := by
    rw [passed_iff hm hc, and_iff_right hmax, and_iff_right hmin, forall_prop_of_true hratio]
  unfold checkGate
  rw [hm]
  simp only [bind, Except.bind, pure, Except.pure, lookupMetric]
  rw [hc]
  dsimp only
  rw [(broken_max ..).mpr hmax, (broken_min ..).mpr hmin]
  dsimp only
  rw [if_pos hratio]
  by_cases hzero : (bm.get? metric).getD 0 = 0
  · rw [if_pos hzero]
    refine .unmet _ (fun h => ?_) (finding_named hm (ascii_of_all (by decide)))
    obtain ⟨b, hb, hne, -⟩ := hpassed.mp h
    rw [hb] at hzero
    exact hne hzero
  · rw [if_neg hzero]
    obtain ⟨b, hb⟩ : ∃ b, bm.get? metric = some b := by
      refine Option.isSome_iff_exists.mp (Option.isSome_iff_ne_none.mpr fun hn => hzero ?_)
      rw [hn]
      rfl
    rw [hb] at hpassed hzero ⊢
    simp only [Option.some.injEq, exists_eq_left', Option.getD_some] at hpassed hzero ⊢
    refine checked_bound (by decide) (broken_max g "max_ratio" (c / b)) (fun h => (hpassed.mp h).2.1)
      (fun e he => by rw [he])
      (fun bound hbound hascii => ⟨_, by rw [hbound], finding_bound hm (ascii_of_all (by decide))
        (ascii_format3f _) (ascii_of_all (by decide)) hascii⟩) fun hmaxr => ?_
    refine checked_bound (by decide) (broken_min g "min_ratio" (c / b)) (fun h => (hpassed.mp h).2.2)
      (fun e he => by rw [(broken_max ..).mpr hmaxr, he])
      (fun bound hbound hascii => ⟨_, by rw [(broken_max ..).mpr hmaxr, hbound],
        finding_bound hm (ascii_of_all (by decide)) (ascii_format3f _) (ascii_of_all (by decide))
          hascii⟩) fun hminr => ?_
    rw [(broken_max ..).mpr hmaxr, (broken_min ..).mpr hminr]
    exact .met _ (hpassed.mpr ⟨hzero, hmaxr, hminr⟩) (finding_append
      (finding_bound hm (ascii_of_all (by decide)) (ascii_format4g c) (ascii_of_all (by decide))
        (ascii_format4g b)) (ascii_of_all (by decide)))

theorem checkGate_named (hm : g.get? "metric" = some (.str metric)) :
    Checked g cm.get? bm.get? (checkGate g cm bm) := by
  cases hc : cm.get? metric with
  | none =>
    unfold checkGate
    rw [hm]
    simp only [bind, Except.bind, pure, Except.pure, lookupMetric]
    rw [hc]
    refine .unmet _ ?_ (finding_named hm (ascii_of_all (by decide)))
    rintro ⟨other, c, hother, h, -⟩
    cases hm.symm.trans hother
    cases hc.symm.trans h
  | some c =>
    refine checked_bound (by decide) (broken_max g "max_abs" c) (fun h => ((passed_iff hm hc).mp h).1)
      (fun e he => ?_) (fun bound hbound hascii => ?_) fun hmax => ?_
    · simp only [checkGate, hm, lookupMetric, hc, he, bind, Except.bind, pure, Except.pure]
    · simp only [checkGate, hm, lookupMetric, hc, hbound, bind, Except.bind, pure, Except.pure]
      exact ⟨_, rfl, finding_bound hm (ascii_of_all (by decide)) (ascii_format4g c)
        (ascii_of_all (by decide)) hascii⟩
    refine checked_bound (by decide) (broken_min g "min_abs" c)
      (fun h => ((passed_iff hm hc).mp h).2.1)
      (fun e he => ?_) (fun bound hbound hascii => ?_) fun hmin => ?_
    · simp only [checkGate, hm, lookupMetric, hc, (broken_max ..).mpr hmax, he, bind, Except.bind,
        pure, Except.pure]
    · simp only [checkGate, hm, lookupMetric, hc, (broken_max ..).mpr hmax, hbound, bind, Except.bind,
        pure, Except.pure]
      exact ⟨_, rfl, finding_bound hm (ascii_of_all (by decide)) (ascii_format4g c)
        (ascii_of_all (by decide)) hascii⟩
    by_cases hratio : (g.contains "max_ratio" || g.contains "min_ratio") = true
    · exact checkGate_ratio hm hc hmax hmin hratio
    · exact checkGate_absolute hm hc hmax hmin hratio

end Named

theorem checkGate_checked (g : Gate) (cm bm : Metrics) :
    Checked g cm.get? bm.get? (checkGate g cm bm) := by
  by_cases h : ∃ metric, g.get? "metric" = some (.str metric)
  · obtain ⟨metric, hm⟩ := h
    exact checkGate_named hm
  · exact checkGate_unnamed (fun metric hm => h ⟨metric, hm⟩) cm bm

theorem checks_checked (gates : List Gate) (cm bm : Metrics) :
    (∃ checks, (gates.mapM fun g => checkGate g cm bm) = .ok checks ∧
      List.Forall₂ (fun g check => Checked g cm.get? bm.get? (.ok check)) gates checks) ∨
    ∃ e, (gates.mapM fun g => checkGate g cm bm) = .error e ∧
      ∃ g ∈ gates, ¬Passed g cm.get? bm.get? ∧ ¬Judgeable g := by
  induction gates with
  | nil => exact .inl ⟨[], rfl, .nil⟩
  | cons g gates ih =>
    rw [List.mapM_cons]
    have hg := checkGate_checked g cm bm
    cases hc : checkGate g cm bm with
    | error e =>
      rw [hc] at hg
      cases hg with
      | raised e fails odd => exact .inr ⟨e, rfl, g, List.mem_cons_self, fails, odd⟩
    | ok check =>
      rw [hc] at hg
      rcases ih with ⟨checks, hchecks, hall⟩ | ⟨e, he, g', hmem, hg'⟩
      · rw [hchecks]
        exact .inl ⟨check :: checks, rfl, .cons hg hall⟩
      · rw [he]
        exact .inr ⟨e, rfl, g', List.mem_cons_of_mem g hmem, hg'⟩

/-- The verdict on the gates, unless a check raises. -/
theorem evaluate_cases (gates : List Gate) (cm bm : Metrics) :
    (∃ passed findings, evaluate gates cm bm = .ok (passed, findings) ∧
      (passed = true ↔ ∀ g ∈ gates, Passed g cm.get? bm.get?) ∧
      List.Forall₂ Finding gates findings) ∨
    ∃ e, evaluate gates cm bm = .error e ∧ ∃ g ∈ gates, ¬Passed g cm.get? bm.get? ∧ ¬Judgeable g := by
  rcases checks_checked gates cm bm with ⟨checks, hchecks, hall⟩ | ⟨e, he, hodd⟩
  · refine .inl ⟨checks.all (·.1), checks.map (·.2), by rw [evaluate, hchecks]; rfl, ?_, ?_⟩
    · clear hchecks
      induction hall with
      | nil => simp
      | @cons g check gates checks hg hall ih =>
        rw [List.all_cons, Bool.and_eq_true, ih, List.forall_mem_cons]
        refine and_congr_left' ?_
        cases hg with
        | met text holds about => exact iff_of_true rfl holds
        | unmet text fails about => exact iff_of_false Bool.false_ne_true fails
    · rw [List.forall₂_map_right_iff]
      refine hall.imp fun g check hg => ?_
      cases hg with
      | met text holds about => exact about
      | unmet text fails about => exact about
  · exact .inr ⟨e, by rw [evaluate, he]; rfl, hodd⟩

theorem evaluate_findings {gates : List Gate} {cm bm : Metrics} {passed : Bool}
    {findings : List String} (h : evaluate gates cm bm = .ok (passed, findings)) :
    List.Forall₂ Finding gates findings := by
  rcases evaluate_cases gates cm bm with ⟨passed', findings', he, -, hfindings⟩ | ⟨e, he, -⟩
  · rw [h] at he
    cases he
    exact hfindings
  · rw [h] at he
    cases he

/-! ## How a decision is written down -/

/-- What UTF-8 makes of a text. Lean has no lone surrogates: some of its characters stand for
those that a text of Python can hold. -/
structure Coding where
  surrogate : Char → Bool
  ascii : ∀ c, c.val < 128 → surrogate c = false
  /-- the text of the `UnicodeEncodeError` -/
  message : String → String

namespace Coding

variable (E : Coding)

def encodes (t : String) : Bool := t.toList.all fun c => !E.surrogate c

/-- `close_canary`: the decision is bound before anything is written. -/
def close : Canary.Closing := fun canaryId status decision =>
  if E.encodes decision then Store.closeCanary canaryId status decision
  else throw (.valueError (E.message decision))

def Writes (g : Gate) : Prop := ∀ name, g.get? "metric" = some (.str name) → E.encodes name = true

theorem encodes_append (s t : String) : E.encodes (s ++ t) = (E.encodes s && E.encodes t) := by
  rw [encodes, String.toList_append, List.all_append, encodes, encodes]

theorem encodes_ascii {t : String} (h : Ascii t) : E.encodes t = true := by
  refine List.all_eq_true.mpr fun c hc => ?_
  rw [E.ascii c (h c hc)]
  rfl

theorem encodes_join {sep : String} (hsep : Ascii sep) (ts : List String) :
    E.encodes (join sep ts) = ts.all E.encodes := by
  induction ts with
  | nil => rfl
  | cons t ts ih =>
    cases ts with
    | nil => rw [join, List.all_cons, List.all_nil, Bool.and_true]
    | cons u us =>
      have hjoin : join sep (t :: u :: us) = t ++ sep ++ join sep (u :: us) := rfl
      rw [hjoin, encodes_append, encodes_append, E.encodes_ascii hsep, Bool.and_true, ih]
      rfl

theorem finding_encodes {g : Gate} {text : String} (h : Finding g text) :
    E.encodes text = true ↔ E.Writes g := by
  obtain ⟨metric, rest, hm, rfl, hrest, hname⟩ := h
  rw [encodes_append, E.encodes_ascii hrest, Bool.and_true, Writes, hm]
  rcases hname with ⟨name, rfl⟩ | hascii
  · simp only [Option.some.injEq, Json.str.injEq, forall_eq']
    rfl
  · refine iff_of_true (E.encodes_ascii hascii) ?_
    rintro name ⟨⟩
    exact E.encodes_ascii hascii

/-- A decision can be written exactly when the names of the metrics can. -/
theorem decision_encodes {gates : List Gate} {findings : List String}
    (h : List.Forall₂ Finding gates findings) :
    E.encodes (join "\n" findings) = true ↔ ∀ g ∈ gates, E.Writes g := by
  rw [E.encodes_join (ascii_of_all (by decide))]
  induction h with
  | nil => simp
  | cons hfirst _ ih =>
    rw [List.all_cons, Bool.and_eq_true, E.finding_encodes hfirst, ih, List.forall_mem_cons]

end Coding

/-- The code points of the last plane stand for the surrogates. -/
def utf8 : Coding where
  surrogate c := decide (0x10F800 ≤ c.val)
  ascii c h := decide_eq_false fun hle => absurd (UInt32.lt_of_le_of_lt hle h) (by decide)
  message _ := "'utf-8' codec can't encode: surrogates not allowed"

end Trimtab.GateChecks
