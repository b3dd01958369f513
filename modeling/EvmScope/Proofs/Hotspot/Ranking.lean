import EvmScope.Proofs.Hotspot.Attribution
import EvmScope.Proofs.Session.Analysis

set_option autoImplicit false

/-! # One ranking everywhere

A report ranks its hotspots by falling gas, a tour by severity first, and a selection keeps the grave
ones. All three agree: a severity never falls as gas rises, even if the thresholds are out of order,
so the ranking by gas is one by severity too. A tour then leaves the hotspots of a report where they
are, and what a selection keeps of them stands in front. -/

namespace EvmScope

/-! ## Severity and gas -/

/-- More gas is never less grave, whatever the order of the thresholds. -/
theorem Severity.rank_ofGas_le (t : Thresholds) (less more : Int) (hle : less ≤ more) :
    (ofGas t more).rank ≤ (ofGas t less).rank := by
  unfold ofGas
  -- the first threshold above `more` is above `less` too
  by_cases hwarning : more < t.warning
  · have hless : less < t.warning := by omega
    exact Nat.le_of_eq (by rw [if_pos hwarning, if_pos hless])
  · rw [if_neg hwarning]
    by_cases hhigh : more < t.high
    · have hless : less < t.high := by omega
      rw [if_pos hhigh, if_pos hless]
      by_cases hlight : less < t.warning
      · simp [hlight, rank]
      · simp [hlight]
    · rw [if_neg hhigh]
      by_cases hcritical : more < t.critical
      · have hless : less < t.critical := by omega
        rw [if_pos hcritical, if_pos hless]
        by_cases hlight : less < t.warning
        · simp [hlight, rank]
        · by_cases hmiddle : less < t.high
          · simp [hlight, hmiddle, rank]
          · simp [hlight, hmiddle]
      · rw [if_neg hcritical]
        exact Nat.zero_le _

/-! ## Three readings of a list -/

/-- What passes a test that, once failed, is failed to the end, stands in front. -/
theorem filter_isPrefix_of_pairwise {α : Type} {l : List α} {r : α → α → Prop} (p : α → Bool)
    (hpairwise : l.Pairwise r) (hback : ∀ a b, r a b → p b = true → p a = true) :
    l.filter p <+: l := by
  induction hpairwise with
  | nil => exact List.prefix_rfl
  | @cons a rest hhead _ ih =>
    by_cases hp : p a = true
    · rw [List.filter_cons_of_pos hp, List.cons_prefix_cons]
      exact ⟨rfl, ih⟩
    · -- nothing behind the first failure passes
      have hnone : rest.filter p = [] := by
        rw [List.filter_eq_nil_iff]
        intro b hb hpb
        exact hp (hback a b (hhead b hb) hpb)
      rw [List.filter_cons_of_neg hp, hnone]
      exact List.nil_prefix

/-- A tour leaves hotspots that fall in gas and in severity where they are. -/
theorem Tour.order_of_pairwise {hotspots : List Hotspot}
    (hfall : hotspots.Pairwise (fun a b => b.gas ≤ a.gas ∧ a.severity.rank ≤ b.severity.rank)) :
    order hotspots = hotspots := by
  apply List.mergeSort_of_pairwise
  refine hfall.imp ?_
  rintro a b ⟨hgas, hrank⟩
  unfold ranksBefore
  rcases Nat.lt_or_eq_of_le hrank with hlt | heq
  · simp [hlt]
  · simp [heq, hgas]

/-- A fresh tour has the hotspots in the order of a tour. -/
theorem Session.hotspots_freshTour (tour : Tour) (hotspots : List Hotspot) :
    (freshTour tour hotspots).state.hotspots = Tour.order hotspots := by
  unfold freshTour
  by_cases hempty : hotspots.isEmpty = true
  · rw [List.isEmpty_iff] at hempty
    subst hempty
    simp [Tour.hotspots, Tour.order]
  · rw [if_neg hempty]
    have hlength : 0 < (Tour.order hotspots).length := by
      rw [Tour.order, List.length_mergeSort]
      exact List.length_pos_iff.2 (fun hnil => hempty (List.isEmpty_iff.2 hnil))
    unfold Tour.start
    rw [dif_pos hlength]
    rfl

/-- An analysis that is made leaves a tour over its hotspots. -/
theorem Session.hotspots_of_analyze_ok {η : Type} {s : Session η} {contract : Contract}
    {source : String} {trace : Json} {creation : Bool} {report : Report}
    (hresult : (s.analyze contract source trace creation).result = .ok report) :
    (s.analyze contract source trace creation).state.tour.hotspots
      = Tour.order report.hotspots := by
  rw [(state_of_analyze_ok hresult).2]
  exact hotspots_freshTour s.tour report.hotspots

namespace Report

/-- The readers of a report agree with its ranking. -/
structure RankingsAgree (report : Report) : Prop where
  /-- A tour visits the hotspots as they are ranked. -/
  order_eq : Tour.order report.hotspots = report.hotspots
  /-- The tour that a session starts over the report has its hotspots. -/
  tour_eq : ∀ (η : Type) (s : Session η) (contract : Contract) (source : String) (trace : Json)
    (creation : Bool), (s.analyze contract source trace creation).result = .ok report →
    (s.analyze contract source trace creation).state.tour.hotspots = report.hotspots
  /-- What is kept of the hotspots stands in front of the ranking. -/
  selection_isPrefix : ∀ (least : Json) (kept : List Hotspot),
    selection report.hotspots least = .ok kept → kept <+: report.hotspots
  /-- A selection is made for no name and for the name of every severity. -/
  exists_selection : ∀ least? : Option Severity,
    ∃ kept, selection report.hotspots (Json.ofOption (fun s => .str s.name) least?) = .ok kept


variable {settings : Settings} {code : Code} {map : SourceMap} {source : String}
  {trace? : Option ParsedTrace} {file? : Option Int} {report : Report}

/-- The hotspots of a report fall in gas, and each has the severity of its gas. -/
theorem pairwise_of_analyze (hreport : analyze settings code map source trace? file? = .ok report) :
    report.hotspots.Pairwise (fun a b => b.gas ≤ a.gas ∧ a.severity.rank ≤ b.severity.rank) := by
  obtain ⟨hranked, -, -⟩ := analyze_ok hreport
  have hseverity : ∀ h ∈ report.hotspots,
      h.severity = Severity.ofGas settings.thresholds h.gas := by
    intro h hh
    obtain ⟨group, -, hhotspot⟩ := exists_group_of_mem_ranked hranked h hh
    obtain ⟨-, -, -, -, hgrave, -⟩ := hotspotOf_ok hhotspot
    exact hgrave
  refine (ranked_pairwise hranked).imp_of_mem ?_
  intro a b ha hb hranks
  rw [Hotspot.ranksBefore_iff] at hranks
  have hgas : b.gas ≤ a.gas := by omega
  rw [hseverity a ha, hseverity b hb]
  exact ⟨hgas, Severity.rank_ofGas_le settings.thresholds b.gas a.gas hgas⟩

/-- **One ranking everywhere.** The ranking of every report that is made is the one of a tour over
    it, and every selection of its hotspots is a part in front of it. -/
theorem rankings_agree (settings : Settings) (code : Code) (map : SourceMap) (source : String)
    (trace? : Option ParsedTrace) (file? : Option Int) (report : Report)
    (hreport : analyze settings code map source trace? file? = .ok report) :
    RankingsAgree report := by
  have hfall := pairwise_of_analyze hreport
  have horder := Tour.order_of_pairwise hfall
  refine ⟨horder, ?_, ?_, ?_⟩
  · intro η s contract source trace creation hresult
    rw [Session.hotspots_of_analyze_ok hresult, horder]
  · intro least kept hkept
    unfold selection at hkept
    by_cases hpresent : least.isPresent = true
    · rw [hpresent, Bool.not_true, if_neg Bool.false_ne_true] at hkept
      cases hname : least.str?.bind Severity.ofName? with
      | none =>
        rw [hname] at hkept
        cases hkept
      | some severity =>
        rw [hname] at hkept
        cases hkept
        refine filter_isPrefix_of_pairwise _ hfall ?_
        intro a b hab hb
        rw [decide_eq_true_eq] at hb ⊢
        exact Nat.le_trans hab.2 hb
    · rw [if_pos (by simpa using hpresent)] at hkept
      cases hkept
      exact List.prefix_rfl
  · intro least?
    cases least? with
    | none => exact ⟨report.hotspots, rfl⟩
    | some severity =>
      refine ⟨Hotspot.atLeast severity report.hotspots, ?_⟩
      cases severity <;> rfl

theorem rankings_agree_thresholds_out_of_order :
    ∃ report, analyze { Settings.standard with thresholds := ⟨9, 4, 6⟩ } (.text "0x600160020155")
        (SourceMap.ofText (some "4:1:0;8:1:0;4:5:0;0:9:0")) "a = 1 + 2;" none none = .ok report
      ∧ RankingsAgree report := by
  refine Exists.imp
    (fun report hreport => ⟨hreport, rankings_agree _ _ _ _ _ _ report hreport⟩) ?_
  rw [exists_report_iff]
  decide +kernel

end Report

end EvmScope
