import EvmScope.Session

set_option autoImplicit false

/-! # What an analysis does to a session

An analysis that cannot be made leaves the session as it is and tells nothing. One that is made keeps its
report and puts a fresh tour in the place of the one before; nothing else of the session changes. -/

namespace EvmScope.Session

variable {η : Type}

/-- The report on a contract under the settings of a session. -/
def reportOf (s : Session η) (contract : Contract) (source : String) (trace : Json)
    (creation : Bool) : Except Fault Report :=
  Report.analyze s.settings
    (.text (if creation then contract.creationCode else contract.runtimeCode))
    (SourceMap.ofText (some (if creation then contract.creationMap else contract.runtimeMap)))
    source (Report.traceOf s.settings trace) (Contract.fileFilter contract.fileIndex)

/-- A session that has made a report. -/
def reported (s : Session η) (report : Report) : Session η :=
  { s with tour := (freshTour s.tour report.hotspots).state, lastReport := some report }

/-- How an analysis ends. -/
inductive Analyzed (s : Session η) (made : Except Fault Report) : Move η (Except Fault Report) → Prop
  | failed (fault : Fault) (hmade : made = .error fault) :
    Analyzed s made ⟨s, [], .error fault⟩
  | done (report : Report) (hmade : made = .ok report) :
    Analyzed s made
      ⟨s.reported report, (freshTour s.tour report.hotspots).events.map .tour, .ok report⟩

theorem analyze_ends (s : Session η) (contract : Contract) (source : String) (trace : Json)
    (creation : Bool) :
    Analyzed s (s.reportOf contract source trace creation)
      (s.analyze contract source trace creation) := by
  unfold analyze
  dsimp only
  cases hmade : Report.analyze s.settings
      (.text (if creation then contract.creationCode else contract.runtimeCode))
      (SourceMap.ofText (some (if creation then contract.creationMap else contract.runtimeMap)))
      source (Report.traceOf s.settings trace) (Contract.fileFilter contract.fileIndex) with
  | error fault => exact .failed fault hmade
  | ok report => exact .done report hmade

theorem result_analyze (s : Session η) (contract : Contract) (source : String) (trace : Json)
    (creation : Bool) :
    (s.analyze contract source trace creation).result
      = s.reportOf contract source trace creation := by
  have hends := s.analyze_ends contract source trace creation
  generalize s.analyze contract source trace creation = move at hends
  cases hends with
  | failed fault hmade => exact hmade.symm
  | done report hmade => exact hmade.symm

section Outcomes

variable {s : Session η} {contract : Contract} {source : String} {trace : Json} {creation : Bool}

theorem state_of_analyze_ok {report : Report}
    (hresult : (s.analyze contract source trace creation).result = .ok report) :
    s.reportOf contract source trace creation = .ok report
      ∧ (s.analyze contract source trace creation).state = s.reported report := by
  have hends := s.analyze_ends contract source trace creation
  generalize s.analyze contract source trace creation = move at hends hresult
  cases hends with
  | failed fault hmade => cases hresult
  | done made hmade =>
    cases hresult
    exact ⟨hmade, rfl⟩

theorem unchanged_of_analyze_error {fault : Fault}
    (hresult : (s.analyze contract source trace creation).result = .error fault) :
    (s.analyze contract source trace creation).state = s
      ∧ (s.analyze contract source trace creation).events = [] := by
  have hends := s.analyze_ends contract source trace creation
  generalize s.analyze contract source trace creation = move at hends hresult
  cases hends with
  | failed found hmade => exact ⟨rfl, rfl⟩
  | done report hmade => cases hresult

end Outcomes

end EvmScope.Session
