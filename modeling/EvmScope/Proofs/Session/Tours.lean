import EvmScope.Proofs.Hotspot.Ranking
import EvmScope.Proofs.Tour

set_option autoImplicit false

/-! # Every tour that a session starts is ended once

A session has one tour at a time, and an analysis puts another one in its place. To say what becomes of
the tours that were replaced, `TourRoll` keeps them: it follows every tour through the steps that are taken
on it, a step being a call on the tour under way or its replacement by an idle one. The session shows the
current tour of the roll and tells just what the roll is told (`TourLog.Settled`).

On the roll the account is a matter of single steps. A call that makes an idle tour active is one more
tour to be ended, a call that makes it idle tells of one end, and all others change neither. A replacement
would break the account for a tour under way; but a session ends the tour before it replaces it. -/

namespace EvmScope

theorem Tour.isActive_iff_hotspots_ne_nil (tour : Tour) :
    tour.isActive = true ↔ tour.hotspots ≠ [] := by
  cases tour with
  | idle => simp [isActive, hotspots]
  | visiting ranking place =>
    have hranking : ranking ≠ [] := List.length_pos_iff.1 (Nat.zero_lt_of_lt place.isLt)
    simp [isActive, hotspots, hranking]

/-- A fresh tour over hotspots stands at the first one. -/
theorem Session.index_freshTour (tour : Tour) {hotspots : List Hotspot} (hne : hotspots ≠ []) :
    (freshTour tour hotspots).state.index = 0 := by
  have hempty : ¬ hotspots.isEmpty = true := fun hnil => hne (List.isEmpty_iff.1 hnil)
  unfold freshTour
  rw [if_neg hempty]
  exact ((TourCall.start hotspots).obeys .idle).index_eq hne

/-- The fresh tour over a report visits the hotspots of the report from the first one on. -/
theorem Session.freshTour_of_reportOf {η : Type} {s : Session η} {contract : Contract}
    {source : String} {trace : Json} {creation : Bool} {report : Report} (tour : Tour)
    (hmade : s.reportOf contract source trace creation = .ok report) :
    ((freshTour tour report.hotspots).state.isActive = true ↔ report.hotspots ≠ [])
      ∧ (report.hotspots ≠ [] → (freshTour tour report.hotspots).state.index = 0)
      ∧ (freshTour tour report.hotspots).state.hotspots = report.hotspots := by
  have hhotspots : (freshTour tour report.hotspots).state.hotspots = report.hotspots :=
    (hotspots_freshTour tour report.hotspots).trans
      (Tour.order_of_pairwise (Report.pairwise_of_analyze hmade))
  refine ⟨?_, index_freshTour tour, hhotspots⟩
  rw [Tour.isActive_iff_hotspots_ne_nil, hhotspots]

/-! ## Following all tours -/

/-- A step of the tours of a session. -/
inductive TourAction
  /-- A call on the current tour. -/
  | call (call : TourCall)
  /-- A new tour takes the place of the current one. -/
  | replace

/-- All tours of a session. -/
structure TourRoll where
  current : Tour
  /-- The tours that were replaced, as they were left, the last one first. -/
  replaced : List Tour
  /-- How often a call made an idle tour active. -/
  activated : Nat
  /-- All events that the tours told. -/
  told : List TourEvent

namespace TourRoll

/-- The roll of a session with a tour that was not started yet. -/
def first : TourRoll := ⟨.idle, [], 0, []⟩

/-- Take one step. -/
def step (roll : TourRoll) : TourAction → TourRoll
  | .call call =>
    let move := call.perform roll.current
    { roll with
      current := move.state
      activated :=
        if !roll.current.isActive && move.state.isActive then roll.activated + 1 else roll.activated
      told := roll.told ++ move.events }
  | .replace => { roll with current := .idle, replaced := roll.current :: roll.replaced }

/-- Take steps one after the other. -/
def run (roll : TourRoll) (actions : List TourAction) : TourRoll :=
  actions.foldl step roll

/-- The account of a roll: each tour that was activated was ended once, but for the current one if it is
    active, and no tour was replaced that is. -/
structure Balanced (roll : TourRoll) : Prop where
  activated_eq : roll.activated
    = roll.told.count .ended + (if roll.current.isActive = true then 1 else 0)
  replaced_inactive : ∀ tour ∈ roll.replaced, tour.isActive = false

theorem balanced_first : Balanced first :=
  ⟨rfl, fun _ htour => absurd htour List.not_mem_nil⟩

theorem Balanced.call {roll : TourRoll} (hroll : Balanced roll) (call : TourCall) :
    Balanced (roll.step (.call call)) := by
  obtain ⟨hactivated, hreplaced⟩ := hroll
  have hended := (call.obeys roll.current).ended
  refine ⟨?_, hreplaced⟩
  simp only [step, List.count_append, hended, hactivated]
  cases roll.current.isActive <;> cases (call.perform roll.current).state.isActive <;> simp

/-- Only an idle tour can be replaced. -/
theorem Balanced.replace {roll : TourRoll} (hroll : Balanced roll)
    (hidle : roll.current.isActive = false) : Balanced (roll.step .replace) := by
  obtain ⟨hactivated, hreplaced⟩ := hroll
  constructor
  · simp only [step, hactivated, hidle]
    rfl
  · intro tour htour
    rcases List.mem_cons.1 htour with rfl | hbefore
    · exact hidle
    · exact hreplaced tour hbefore

theorem isActive_finish (tour : Tour) : (TourCall.finish.perform tour).state.isActive = false := by
  cases tour <;> rfl

/-- The steps of a fresh tour over hotspots: the current tour is ended and replaced, and the new one is
    started if there is something to visit. -/
def renewal (hotspots : List Hotspot) : List TourAction :=
  if hotspots.isEmpty then [.call .finish, .replace]
  else [.call .finish, .replace, .call (.start hotspots)]

theorem Balanced.renewal {roll : TourRoll} (hroll : Balanced roll) (hotspots : List Hotspot) :
    Balanced (roll.run (renewal hotspots)) := by
  have hreplaced := (hroll.call .finish).replace (isActive_finish roll.current)
  unfold TourRoll.renewal
  split
  · exact hreplaced
  · exact hreplaced.call (.start hotspots)

/-- These steps make the fresh tour of a session, and nothing else is told. -/
theorem run_renewal (roll : TourRoll) (hotspots : List Hotspot) :
    (roll.run (renewal hotspots)).current = (Session.freshTour roll.current hotspots).state
      ∧ (roll.run (renewal hotspots)).told
        = roll.told ++ (Session.freshTour roll.current hotspots).events := by
  unfold renewal Session.freshTour
  split
  · exact ⟨rfl, rfl⟩
  · exact ⟨rfl, List.append_assoc _ _ _⟩

end TourRoll

/-! ## Following a session -/

/-- What is done to a session that looks at gas. -/
inductive GasCall
  | analyze (contract : Contract) (source : String) (trace : Json) (creation : Bool)
  /-- A call on the tour of the session. -/
  | navigate (call : TourCall)
  | close

/-- Whether an event tells of the end of a tour. -/
def SessionEvent.isTourEnd : SessionEvent → Bool
  | tour .ended => true
  | _ => false

namespace GasCall

variable {η : Type}

/-- Carry out a call. Its result is not kept. -/
def perform (s : Session η) : GasCall → Session.Move η Unit
  | analyze contract source trace creation =>
    (s.analyze contract source trace creation).mapResult (fun _ => ())
  | navigate call => (s.onTour (call.perform s.tour)).mapResult (fun _ => ())
  | close => s.close

/-- What a call does to the tours of a session. -/
def actions (s : Session η) : GasCall → List TourAction
  | analyze contract source trace creation =>
    match (s.analyze contract source trace creation).result with
    | .error _ => []
    | .ok report => TourRoll.renewal report.hotspots
  | navigate call => [.call call]
  | close => [.call .finish]

/-- The steps of a call lead to the tour that the session has after it, and all that the session tells is
    what they tell. -/
theorem run_actions (s : Session η) (call : GasCall) {roll : TourRoll}
    (hcurrent : roll.current = s.tour) :
    (roll.run (call.actions s)).current = (call.perform s).state.tour
      ∧ ∃ told, (roll.run (call.actions s)).told = roll.told ++ told
        ∧ (call.perform s).events = told.map .tour := by
  obtain ⟨current, replaced, activated, before⟩ := roll
  obtain rfl : current = s.tour := hcurrent
  cases call with
  | analyze contract source trace creation =>
    have hends := s.analyze_ends contract source trace creation
    simp only [actions, perform]
    generalize s.analyze contract source trace creation = move at hends
    cases hends with
    | failed fault hmade => exact ⟨rfl, [], (List.append_nil _).symm, rfl⟩
    | done report hmade =>
      obtain ⟨htour, htold⟩ :=
        TourRoll.run_renewal ⟨s.tour, replaced, activated, before⟩ report.hotspots
      exact ⟨htour, _, htold, rfl⟩
  | navigate call => exact ⟨rfl, _, rfl, rfl⟩
  | close => exact ⟨rfl, _, rfl, rfl⟩

theorem balanced_actions (s : Session η) (call : GasCall) {roll : TourRoll}
    (hroll : roll.Balanced) : (roll.run (call.actions s)).Balanced := by
  cases call with
  | analyze contract source trace creation =>
    simp only [actions]
    cases (s.analyze contract source trace creation).result with
    | error fault => exact hroll
    | ok report => exact hroll.renewal report.hotspots
  | navigate call => exact hroll.call call
  | close => exact hroll.call .finish

end GasCall

/-! ## Many calls -/

/-- A session with all its tours and all the events that it fired. -/
structure TourLog (η : Type) where
  session : Session η
  roll : TourRoll
  fired : List SessionEvent

namespace TourLog

variable {η : Type}

/-- The log of a fresh session. -/
def first (settings : Settings) (hub : Hub η) : TourLog η :=
  ⟨Session.begin settings hub, TourRoll.first, []⟩

/-- Carry out a call. -/
def step (log : TourLog η) (call : GasCall) : TourLog η :=
  let move := call.perform log.session
  ⟨move.state, log.roll.run (call.actions log.session), log.fired ++ move.events⟩

/-- The log of a fresh session after some calls, failed ones included. -/
def afterCalls (settings : Settings) (hub : Hub η) (calls : List GasCall) : TourLog η :=
  calls.foldl step (first settings hub)

/-- The roll of a log is that of its session, and its account is even. -/
structure Settled (log : TourLog η) : Prop where
  current_eq : log.roll.current = log.session.tour
  fired_eq : log.fired = log.roll.told.map .tour
  balanced : log.roll.Balanced

theorem settled_first (settings : Settings) (hub : Hub η) : (first settings hub).Settled :=
  ⟨rfl, rfl, TourRoll.balanced_first⟩

theorem Settled.step {log : TourLog η} (hlog : log.Settled) (call : GasCall) :
    (log.step call).Settled := by
  obtain ⟨hcurrent, hfired, hbalanced⟩ := hlog
  obtain ⟨htour, told, htold, hevents⟩ := call.run_actions log.session hcurrent
  refine ⟨htour, ?_, call.balanced_actions log.session hbalanced⟩
  simp only [TourLog.step, htold, hevents, hfired, List.map_append]

theorem settled_afterCalls (settings : Settings) (hub : Hub η) (calls : List GasCall) :
    (afterCalls settings hub calls).Settled := by
  induction calls using List.reverseRecOn with
  | nil => exact settled_first settings hub
  | append_singleton calls call ih =>
    rw [afterCalls, List.foldl_append]
    exact ih.step call

theorem countP_isTourEnd (told : List TourEvent) :
    (told.map SessionEvent.tour).countP SessionEvent.isTourEnd = told.count .ended := by
  rw [List.countP_map, List.count]
  congr 1
  funext event
  cases event <;> rfl

/-- What holds of the tours of a session at any time. -/
structure EndsTours (log : TourLog η) : Prop where
  /-- The roll shows the tour of the session, and the session fires what the tours tell. -/
  current_eq : log.roll.current = log.session.tour
  fired_eq : log.fired = log.roll.told.map .tour
  activated_sub_ended : (log.roll.activated : Int) - log.fired.countP SessionEvent.isTourEnd
    = if log.session.tour.isActive = true then 1 else 0
  replaced_inactive : ∀ tour ∈ log.roll.replaced, tour.isActive = false
  /-- An analysis that returns puts a tour over its report in place, at the first hotspot. -/
  analyze_ok : ∀ contract source trace creation report,
    let move := log.session.analyze contract source trace creation
    move.result = .ok report →
      (move.state.tour.isActive = true ↔ report.hotspots ≠ [])
        ∧ (move.state.tour.isActive = true → move.state.tour.index = 0)
        ∧ move.state.tour.hotspots = report.hotspots ∧ move.state.lastReport = some report
  /-- An analysis that fails changes nothing and fires nothing. -/
  analyze_error : ∀ contract source trace creation fault,
    let move := log.session.analyze contract source trace creation
    move.result = .error fault → move.state = log.session ∧ move.events = []

/-- **Every tour that a session starts is ended once.** Whatever is analyzed, whether it fails, and
    however its tours are navigated: the tours that were activated are one more than the ends that were
    fired while a tour is under way, and as many otherwise. A tour that was replaced is over. -/
theorem endsTours_afterCalls (settings : Settings) (hub : Hub η) (calls : List GasCall) :
    (afterCalls settings hub calls).EndsTours := by
  obtain ⟨hcurrent, hfired, hactivated, hreplaced⟩ := settled_afterCalls settings hub calls
  refine ⟨hcurrent, hfired, ?_, hreplaced, ?_, ?_⟩
  · rw [hfired, countP_isTourEnd, hactivated, hcurrent]
    split <;> simp
  · intro contract source trace creation report move hresult
    obtain ⟨hmade, hstate⟩ := Session.state_of_analyze_ok hresult
    have htour := Session.freshTour_of_reportOf (afterCalls settings hub calls).session.tour hmade
    have hafter : move.state = (afterCalls settings hub calls).session.reported report := hstate
    rw [hafter]
    exact ⟨htour.1, fun hactive => htour.2.1 (htour.1.1 hactive), htour.2.2, rfl⟩
  · intro contract source trace creation fault move hresult
    exact Session.unchanged_of_analyze_error hresult

end TourLog

end EvmScope
