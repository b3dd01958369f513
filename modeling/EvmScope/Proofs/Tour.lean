import EvmScope.Tour
import Mathlib.Data.List.Induction

set_option autoImplicit false

/-! # A tour is a clamped cursor

Seen from outside a tour is a list with an index. A call either asks for a place, and then the tour
stands there and says so, or it leaves everything as it is; steps beyond an end are pulled back to it.
`TourCall.Obeys` says this of one call on any tour, and `Tour.afterCalls` carries out a list of calls on an
idle tour: the list it leads through is then the ranking of the last hotspots that a tour was started
over. -/

namespace EvmScope

/-! ## Calls -/

/-- What can be asked of a tour. -/
inductive TourCall
  | start (hotspots : List Hotspot)
  | next
  | previous
  | jumpTo (index : Int)
  | finish

/-- What a call of a tour returns. -/
inductive TourAnswer
  | step (step? : Option TourStep)
  | refused (fault : Fault)
  /-- Whether there was a tour to end. -/
  | ended (wasActive : Bool)

/-- The step that an event announces. -/
def TourEvent.step? : TourEvent → Option TourStep
  | stepChanged step => some step
  | _ => none

/-- A step tells where a tour stands: the index counted from one, the number of hotspots, and the
    hotspot at the index. -/
structure TourStep.Tells (step : TourStep) (tour : Tour) : Prop where
  current_eq : (step.current : Int) = tour.index + 1
  total_eq : step.total = tour.hotspots.length
  hotspot_eq : tour.hotspots[tour.index.toNat]? = some step.hotspot

namespace TourCall

/-- Carry out a call. -/
def perform (tour : Tour) : TourCall → TourMove TourAnswer
  | start hotspots => (tour.start hotspots).mapResult .step
  | next => tour.next.mapResult .step
  | previous => tour.previous.mapResult .step
  | jumpTo index =>
    (tour.jumpTo index).mapResult (fun result =>
      match result with
      | .ok step? => .step step?
      | .error fault => .refused fault)
  | finish => tour.finish.mapResult .ended

/-- The nearest index that a list of this length has. -/
def clamp (length : Nat) (index : Int) : Int :=
  max 0 (min index (length - 1))

/-- Whether a tour has something to do for a call. -/
def Accepted (tour : Tour) : TourCall → Prop
  | start hotspots => hotspots ≠ []
  | next | previous | finish => tour.isActive = true
  | jumpTo index => tour.isActive = true ∧ 0 ≤ index ∧ index < tour.hotspots.length

/-- The hotspots that a tour has after an accepted call. -/
def hotspotsAfter (tour : Tour) : TourCall → List Hotspot
  | start hotspots => Tour.order hotspots
  | next | previous | jumpTo _ => tour.hotspots
  | finish => []

/-- The index that a tour has after an accepted call. -/
def indexAfter (tour : Tour) : TourCall → Int
  | start _ => 0
  | next => clamp tour.hotspots.length (tour.index + 1)
  | previous => clamp tour.hotspots.length (tour.index - 1)
  | jumpTo index => index
  | finish => -1

/-- Whether a call that leads to a tour announces its place: a start over hotspots and an accepted jump
    always do, a step to a neighbour if it moved. -/
def Announces (tour after : Tour) : TourCall → Prop
  | start hotspots => hotspots ≠ []
  | next | previous => after.index ≠ tour.index
  | jumpTo index => Accepted tour (.jumpTo index)
  | finish => False

/-- What a call does to a tour and what it tells. -/
structure Obeys (call : TourCall) (tour : Tour) : Prop where
  isActive_eq : Accepted tour call →
    ((call.perform tour).state.isActive = true ↔ call ≠ .finish)
  hotspots_eq : Accepted tour call → (call.perform tour).state.hotspots = call.hotspotsAfter tour
  index_eq : Accepted tour call → (call.perform tour).state.index = call.indexAfter tour
  /-- A call that is not accepted leaves the tour as it is. -/
  unchanged : ¬ Accepted tour call → (call.perform tour).state = tour
  announced : Announces tour (call.perform tour).state call → ∃ step,
    (call.perform tour).events.filterMap TourEvent.step? = [step]
      ∧ step.Tells (call.perform tour).state
  silent : ¬ Announces tour (call.perform tour).state call →
    (call.perform tour).events.filterMap TourEvent.step? = []
  /-- The end is told once, when a tour under way comes to it. -/
  ended : (call.perform tour).events.count .ended
    = if tour.isActive = true ∧ (call.perform tour).state.isActive = false then 1 else 0
  /-- A step that is returned tells where the tour then stands. -/
  answer : ∀ step, (call.perform tour).result = .step (some step) →
    step.Tells (call.perform tour).state
  /-- Only a negative place is refused. -/
  refused : ∀ index, call = .jumpTo index → index < 0 →
    (call.perform tour).result = .refused (.tourIndex index)

end TourCall

/-! ## Rankings -/

namespace Tour

theorem ranksBefore_iff (a b : Hotspot) :
    ranksBefore a b = true ↔ a.severity.rank < b.severity.rank
      ∨ (a.severity.rank = b.severity.rank ∧ b.gas ≤ a.gas) := by
  simp [ranksBefore]

/-- A list is a stable ranking of another one: it has the same hotspots, ordered by severity and gas,
    and those of one severity and gas as they stood. -/
structure IsStableRanking (ranking given : List Hotspot) : Prop where
  perm : ranking.Perm given
  sorted : ranking.Pairwise (fun a b => a.severity.rank < b.severity.rank
    ∨ (a.severity.rank = b.severity.rank ∧ b.gas ≤ a.gas))
  stable : ∀ severity gas,
    ranking.filter (fun h => h.severity = severity ∧ h.gas = gas)
      = given.filter (fun h => h.severity = severity ∧ h.gas = gas)

theorem ranksBefore_trans (a b c : Hotspot) (hab : ranksBefore a b = true)
    (hbc : ranksBefore b c = true) : ranksBefore a c = true := by
  rw [ranksBefore_iff] at hab hbc ⊢
  omega

theorem ranksBefore_total (a b : Hotspot) : (ranksBefore a b || ranksBefore b a) = true := by
  rw [Bool.or_eq_true, ranksBefore_iff, ranksBefore_iff]
  omega

/-- The order of a tour is a stable ranking. -/
theorem order_isStableRanking (hotspots : List Hotspot) :
    IsStableRanking (order hotspots) hotspots := by
  have hperm : (order hotspots).Perm hotspots := List.mergeSort_perm hotspots ranksBefore
  refine ⟨hperm, ?_, ?_⟩
  · have hsorted := List.pairwise_mergeSort ranksBefore_trans ranksBefore_total hotspots
    exact hsorted.imp (fun {a b} h => (ranksBefore_iff a b).1 h)
  · intro severity gas
    -- equals are ordered as they stand, so sorting keeps them as a sublist, and it loses none
    have hequal : (hotspots.filter (fun h => h.severity = severity ∧ h.gas = gas)).Pairwise
        (fun a b => ranksBefore a b = true) := by
      rw [List.pairwise_iff_forall_sublist]
      intro a b hab
      have ha := hab.subset List.mem_cons_self
      have hb := hab.subset (List.mem_cons_of_mem a List.mem_cons_self)
      simp only [List.mem_filter, decide_eq_true_eq] at ha hb
      rw [ranksBefore_iff, ha.2.1, ha.2.2, hb.2.1, hb.2.2]
      omega
    have hsublist := (List.sublist_mergeSort ranksBefore_trans ranksBefore_total hequal
      List.filter_sublist).filter (fun h => decide (h.severity = severity ∧ h.gas = gas))
    simp only [List.filter_filter, Bool.and_self] at hsublist
    exact (hsublist.eq_of_length (hperm.filter _).length_eq.symm).symm

end Tour

/-! ## One call -/

namespace TourCall

theorem stepAt_tells (ranking : List Hotspot) (place : Fin ranking.length) :
    (Tour.stepAt ranking place).Tells (.visiting ranking place) := by
  refine ⟨?_, rfl, ?_⟩
  · simp [Tour.stepAt, Tour.index]
  · simp [Tour.stepAt, Tour.hotspots, Tour.index]

/-- A place is announced only for an accepted call. -/
theorem accepted_of_announces {tour : Tour} {call : TourCall} (h : Announces tour tour call) :
    Accepted tour call := by
  cases call with
  | start hotspots => exact h
  | next => exact absurd rfl h
  | previous => exact absurd rfl h
  | jumpTo index => exact h
  | finish => exact h.elim

variable {tour : Tour} {call : TourCall} {events : List TourEvent}

/-- What is to be seen of a call that comes to a place of a ranking. -/
theorem obeys_of_visiting {ranking : List Hotspot} {place : Fin ranking.length}
    (hmove : call.perform tour
      = ⟨.visiting ranking place, events, .step (some (Tour.stepAt ranking place))⟩)
    (haccepted : Accepted tour call) (hfinish : call ≠ .finish)
    (hranking : ranking = call.hotspotsAfter tour) (hindex : place.val = call.indexAfter tour)
    (hannounced : Announces tour (.visiting ranking place) call →
      events.filterMap TourEvent.step? = [Tour.stepAt ranking place])
    (hsilent : ¬ Announces tour (.visiting ranking place) call →
      events.filterMap TourEvent.step? = [])
    (hended : TourEvent.ended ∉ events) (hjump : ∀ index, call = .jumpTo index → ¬ index < 0) :
    Obeys call tour := by
  constructor <;> rw [hmove]
  case isActive_eq => simp [Tour.isActive, hfinish]
  case hotspots_eq => exact fun _ => hranking
  case index_eq => exact fun _ => hindex
  case unchanged => exact fun h => absurd haccepted h
  case announced => exact fun h => ⟨_, hannounced h, stepAt_tells ranking place⟩
  case silent => exact hsilent
  case ended => simp [Tour.isActive, List.count_eq_zero_of_not_mem hended]
  case answer =>
    rintro step hstep
    injection hstep with hstep
    injection hstep with hstep
    exact hstep ▸ stepAt_tells ranking place
  case refused => exact fun index hcall hneg => absurd hneg (hjump index hcall)

/-- What is to be seen of a call that leaves the tour as it is. -/
theorem obeys_of_ignored {answer : TourAnswer}
    (hmove : call.perform tour = ⟨tour, events, answer⟩) (hnot : ¬ Accepted tour call)
    (hsteps : events.filterMap TourEvent.step? = []) (hended : TourEvent.ended ∉ events)
    (hanswer : ∀ step, answer ≠ .step (some step))
    (hrefused : ∀ index, call = .jumpTo index → index < 0 → answer = .refused (.tourIndex index)) :
    Obeys call tour := by
  constructor <;> rw [hmove]
  case isActive_eq => exact fun h => absurd h hnot
  case hotspots_eq => exact fun h => absurd h hnot
  case index_eq => exact fun h => absurd h hnot
  case unchanged => exact fun _ => rfl
  case announced => exact fun h => absurd (accepted_of_announces h) hnot
  case silent => exact fun _ => hsteps
  case ended =>
    have hsame : ¬ (tour.isActive = true ∧ tour.isActive = false) := by simp
    rw [if_neg hsame]
    exact List.count_eq_zero_of_not_mem hended
  case answer => exact fun step hstep => absurd hstep (hanswer step)
  case refused => exact hrefused

theorem obeys_start (tour : Tour) (hotspots : List Hotspot) : Obeys (.start hotspots) tour := by
  by_cases hnil : hotspots = []
  · subst hnil
    have hmove : (TourCall.start []).perform tour
        = ⟨tour, [Tour.nothingFound], .step none⟩ := by
      simp [perform, Tour.start, Tour.order, Transition.mapResult]
    refine obeys_of_ignored hmove (by simp [Accepted]) rfl (by simp [Tour.nothingFound]) ?_ ?_
    · simp
    · simp
  · have hlength : 0 < (Tour.order hotspots).length := by
      rw [Tour.order, List.length_mergeSort]
      exact List.length_pos_iff.2 hnil
    have hmove : (TourCall.start hotspots).perform tour
        = ⟨.visiting (Tour.order hotspots) ⟨0, hlength⟩,
            [Tour.found (Tour.order hotspots).length,
              .stepChanged (Tour.stepAt (Tour.order hotspots) ⟨0, hlength⟩)],
            .step (some (Tour.stepAt (Tour.order hotspots) ⟨0, hlength⟩))⟩ := by
      simp only [perform, Tour.start, dif_pos hlength]
      rfl
    refine obeys_of_visiting hmove hnil (by simp) rfl rfl (fun _ => rfl) ?_ ?_ (by simp)
    · exact fun h => absurd hnil h
    · simp [Tour.found]

/-- A move to a place of the ranking under way. -/
theorem obeys_of_goTo {ranking : List Hotspot} {place : Fin ranking.length}
    (target : Fin ranking.length)
    (hmove : call.perform (.visiting ranking place)
      = ⟨.visiting ranking target, [.stepChanged (Tour.stepAt ranking target)],
          .step (some (Tour.stepAt ranking target))⟩)
    (haccepted : Accepted (.visiting ranking place) call) (hfinish : call ≠ .finish)
    (hranking : ranking = call.hotspotsAfter (.visiting ranking place))
    (hindex : target.val = call.indexAfter (.visiting ranking place))
    (hannounces : Announces (.visiting ranking place) (.visiting ranking target) call)
    (hjump : ∀ index, call = .jumpTo index → ¬ index < 0) :
    Obeys call (.visiting ranking place) :=
  obeys_of_visiting hmove haccepted hfinish hranking hindex (fun _ => rfl)
    (fun h => absurd hannounces h) (by simp) hjump

/-- A step to a neighbour is not accepted by an idle tour, which only says that it is none. -/
theorem obeys_of_idle (hmove : call.perform .idle = ⟨.idle, [Tour.notUnderWay], .step none⟩)
    (hnot : ¬ Accepted .idle call) (hjump : ∀ index, call = .jumpTo index → ¬ index < 0) :
    Obeys call .idle :=
  obeys_of_ignored hmove hnot rfl (by simp [Tour.notUnderWay]) (by simp)
    (fun index hcall hneg => absurd hneg (hjump index hcall))

/-- A step beyond an end stays at the place, which is the index pulled back, and says why. -/
theorem obeys_of_remain {ranking : List Hotspot} {place : Fin ranking.length} {level : NoticeLevel}
    {message : String}
    (hmove : call.perform (.visiting ranking place)
      = ⟨.visiting ranking place, [.notice level message],
          .step (some (Tour.stepAt ranking place))⟩)
    (hcall : call = .next ∨ call = .previous)
    (hindex : place.val = call.indexAfter (.visiting ranking place)) :
    Obeys call (.visiting ranking place) := by
  rcases hcall with rfl | rfl
  · exact obeys_of_visiting hmove rfl (by simp) rfl hindex (fun h => absurd rfl h) (fun _ => rfl)
      (by simp) (by simp)
  · exact obeys_of_visiting hmove rfl (by simp) rfl hindex (fun h => absurd rfl h) (fun _ => rfl)
      (by simp) (by simp)

theorem obeys_next (tour : Tour) : Obeys .next tour := by
  cases tour with
  | idle => exact obeys_of_idle rfl (by simp [Accepted, Tour.isActive]) (by simp)
  | visiting ranking place =>
    by_cases hlast : place.val + 1 < ranking.length
    · refine obeys_of_goTo ⟨place.val + 1, hlast⟩ ?_ rfl (by simp) rfl ?_ ?_ (by simp)
      · simp only [perform, Tour.next, dif_pos hlast]
        rfl
      · simp only [indexAfter, clamp, Tour.hotspots, Tour.index]
        omega
      · simp only [Announces, Tour.index]
        omega
    · have hmove : TourCall.next.perform (.visiting ranking place)
          = ⟨.visiting ranking place, [Tour.atEnd], .step (some (Tour.stepAt ranking place))⟩ := by
        simp only [perform, Tour.next, dif_neg hlast]
        rfl
      refine obeys_of_remain hmove (Or.inl rfl) ?_
      simp only [indexAfter, clamp, Tour.hotspots, Tour.index]
      omega

theorem obeys_previous (tour : Tour) : Obeys .previous tour := by
  cases tour with
  | idle => exact obeys_of_idle rfl (by simp [Accepted, Tour.isActive]) (by simp)
  | visiting ranking place =>
    by_cases hfirst : place.val = 0
    · have hmove : TourCall.previous.perform (.visiting ranking place)
          = ⟨.visiting ranking place, [Tour.atStart], .step (some (Tour.stepAt ranking place))⟩ := by
        simp only [perform, Tour.previous, if_pos hfirst]
        rfl
      refine obeys_of_remain hmove (Or.inr rfl) ?_
      simp only [indexAfter, clamp, Tour.hotspots, Tour.index]
      omega
    · refine obeys_of_goTo ⟨place.val - 1, by omega⟩ ?_ rfl (by simp) rfl ?_ ?_ (by simp)
      · simp only [perform, Tour.previous, if_neg hfirst]
        rfl
      · simp only [indexAfter, clamp, Tour.hotspots, Tour.index]
        omega
      · simp only [Announces, Tour.index]
        omega

theorem obeys_jumpTo (tour : Tour) (index : Int) : Obeys (.jumpTo index) tour := by
  by_cases hneg : index < 0
  · have hmove : (TourCall.jumpTo index).perform tour
        = ⟨tour, [], .refused (.tourIndex index)⟩ := by
      simp only [perform, Tour.jumpTo, if_pos hneg]
      rfl
    refine obeys_of_ignored hmove ?_ rfl (by simp) (by simp) (by simp)
    rintro ⟨-, hnonneg, -⟩
    omega
  · have hjump : ∀ i, TourCall.jumpTo index = .jumpTo i → ¬ i < 0 := by
      rintro i hi
      injection hi with hi
      exact hi ▸ hneg
    cases tour with
    | idle =>
      have hmove : (TourCall.jumpTo index).perform .idle = ⟨.idle, [], .step none⟩ := by
        simp only [perform, Tour.jumpTo, if_neg hneg]
        rfl
      exact obeys_of_ignored hmove (by simp [Accepted, Tour.isActive]) rfl (by simp) (by simp)
        (fun i hi h => absurd h (hjump i hi))
    | visiting ranking place =>
      by_cases hinside : index.toNat < ranking.length
      · have haccepted : Accepted (.visiting ranking place) (.jumpTo index) := by
          refine ⟨rfl, by omega, ?_⟩
          simp only [Tour.hotspots]
          omega
        refine obeys_of_goTo ⟨index.toNat, hinside⟩ ?_ haccepted (by simp) rfl ?_ haccepted hjump
        · simp only [perform, Tour.jumpTo, if_neg hneg, dif_pos hinside]
          rfl
        · simp only [indexAfter]
          omega
      · have hnot : ¬ Accepted (.visiting ranking place) (.jumpTo index) := by
          rintro ⟨-, -, hlt⟩
          simp only [Tour.hotspots] at hlt
          omega
        -- the notice shows the place, and a place that cannot be written is a fault
        cases hshown : Numeral.decimalWithin (index + 1) with
        | ok shown =>
          have hmove : (TourCall.jumpTo index).perform (.visiting ranking place)
              = ⟨.visiting ranking place, [Tour.noSuchPlace shown], .step none⟩ := by
            simp only [perform, Tour.jumpTo, if_neg hneg, dif_neg hinside, hshown]
            rfl
          exact obeys_of_ignored hmove hnot rfl (by simp [Tour.noSuchPlace]) (by simp)
            (fun i hi h => absurd h (hjump i hi))
        | error cause =>
          have hmove : (TourCall.jumpTo index).perform (.visiting ranking place)
              = ⟨.visiting ranking place, [], .refused (.numeral cause)⟩ := by
            simp only [perform, Tour.jumpTo, if_neg hneg, dif_neg hinside, hshown]
            rfl
          exact obeys_of_ignored hmove hnot rfl (by simp) (by simp)
            (fun i hi h => absurd h (hjump i hi))

theorem obeys_finish (tour : Tour) : Obeys .finish tour := by
  cases tour with
  | idle =>
    have hmove : TourCall.finish.perform .idle = ⟨.idle, [], .ended false⟩ := rfl
    exact obeys_of_ignored hmove (by simp [Accepted, Tour.isActive]) rfl (by simp) (by simp)
      (by simp)
  | visiting ranking place =>
    have hmove : TourCall.finish.perform (.visiting ranking place)
        = ⟨.idle, [.ended, Tour.completed], .ended true⟩ := rfl
    constructor <;> rw [hmove]
    case isActive_eq => simp [Tour.isActive]
    case hotspots_eq => exact fun _ => rfl
    case index_eq => exact fun _ => rfl
    case unchanged => exact fun h => absurd rfl h
    case announced => exact fun h => h.elim
    case silent => exact fun _ => rfl
    case ended => rfl
    case answer => simp
    case refused => simp

/-- **Every call** on any tour obeys the law of a clamped cursor. -/
theorem obeys (call : TourCall) (tour : Tour) : Obeys call tour := by
  cases call with
  | start hotspots => exact obeys_start tour hotspots
  | next => exact obeys_next tour
  | previous => exact obeys_previous tour
  | jumpTo index => exact obeys_jumpTo tour index
  | finish => exact obeys_finish tour

end TourCall

/-! ## Lists of calls -/

namespace Tour

/-- The tour after some calls, the first one on an idle tour. -/
def afterCalls (calls : List TourCall) : Tour :=
  calls.foldl (fun tour call => (call.perform tour).state) .idle

/-- The hotspots that a tour was last started over. -/
def lastStarted (calls : List TourCall) : List Hotspot :=
  calls.foldl (fun last call =>
    match call with
    | .start hotspots => if hotspots = [] then last else hotspots
    | _ => last) []

/-- What a tour shows after some calls. -/
structure IsCursor (calls : List TourCall) (tour : Tour) : Prop where
  idle : tour.isActive = false → tour.index = -1 ∧ tour.hotspots = []
  hotspots_ne_nil : tour.isActive = true → tour.hotspots ≠ []
  hotspots_eq : tour.isActive = true → tour.hotspots = order (lastStarted calls)
  hotspots_stable : tour.isActive = true → IsStableRanking tour.hotspots (lastStarted calls)
  index_nonneg : tour.isActive = true → 0 ≤ tour.index
  index_lt : tour.isActive = true → tour.index < tour.hotspots.length

theorem afterCalls_append_singleton (calls : List TourCall) (call : TourCall) :
    afterCalls (calls ++ [call]) = (call.perform (afterCalls calls)).state := by
  simp [afterCalls]

/-- A tour under way has a place in a list of hotspots. -/
theorem index_bounds (tour : Tour) (hactive : tour.isActive = true) :
    0 ≤ tour.index ∧ tour.index < tour.hotspots.length := by
  cases tour with
  | idle => cases hactive
  | visiting ranking place =>
    simp only [index, hotspots]
    omega

/-- Only a start changes what a tour leads through, and it takes what it is given. -/
theorem hotspots_afterCalls (calls : List TourCall) (hactive : (afterCalls calls).isActive = true) :
    (afterCalls calls).hotspots = order (lastStarted calls) := by
  -- the last call decides: it starts a tour, or the tour was under way before it
  induction calls using List.reverseRecOn with
  | nil => cases hactive
  | append_singleton calls call ih =>
    rw [afterCalls_append_singleton] at hactive ⊢
    have hobeys := call.obeys (afterCalls calls)
    by_cases haccepted : TourCall.Accepted (afterCalls calls) call
    · rw [hobeys.hotspots_eq haccepted]
      cases call with
      | start hotspots =>
        have hne : hotspots ≠ [] := haccepted
        simp [TourCall.hotspotsAfter, lastStarted, hne]
      | next => simpa [TourCall.hotspotsAfter, lastStarted] using ih haccepted
      | previous => simpa [TourCall.hotspotsAfter, lastStarted] using ih haccepted
      | jumpTo index => simpa [TourCall.hotspotsAfter, lastStarted] using ih haccepted.1
      | finish => exact absurd rfl ((hobeys.isActive_eq haccepted).1 hactive)
    · rw [hobeys.unchanged haccepted] at hactive ⊢
      cases call with
      | start hotspots =>
        have hnil : hotspots = [] := by simpa [TourCall.Accepted] using haccepted
        simpa [lastStarted, hnil] using ih hactive
      | next => simpa [lastStarted] using ih hactive
      | previous => simpa [lastStarted] using ih hactive
      | jumpTo index => simpa [lastStarted] using ih hactive
      | finish => simpa [lastStarted] using ih hactive

/-- After every list of calls a tour is a cursor over the ranking it was last started with. -/
theorem isCursor_afterCalls (calls : List TourCall) : IsCursor calls (afterCalls calls) := by
  have hhotspots := hotspots_afterCalls calls
  have hbounds := index_bounds (afterCalls calls)
  refine ⟨?_, ?_, hhotspots, ?_, fun h => (hbounds h).1, fun h => (hbounds h).2⟩
  · intro hidle
    cases hafter : afterCalls calls with
    | idle => exact ⟨rfl, rfl⟩
    | visiting ranking place =>
      rw [hafter] at hidle
      cases hidle
  · intro hactive hnil
    have hlt := hbounds hactive
    rw [hnil] at hlt
    simp only [List.length_nil] at hlt
    omega
  · intro hactive
    rw [hhotspots hactive]
    exact order_isStableRanking (lastStarted calls)

/-- **A tour is a clamped cursor over one ranked list**: after every list of calls it is idle or has a
    place in the ranking of the hotspots it was last started over, and every further call moves it,
    leaves it and tells of it as the law says. -/
theorem afterCalls_clamped_cursor (calls : List TourCall) :
    IsCursor calls (afterCalls calls) ∧ ∀ call : TourCall, call.Obeys (afterCalls calls) :=
  ⟨isCursor_afterCalls calls, fun call => call.obeys (afterCalls calls)⟩

end Tour

end EvmScope
