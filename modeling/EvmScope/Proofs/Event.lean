import EvmScope.Event
import Mathlib.Data.List.Basic

set_option autoImplicit false

/-! # Subscriptions that are taken back

Who subscribes a handler may take the subscription back, which is to unsubscribe the same handler from
the same topic. A handler is known by its equality alone, and of several equal ones the first goes. So it
need not be the one that was added last: if the handler was listed before, an earlier subscription is
taken out and the new one stays at the end of the list, and who does it a second time takes out one more.

Nothing is asked of the equality of handlers but that each one is equal to itself. -/

namespace EvmScope.Hub

/-- A list that is the same when its first item is put at the end has one item throughout. -/
theorem eq_replicate_of_rotated {α : Type} {first last : α} {rest : List α}
    (hsame : rest ++ [last] = first :: rest) :
    first :: rest = List.replicate (rest.length + 1) last := by
  induction rest generalizing first with
  | nil => rw [← hsame]; rfl
  | cons next rest ih =>
    obtain ⟨rfl, hrest⟩ := List.cons.inj hsame
    have hall := ih hrest
    rw [List.length_cons, List.replicate_succ, ← hall, (List.cons.inj hall).1]

variable {η : Type}

/-- Hubs that agree on the other topics are the same if they agree on this one. -/
theorem eq_iff_handlers {hub other : Hub η} {topic : Topic}
    (hothers : ∀ t, t ≠ topic → hub.handlers t = other.handlers t) :
    hub = other ↔ hub.handlers topic = other.handlers topic := by
  constructor
  · intro h
    rw [h]
  · intro h
    have hall : hub.handlers = other.handlers := by
      funext t
      by_cases ht : t = topic
      · rw [ht, h]
      · exact hothers t ht
    cases hub
    cases other
    exact congrArg Hub.mk hall

/-! ## One list of handlers -/

variable [BEq η]

/-- A handler equal to this one is in the list of a topic. -/
def Lists (hub : Hub η) (topic : Topic) (handler : η) : Prop :=
  ∃ h ∈ hub.handlers topic, (h == handler) = true

/-- A hub in which a handler subscribed and took the subscription back. -/
def takenBack (hub : Hub η) (topic : Topic) (handler : η) : Hub η :=
  (hub.subscribe topic handler).unsubscribe topic handler

variable {hub : Hub η} {topic : Topic} {handler : η}

theorem handlers_unsubscribe (hub : Hub η) (topic : Topic) (handler : η) :
    (hub.unsubscribe topic handler).handlers topic = (hub.handlers topic).erase handler := by
  simp [unsubscribe, update]

theorem handlers_unsubscribe_of_ne (hub : Hub η) (handler : η) {other : Topic}
    (hother : other ≠ topic) : (hub.unsubscribe topic handler).handlers other = hub.handlers other := by
  simp [unsubscribe, update, hother]

theorem handlers_takenBack (hub : Hub η) (topic : Topic) (handler : η) :
    (hub.takenBack topic handler).handlers topic = (hub.handlers topic ++ [handler]).erase handler := by
  simp [takenBack, subscribe, unsubscribe, update]

theorem handlers_takenBack_of_ne (hub : Hub η) (handler : η) {other : Topic}
    (hother : other ≠ topic) : (hub.takenBack topic handler).handlers other = hub.handlers other := by
  simp [takenBack, subscribe, unsubscribe, update, hother]

theorem not_beq_of_not_lists (hnew : ¬ hub.Lists topic handler) :
    ∀ h ∈ hub.handlers topic, ¬ (h == handler) = true :=
  fun h hh heq => hnew ⟨h, hh, heq⟩

/-- Without an equal handler in the list nothing is taken out. -/
theorem unsubscribe_of_not_lists (hnew : ¬ hub.Lists topic handler) :
    hub.unsubscribe topic handler = hub := by
  refine (eq_iff_handlers (fun t ht => handlers_unsubscribe_of_ne hub handler ht)).2 ?_
  rw [handlers_unsubscribe, List.erase_eq_eraseP']
  exact List.eraseP_of_forall_not (not_beq_of_not_lists hnew)

/-- What is taken out of a list with an equal handler is the first one. -/
theorem Lists.exists_first (hlists : hub.Lists topic handler) :
    ∃ before first behind, hub.handlers topic = before ++ first :: behind ∧ (first == handler) = true
      ∧ (∀ h ∈ before, ¬ (h == handler) = true)
      ∧ (hub.handlers topic).erase handler = before ++ behind
      ∧ (hub.takenBack topic handler).handlers topic = before ++ behind ++ [handler] := by
  obtain ⟨h, hh, heq⟩ := hlists
  obtain ⟨first, before, behind, hbefore, hfirst, hsplit, herased⟩ :=
    List.exists_of_eraseP (p := fun h => h == handler) hh heq
  refine ⟨before, first, behind, hsplit, hfirst, hbefore, ?_, ?_⟩
  · rw [List.erase_eq_eraseP', herased]
  · rw [handlers_takenBack, List.erase_eq_eraseP',
      List.eraseP_append_left (p := fun h => h == handler) heq _ hh, herased]

theorem Lists.count_unsubscribe (hlists : hub.Lists topic handler) :
    (hub.unsubscribe topic handler).count topic + 1 = hub.count topic := by
  obtain ⟨before, first, behind, hsplit, -, -, herased, -⟩ := hlists.exists_first
  rw [count, count, handlers_unsubscribe, herased, hsplit]
  simp only [List.length_append, List.length_cons]
  omega

theorem Lists.count_takenBack (hlists : hub.Lists topic handler) :
    (hub.takenBack topic handler).count topic = hub.count topic := by
  obtain ⟨before, first, behind, hsplit, -, -, -, htaken⟩ := hlists.exists_first
  rw [count, count, htaken, hsplit]
  simp only [List.length_append, List.length_cons, List.length_nil]
  omega

variable [ReflBEq η]

/-- A list that ends in copies of a handler, none of which stands before, is what it was once one more
    was added and taken out. -/
theorem erase_concat_of_replicate {before : List η} (hbefore : ∀ h ∈ before, ¬ (h == handler) = true)
    (times : Nat) :
    (before ++ List.replicate times handler ++ [handler]).erase handler
      = before ++ List.replicate times handler := by
  rw [List.append_assoc, ← List.replicate_succ', List.erase_eq_eraseP',
    List.eraseP_append_right _ hbefore, List.replicate_succ]
  exact congrArg (before ++ ·) (List.eraseP_cons_of_pos BEq.rfl)

theorem takenBack_of_not_lists (hnew : ¬ hub.Lists topic handler) : hub.takenBack topic handler = hub := by
  refine (eq_iff_handlers (fun t ht => handlers_takenBack_of_ne hub handler ht)).2 ?_
  rw [handlers_takenBack]
  simpa using erase_concat_of_replicate (not_beq_of_not_lists hnew) 0

/-- What becomes of a subscription that is taken back, once and once more. -/
structure TakesBack (hub : Hub η) (topic : Topic) (handler : η) : Prop where
  /-- The lists of other topics stay as they are. -/
  others_eq : ∀ other, other ≠ topic → (hub.takenBack topic handler).handlers other = hub.handlers other
    ∧ ((hub.takenBack topic handler).unsubscribe topic handler).handlers other = hub.handlers other
  /-- Without an equal handler before, all is as it was, and a second time changes nothing. -/
  of_new : ¬ hub.Lists topic handler → hub.takenBack topic handler = hub
    ∧ (hub.takenBack topic handler).unsubscribe topic handler = hub.takenBack topic handler
  /-- Else the first equal handler is gone, and the new one stands at the end. -/
  of_listed : hub.Lists topic handler → ∃ before first behind,
    hub.handlers topic = before ++ first :: behind ∧ (first == handler) = true
      ∧ (∀ h ∈ before, ¬ (h == handler) = true)
      ∧ (hub.takenBack topic handler).handlers topic = before ++ behind ++ [handler]
  /-- All is as it was exactly if nothing else stands behind the first equal handler. -/
  restores_iff : hub.takenBack topic handler = hub ↔ ∃ before times,
    hub.handlers topic = before ++ List.replicate times handler
      ∧ ∀ h ∈ before, ¬ (h == handler) = true
  /-- There are as many handlers as before. -/
  count_eq : (hub.takenBack topic handler).count topic = hub.count topic
  /-- A second time changes nothing exactly if there was no equal handler before. -/
  again_iff : (hub.takenBack topic handler).unsubscribe topic handler = hub.takenBack topic handler
    ↔ ¬ hub.Lists topic handler
  /-- If there was one, a second time takes out one more. -/
  count_again : hub.Lists topic handler →
    ((hub.takenBack topic handler).unsubscribe topic handler).count topic + 1 = hub.count topic

theorem Lists.takenBack (hlists : hub.Lists topic handler) :
    (hub.takenBack topic handler).Lists topic handler := by
  obtain ⟨before, first, behind, -, -, -, -, htaken⟩ := hlists.exists_first
  refine ⟨handler, ?_, BEq.rfl⟩
  rw [htaken]
  exact List.mem_append_right _ List.mem_cons_self

theorem takenBack_eq_iff : hub.takenBack topic handler = hub ↔ ∃ before times,
    hub.handlers topic = before ++ List.replicate times handler
      ∧ ∀ h ∈ before, ¬ (h == handler) = true := by
  rw [eq_iff_handlers (fun t ht => handlers_takenBack_of_ne hub handler ht)]
  constructor
  · intro hsame
    by_cases hlists : hub.Lists topic handler
    · obtain ⟨before, first, behind, hsplit, -, hbefore, -, htaken⟩ := hlists.exists_first
      -- what stands behind the first one is the same with the new one at its end
      rw [htaken, hsplit, List.append_assoc] at hsame
      have hrest := eq_replicate_of_rotated (List.append_cancel_left hsame)
      exact ⟨before, behind.length + 1, hsplit.trans (congrArg (before ++ ·) hrest), hbefore⟩
    · exact ⟨hub.handlers topic, 0, (List.append_nil _).symm, not_beq_of_not_lists hlists⟩
  · rintro ⟨before, times, hsplit, hbefore⟩
    rw [handlers_takenBack, hsplit]
    exact erase_concat_of_replicate hbefore times

/-- **A subscription that is taken back.** For every hub, topic and handler: all is as it was, unless the
    handler was listed before and others stand behind it. Then the first subscription of the handler is
    the one that went. -/
theorem takesBack_first (hub : Hub η) (topic : Topic) (handler : η) : TakesBack hub topic handler where
  others_eq other hother := by
    have htaken := handlers_takenBack_of_ne hub handler hother
    exact ⟨htaken, (handlers_unsubscribe_of_ne _ handler hother).trans htaken⟩
  of_new hnew := by
    rw [takenBack_of_not_lists hnew]
    exact ⟨rfl, unsubscribe_of_not_lists hnew⟩
  of_listed hlists := by
    obtain ⟨before, first, behind, hsplit, hfirst, hbefore, -, htaken⟩ := hlists.exists_first
    exact ⟨before, first, behind, hsplit, hfirst, hbefore, htaken⟩
  restores_iff := takenBack_eq_iff
  count_eq := by
    by_cases hlists : hub.Lists topic handler
    · exact hlists.count_takenBack
    · rw [takenBack_of_not_lists hlists]
  again_iff := by
    constructor
    · intro hsame hlists
      have hcount := hlists.takenBack.count_unsubscribe
      rw [hsame] at hcount
      omega
    · intro hnew
      rw [takenBack_of_not_lists hnew]
      exact unsubscribe_of_not_lists hnew
  count_again hlists := hlists.takenBack.count_unsubscribe.trans hlists.count_takenBack

/-! ## Two handlers -/

/-- A hub with two handlers of one topic. -/
def ofTwo : Hub String :=
  (empty.subscribe .tourEnded "first").subscribe .tourEnded "second"

theorem takesBack_first_ofTwo : TakesBack ofTwo .tourEnded "first" :=
  takesBack_first ofTwo .tourEnded "first"

/-- The first of two handlers subscribes once more and takes this back: now it stands behind the other
    one, and a second time takes it out altogether. -/
theorem takenBack_moves_first :
    ofTwo.handlers .tourEnded = ["first", "second"]
      ∧ (ofTwo.takenBack .tourEnded "first").handlers .tourEnded = ["second", "first"]
      ∧ ((ofTwo.takenBack .tourEnded "first").unsubscribe .tourEnded "first").handlers .tourEnded
        = ["second"] := by
  decide

end EvmScope.Hub
