import EvmScope.Text.Newline

set_option autoImplicit false

/-! # Unifying line ends

In a text whose lines end with a line feed, alone or behind a carriage return, unifying the line ends
leaves the carriage returns out and nothing else: what stands for a line end is the line feed that was
there already. So the text becomes shorter by one character, and by one byte, at each of them. -/

namespace EvmScope

/-- Every carriage return stands directly before a line feed. -/
def PairedReturns : List Char → Prop
  | [] => True
  | c :: rest => (c = carriageReturn → rest.head? = some lineFeed) ∧ PairedReturns rest

instance decidablePairedReturns : (cs : List Char) → Decidable (PairedReturns cs)
  | [] => inferInstanceAs (Decidable True)
  | c :: rest =>
    have := decidablePairedReturns rest
    inferInstanceAs (Decidable ((c = carriageReturn → rest.head? = some lineFeed) ∧ PairedReturns rest))

/-- A text without its carriage returns. -/
def dropReturns (cs : List Char) : List Char :=
  cs.filter (· ≠ carriageReturn)

theorem dropReturns_append (xs ys : List Char) :
    dropReturns (xs ++ ys) = dropReturns xs ++ dropReturns ys :=
  List.filter_append ..

theorem dropReturns_cons_return (cs : List Char) :
    dropReturns (carriageReturn :: cs) = dropReturns cs := by
  simp [dropReturns]

theorem dropReturns_cons_of_ne {c : Char} (hc : c ≠ carriageReturn) (cs : List Char) :
    dropReturns (c :: cs) = c :: dropReturns cs := by
  simp [dropReturns, hc]

/-- The line feed behind a carriage return is left out where the return has become one. -/
theorem unifyFrom_true {cs : List Char} (hcs : cs.head? = some lineFeed) :
    lineFeed :: unifyFrom true cs = unifyFrom false cs := by
  obtain ⟨rest, rfl⟩ : ∃ rest, cs = lineFeed :: rest := by
    cases cs with
    | nil => cases hcs
    | cons c rest => exact ⟨rest, congrArg (· :: rest) (Option.some.inj hcs)⟩
  rfl

namespace PairedReturns

/-- What stands behind a carriage return begins with a line feed. -/
theorem head?_of_append {before behind : List Char}
    (hpaired : PairedReturns (before ++ carriageReturn :: behind)) :
    behind.head? = some lineFeed := by
  induction before with
  | nil => exact hpaired.1 rfl
  | cons c rest ih => exact ih hpaired.2

theorem head?_of_getLast? {before behind : List Char} (hpaired : PairedReturns (before ++ behind))
    (hlast : before.getLast? = some carriageReturn) : behind.head? = some lineFeed := by
  obtain ⟨front, rfl⟩ := List.getLast?_eq_some_iff.1 hlast
  rw [List.append_assoc, List.singleton_append] at hpaired
  exact hpaired.head?_of_append

theorem of_append_right {before behind : List Char} (hpaired : PairedReturns (before ++ behind)) :
    PairedReturns behind := by
  induction before with
  | nil => exact hpaired
  | cons c rest ih => exact ih hpaired.2

/-- **Only the carriage returns go.** -/
theorem unifyFrom_eq {cs : List Char} (hpaired : PairedReturns cs) :
    unifyFrom false cs = dropReturns cs := by
  induction cs with
  | nil => rfl
  | cons c rest ih =>
    by_cases hc : c = carriageReturn
    · subst hc
      rw [unifyFrom, if_pos rfl, unifyFrom_true (hpaired.1 rfl), ih hpaired.2, dropReturns_cons_return]
    · rw [unifyFrom, if_neg hc, if_neg (by rw [Bool.and_false]; exact Bool.false_ne_true),
        ih hpaired.2, dropReturns_cons_of_ne hc]

end PairedReturns

end EvmScope
