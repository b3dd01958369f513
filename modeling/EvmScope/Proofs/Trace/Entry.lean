import EvmScope.Proofs.Text.Numeral
import EvmScope.Trace.Entry

set_option autoImplicit false

/-! # Single entries of a trace

The integer fields of an entry may be text. Hexadecimal text has no limit on its digits, so every figure
that is not negative comes back from its written form, however large it is. Of the two fields with gas
the recorded cost may be missing; where the gas that remained is missing, it is read as zero. -/

namespace EvmScope.TraceEntry

/-! ## Figures as text -/

/-- A figure that was written in hexadecimal is read back. -/
theorem intOfText?_hex (n : Nat) : intOfText? (Numeral.hex n) = some (n : Int) := by
  have hread := Numeral.read?_hex (n : Int)
  have hnonneg : ¬ (n : Int) < 0 := by omega
  simp only [intOfText?, Numeral.trimBlanks_hex, Numeral.toList_hex, if_neg hnonneg]
  exact hread

/-- A step that shows its cost as hexadecimal text. -/
theorem ofJson?_gasCost_hex (op : String) (n : Nat) :
    ofJson? (.obj [("pc", .int 0), ("op", .str op), ("gasCost", .str (Numeral.hex n))])
      = some ⟨0, toCapitals op, 0, some n, 1, []⟩ := by
  simp [ofJson?, ofFields?, intField?, gasCost?, List.lookup_cons, int?, Json.str?, intOfText?_hex]

theorem stack?_texts (words : List String) : stack? (.arr (words.map Json.str)) = some words := by
  rw [stack?, List.mapM_map]
  induction words with
  | nil => rfl
  | cons word rest ih =>
    rw [List.mapM_cons, ih]
    rfl

/-- A step that shows its stack and nothing else. -/
theorem ofJson?_stack (op : String) (words : List String) :
    ofJson? (.obj [("pc", .int 0), ("op", .str op), ("stack", .arr (words.map Json.str))])
      = some ⟨0, toCapitals op, 0, none, 1, words⟩ := by
  simp [ofJson?, ofFields?, intField?, gasCost?, List.lookup_cons, int?, Json.str?, stack?_texts]

/-! ## What is read -/

/-- The gas figures of an entry are those of its fields, and its offset is not negative. -/
theorem ofFields?_some {fields : List (String × Json)} {e : TraceEntry}
    (hread : ofFields? fields = some e) :
    intField? fields "gas" 0 = some e.gas ∧ gasCost? fields = some e.gasCost ∧ 0 ≤ e.pc := by
  simp only [ofFields?, Option.bind_eq_bind, Option.bind_eq_some_iff] at hread
  obtain ⟨_, -, pc, -, _, -, _, -, gas, hgas, cost, hcost, depth, -, hrest⟩ := hread
  split at hrest
  all_goals
    obtain ⟨stack, -, hmade⟩ := Option.bind_eq_some_iff.1 hrest
    split at hmade
    · cases hmade
    · next hpc =>
      cases hmade
      exact ⟨hgas, hcost, Int.not_lt.1 hpc⟩

/-! ## Entries without gas -/

/-- An entry that carries no gas, neither what remained nor what it took. -/
def HasNoGas (log : Json) : Prop :=
  log.get "gas" = .null ∧ log.get "gasCost" = .null ∧ log.get "gas_cost" = .null

theorem lookup_of_fieldOrNull {fields : List (String × Json)} {name : String}
    (hnull : Json.fieldOrNull name fields = .null) :
    fields.lookup name = none ∨ fields.lookup name = some .null := by
  unfold Json.fieldOrNull at hnull
  cases hfound : fields.lookup name with
  | none => exact Or.inl rfl
  | some value =>
    rw [hfound] at hnull
    exact Or.inr (congrArg some hnull)

/-- An entry without gas reads as one with nothing left and no recorded cost. -/
theorem gas_of_hasNoGas {log : Json} {e : TraceEntry} (hnone : HasNoGas log)
    (hread : ofJson? log = some e) : e.gas = 0 ∧ e.gasCost = none := by
  cases log with
  | obj fields =>
    obtain ⟨hleft, hcost, hcost'⟩ := hnone
    obtain ⟨hgas, hcosts, -⟩ := ofFields?_some hread
    constructor
    · rcases lookup_of_fieldOrNull hleft with hfound | hfound
      · rw [intField?, hfound] at hgas
        exact (Option.some.inj hgas).symm
      · rw [intField?, hfound] at hgas
        cases hgas
    · -- a recorded cost of null counts as none
      have hnull : (fields.lookup "gasCost").or (fields.lookup "gas_cost") = none
          ∨ (fields.lookup "gasCost").or (fields.lookup "gas_cost") = some .null := by
        rcases lookup_of_fieldOrNull hcost with hfound | hfound
        · rw [hfound, Option.none_or]
          exact lookup_of_fieldOrNull hcost'
        · rw [hfound, Option.some_or]
          exact Or.inr rfl
      rw [gasCost?] at hcosts
      rcases hnull with hnull | hnull
      · rw [hnull] at hcosts
        exact (Option.some.inj hcosts).symm
      · rw [hnull] at hcosts
        exact (Option.some.inj hcosts).symm
  | _ => cases hread

end EvmScope.TraceEntry
