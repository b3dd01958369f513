import EvmScope.Json.Reader
import EvmScope.Json.Writer
import EvmScope.Proofs.Text.Numeral
import EvmScope.Proofs.Traversal

set_option autoImplicit false

/-! # The limit on decimal digits in documents

An integer of too many decimal digits is neither read nor written. So a document that was read can be
written again, and so can all values in it; only what is computed from them can be too long. The reader
goes down with its fuel, and what it has put together at any place keeps the limit. -/

namespace EvmScope

namespace Numeral

/-- An integer takes more decimal digits than are written. -/
def TooLong (n : Int) : Prop := maxDigits < (Nat.toDigits 10 n.natAbs).length

instance (n : Int) : Decidable (TooLong n) := inferInstanceAs (Decidable (_ < _))

theorem failsIff_decimalWithin (n : Int) : FailsIff (decimalWithin n) .tooLongToWrite (TooLong n) := by
  by_cases hlong : TooLong n
  · exact .of_error (if_pos hlong) hlong
  · exact .of_ok (if_neg hlong) hlong

/-- Digits within the limit make no integer beyond it. -/
theorem not_tooLong_of_digits {digits : List Nat} (hdigits : ∀ digit ∈ digits, digit < 10)
    (hlength : digits.length ≤ maxDigits) {n : Int} (hn : n.natAbs = ofDigits 10 digits) : ¬ TooLong n := by
  have hvalue : n.natAbs < 10 ^ maxDigits := by
    rw [hn]
    exact (ofDigits_lt 10 digits hdigits).trans_le (Nat.pow_le_pow_right (by decide) hlength)
  rw [TooLong, Nat.not_lt, Nat.length_toDigits_le_iff (by decide) (by decide)]
  exact hvalue

end Numeral

namespace Json

/-! ## Values within the limit -/

theorem withinLimit_int_iff (n : Int) : withinLimit (.int n) = true ↔ ¬ Numeral.TooLong n := by
  have hfails := Numeral.failsIff_decimalWithin n
  rw [withinLimit]
  cases hmade : Numeral.decimalWithin n with
  | ok text => exact iff_of_true rfl (hfails.not_reason_of_ok hmade)
  | error cause => exact iff_of_false Bool.false_ne_true (not_not_intro ((hfails cause).1 hmade).1)

theorem itemsWithinLimit_iff (items : List Json) :
    itemsWithinLimit items = true ↔ ∀ item ∈ items, item.withinLimit = true := by
  induction items with
  | nil => simp [itemsWithinLimit]
  | cons item rest ih => rw [itemsWithinLimit, Bool.and_eq_true, ih, List.forall_mem_cons]

theorem fieldsWithinLimit_iff (fields : List (String × Json)) :
    fieldsWithinLimit fields = true ↔ ∀ field ∈ fields, field.2.withinLimit = true := by
  induction fields with
  | nil => simp [fieldsWithinLimit]
  | cons field rest ih => rw [fieldsWithinLimit, Bool.and_eq_true, ih, List.forall_mem_cons]

theorem fieldsWithinLimit_append (first second : List (String × Json)) :
    fieldsWithinLimit (first ++ second) = (fieldsWithinLimit first && fieldsWithinLimit second) := by
  rw [Bool.eq_iff_iff, Bool.and_eq_true, fieldsWithinLimit_iff, fieldsWithinLimit_iff, fieldsWithinLimit_iff,
    List.forall_mem_append]

theorem itemsWithinLimit_str (texts : List String) : itemsWithinLimit (texts.map str) = true := by
  rw [itemsWithinLimit_iff]
  intro item hitem
  obtain ⟨text, -, rfl⟩ := List.mem_map.1 hitem
  rfl

/-! ## Reading -/

section Reading

variable {cs rest : List Char} {value : Json}

theorem withinLimit_of_readUnsigned {negative : Bool}
    (hok : readUnsigned negative cs = .ok (value, rest)) : value.withinLimit = true := by
  unfold readUnsigned at hok
  split at hok
  · cases hok
  · next whole behind hwhole =>
    dsimp only at hok
    split at hok
    · split at hok
      · cases hok
      · next hshort =>
        cases hok
        have hdigits : ∀ digit ∈ Numeral.runDigits 10 whole, digit < 10 := by
          intro digit hdigit
          obtain ⟨c, -, hc⟩ := List.mem_filterMap.1 hdigit
          exact Numeral.lt_of_digitValue? hc
        have hlength : (Numeral.runDigits 10 whole).length ≤ Numeral.maxDigits :=
          (List.length_filterMap_le _ _).trans (Nat.not_lt.1 hshort)
        rw [withinLimit_int_iff]
        refine Numeral.not_tooLong_of_digits hdigits hlength ?_
        split
        · rw [Int.natAbs_neg, Int.natAbs_natCast]
        · rw [Int.natAbs_natCast]
    · cases hok
      rfl

theorem withinLimit_of_readScalar (hok : readScalar cs = .ok (value, rest)) : value.withinLimit = true := by
  have hwords : ∀ entry ∈ words, entry.2.withinLimit = true := by decide
  unfold readScalar at hok
  split at hok
  · next found hfound =>
    cases hok
    obtain ⟨entry, hentry, hmade⟩ := List.exists_of_findSome?_eq_some hfound
    obtain ⟨behind, -, hpair⟩ := Option.map_eq_some_iff.1 hmade
    cases hpair
    exact hwords entry hentry
  · split at hok
    · exact withinLimit_of_readUnsigned hok
    · exact withinLimit_of_readUnsigned hok

/-- What is read with some fuel keeps the limit: a value does, and so do an array and an object if all does that
    has been read of them before. -/
structure KeepsLimit (fuel : Nat) : Prop where
  value : ∀ {levels cs value rest}, readValue fuel levels cs = .ok (value, rest) → value.withinLimit = true
  items : ∀ {levels out cs value rest}, (∀ item ∈ out, item.withinLimit = true) →
    readItems fuel levels out cs = .ok (value, rest) → value.withinLimit = true
  fields : ∀ {levels : Nat} {out : List (String × Json)} {cs : List Char} {value rest},
    (∀ field ∈ out, field.2.withinLimit = true) →
    readFields fuel levels out cs = .ok (value, rest) → value.withinLimit = true

theorem keepsLimit_zero : KeepsLimit 0 where
  value hok := by rw [readValue] at hok; cases hok
  items _ hok := by rw [readItems] at hok; cases hok
  fields _ hok := by rw [readFields] at hok; cases hok

section Step

variable {fuel levels : Nat} (hkeeps : KeepsLimit fuel)

include hkeeps

theorem withinLimit_of_readValue (hok : readValue (fuel + 1) levels cs = .ok (value, rest)) :
    value.withinLimit = true := by
  cases cs with
  | nil => rw [readValue] at hok; cases hok
  | cons c behind =>
    unfold readValue at hok
    split at hok
    · split at hok
      · cases hok
        rfl
      · cases hok
    · split at hok
      · split at hok
        · cases hok
        · cases hok
          rfl
        · exact hkeeps.items (fun item hitem => absurd hitem List.not_mem_nil) hok
      · split at hok
        · split at hok
          · cases hok
          · cases hok
            rfl
          · exact hkeeps.fields (fun field hfield => absurd hfield List.not_mem_nil) hok
        · exact withinLimit_of_readScalar hok

theorem withinLimit_of_readItems {out : List Json} (hout : ∀ item ∈ out, item.withinLimit = true)
    (hok : readItems (fuel + 1) levels out cs = .ok (value, rest)) : value.withinLimit = true := by
  unfold readItems at hok
  split at hok
  · cases hok
  · next item behind hitem =>
    have hmore : ∀ other ∈ item :: out, other.withinLimit = true :=
      List.forall_mem_cons.2 ⟨hkeeps.value hitem, hout⟩
    split at hok
    · exact hkeeps.items hmore hok
    · cases hok
      exact (itemsWithinLimit_iff _).2 (fun other hother => hmore other (List.mem_reverse.1 hother))
    · cases hok

theorem withinLimit_of_readFields {out : List (String × Json)} (hout : ∀ field ∈ out, field.2.withinLimit = true)
    (hok : readFields (fuel + 1) levels out cs = .ok (value, rest)) : value.withinLimit = true := by
  unfold readFields at hok
  split at hok
  · cases hok
  · split at hok
    · split at hok
      · cases hok
      · next name behind hname =>
        split at hok
        · split at hok
          · cases hok
          · next item behind hitem =>
            have hmore : ∀ field ∈ Table.put out name item, field.2.withinLimit = true := by
              intro field hfield
              rcases Table.eq_or_mem_of_mem_put hfield with rfl | hbefore
              · exact hkeeps.value hitem
              · exact hout field hbefore
            dsimp only at hok
            split at hok
            · exact hkeeps.fields hmore hok
            · cases hok
              exact (fieldsWithinLimit_iff _).2 hmore
            · cases hok
        · cases hok
    · cases hok

end Step

theorem keepsLimit (fuel : Nat) : KeepsLimit fuel := by
  induction fuel with
  | zero => exact keepsLimit_zero
  | succ fuel ih =>
    exact ⟨withinLimit_of_readValue ih, withinLimit_of_readItems ih, withinLimit_of_readFields ih⟩

/-- A value that was read can be written. -/
theorem withinLimit_of_read {text : String} {levels : Nat} (hok : read text levels = .ok value) :
    value.withinLimit = true := by
  unfold read at hok
  dsimp only at hok
  split at hok
  · cases hok
  · next found behind hfound =>
    split at hok
    · cases hok
      exact (keepsLimit _).value hfound
    · cases hok

end Reading

end Json

end EvmScope
