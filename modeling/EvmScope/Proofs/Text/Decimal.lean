import EvmScope.Proofs.Text.Digit
import EvmScope.Proofs.Text.Numeral
import Mathlib.Data.List.Basic

set_option autoImplicit false

/-! # Decimal numerals in the digits of all scripts

A decimal digit of any script is read as the ASCII digit of its value. So a text that is nothing but digits,
with a sign in front and a line end behind if need be, is always a numeral, and it denotes the number of the
values of its digits. The one thing that can stand against it is its length. -/

namespace EvmScope.Numeral

/-! ## Digits -/

/-- The number that the decimal digits of any script denote. -/
def ofDecimalDigits (digits : List Char) : Nat :=
  ofDigits 10 (digits.filterMap decimalValue?)

/-- What a reader makes of a digit: a digit of ASCII with the same value. -/
theorem toPlain_of_decimalValue? {c : Char} {value : Nat} (hc : decimalValue? c = some value) :
    value < 10 ∧ toPlain c = asciiDigit value := by
  obtain ⟨first, hfirst, hvalue⟩ := Option.map_eq_some_iff.1 hc
  have hmem := List.mem_of_find?_eq_some hfirst
  have hrange : first ≤ c.toNat ∧ c.toNat < first + 10 := by
    simpa using List.find?_some hfirst
  refine ⟨by omega, ?_⟩
  unfold toPlain
  by_cases hascii : c.toNat < 127
  · -- only the zero of ASCII is that low
    have hlow : ∀ lowest ∈ digitZeros, lowest < 127 → lowest = 48 := by decide
    have hzero := hlow first hmem (by omega)
    rw [if_pos hascii, asciiDigit, ← hvalue, hzero, Nat.add_sub_cancel' (hzero ▸ hrange.1),
      Char.ofNat_toNat]
  · have hblank : isBlank c = false :=
      isBlank_of_isDigitLike (isDigitLike_of_isDecimalDigit (by rw [isDecimalDigit, hc]; rfl))
    rw [if_neg hascii, hblank, if_neg Bool.false_ne_true, hc]

theorem of_asciiDigit {value : Nat} (hvalue : value < 10) :
    digitValue? 10 (asciiDigit value) = some value ∧ isPlainBlank (asciiDigit value) = false
      ∧ asciiDigit value ≠ '_' ∧ asciiDigit value ≠ '-' ∧ asciiDigit value ≠ '+' := by
  have hall : ∀ value, value < 10 → digitValue? 10 (asciiDigit value) = some value
      ∧ isPlainBlank (asciiDigit value) = false ∧ asciiDigit value ≠ '_' ∧ asciiDigit value ≠ '-'
      ∧ asciiDigit value ≠ '+' := by
    decide
  exact hall value hvalue

/-- A decimal digit stands for its value in a run, and for nothing else. -/
theorem plain_of_isDecimalDigit {c : Char} (hc : isDecimalDigit c = true) :
    digitValue? 10 (toPlain c) = decimalValue? c ∧ inRun 10 (toPlain c) = true
      ∧ isPlainBlank (toPlain c) = false ∧ toPlain c ≠ '_' ∧ toPlain c ≠ '-' ∧ toPlain c ≠ '+' := by
  obtain ⟨value, hvalue⟩ := Option.isSome_iff_exists.1 hc
  obtain ⟨hsmall, hplain⟩ := toPlain_of_decimalValue? hvalue
  obtain ⟨hdigit, hrest⟩ := of_asciiDigit hsmall
  rw [hplain, hvalue]
  refine ⟨hdigit, ?_, hrest⟩
  rw [inRun, hdigit, Option.isSome_some, Bool.or_true]

/-! ## Numerals -/

/-- Decimal digits that blanks may follow. -/
structure DigitRun (digits behind : List Char) : Prop where
  ne_nil : digits ≠ []
  digits : ∀ c ∈ digits, isDecimalDigit c = true
  behind : ∀ c ∈ behind, isPlainBlank (toPlain c) = true

/-- The magnitude of digits, unless there are too many of them. -/
theorem magnitude_digitRun {digits behind : List Char} (hrun : DigitRun digits behind) :
    magnitude ⟨10, false, digits.map toPlain ++ behind.map toPlain⟩
      = if maxDigits < digits.length then .error (.tooLong digits.length)
        else .ok (some (ofDecimalDigits digits)) := by
  have hplain := fun c hc => plain_of_isDecimalDigit (hrun.digits c hc)
  have hinside : ∀ c ∈ digits.map toPlain, inRun 10 c = true ∧ c ≠ '_' := by
    intro c hc
    obtain ⟨d, hd, rfl⟩ := List.mem_map.1 hc
    exact ⟨(hplain d hd).2.1, (hplain d hd).2.2.2.1⟩
  have hblank : ∀ c ∈ behind.map toPlain, isPlainBlank c = true := by
    intro c hc
    obtain ⟨d, hd, rfl⟩ := List.mem_map.1 hc
    exact hrun.behind d hd
  obtain ⟨htake, hdrop⟩ := span_run_append (fun c hc => (hinside c hc).1) hblank
  have hdigits : runDigits 10 (digits.map toPlain) = digits.filterMap decimalValue? := by
    rw [runDigits, List.filterMap_map]
    exact List.filterMap_congr (fun c hc => (hplain c hc).1)
  have hlength : (digits.filterMap decimalValue?).length = digits.length :=
    List.filterMap_length_eq_length.2 hrun.digits
  have hseparated : separated false (digits.map toPlain) = true := by
    rw [separated_of_no_underscore _ (fun c hc => (hinside c hc).2)]
    simpa using hrun.ne_nil
  unfold magnitude
  simp only [htake, hdrop, hdigits, hlength, hseparated, List.all_eq_true.2 hblank]
  by_cases hlong : maxDigits < digits.length
  · simp [hlong]
  · simp [hlong, ofDecimalDigits]

/-- In front of digits no more than the sign is taken off. -/
theorem splitSign_digitRun {digits behind : List Char} (hrun : DigitRun digits behind) (negative : Bool) :
    splitSign ((((if negative then ['-'] else []) ++ digits ++ behind).map toPlain).dropWhile isPlainBlank)
      = (negative, digits.map toPlain ++ behind.map toPlain) := by
  cases negative with
  | true =>
    rw [if_pos rfl, List.append_assoc, List.map_append, List.map_append]
    rfl
  | false =>
    rw [if_neg Bool.false_ne_true, List.nil_append, List.map_append]
    cases hdigits : digits with
    | nil => exact absurd hdigits hrun.ne_nil
    | cons c rest =>
      obtain ⟨-, -, hblank, -, hminus, hplus⟩ :=
        plain_of_isDecimalDigit (hrun.digits c (hdigits ▸ List.mem_cons_self))
      rw [List.map_cons, List.cons_append,
        List.dropWhile_cons_of_neg (by rw [hblank]; exact Bool.false_ne_true)]
      exact splitSign_of_ne hminus hplus _

/-- **Decimal digits with a sign** denote their number, unless there are too many of them. -/
theorem read_digitRun {digits behind : List Char} (hrun : DigitRun digits behind) (negative : Bool) :
    read .decimal (String.ofList ((if negative then ['-'] else []) ++ digits ++ behind))
      = if maxDigits < digits.length then .error (.tooLong digits.length)
        else .ok (if negative then -(ofDecimalDigits digits : Int) else ofDecimalDigits digits) := by
  have hsettle : settle .decimal (digits.map toPlain ++ behind.map toPlain)
      = ⟨10, false, digits.map toPlain ++ behind.map toPlain⟩ := by
    unfold settle
    rfl
  unfold read
  rw [String.toList_ofList, splitSign_digitRun hrun]
  dsimp only
  rw [hsettle, magnitude_digitRun hrun]
  by_cases hlong : maxDigits < digits.length
  · rw [if_pos hlong, if_pos hlong]
  · rw [if_neg hlong, if_neg hlong]

/-- Digits that are not too many are read. -/
theorem read_decimalDigits (negative : Bool) {digits : List Char} (hne : digits ≠ [])
    (hdigits : ∀ c ∈ digits, isDecimalDigit c = true) (hshort : digits.length ≤ maxDigits) :
    read .decimal (String.ofList ((if negative then ['-'] else []) ++ digits))
      = .ok (if negative then -(ofDecimalDigits digits : Int) else ofDecimalDigits digits) := by
  have hrun := read_digitRun ⟨hne, hdigits, fun c hc => absurd hc List.not_mem_nil⟩ negative
  rw [List.append_nil] at hrun
  rw [hrun]
  exact if_neg (by omega)

/-! ## Written numerals -/

/-- Written digits are decimal digits with the number that was written. -/
theorem isDecimalDigit_of_mem_toDigits {n : Nat} {c : Char} (hc : c ∈ Nat.toDigits 10 n) :
    isDecimalDigit c = true := by
  obtain ⟨digit, hdigit, rfl⟩ := exists_digit_of_mem_toDigits 10 n (by decide) c hc
  have hall : ∀ d, d < 10 → isDecimalDigit (Nat.digitChar d) = true := by decide
  exact hall digit hdigit

theorem ofDecimalDigits_toDigits (n : Nat) : ofDecimalDigits (Nat.toDigits 10 n) = n := by
  have hvalues : (Nat.toDigits 10 n).filterMap decimalValue? = runDigits 10 (Nat.toDigits 10 n) := by
    refine List.filterMap_congr (fun c hc => ?_)
    have hplain := (plain_of_isDecimalDigit (isDecimalDigit_of_mem_toDigits hc)).1
    rw [(char_of_mem_toDigits 10 n (by decide) (by decide) c hc).2.2] at hplain
    exact hplain.symm
  rw [ofDecimalDigits, hvalues, ofDigits_runDigits_toDigits 10 n (by decide) (by decide)]

theorem toList_decimal_natCast (n : Nat) : (decimal n).toList = Nat.toDigits 10 n := by
  rw [toList_decimal, if_neg (by omega), Int.natAbs_natCast]

theorem decimal_ne_empty (n : Int) : decimal n ≠ "" := by
  intro hempty
  have hlist := congrArg String.toList hempty
  rw [toList_decimal] at hlist
  split at hlist
  · cases hlist
  · exact Nat.toDigits_ne_nil hlist

end EvmScope.Numeral
