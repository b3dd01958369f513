import EvmScope.Proofs.Bytecode.Hexadecimal
import EvmScope.Proofs.Simulation.Range

set_option autoImplicit false

/-! # Addresses and transaction hashes

Addresses and transaction hashes have one grammar with two lengths: the mark `0x` and a fixed number of
hexadecimal digits of ASCII, small or capital. The checks look at a text without the line end behind it,
so next to the texts of the grammar (`IsMarkedHex`) they take these texts with one line end, and nothing
else: no other character behind the last digit and no digit of another script. -/

namespace EvmScope.Argument

/-- The hexadecimal digits of ASCII, small and capital. -/
def hexDigits : List Char :=
  "0123456789abcdefABCDEF".toList

/-- The mark `0x` and a number of hexadecimal digits, with nothing behind them. -/
def IsMarkedHex (length : Nat) (cs : List Char) : Prop :=
  ∃ digits, cs = '0' :: 'x' :: digits ∧ digits.length = length ∧ ∀ c ∈ digits, c ∈ hexDigits

/-! ## Digits -/

theorem isHexDigit_iff (c : Char) : isHexDigit c = true ↔ c ∈ hexDigits := by
  constructor
  · intro hc
    obtain ⟨value, hvalue⟩ := Option.isSome_iff_exists.1 hc
    obtain ⟨hlt, rfl | rfl⟩ := (Numeral.digitValue?_eq_some_iff c value).1 hvalue
    · have hall : ∀ v, v < 16 → Nat.digitChar v ∈ hexDigits := by decide
      exact hall value hlt
    · have hall : ∀ v, v < 16 → (Nat.digitChar v).toUpper ∈ hexDigits := by decide
      exact hall value hlt
  · intro hc
    have hall : hexDigits.all isHexDigit = true := by decide
    exact List.all_eq_true.1 hall c hc

theorem lineFeed_not_mem_hexDigits : lineFeed ∉ hexDigits := by
  decide

/-! ## Marked hexadecimal text -/

section MarkedHex

variable {length : Nat} {cs : List Char}

theorem IsMarkedHex.ne_lineFeed (hcs : IsMarkedHex length cs) : ∀ c ∈ cs, c ≠ lineFeed := by
  obtain ⟨digits, rfl, -, hdigits⟩ := hcs
  intro c hc
  rcases List.mem_cons.1 hc with rfl | hc
  · decide
  rcases List.mem_cons.1 hc with rfl | hc
  · decide
  rintro rfl
  exact lineFeed_not_mem_hexDigits (hdigits _ hc)

/-- A text with a line end behind it is not of the grammar itself. -/
theorem not_isMarkedHex_concat : ¬ IsMarkedHex length (cs ++ [lineFeed]) := by
  intro hcs
  exact hcs.ne_lineFeed lineFeed (List.mem_append_right _ List.mem_cons_self) rfl

theorem isHexOf_iff_dropLineEnd (text : String) :
    isHexOf length text = true ↔ IsMarkedHex length (dropLineEnd text.toList) := by
  unfold isHexOf IsMarkedHex
  split
  · rename_i digits hdigits
    simp only [hdigits, Bool.and_eq_true, decide_eq_true_eq, List.all_eq_true, isHexDigit_iff]
    constructor
    · rintro ⟨hlength, hall⟩
      exact ⟨digits, rfl, hlength, hall⟩
    · rintro ⟨found, hfound, hlength, hall⟩
      cases hfound
      exact ⟨hlength, hall⟩
  · rename_i hother
    constructor
    · intro hfalse
      cases hfalse
    · rintro ⟨digits, hdigits, -⟩
      exact absurd hdigits (hother digits)

/-- **Texts that are taken** are those of the grammar, with a line end behind them or not. -/
theorem isHexOf_iff (text : String) :
    isHexOf length text = true ↔ IsMarkedHex length text.toList
      ∨ ∃ cs, IsMarkedHex length cs ∧ text.toList = cs ++ [lineFeed] := by
  rw [isHexOf_iff_dropLineEnd]
  by_cases hlast : text.toList.getLast? = some lineFeed
  · have hsplit := List.dropLast_append_getLast? lineFeed hlast
    rw [dropLineEnd, if_pos hlast]
    constructor
    · intro hhex
      exact Or.inr ⟨_, hhex, hsplit.symm⟩
    · rintro (hhex | ⟨cs, hhex, hcs⟩)
      · rw [← hsplit] at hhex
        exact absurd hhex not_isMarkedHex_concat
      · rw [hcs, List.dropLast_concat]
        exact hhex
  · rw [dropLineEnd, if_neg hlast]
    constructor
    · exact Or.inl
    · rintro (hhex | ⟨cs, -, hcs⟩)
      · exact hhex
      · rw [hcs, List.getLast?_concat] at hlast
        exact absurd rfl hlast

end MarkedHex

/-! ## Checks -/

/-- What a check of marked hexadecimal text of a length says of a text. -/
structure ChecksMarkedHex (check : Json → Except Fault Verdict) (length : Nat)
    (absent bad : ArgumentProblem) (text : String) : Prop where
  /-- It accepts the texts of the grammar and these texts with a line end. -/
  accepts_iff : check (.str text) = .ok none ↔ IsMarkedHex length text.toList
    ∨ ∃ cs, IsMarkedHex length cs ∧ text.toList = cs ++ [lineFeed]
  /-- It decides the grammar of a text exactly if the text is none with a line end. -/
  decides_iff : (check (.str text) = .ok none ↔ IsMarkedHex length text.toList)
    ↔ ¬ ∃ cs, IsMarkedHex length cs ∧ text.toList = cs ++ [lineFeed]
  /-- Every other text is refused, as missing if it is empty and as malformed if not. -/
  refuses : check (.str text) ≠ .ok none →
    check (.str text) = .ok (some (if text = "" then absent else bad))

theorem checkText_str (absent bad : ArgumentProblem) (fits : String → Bool) (text : String) :
    checkText (.str text) absent bad fits
      = .ok (if text = "" then some absent else if fits text = true then none else some bad) := by
  by_cases htext : text = ""
  · simp [checkText, Json.isPresent, htext]
  · simp [checkText, Json.isPresent, htext]

theorem checksMarkedHex_checkText (length : Nat) (absent bad : ArgumentProblem) (text : String) :
    ChecksMarkedHex (fun value => checkText value absent bad (isHexOf length)) length absent bad text := by
  have hempty : isHexOf length "" = false := rfl
  have haccepts : checkText (.str text) absent bad (isHexOf length) = .ok none
      ↔ isHexOf length text = true := by
    rw [checkText_str]
    by_cases htext : text = ""
    · simp [htext, hempty]
    · simp [htext]
  refine ⟨haccepts.trans (isHexOf_iff text), ?_, fun hrefused => ?_⟩
  · rw [haccepts, isHexOf_iff]
    constructor
    · rintro hsame ⟨cs, hhex, hcs⟩
      -- it is accepted, but not of the grammar
      have hmarked := hsame.1 (Or.inr ⟨cs, hhex, hcs⟩)
      rw [hcs] at hmarked
      exact not_isMarkedHex_concat hmarked
    · intro hnone
      exact or_iff_left hnone
  · rw [Ne, haccepts] at hrefused
    rw [checkText_str, if_neg hrefused]
    by_cases htext : text = ""
    · rw [if_pos htext, if_pos htext]
    · rw [if_neg htext, if_neg htext]

/-- **Addresses and transaction hashes** are accepted exactly if they are `0x` and forty or sixty-four
    hexadecimal digits of ASCII, with a line end allowed behind the last digit. -/
theorem checks_address_and_hash (text : String) :
    ChecksMarkedHex checkAddress 40 .emptyAddress .badAddress text
      ∧ ChecksMarkedHex checkHash 64 .emptyHash .badHash text :=
  ⟨checksMarkedHex_checkText 40 .emptyAddress .badAddress text,
    checksMarkedHex_checkText 64 .emptyHash .badHash text⟩

/-- The mark `0x`, zeros, and a line end. -/
def zerosWithLineEnd (length : Nat) : String :=
  String.ofList ('0' :: 'x' :: (List.replicate length '0' ++ [lineFeed]))

/-- An address and a transaction hash with a line end behind the last digit are accepted, although they
    are not of the grammar. -/
theorem checks_accept_lineEnd :
    checkAddress (.str (zerosWithLineEnd 40)) = .ok none
      ∧ ¬ IsMarkedHex 40 (zerosWithLineEnd 40).toList
      ∧ checkHash (.str (zerosWithLineEnd 64)) = .ok none
      ∧ ¬ IsMarkedHex 64 (zerosWithLineEnd 64).toList := by
  have hends : ∀ length : Nat, (zerosWithLineEnd length).toList
      = ('0' :: 'x' :: List.replicate length '0') ++ [lineFeed] := fun _ => String.toList_ofList
  refine ⟨rfl, ?_, rfl, ?_⟩
  · rw [hends]
    exact not_isMarkedHex_concat
  · rw [hends]
    exact not_isMarkedHex_concat

end EvmScope.Argument
