import EvmScope.Proofs.Simulation.Argument
import EvmScope.Proofs.Text.Decimal
import EvmScope.Proofs.Traversal

set_option autoImplicit false

/-! # Checks that cannot be made

To check an argument against an integer type is to compute with numbers that the texts spell: the bits of
the type, the value of the argument, and the power of two that bounds it. A text can be too long to be
read, a power too large to be held, and a signed type of no bits has no bound at all. `Argument.Breaks`
lists these cases; in all others a check comes to a verdict, whatever the type is called and whatever the
argument is. -/

namespace EvmScope

namespace Argument

/-- The digits of an integer in decimal form. -/
def digitsOf (text : String) : List Char :=
  match text.toList with
  | '-' :: digits => dropLineEnd digits
  | cs => dropLineEnd cs

/-- The number of bits of an integer type with some digits in its name. -/
def bitsOf (digits : List Char) : Nat :=
  if digits.isEmpty then 256 else Numeral.ofDecimalDigits digits

/-- The largest exponent of a power of two that can be computed where so many bits fit into memory. -/
def mostPower (memory : Nat) : Nat := min mostBits memory

/-- An integer cannot be compared with the bounds of its type: the type has no signed integers, or the text
    or the bound has too many digits. -/
def BreaksBounds (text : String) (signed : Bool) (bits memory : Nat) : Prop :=
  (if signed then isSigned text else isUnsigned text) = true
    ∧ (Numeral.maxDigits < (digitsOf text).length ∨ (signed = true ∧ bits = 0)
      ∨ mostPower memory < if signed then bits - 1 else bits)

/-- An argument cannot be checked against a type: the size in the name of the type has too many digits, or
    the argument cannot be compared with the bounds. -/
def Breaks (value : Json) (typeName : String) (memory : Nat) : Prop :=
  isMissing value = false ∧
    match typeOf typeName with
    | .integer signed digits =>
      Numeral.maxDigits < digits.length ∨ BreaksBounds (textOf value) signed (bitsOf digits) memory
    | .bytes size => isHexBytes (textOf value) = true ∧ Numeral.maxDigits < size.length
    | .address | .bool | .other => False

/-! ## Reading integers -/

theorem dropLineEnd_append (cs : List Char) :
    ∃ behind, cs = dropLineEnd cs ++ behind ∧ ∀ c ∈ behind, c = lineFeed := by
  unfold dropLineEnd
  by_cases hlast : cs.getLast? = some lineFeed
  · rw [if_pos hlast]
    exact ⟨[lineFeed], (List.dropLast_append_getLast? lineFeed hlast).symm,
      fun c hc => List.mem_singleton.1 hc⟩
  · rw [if_neg hlast]
    exact ⟨[], (List.append_nil cs).symm, fun c hc => absurd hc List.not_mem_nil⟩

/-- Text of digits fails to be read only for its length. -/
theorem read_of_digits {cs : List Char} (hne : (dropLineEnd cs).isEmpty = false)
    (hdigits : (dropLineEnd cs).all isDecimalDigit = true) (negative : Bool) :
    ∃ n, Numeral.read .decimal (String.ofList ((if negative then ['-'] else []) ++ cs))
      = if Numeral.maxDigits < (dropLineEnd cs).length then .error (.tooLong (dropLineEnd cs).length)
        else .ok n := by
  obtain ⟨behind, hcs, hbehind⟩ := dropLineEnd_append cs
  have hrun : Numeral.DigitRun (dropLineEnd cs) behind := by
    refine ⟨?_, fun c hc => List.all_eq_true.1 hdigits c hc, fun c hc => ?_⟩
    · intro hnil
      rw [hnil] at hne
      cases hne
    · rw [hbehind c hc]
      decide
  have hread := Numeral.read_digitRun hrun negative
  rw [List.append_assoc, ← hcs] at hread
  exact ⟨_, hread⟩

/-- An integer in decimal form has a sign or not, and its digits behind that. -/
theorem exists_sign_of_isSigned {text : String} (htext : isSigned text = true) :
    ∃ (negative : Bool) (cs : List Char), text.toList = (if negative then ['-'] else []) ++ cs
      ∧ digitsOf text = dropLineEnd cs ∧ (dropLineEnd cs).isEmpty = false
      ∧ (dropLineEnd cs).all isDecimalDigit = true := by
  by_cases hminus : ∃ cs, text.toList = '-' :: cs
  · obtain ⟨cs, hcs⟩ := hminus
    rw [isSigned, hcs] at htext
    simp only [isUnsigned, String.toList_ofList, Bool.and_eq_true, Bool.not_eq_true'] at htext
    have hdigits : digitsOf text = dropLineEnd cs := by
      rw [digitsOf, hcs]
      rfl
    exact ⟨true, cs, hcs, hdigits, htext⟩
  · have hplain : isSigned text = isUnsigned text := by
      unfold isSigned
      split
      · next cs hcs => exact absurd ⟨cs, hcs⟩ hminus
      · rfl
    have hdigits : digitsOf text = dropLineEnd text.toList := by
      unfold digitsOf
      split
      · next cs hcs => exact absurd ⟨cs, hcs⟩ hminus
      · rfl
    rw [hplain] at htext
    simp only [isUnsigned, Bool.and_eq_true, Bool.not_eq_true'] at htext
    exact ⟨false, text.toList, rfl, hdigits, htext⟩

theorem read_of_isSigned {text : String} (htext : isSigned text = true) :
    ∃ n, Numeral.read .decimal text
      = if Numeral.maxDigits < (digitsOf text).length then .error (.tooLong (digitsOf text).length)
        else .ok n := by
  obtain ⟨negative, cs, hcs, hdigits, hne, hall⟩ := exists_sign_of_isSigned htext
  obtain ⟨n, hread⟩ := read_of_digits hne hall negative
  rw [← hcs, String.ofList_toList] at hread
  rw [hdigits]
  exact ⟨n, hread⟩

/-! ## Bounds -/

theorem exists_checkPower_error_iff (bits memory : Nat) :
    (∃ fault, checkPower bits memory = .error fault) ↔ mostPower memory < bits := by
  rw [mostPower, min_lt_iff]
  unfold checkPower
  by_cases hlarge : mostBits < bits
  · simp [hlarge]
  · by_cases hbeyond : memory < bits
    · simp [hlarge, hbeyond]
    · simp [hlarge, hbeyond]

theorem exists_map_error_iff {α β : Type} {step : Except Fault α} {f : α → β} :
    (∃ fault, step.map f = .error fault) ↔ ∃ fault, step = .error fault := by
  cases step with
  | error fault => simp [Except.map]
  | ok a => simp [Except.map]

theorem exists_checkUnsigned_error_iff (text : String) (bits memory : Nat) :
    (∃ fault, checkUnsigned text bits memory = .error fault) ↔ BreaksBounds text false bits memory := by
  unfold checkUnsigned BreaksBounds
  by_cases htext : isUnsigned text = true
  · obtain ⟨n, hread⟩ := read_of_isSigned (isSigned_of_isUnsigned htext)
    by_cases hlong : Numeral.maxDigits < (digitsOf text).length
    · simp [htext, hread, hlong]
    · simp [htext, hread, hlong, exists_map_error_iff, exists_checkPower_error_iff]
  · simp [htext]

theorem exists_checkSigned_error_iff (text : String) (bits memory : Nat) :
    (∃ fault, checkSigned text bits memory = .error fault) ↔ BreaksBounds text true bits memory := by
  unfold checkSigned BreaksBounds
  by_cases htext : isSigned text = true
  · obtain ⟨n, hread⟩ := read_of_isSigned htext
    by_cases hlong : Numeral.maxDigits < (digitsOf text).length
    · simp [htext, hread, hlong]
    · by_cases hnone : bits = 0
      · simp [htext, hread, hlong, hnone]
      · simp [htext, hread, hlong, hnone, exists_map_error_iff, exists_checkPower_error_iff]
  · simp [htext]

/-! ## Types -/

theorem isDecimalDigit_of_digitsBehind? {word : String} {cs digits : List Char}
    (hdigits : digitsBehind? word cs = some digits) : ∀ c ∈ digits, isDecimalDigit c = true := by
  unfold digitsBehind? at hdigits
  dsimp only at hdigits
  split at hdigits
  · next hfits =>
    cases hdigits
    exact List.all_eq_true.1 (Bool.and_eq_true_iff.1 hfits).2
  · cases hdigits

/-- The digits in the name of a type. -/
def ArgumentType.digits : ArgumentType → List Char
  | .integer _ bits => bits
  | .bytes size => size
  | .address | .bool | .other => []

theorem isDecimalDigit_of_typeOf {name : String} : ∀ c ∈ (typeOf name).digits, isDecimalDigit c = true := by
  unfold typeOf
  dsimp only
  split
  · next hbits => exact isDecimalDigit_of_digitsBehind? hbits
  · next hbits _ => exact isDecimalDigit_of_digitsBehind? hbits
  · next hsize _ _ => exact isDecimalDigit_of_digitsBehind? hsize
  · intro c hc
    by_cases haddress : name = "address"
    · rw [if_pos haddress] at hc
      exact absurd hc List.not_mem_nil
    · rw [if_neg haddress] at hc
      by_cases hbool : name = "bool"
      · rw [if_pos hbool] at hc
        exact absurd hc List.not_mem_nil
      · rw [if_neg hbool] at hc
        exact absurd hc List.not_mem_nil

/-- The size in the name of a type is its number, unless it has too many digits. -/
theorem numberOf_eq {digits : List Char} (hne : digits.isEmpty = false)
    (hdigits : ∀ c ∈ digits, isDecimalDigit c = true) :
    numberOf digits = if Numeral.maxDigits < digits.length then .error (.numeral (.tooLong digits.length))
      else .ok (Numeral.ofDecimalDigits digits) := by
  have hrun : Numeral.DigitRun digits [] := by
    refine ⟨?_, hdigits, fun c hc => absurd hc List.not_mem_nil⟩
    intro hnil
    rw [hnil] at hne
    cases hne
  have hread := Numeral.read_digitRun hrun false
  rw [if_neg Bool.false_ne_true, List.nil_append, List.append_nil] at hread
  rw [numberOf, hread]
  by_cases hlong : Numeral.maxDigits < digits.length
  · rw [if_pos hlong, if_pos hlong]
    rfl
  · rw [if_neg hlong, if_neg hlong]
    rfl

theorem exists_checkBytes_error_iff (text : String) {size : List Char}
    (hsize : ∀ c ∈ size, isDecimalDigit c = true) : (∃ fault, checkBytes text size = .error fault)
      ↔ isHexBytes text = true ∧ Numeral.maxDigits < size.length := by
  unfold checkBytes
  by_cases htext : isHexBytes text = true
  · by_cases hne : size.isEmpty = true
    · simp [htext, List.isEmpty_iff.1 hne]
    · rw [numberOf_eq (eq_false_of_ne_true hne) hsize]
      by_cases hlong : Numeral.maxDigits < size.length
      · simp [htext, hne, hlong, Except.map]
      · simp [htext, hne, hlong, Except.map]
  · simp [htext]

theorem exists_checkInteger_error_iff (text : String) (signed : Bool) {digits : List Char}
    (hdigits : ∀ c ∈ digits, isDecimalDigit c = true) (memory : Nat) :
    (∃ fault, checkTyped text (.integer signed digits) memory = .error fault)
      ↔ Numeral.maxDigits < digits.length ∨ BreaksBounds text signed (bitsOf digits) memory := by
  have hbits : (if digits.isEmpty = true then .ok 256 else numberOf digits)
      = if Numeral.maxDigits < digits.length then .error (.numeral (.tooLong digits.length))
        else .ok (bitsOf digits) := by
    unfold bitsOf
    by_cases hne : digits.isEmpty = true
    · rw [if_pos hne, if_pos hne, if_neg (by simp [List.isEmpty_iff.1 hne])]
    · rw [if_neg hne, if_neg hne, numberOf_eq (eq_false_of_ne_true hne) hdigits]
  unfold checkTyped
  dsimp only
  rw [hbits]
  by_cases hlong : Numeral.maxDigits < digits.length
  · simp [hlong]
  · cases signed with
    | true => simp [hlong, exists_checkSigned_error_iff]
    | false => simp [hlong, exists_checkUnsigned_error_iff]

/-- **A check** fails to come to a verdict exactly in the listed cases. -/
theorem exists_check_error_iff (value : Json) (typeName : String) (memory : Nat) :
    (∃ fault, check value typeName memory = .error fault) ↔ Breaks value typeName memory := by
  have hdigits : ∀ c ∈ (typeOf typeName).digits, isDecimalDigit c = true := isDecimalDigit_of_typeOf
  unfold check Breaks
  by_cases hmissing : isMissing value = true
  · simp [hmissing]
  · rw [if_neg hmissing, eq_false_of_ne_true hmissing, eq_self, true_and]
    cases htype : typeOf typeName with
    | integer signed digits => exact exists_checkInteger_error_iff _ signed (by rwa [htype] at hdigits) memory
    | bytes size => exact exists_checkBytes_error_iff _ (by rwa [htype] at hdigits)
    | address =>
      simp only [checkTyped, checkAddress, checkText]
      split
      · simp
      · simp
    | bool => simp [checkTyped]
    | other => simp [checkTyped]

/-- A long run of digits breaks the check against the commonest type. -/
theorem breaks_of_long {text : String} (hdigits : ∀ c ∈ text.toList, isDecimalDigit c = true)
    (hlong : Numeral.maxDigits < text.toList.length) (memory : Nat) :
    Breaks (.str text) "uint256" memory := by
  have hlike : ∀ c ∈ text.toList, isDigitLike c = true := fun c hc =>
    isDigitLike_of_isDecimalDigit (hdigits c hc)
  have htext : textOf (.str text) = text := trimBlanks_of_isDigitLike hlike
  have hkept : dropLineEnd text.toList = text.toList := by
    unfold dropLineEnd
    refine if_neg (fun hlast => ?_)
    exact absurd (hdigits lineFeed (List.mem_of_getLast? hlast)) (by decide)
  have hne : text.toList ≠ [] := by
    intro hnil
    rw [hnil] at hlong
    exact Nat.not_lt_zero _ hlong
  have hplain : digitsOf text = text.toList := by
    unfold digitsOf
    split
    · next digits hcs => exact absurd (hdigits '-' (by rw [hcs]; exact List.mem_cons_self)) (by decide)
    · exact hkept
  have hmissing : isMissing (.str text) = false := by
    simp only [isMissing, decide_eq_false_iff_not]
    rintro rfl
    exact hne rfl
  refine ⟨hmissing, Or.inr ⟨?_, Or.inl ?_⟩⟩
  · rw [if_neg Bool.false_ne_true, htext, isUnsigned, hkept, List.isEmpty_eq_false_iff.2 hne]
    exact List.all_eq_true.2 hdigits
  · rw [htext, hplain]
    exact hlong

end Argument

end EvmScope
