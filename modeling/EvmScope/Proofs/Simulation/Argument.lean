import EvmScope.Proofs.Text.Digit
import EvmScope.Proofs.Text.Numeral
import EvmScope.Proofs.Text.Utf8
import EvmScope.Simulation.Argument
import EvmScope.Simulation.Effect

set_option autoImplicit false

/-! # Spellings of a number

An integer or a truth value is passed as itself or as text. The check of an argument trims the text and takes
the truth values in any letters, but what is stored is made of the text as it was passed. Only a text that is
nothing but digits is read as a number there; every other spelling is stored by the bytes of its characters.
The bytes take two digits for each character at least, which are more than the number has, so such a word is
never the one of the number, and it differs from spelling to spelling. -/

namespace EvmScope

namespace Argument

/-- The types whose arguments denote numbers: integers and truth values. -/
def ArgumentType.isScalar : ArgumentType → Bool
  | .integer _ _ | .bool => true
  | .address | .bytes _ | .other => false

/-- The number that an argument denotes. Text is trimmed, and truth values count as one and zero. -/
def valueOf? : Json → Option Int
  | .bool value => some (if value then 1 else 0)
  | .int value => some value
  | .str text =>
    let spelled := trimBlanks text
    if toSmall spelled = "true" then some 1
    else if toSmall spelled = "false" then some 0
    else Numeral.read? .decimal spelled
  | _ => none

/-- An argument that is stored as the number it denotes: one that is no text, or decimal digits alone. -/
def isPlain : Json → Bool
  | .str text => text.toList.all isDecimalDigit
  | _ => true

/-- The word that an accepted argument of some value is stored as. -/
def storedWord (argument : Json) (n : Int) : String :=
  if isPlain argument then Numeral.hex n else "0x" ++ Draft.utf8Hex argument.display

variable {memory : Nat}

theorem ne_empty_of_check {argument : Json} {typeName : String}
    (hcheck : check argument typeName memory = .ok none) : argument ≠ .str "" := by
  rintro rfl
  cases hcheck

/-! ## Accepted text -/

/-- What a text that is accepted for an integer or a truth value looks like once it is trimmed. -/
structure Accepted (text : String) : Prop where
  ne_empty : text ≠ ""
  spelled : isSigned (trimBlanks text) = true
    ∨ toSmall (trimBlanks text) ∈ ["true", "false", "0", "1"]

theorem mem_dropLineEnd {cs : List Char} {c : Char} (hmem : c ∈ cs) (hc : c ≠ lineFeed) :
    c ∈ dropLineEnd cs := by
  unfold dropLineEnd
  split
  · next hlast =>
    rw [← List.dropLast_append_getLast? lineFeed hlast, List.mem_append, List.mem_singleton] at hmem
    exact hmem.resolve_right hc
  · exact hmem

theorem isDecimalDigit_of_isUnsigned {text : String} (htext : isUnsigned text = true) {c : Char}
    (hmem : c ∈ text.toList) (hc : c ≠ lineFeed) : isDecimalDigit c = true := by
  simp only [isUnsigned, Bool.and_eq_true, List.all_eq_true] at htext
  exact htext.2 c (mem_dropLineEnd hmem hc)

theorem isDecimalDigit_of_isSigned {text : String} (htext : isSigned text = true) {c : Char}
    (hmem : c ∈ text.toList) (hminus : c ≠ '-') (hc : c ≠ lineFeed) : isDecimalDigit c = true := by
  unfold isSigned at htext
  split at htext
  · next digits hdigits =>
    rw [hdigits] at hmem
    have hdigit : c ∈ (String.ofList digits).toList := by
      rw [String.toList_ofList]
      exact (List.mem_cons.1 hmem).resolve_left hminus
    exact isDecimalDigit_of_isUnsigned htext hdigit hc
  · exact isDecimalDigit_of_isUnsigned htext hmem hc

theorem isSigned_of_isUnsigned {text : String} (htext : isUnsigned text = true) :
    isSigned text = true := by
  unfold isSigned
  split
  · next digits hdigits =>
    have hminus : isDecimalDigit '-' = true :=
      isDecimalDigit_of_isUnsigned htext (by rw [hdigits]; exact List.mem_cons_self) (by decide)
    exact absurd hminus (by decide)
  · exact htext

theorem isSigned_of_checkSigned {text : String} {bits : Nat} (hok : checkSigned text bits memory = .ok none) :
    isSigned text = true := by
  unfold checkSigned at hok
  by_cases htext : isSigned text = true
  · exact htext
  · rw [eq_false_of_ne_true htext] at hok
    cases hok

theorem isUnsigned_of_checkUnsigned {text : String} {bits : Nat}
    (hok : checkUnsigned text bits memory = .ok none) : isUnsigned text = true := by
  unfold checkUnsigned at hok
  by_cases htext : isUnsigned text = true
  · exact htext
  · rw [eq_false_of_ne_true htext] at hok
    cases hok

/-- **The check** lets no other text pass. -/
theorem Accepted.of_check {text typeName : String} (hscalar : (typeOf typeName).isScalar = true)
    (hcheck : check (.str text) typeName memory = .ok none) : Accepted text := by
  unfold check at hcheck
  by_cases hempty : text = ""
  · rw [if_pos (by simp [isMissing, hempty])] at hcheck
    cases hcheck
  · rw [if_neg (by simp [isMissing, hempty])] at hcheck
    refine ⟨hempty, ?_⟩
    change checkTyped (trimBlanks text) (typeOf typeName) memory = .ok none at hcheck
    cases htype : typeOf typeName with
    | integer signed digits =>
      left
      rw [htype, checkTyped] at hcheck
      split at hcheck
      · cases hcheck
      · cases signed with
        | true =>
          rw [if_pos rfl] at hcheck
          exact isSigned_of_checkSigned hcheck
        | false =>
          rw [if_neg Bool.false_ne_true] at hcheck
          exact isSigned_of_isUnsigned (isUnsigned_of_checkUnsigned hcheck)
    | bool =>
      right
      rw [htype, checkTyped] at hcheck
      by_cases hword : ["true", "false", "0", "1"].contains (toSmall (trimBlanks text)) = true
      · exact List.contains_iff_mem.1 hword
      · rw [if_neg hword] at hcheck
        cases hcheck
    | address | bytes _ | other =>
      rw [htype] at hscalar
      cases hscalar

/-- Accepted text has no mark of hexadecimal digits. -/
theorem Accepted.no_mark {text : String} (htext : Accepted text) : 'x' ∉ text.toList := by
  intro hmem
  have hkept : 'x' ∈ (trimBlanks text).toList := mem_trimBlanks hmem (by decide)
  rcases htext.spelled with hsigned | hword
  · have hdigit := isDecimalDigit_of_isSigned hsigned hkept (by decide) (by decide)
    exact absurd hdigit (by decide)
  · have hsmall : 'x' ∈ (toSmall (trimBlanks text)).toList := toLower_mem_toSmall hkept (by decide)
    have hnone : ∀ word ∈ ["true", "false", "0", "1"], 'x' ∉ word.toList := by
      decide
    exact hnone _ hword hsmall

/-- Superscripts and the like are not accepted, nor are truth values without letters. -/
theorem Accepted.all_decimal {text : String} (htext : Accepted text)
    (hdigits : ∀ c ∈ text.toList, isDigitLike c = true) :
    ∀ c ∈ text.toList, isDecimalDigit c = true := by
  intro c hc
  have hspelled := htext.spelled
  rw [trimBlanks_of_isDigitLike hdigits, toSmall_of_isDigitLike hdigits] at hspelled
  rcases hspelled with hsigned | hword
  · have hlike := hdigits c hc
    refine isDecimalDigit_of_isSigned hsigned hc ?_ ?_
    · rintro rfl
      exact absurd hlike (by decide)
    · rintro rfl
      exact absurd hlike (by decide)
  · have hall : ∀ word ∈ ["true", "false", "0", "1"], word.toList.all isDigitLike = true →
        word.toList.all isDecimalDigit = true := by
      decide
    exact List.all_eq_true.1 (hall text hword (List.all_eq_true.2 hdigits)) c hc

/-! ## What is stored -/

/-- Decimal digits alone denote the number that they are read as. -/
theorem read_of_isPlain {text : String} {n : Int} (hplain : isPlain (.str text) = true)
    (hvalue : valueOf? (.str text) = some n) :
    Numeral.read .decimal text = .ok n := by
  have hdigits : ∀ c ∈ text.toList, isDigitLike c = true := fun c hc =>
    isDigitLike_of_isDecimalDigit (List.all_eq_true.1 hplain c hc)
  have hword : ∀ word ∈ ["true", "false"], text ≠ word := by
    intro word hmem hsame
    have hletters : ∀ word ∈ ["true", "false"], word.toList.all isDigitLike = false := by
      decide
    have hnone := hletters word hmem
    rw [← hsame, List.all_eq_true.2 hdigits] at hnone
    cases hnone
  rw [valueOf?, trimBlanks_of_isDigitLike hdigits, toSmall_of_isDigitLike hdigits, if_neg (hword _ List.mem_cons_self),
    if_neg (hword _ (List.mem_cons_of_mem _ List.mem_cons_self))] at hvalue
  exact Numeral.read_of_read? hvalue

/-- **What is stored** of an accepted argument. -/
theorem wordOf_eq {argument : Json} {typeName : String} {n : Int}
    (hscalar : (typeOf typeName).isScalar = true) (hcheck : check argument typeName memory = .ok none)
    (hvalue : valueOf? argument = some n) :
    Draft.wordOf argument = .ok (storedWord argument n) := by
  cases argument with
  | bool value =>
    cases hvalue
    rfl
  | int value =>
    cases hvalue
    rfl
  | str text =>
    have htext := Accepted.of_check hscalar hcheck
    have hunmarked : beginsWith text "0x" = false := by
      refine eq_false_of_ne_true (fun hmark => htext.no_mark ?_)
      exact (List.isPrefixOf_iff_prefix.1 hmark).subset (by decide)
    have hfilled : text.isEmpty = false := by
      rw [String.isEmpty_eq_false_iff]
      exact htext.ne_empty
    unfold Draft.wordOf storedWord
    dsimp only [Json.display]
    rw [hunmarked, hfilled, if_neg Bool.false_ne_true, Bool.not_false, Bool.true_and]
    by_cases hplain : isPlain (.str text) = true
    · have hdigits : text.toList.all isDigitLike = true :=
        List.all_eq_true.2 fun c hc =>
          isDigitLike_of_isDecimalDigit (List.all_eq_true.1 hplain c hc)
      rw [if_pos hdigits, if_pos hplain, read_of_isPlain hplain hvalue]
      rfl
    · have hdigits : ¬ text.toList.all isDigitLike = true := fun hall =>
        hplain (List.all_eq_true.2 (htext.all_decimal (List.all_eq_true.1 hall)))
      rw [if_neg hdigits, if_neg hplain]
  | null | float _ | arr _ | obj _ => cases hvalue

end Argument

/-! ## Bytes in digits -/

theorem Quoted.length_hexPadded_byte (byte : UInt8) : (hexPadded 2 byte.toNat).length = 2 := by
  have hall : ∀ n < 256, (hexPadded 2 n).length = 2 := by
    decide +kernel
  exact hall byte.toNat byte.toNat_lt

theorem Quoted.hexPadded_byte_injective :
    Function.Injective (fun byte : UInt8 => hexPadded 2 byte.toNat) := by
  have hread : ∀ n < 256, Numeral.ofDigits 16 (Numeral.runDigits 16 (hexPadded 2 n)) = n := by
    decide +kernel
  intro first second hsame
  dsimp only at hsame
  rw [← UInt8.toNat_inj, ← hread first.toNat first.toNat_lt, hsame, hread second.toNat second.toNat_lt]

/-- Pieces of one length, put behind one another, tell what they were made of. -/
theorem flatMap_injective {α β : Type} {f : α → List β} {size : Nat} (hsize : 0 < size)
    (hlength : ∀ a, (f a).length = size) (hf : Function.Injective f) :
    Function.Injective (fun l : List α => l.flatMap f) := by
  have hnone : ∀ l : List α, l.flatMap f = [] → l = [] := by
    intro l hl
    refine List.eq_nil_iff_forall_not_mem.2 (fun a ha => ?_)
    have hpiece := hlength a
    rw [List.flatMap_eq_nil_iff.1 hl a ha, List.length_nil] at hpiece
    omega
  intro first second hsame
  dsimp only at hsame
  induction first generalizing second with
  | nil => exact (hnone second hsame.symm).symm
  | cons a rest ih =>
    cases second with
    | nil => exact hnone _ hsame
    | cons b others =>
      rw [List.flatMap_cons, List.flatMap_cons] at hsame
      obtain ⟨hhead, htail⟩ := List.append_inj hsame ((hlength a).trans (hlength b).symm)
      rw [hf hhead, ih htail]

namespace Draft

theorem utf8Hex_eq (text : String) : utf8Hex text = String.ofList
    ((bytesOfChars text.toList).flatMap (fun byte => Quoted.hexPadded 2 byte.toNat)) := by
  rw [utf8Hex, toList_toUTF8]

theorem utf8Hex_injective : Function.Injective utf8Hex := by
  intro first second hsame
  have hdigits := congrArg String.toList hsame
  rw [utf8Hex_eq, utf8Hex_eq, String.toList_ofList, String.toList_ofList] at hdigits
  have hbytes := flatMap_injective (by decide) Quoted.length_hexPadded_byte
    Quoted.hexPadded_byte_injective hdigits
  exact String.toList_injective (bytesOfChars_injective hbytes)

/-- The bytes of a text have two digits for each of its characters at least. -/
theorem length_le_length_utf8Hex (text : String) :
    2 * text.toList.length ≤ (utf8Hex text).toList.length := by
  have hbytes := length_le_length_bytesOfChars text.toList
  have hsum : (utf8Hex text).toList.length = 2 * (bytesOfChars text.toList).length := by
    rw [utf8Hex_eq, String.toList_ofList, List.length_flatMap]
    simp [Quoted.length_hexPadded_byte, Nat.mul_comm]
  omega

end Draft

namespace Argument

theorem length_pos_of_ne_empty {text : String} (hempty : text ≠ "") : 0 < text.toList.length := by
  rw [List.length_pos_iff, ne_eq, String.toList_eq_nil_iff]
  exact hempty

/-- A text denotes a number of no more digits than it has characters. -/
theorem natAbs_lt_of_valueOf? {text : String} {n : Int} (hempty : text ≠ "")
    (hvalue : valueOf? (.str text) = some n) : n.natAbs < 16 ^ text.toList.length := by
  have hlength := length_pos_of_ne_empty hempty
  have hone : 1 < 16 ^ text.toList.length := Nat.one_lt_pow (by omega) (by decide)
  rw [valueOf?] at hvalue
  split at hvalue
  · cases hvalue
    exact hone
  · split at hvalue
    · cases hvalue
      exact Nat.zero_lt_of_lt hone
    · calc n.natAbs
          < 10 ^ (trimBlanks text).toList.length :=
          Numeral.natAbs_lt_of_read (Numeral.read_of_read? hvalue)
        _ ≤ 10 ^ text.toList.length :=
          Nat.pow_le_pow_right (by decide) (length_trimBlanks_le text)
        _ ≤ 16 ^ text.toList.length := Nat.pow_le_pow_left (by decide) _

/-- The bytes of a spelling are not the number in hexadecimal digits. -/
theorem utf8Hex_ne_hex {text : String} {n : Int} (hempty : text ≠ "")
    (hvalue : valueOf? (.str text) = some n) : "0x" ++ Draft.utf8Hex text ≠ Numeral.hex n := by
  intro hsame
  have hchars := congrArg String.toList hsame
  have hlength := length_pos_of_ne_empty hempty
  rw [String.toList_append, Numeral.toList_hex] at hchars
  by_cases hnegative : n < 0
  · rw [if_pos hnegative] at hchars
    exact absurd (List.cons.inj hchars).1 (by decide)
  · rw [if_neg hnegative] at hchars
    have hdigits : (Draft.utf8Hex text).toList = Nat.toDigits 16 n.natAbs :=
      (List.cons.inj (List.cons.inj hchars).2).2
    have hfew := (Nat.length_toDigits_le_iff (by decide) hlength).2
      (natAbs_lt_of_valueOf? hempty hvalue)
    have hmany := Draft.length_le_length_utf8Hex text
    rw [hdigits] at hmany
    omega

theorem exists_text_of_not_isPlain {argument : Json} (hplain : ¬ isPlain argument = true) :
    ∃ text, argument = .str text := by
  cases argument with
  | str text => exact ⟨text, rfl⟩
  | null | bool _ | int _ | float _ | arr _ | obj _ => exact absurd rfl hplain

/-- The number itself is stored exactly of plain arguments. -/
theorem storedWord_eq_hex_iff {argument : Json} {n : Int} (hempty : argument ≠ .str "")
    (hvalue : valueOf? argument = some n) :
    storedWord argument n = Numeral.hex n ↔ isPlain argument = true := by
  rw [storedWord]
  by_cases hplain : isPlain argument = true
  · rw [if_pos hplain]
    exact iff_of_true rfl hplain
  · obtain ⟨text, rfl⟩ := exists_text_of_not_isPlain hplain
    rw [if_neg hplain]
    exact iff_of_false (utf8Hex_ne_hex (fun hnone => hempty (congrArg Json.str hnone)) hvalue) hplain

/-- **Two arguments of one value** are stored alike exactly if both are plain or they are the same. -/
theorem storedWord_eq_iff {first second : Json} {n : Int} (hfirst_ne : first ≠ .str "")
    (hsecond_ne : second ≠ .str "") (hfirst : valueOf? first = some n)
    (hsecond : valueOf? second = some n) :
    storedWord first n = storedWord second n
      ↔ first = second ∨ (isPlain first = true ∧ isPlain second = true) := by
  have hfirst_hex := storedWord_eq_hex_iff hfirst_ne hfirst
  have hsecond_hex := storedWord_eq_hex_iff hsecond_ne hsecond
  constructor
  · intro hsame
    by_cases hplain : isPlain first = true
    · refine Or.inr ⟨hplain, hsecond_hex.1 ?_⟩
      rw [← hsame]
      exact hfirst_hex.2 hplain
    · have hother : ¬ isPlain second = true := fun hplain' =>
        hplain (hfirst_hex.1 (hsame.trans (hsecond_hex.2 hplain')))
      obtain ⟨text, rfl⟩ := exists_text_of_not_isPlain hplain
      obtain ⟨other, rfl⟩ := exists_text_of_not_isPlain hother
      rw [storedWord, if_neg hplain, storedWord, if_neg hother, String.append_right_inj] at hsame
      exact Or.inl (congrArg Json.str (Draft.utf8Hex_injective hsame))
  · rintro (rfl | ⟨hplain, hplain'⟩)
    · rfl
    · rw [hfirst_hex.2 hplain, hsecond_hex.2 hplain']

end Argument

end EvmScope
