import EvmScope.Proofs.Simulation.Checking
import Mathlib.Algebra.Ring.Int.Defs

set_option autoImplicit false

/-! # Integer arguments and the range of their type

An integer type has a sign or not and a number of bits, and its name says both. An argument fits it if its
text, blanks around it left out, is an integer in decimal digits of any script (`IsInteger`) that lies in
the range of the type (`InRange`). The check computes this from three patterns, the number that the text
spells, and a power of two that bounds it. Trimming leaves no line end for the patterns to pass over, and the
number of binary digits of a number is within the bits of a type exactly if the number is within its range.
The power of two is what stands in the way: beyond the bits that a number can have, or that there is memory
for, the check of an integer comes to no verdict. -/

namespace EvmScope

namespace Argument

/-- Text is an integer of some value: decimal digits, with a minus sign allowed in front if it is signed. -/
inductive IsInteger (signed : Bool) : String → Int → Prop
  | plain {digits : List Char} (hne : digits ≠ []) (hdigits : ∀ c ∈ digits, isDecimalDigit c = true) :
    IsInteger signed (String.ofList digits) (Numeral.ofDecimalDigits digits)
  | negative {digits : List Char} (hsigned : signed = true) (hne : digits ≠ [])
    (hdigits : ∀ c ∈ digits, isDecimalDigit c = true) :
    IsInteger signed (String.ofList ('-' :: digits)) (-(Numeral.ofDecimalDigits digits : Int))

/-- The range of integers of some bits. -/
def InRange (signed : Bool) (bits : Nat) (value : Int) : Prop :=
  if signed then -(2 ^ (bits - 1)) ≤ value ∧ value < 2 ^ (bits - 1) else 0 ≤ value ∧ value < 2 ^ bits

/-- The name of the type of integers of some bits. -/
def integerName (signed : Bool) (bits : Nat) : String :=
  (if signed then "int" else "uint") ++ Numeral.decimal bits

/-- The exponent of the power of two that bounds the integers of some bits. -/
def boundBits (signed : Bool) (bits : Nat) : Nat :=
  if signed then bits - 1 else bits

/-! ## Names of types -/

/-- Text without a line end behind it is left as it is. -/
theorem dropLineEnd_of_getLast? {cs : List Char} (hcs : ∀ c ∈ cs.getLast?, c ≠ lineFeed) :
    dropLineEnd cs = cs := by
  unfold dropLineEnd
  exact if_neg (fun hlast => hcs lineFeed hlast rfl)

theorem ne_lineFeed_of_isDecimalDigit {c : Char} (hc : isDecimalDigit c = true) : c ≠ lineFeed := by
  rintro rfl
  exact absurd hc (by decide)

/-- Digits are left as they are too. -/
theorem dropLineEnd_of_digits {digits : List Char} (hdigits : ∀ c ∈ digits, isDecimalDigit c = true) :
    dropLineEnd digits = digits :=
  dropLineEnd_of_getLast? (fun c hc => ne_lineFeed_of_isDecimalDigit (hdigits c (List.mem_of_getLast? hc)))

/-- Digits behind a word are found there. -/
theorem digitsBehind?_append (word : String) {digits : List Char}
    (hdigits : ∀ c ∈ digits, isDecimalDigit c = true) :
    digitsBehind? word (word.toList ++ digits) = some digits := by
  have hbehind : (word.toList ++ digits).drop word.length = digits := by
    rw [← String.length_toList, List.drop_left]
  have hword : word.toList.isPrefixOf (word.toList ++ digits) = true :=
    List.isPrefixOf_iff_prefix.2 (List.prefix_append _ _)
  unfold digitsBehind?
  simp only [hbehind, dropLineEnd_of_digits hdigits, hword, List.all_eq_true.2 hdigits, Bool.and_self, if_true]

/-- **The name of an integer type** names this type. -/
theorem typeOf_integerName (signed : Bool) (bits : Nat) :
    typeOf (integerName signed bits) = .integer signed (Nat.toDigits 10 bits) := by
  have hlist : (integerName signed bits).toList
      = (if signed then "int" else "uint").toList ++ Nat.toDigits 10 bits := by
    rw [integerName, String.toList_append, Numeral.toList_decimal_natCast]
  have hfound : ∀ word : String, digitsBehind? word (word.toList ++ Nat.toDigits 10 bits)
      = some (Nat.toDigits 10 bits) := fun word =>
    digitsBehind?_append word (fun c hc => Numeral.isDecimalDigit_of_mem_toDigits hc)
  unfold typeOf
  cases signed with
  | false =>
    rw [if_neg Bool.false_ne_true] at hlist
    simp only [hlist, hfound]
  | true =>
    rw [if_pos rfl] at hlist
    have hother : digitsBehind? "uint" ("int".toList ++ Nat.toDigits 10 bits) = none := rfl
    simp only [hlist, hfound, hother]

/-! ## Integers -/

section Integers

variable {signed : Bool} {text : String} {value : Int}

theorem isUnsigned_ofList {digits : List Char} (hne : digits ≠ [])
    (hdigits : ∀ c ∈ digits, isDecimalDigit c = true) : isUnsigned (String.ofList digits) = true := by
  unfold isUnsigned
  simp only [String.toList_ofList, dropLineEnd_of_digits hdigits, List.isEmpty_eq_false_iff.2 hne,
    List.all_eq_true.2 hdigits, Bool.not_false, Bool.and_self]

/-- An integer has the pattern of one. -/
theorem IsInteger.fits (hinteger : IsInteger signed text value) :
    (if signed then isSigned text else isUnsigned text) = true := by
  cases hinteger with
  | plain hne hdigits =>
    cases signed with
    | true => exact isSigned_of_isUnsigned (isUnsigned_ofList hne hdigits)
    | false => exact isUnsigned_ofList hne hdigits
  | negative hsigned hne hdigits =>
    rw [if_pos hsigned]
    unfold isSigned
    rw [String.toList_ofList]
    exact isUnsigned_ofList hne hdigits

/-- An unsigned integer is not below zero. -/
theorem IsInteger.nonneg (hinteger : IsInteger false text value) : 0 ≤ value := by
  cases hinteger with
  | plain => exact Int.natCast_nonneg _
  | negative hsigned => exact absurd hsigned Bool.false_ne_true

/-- Text that does not end with a line end and has the pattern of an integer is one. -/
theorem exists_isInteger (htext : ∀ c ∈ text.toList.getLast?, c ≠ lineFeed)
    (hfits : (if signed then isSigned text else isUnsigned text) = true) :
    ∃ value, IsInteger signed text value := by
  have hsigned : isSigned text = true := by
    cases signed with
    | true => exact hfits
    | false => exact isSigned_of_isUnsigned hfits
  obtain ⟨negative, digits, hlist, -, hne, hall⟩ := exists_sign_of_isSigned hsigned
  have hkept : dropLineEnd digits = digits := by
    refine dropLineEnd_of_getLast? (fun c hc => htext c ?_)
    rw [hlist, List.getLast?_append]
    simp [Option.mem_def.1 hc]
  rw [hkept] at hne hall
  have hdigits : ∀ c ∈ digits, isDecimalDigit c = true := List.all_eq_true.1 hall
  cases negative with
  | false =>
    rw [← String.ofList_toList (s := text), hlist]
    exact ⟨_, .plain (List.isEmpty_eq_false_iff.1 hne) hdigits⟩
  | true =>
    -- the pattern without a sign takes no text with one
    have hneeds : signed = true := by
      by_contra hunsigned
      rw [if_neg hunsigned] at hfits
      have hminus := isDecimalDigit_of_isUnsigned hfits (c := '-')
        (by rw [hlist]; exact List.mem_cons_self) (by decide)
      exact absurd hminus (by decide)
    rw [← String.ofList_toList (s := text), hlist]
    exact ⟨_, .negative hneeds (List.isEmpty_eq_false_iff.1 hne) hdigits⟩

/-- An integer is read as its value if its digits are not too many. -/
theorem IsInteger.read_eq (hinteger : IsInteger signed text value)
    (hshort : text.toList.countP isDecimalDigit ≤ Numeral.maxDigits) :
    Numeral.read .decimal text = .ok value := by
  cases hinteger with
  | plain hne hdigits =>
    rw [String.toList_ofList, List.countP_eq_length.2 hdigits] at hshort
    exact Numeral.read_decimalDigits false hne hdigits hshort
  | negative _ hne hdigits =>
    rw [String.toList_ofList, List.countP_cons, List.countP_eq_length.2 hdigits] at hshort
    exact Numeral.read_decimalDigits true hne hdigits (by omega)

/-- Text that is no integer is refused for that. -/
theorem check_of_not_isInteger (bits memory : Nat) (htext : ∀ c ∈ text.toList.getLast?, c ≠ lineFeed)
    (hnone : ¬ ∃ value, IsInteger signed text value) :
    (if signed then checkSigned text bits memory else checkUnsigned text bits memory)
      = .ok (some (if signed then .notInteger else .notUnsigned)) := by
  have hfits := fun h => hnone (exists_isInteger htext h)
  cases signed with
  | true =>
    have hpattern : isSigned text = false := eq_false_of_ne_true hfits
    simp only [if_true, checkSigned, hpattern, Bool.not_false]
  | false =>
    have hpattern : isUnsigned text = false := eq_false_of_ne_true hfits
    simp [checkUnsigned, hpattern]

/-! ## Ranges -/

instance (signed : Bool) (bits : Nat) (value : Int) : Decidable (InRange signed bits value) :=
  inferInstanceAs (Decidable (if signed then _ else _))

/-- A number has no more than some binary digits exactly if it is below their power of two. -/
theorem bitLength_le_iff (n : Int) (bits : Nat) : Word.bitLength n ≤ bits ↔ n.natAbs < 2 ^ bits := by
  unfold Word.bitLength
  by_cases hzero : n = 0
  · rw [if_pos hzero, hzero]
    exact ⟨fun _ => Nat.two_pow_pos bits, fun _ => Nat.zero_le bits⟩
  · rw [if_neg hzero, ← Nat.log2_lt (Int.natAbs_ne_zero.2 hzero)]
    exact Nat.succ_le_iff

/-- An unsigned integer is in the range of its type exactly if it has no more bits. -/
theorem bitLength_le_iff_inRange {bits : Nat} (hvalue : 0 ≤ value) :
    Word.bitLength value ≤ bits ↔ InRange false bits value := by
  rw [bitLength_le_iff]
  obtain ⟨n, rfl⟩ := Int.eq_ofNat_of_zero_le hvalue
  show n < 2 ^ bits ↔ 0 ≤ (n : Int) ∧ (n : Int) < 2 ^ bits
  constructor
  · intro hbelow
    exact ⟨hvalue, by exact_mod_cast hbelow⟩
  · rintro ⟨-, hbelow⟩
    exact_mod_cast hbelow

/-- A signed integer is in the range of its type exactly if its magnitude has fewer bits. The magnitude of a
    number below zero is counted from minus one. -/
theorem bitLength_magnitude_le_iff_inRange {bits : Nat} :
    Word.bitLength (if value < 0 then -value - 1 else value) ≤ bits - 1 ↔ InRange true bits value := by
  rw [bitLength_le_iff]
  have hcast : ((2 ^ (bits - 1) : Nat) : Int) = 2 ^ (bits - 1) := by push_cast; rfl
  show _ ↔ -(2 ^ (bits - 1)) ≤ value ∧ value < 2 ^ (bits - 1)
  rw [← hcast]
  split
  · omega
  · omega

/-- **The check of an integer** asks for the power of two that bounds its type, and compares with it. -/
theorem IsInteger.check_eq {bits : Nat} (hinteger : IsInteger signed text value)
    (hshort : text.toList.countP isDecimalDigit ≤ Numeral.maxDigits) (hbits : 1 ≤ bits) (memory : Nat) :
    (if signed then checkSigned text bits memory else checkUnsigned text bits memory)
      = (checkPower (boundBits signed bits) memory).map (fun _ => if InRange signed bits value then none
          else some (if signed then .beyondSigned bits else .beyondUnsigned bits)) := by
  have hfits := hinteger.fits
  have hread := hinteger.read_eq hshort
  cases signed with
  | true =>
    have hpattern : isSigned text = true := hfits
    have hsome : bits ≠ 0 := by omega
    simp only [if_true, checkSigned, hpattern, Bool.not_true, hread, hsome, if_false, boundBits,
      bitLength_magnitude_le_iff_inRange, Bool.false_eq_true]
  | false =>
    have hpattern : isUnsigned text = true := hfits
    simp only [if_false, checkUnsigned, hpattern, Bool.not_true, hread, boundBits,
      bitLength_le_iff_inRange hinteger.nonneg, Bool.false_eq_true]

end Integers

/-! ## Arguments -/

section Arguments

variable {signed : Bool} {bits memory : Nat} {text : String}

/-- The number of bits is read from the name of the type before the argument is looked at. -/
theorem check_integerName (hne : text ≠ "") :
    check (.str text) (integerName signed bits) memory
      = if Numeral.maxDigits < (Nat.toDigits 10 bits).length then
          .error (.numeral (.tooLong (Nat.toDigits 10 bits).length))
        else if signed then checkSigned (trimBlanks text) bits memory
        else checkUnsigned (trimBlanks text) bits memory := by
  have hsome : (Nat.toDigits 10 bits).isEmpty = false := List.isEmpty_eq_false_iff.2 Nat.toDigits_ne_nil
  have hmissing : isMissing (.str text) = false := decide_eq_false hne
  rw [check, hmissing, if_neg Bool.false_ne_true, typeOf_integerName]
  unfold checkTyped
  simp only [hsome, Bool.false_eq_true, if_false,
    numberOf_eq hsome (fun c hc => Numeral.isDecimalDigit_of_mem_toDigits hc), Numeral.ofDecimalDigits_toDigits]
  by_cases hlong : Numeral.maxDigits < (Nat.toDigits 10 bits).length
  · rw [if_pos hlong, if_pos hlong]
  · rw [if_neg hlong, if_neg hlong]
    rfl

/-- Bits that take too many digits to write are more than a number can have, whatever the memory. -/
theorem mostPower_lt_of_long (hlong : Numeral.maxDigits < (Nat.toDigits 10 bits).length) :
    mostPower memory < boundBits signed bits := by
  have hmany : ¬ (Nat.toDigits 10 bits).length ≤ 20 := by
    have hmost : 20 ≤ Numeral.maxDigits := by decide
    omega
  rw [Nat.length_toDigits_le_iff (by decide) (by decide)] at hmany
  have hbound : mostBits + 1 < 10 ^ 20 := by decide
  have hpower : mostPower memory ≤ mostBits := min_le_left mostBits memory
  unfold boundBits
  split
  · omega
  · omega

theorem checkPower_cases (exponent memory : Nat) :
    (exponent ≤ mostPower memory ∧ checkPower exponent memory = .ok ())
      ∨ mostPower memory < exponent ∧ ∃ fault, checkPower exponent memory = .error fault := by
  by_cases hbeyond : mostPower memory < exponent
  · exact .inr ⟨hbeyond, (exists_checkPower_error_iff exponent memory).2 hbeyond⟩
  · refine .inl ⟨by omega, ?_⟩
    cases hpower : checkPower exponent memory with
    | ok => rfl
    | error fault => exact absurd ((exists_checkPower_error_iff exponent memory).1 ⟨fault, hpower⟩) hbeyond

theorem trimBlanks_no_lineEnd (text : String) :
    ∀ c ∈ (trimBlanks text).toList.getLast?, c ≠ lineFeed := by
  rintro c hc rfl
  exact absurd (isBlank_of_mem_getLast?_trimBlanks hc) (by decide)

/-- What the check of text against the type of integers of some bits comes to in some memory. -/
inductive RangeVerdict (signed : Bool) (bits memory : Nat) (text : String) : Except Fault Verdict → Prop
  | empty (htext : text = "") : RangeVerdict signed bits memory text (.ok (some .empty))
  /-- The bits take too many digits to write, whatever the text is. -/
  | unread (hne : text ≠ "") (hlong : Numeral.maxDigits < (Nat.toDigits 10 bits).length) :
    RangeVerdict signed bits memory text (.error (.numeral (.tooLong (Nat.toDigits 10 bits).length)))
  | notInteger (hne : text ≠ "") (hlength : (Nat.toDigits 10 bits).length ≤ Numeral.maxDigits)
    (hnone : ¬ ∃ value, IsInteger signed (trimBlanks text) value) :
    RangeVerdict signed bits memory text (.ok (some (if signed then .notInteger else .notUnsigned)))
  /-- There is no power of two to compare an integer with. -/
  | unbounded {value : Int} {fault : Fault} (hne : text ≠ "")
    (hinteger : IsInteger signed (trimBlanks text) value) (hbeyond : mostPower memory < boundBits signed bits)
    (hpower : checkPower (boundBits signed bits) memory = .error fault) :
    RangeVerdict signed bits memory text (.error fault)
  | compared {value : Int} (hne : text ≠ "") (hinteger : IsInteger signed (trimBlanks text) value)
    (hwithin : boundBits signed bits ≤ mostPower memory) :
    RangeVerdict signed bits memory text (.ok (if InRange signed bits value then none
      else some (if signed then .beyondSigned bits else .beyondUnsigned bits)))

theorem rangeVerdict_check (hbits : 1 ≤ bits)
    (hshort : (trimBlanks text).toList.countP isDecimalDigit ≤ Numeral.maxDigits) :
    RangeVerdict signed bits memory text (check (.str text) (integerName signed bits) memory) := by
  by_cases hne : text = ""
  · subst hne
    exact .empty rfl
  · rw [check_integerName hne]
    by_cases hlong : Numeral.maxDigits < (Nat.toDigits 10 bits).length
    · rw [if_pos hlong]
      exact .unread hne hlong
    · rw [if_neg hlong]
      by_cases hinteger : ∃ value, IsInteger signed (trimBlanks text) value
      · obtain ⟨value, hinteger⟩ := hinteger
        rw [hinteger.check_eq hshort hbits memory]
        obtain ⟨hwithin, hpower⟩ | ⟨hbeyond, fault, hpower⟩ := checkPower_cases (boundBits signed bits) memory
        · rw [hpower]
          exact .compared hne hinteger hwithin
        · rw [hpower]
          exact .unbounded hne hinteger hbeyond hpower
      · rw [check_of_not_isInteger bits memory (trimBlanks_no_lineEnd text) hinteger]
        exact .notInteger hne (by omega) hinteger

/-- A text is an integer of one value only. -/
theorem IsInteger.eq {first second : Int} (hfirst : IsInteger signed text first)
    (hsecond : IsInteger signed text second)
    (hshort : text.toList.countP isDecimalDigit ≤ Numeral.maxDigits) : first = second := by
  have hread := hfirst.read_eq hshort
  rw [hsecond.read_eq hshort] at hread
  exact (Except.ok.inj hread).symm

theorem IsInteger.ne_empty {value : Int} (hinteger : IsInteger signed (trimBlanks text) value) :
    text ≠ "" := by
  rintro rfl
  have hnone : (if signed then isSigned (trimBlanks "") else isUnsigned (trimBlanks "")) = false := by
    cases signed with
    | true => rfl
    | false => rfl
  rw [hinteger.fits] at hnone
  cases hnone

theorem RangeVerdict.accepted_iff {outcome : Except Fault Verdict}
    (hverdict : RangeVerdict signed bits memory text outcome)
    (hshort : (trimBlanks text).toList.countP isDecimalDigit ≤ Numeral.maxDigits) :
    outcome = .ok none ↔ boundBits signed bits ≤ mostPower memory
      ∧ ∃ value, IsInteger signed (trimBlanks text) value ∧ InRange signed bits value := by
  cases hverdict with
  | empty htext =>
    refine ⟨fun hok => (by cases hok), ?_⟩
    rintro ⟨-, value, hinteger, -⟩
    exact absurd htext hinteger.ne_empty
  | unread hne hlong =>
    refine ⟨fun hok => (by cases hok), ?_⟩
    rintro ⟨hwithin, -⟩
    have hbeyond : mostPower memory < boundBits signed bits := mostPower_lt_of_long hlong
    omega
  | notInteger hne hlength hnone =>
    refine ⟨fun hok => (by cases hok), ?_⟩
    rintro ⟨-, value, hinteger, -⟩
    exact absurd ⟨value, hinteger⟩ hnone
  | unbounded hne hinteger hbeyond hpower =>
    refine ⟨fun hok => (by cases hok), ?_⟩
    rintro ⟨hwithin, -⟩
    omega
  | @compared value hne hinteger hwithin =>
    by_cases hrange : InRange signed bits value
    · rw [if_pos hrange]
      exact ⟨fun _ => ⟨hwithin, value, hinteger, hrange⟩, fun _ => rfl⟩
    · rw [if_neg hrange]
      refine ⟨fun hok => (by cases hok), ?_⟩
      rintro ⟨-, other, hother, hfits⟩
      rw [hinteger.eq hother hshort] at hrange
      exact absurd hfits hrange

theorem RangeVerdict.fails_iff {outcome : Except Fault Verdict}
    (hverdict : RangeVerdict signed bits memory text outcome) :
    (∃ fault, outcome = .error fault) ↔ text ≠ "" ∧ mostPower memory < boundBits signed bits
      ∧ (Numeral.maxDigits < (Nat.toDigits 10 bits).length
        ∨ ∃ value, IsInteger signed (trimBlanks text) value) := by
  cases hverdict with
  | empty htext =>
    refine ⟨fun ⟨fault, hfault⟩ => (by cases hfault), ?_⟩
    rintro ⟨hne, -⟩
    exact absurd htext hne
  | unread hne hlong =>
    exact ⟨fun _ => ⟨hne, mostPower_lt_of_long hlong, .inl hlong⟩, fun _ => ⟨_, rfl⟩⟩
  | notInteger hne hlength hnone =>
    refine ⟨fun ⟨fault, hfault⟩ => (by cases hfault), ?_⟩
    rintro ⟨-, -, hlong | hinteger⟩
    · omega
    · exact absurd hinteger hnone
  | unbounded hne hinteger hbeyond hpower =>
    exact ⟨fun _ => ⟨hne, hbeyond, .inr ⟨_, hinteger⟩⟩, fun _ => ⟨_, rfl⟩⟩
  | compared hne hinteger hwithin =>
    refine ⟨fun ⟨fault, hfault⟩ => (by cases hfault), ?_⟩
    rintro ⟨-, hbeyond, -⟩
    omega

/-! ## Integers as arguments -/

/-- An integer is checked as its decimal numeral is. -/
theorem check_int (n : Int) (name : String) :
    check (.int n) name memory = check (.str (Numeral.decimal n)) name memory := by
  have htext : textOf (.str (Numeral.decimal n)) = textOf (.int n) := by
    show trimBlanks (Numeral.decimal n) = trimBlanks (Json.display (.int n))
    simp only [Json.display, Json.literal]
  have hmissing : isMissing (.str (Numeral.decimal n)) = false := decide_eq_false (Numeral.decimal_ne_empty n)
  rw [check, check, hmissing, htext]
  rfl

end Arguments

/-- **The range of an integer type** in some memory: what text is accepted for it, and where no verdict is
    reached. -/
structure ChecksRange (signed : Bool) (bits memory : Nat) : Prop where
  accepts : ∀ text : String, (trimBlanks text).toList.countP isDecimalDigit ≤ Numeral.maxDigits →
    (check (.str text) (integerName signed bits) memory = .ok none ↔ boundBits signed bits ≤ mostPower memory
      ∧ ∃ value, IsInteger signed (trimBlanks text) value ∧ InRange signed bits value)
  /-- Only a type of more bits than a number can have fails, and it fails for every integer. -/
  fails : ∀ text : String, (trimBlanks text).toList.countP isDecimalDigit ≤ Numeral.maxDigits →
    ((∃ fault, check (.str text) (integerName signed bits) memory = .error fault)
      ↔ text ≠ "" ∧ mostPower memory < boundBits signed bits
        ∧ (Numeral.maxDigits < (Nat.toDigits 10 bits).length
          ∨ ∃ value, IsInteger signed (trimBlanks text) value))
  /-- An integer and its decimal numeral come to the same. -/
  int : ∀ n : Int, check (.int n) (integerName signed bits) memory
    = check (.str (Numeral.decimal n)) (integerName signed bits) memory

/-- **Integers are accepted exactly in the range of their type** if its power of two can be computed. -/
theorem check_integer_range {bits : Nat} (signed : Bool) (hbits : 1 ≤ bits) (memory : Nat) :
    ChecksRange signed bits memory where
  accepts := fun _ hshort => (rangeVerdict_check hbits hshort).accepted_iff hshort
  fails := fun _ hshort => (rangeVerdict_check hbits hshort).fails_iff
  int := fun n => check_int n (integerName signed bits)

/-- The smallest integer of eight bits, as text and as a number, and the one below it. -/
theorem check_integer_range_smallest : 1 ≤ 8 ∧ ChecksRange true 8 standardMemory
    ∧ check (.str " -128\n") "int8" standardMemory = .ok none
    ∧ check (.int (-128)) "int8" standardMemory = .ok none
    ∧ check (.int (-129)) "int8" standardMemory = .ok (some (.beyondSigned 8)) := by
  have hchecks : ChecksRange true 8 standardMemory := check_integer_range true (by decide) standardMemory
  refine ⟨by decide, hchecks, by rfl, ?_, ?_⟩
  · exact (hchecks.int (-128)).trans (by rfl)
  · exact (hchecks.int (-129)).trans (by rfl)

theorem inRange_of_lt {n bits : Nat} (hn : n < bits) : InRange false bits n := by
  have hpower : n < 2 ^ bits := lt_trans hn Nat.lt_two_pow_self
  show 0 ≤ (n : Int) ∧ (n : Int) < 2 ^ bits
  exact ⟨Int.natCast_nonneg n, by exact_mod_cast hpower⟩

/-- Five is in the range of a type of too many bits, and yet it is not accepted for it. -/
theorem check_integer_beyond_memory : ¬ (check (.str "5") (integerName false 99999999999999999999)
      standardMemory = .ok none
    ↔ ∃ value, IsInteger false (trimBlanks "5") value ∧ InRange false 99999999999999999999 value) := by
  have htext : trimBlanks "5" = String.ofList ['5'] := by decide +kernel
  have hinteger : IsInteger false (trimBlanks "5") ((Numeral.ofDecimalDigits ['5'] : Nat) : Int) := by
    rw [htext]
    exact .plain (List.cons_ne_nil _ _) (List.forall_mem_singleton.2 (by decide))
  have hverdict : RangeVerdict false 99999999999999999999 standardMemory "5"
      (check (.str "5") (integerName false 99999999999999999999) standardMemory) :=
    rangeVerdict_check (by decide) (by decide +kernel)
  obtain ⟨fault, hfault⟩ := hverdict.fails_iff.2 ⟨by decide, by decide, .inr ⟨_, hinteger⟩⟩
  intro hiff
  have haccepted := hiff.2 ⟨_, hinteger, inRange_of_lt (by decide)⟩
  rw [hfault] at haccepted
  cases haccepted

end Argument

end EvmScope
