import EvmScope.Text.Numeral
import Mathlib.Algebra.GroupWithZero.Nat
import Mathlib.Data.List.Induction
import Mathlib.Data.List.TakeWhile

set_option autoImplicit false

/-! # Written numerals read back

`Numeral.hex` and `Numeral.read .hexadecimal` are inverse on integers: the digits that are written
are a run of digits of the radix, the mark `0x` is taken off again, and the sign is kept. So two
integers with one written form are equal, which is what makes the written form of a slot a name for
its number. A numeral also bounds what it denotes: it cannot be larger than its digits allow. -/

namespace EvmScope.Numeral

/-! ## Digits -/

theorem digitValue?_digitChar (radix digit : Nat) (hradix : radix ≤ 16) (hdigit : digit < radix) :
    digitValue? radix (Nat.digitChar digit) = some digit := by
  have hall : ∀ r, r ≤ 16 → ∀ d, d < r → digitValue? r (Nat.digitChar d) = some d := by decide
  exact hall radix hradix digit hdigit

/-- Every character of a written magnitude is the character of a digit. -/
theorem exists_digit_of_mem_toDigits (radix n : Nat) (hradix : 1 < radix) (c : Char)
    (hc : c ∈ Nat.toDigits radix n) : ∃ digit, digit < radix ∧ c = Nat.digitChar digit := by
  induction n using Nat.base_induction radix hradix with
  | single m hm =>
    rw [Nat.toDigits_of_lt_base hm, List.mem_singleton] at hc
    exact ⟨m, hm, hc⟩
  | digit m k hk hm ih =>
    rw [← Nat.toDigits_append_toDigits hradix hm hk, Nat.toDigits_of_lt_base hk,
      List.mem_append, List.mem_singleton] at hc
    rcases hc with hc | hc
    · exact ih hc
    · exact ⟨k, hk, hc⟩

theorem ofDigits_append_singleton (radix : Nat) (digits : List Nat) (digit : Nat) :
    ofDigits radix (digits ++ [digit]) = ofDigits radix digits * radix + digit := by
  simp only [ofDigits, List.foldl_append, List.foldl_cons, List.foldl_nil]

/-- The digits of a written magnitude have its value. -/
theorem ofDigits_runDigits_toDigits (radix n : Nat) (hlow : 1 < radix) (hhigh : radix ≤ 16) :
    ofDigits radix (runDigits radix (Nat.toDigits radix n)) = n := by
  induction n using Nat.base_induction radix hlow with
  | single m hm =>
    rw [Nat.toDigits_of_lt_base hm, runDigits, List.filterMap_cons,
      digitValue?_digitChar radix m hhigh hm]
    simp [ofDigits]
  | digit m k hk hm ih =>
    have hdigit : runDigits radix [Nat.digitChar k] = [k] := by
      rw [runDigits, List.filterMap_cons, digitValue?_digitChar radix k hhigh hk]
      rfl
    rw [← Nat.toDigits_append_toDigits hlow hm hk, Nat.toDigits_of_lt_base hk, runDigits,
      List.filterMap_append]
    change ofDigits radix (runDigits radix (Nat.toDigits radix m)
      ++ runDigits radix [Nat.digitChar k]) = radix * m + k
    rw [hdigit, ofDigits_append_singleton, ih, Nat.mul_comm]

theorem toDigits_injective (radix m n : Nat) (hlow : 1 < radix) (hhigh : radix ≤ 16)
    (h : Nat.toDigits radix m = Nat.toDigits radix n) : m = n := by
  rw [← ofDigits_runDigits_toDigits radix m hlow hhigh, h,
    ofDigits_runDigits_toDigits radix n hlow hhigh]

theorem toList_decimal (n : Int) : (decimal n).toList
    = if n < 0 then '-' :: Nat.toDigits 10 n.natAbs else Nat.toDigits 10 n.natAbs := by
  rw [decimal, String.toList_ofList]

/-- Integers with one decimal numeral are equal. -/
theorem decimal_injective (m n : Int) (h : decimal m = decimal n) : m = n := by
  have hlist := congrArg String.toList h
  rw [toList_decimal, toList_decimal] at hlist
  -- no digit is a minus sign, so both integers have one or neither has
  have hsign : ∀ k : Nat, ∀ rest, Nat.toDigits 10 k ≠ '-' :: rest := by
    intro k rest hdigits
    obtain ⟨digit, hdigit, hminus⟩ := exists_digit_of_mem_toDigits 10 k (by decide) '-' (by simp [hdigits])
    have hall : ∀ d, d < 10 → '-' ≠ Nat.digitChar d := by decide
    exact hall digit hdigit hminus
  have hmagnitude : ∀ k l : Nat, Nat.toDigits 10 k = Nat.toDigits 10 l → k = l := fun k l =>
    toDigits_injective 10 k l (by decide) (by decide)
  by_cases hm : m < 0
  · by_cases hn : n < 0
    · rw [if_pos hm, if_pos hn] at hlist
      have hsame := hmagnitude _ _ (List.cons.inj hlist).2
      omega
    · rw [if_pos hm, if_neg hn] at hlist
      exact absurd hlist.symm (hsign _ _)
  · by_cases hn : n < 0
    · rw [if_neg hm, if_pos hn] at hlist
      exact absurd hlist (hsign _ _)
    · rw [if_neg hm, if_neg hn] at hlist
      have hsame := hmagnitude _ _ hlist
      omega

theorem decimal_natCast_injective (m n : Nat) (h : decimal m = decimal n) : m = n :=
  Int.ofNat.inj (decimal_injective m n h)

/-! ## Runs of digits -/

theorem separated_of_no_underscore (run : List Char) (hrun : ∀ c ∈ run, c ≠ '_')
    (afterDigit : Bool) : separated afterDigit run = (afterDigit || !run.isEmpty) := by
  induction run generalizing afterDigit with
  | nil => simp [separated]
  | cons c rest ih =>
    rw [separated, if_neg (hrun c List.mem_cons_self),
      ih (fun d hd => hrun d (List.mem_cons_of_mem _ hd))]
    simp

/-- A blank ends a run of digits. -/
theorem not_inRun_of_isPlainBlank (radix : Nat) {c : Char} (hc : isPlainBlank c = true) :
    inRun radix c = false := by
  simp only [isPlainBlank, Bool.or_eq_true, Bool.and_eq_true, decide_eq_true_eq, beq_iff_eq] at hc
  have hdigit : digitValue? radix c = none := by
    simp [digitValue?, show ¬ 48 ≤ c.toNat by omega, show ¬ 97 ≤ c.toNat by omega,
      show ¬ 65 ≤ c.toNat by omega]
  have hline : c ≠ '_' := by
    rintro rfl
    revert hc
    decide
  simp [inRun, hdigit, hline]

/-- A run of digits reaches up to the blanks behind it. -/
theorem span_run_append {radix : Nat} {run behind : List Char} (hrun : ∀ c ∈ run, inRun radix c = true)
    (hbehind : ∀ c ∈ behind, isPlainBlank c = true) :
    (run ++ behind).takeWhile (inRun radix) = run ∧ (run ++ behind).dropWhile (inRun radix) = behind := by
  rw [List.takeWhile_append_of_pos hrun, List.dropWhile_append_of_pos hrun]
  cases behind with
  | nil => exact ⟨List.append_nil run, rfl⟩
  | cons c rest =>
    have hc : ¬ inRun radix c = true := by
      rw [not_inRun_of_isPlainBlank radix (hbehind c List.mem_cons_self)]
      exact Bool.false_ne_true
    rw [List.takeWhile_cons_of_neg hc, List.dropWhile_cons_of_neg hc, List.append_nil]
    exact ⟨rfl, rfl⟩

/-- What a written magnitude is made of: digits of the radix, which a reader takes as they are. -/
theorem char_of_mem_toDigits (radix n : Nat) (hlow : 1 < radix) (hhigh : radix ≤ 16) (c : Char)
    (hc : c ∈ Nat.toDigits radix n) : inRun radix c = true ∧ c ≠ '_' ∧ toPlain c = c := by
  obtain ⟨digit, hdigit, rfl⟩ := exists_digit_of_mem_toDigits radix n hlow c hc
  have hplain : ∀ d, d < 16 → Nat.digitChar d ≠ '_' ∧ toPlain (Nat.digitChar d) = Nat.digitChar d := by
    decide
  refine ⟨?_, hplain digit (by omega)⟩
  simp [inRun, digitValue?_digitChar radix digit hhigh hdigit]

/-- The magnitude of written digits, where their number is not limited. -/
theorem magnitude_toDigits (radix n : Nat) (hlow : 1 < radix) (hhigh : radix ≤ 16)
    (hlimit : radix = 10 → (Nat.toDigits radix n).length ≤ maxDigits) :
    magnitude ⟨radix, false, Nat.toDigits radix n⟩ = .ok (some n) := by
  have hchar := char_of_mem_toDigits radix n hlow hhigh
  have hrun : (Nat.toDigits radix n).takeWhile (inRun radix) = Nat.toDigits radix n :=
    List.takeWhile_eq_self_iff.2 (fun c hc => (hchar c hc).1)
  have hbehind : (Nat.toDigits radix n).dropWhile (inRun radix) = [] :=
    List.dropWhile_eq_nil_iff.2 (fun c hc => (hchar c hc).1)
  have hseparated : separated false (Nat.toDigits radix n) = true := by
    rw [separated_of_no_underscore _ (fun c hc => (hchar c hc).2.1)]
    simp
  have hlength : ¬ (radix = 10 ∧
      maxDigits < (runDigits radix (Nat.toDigits radix n)).length) := by
    rintro ⟨hten, hlong⟩
    have hle : (runDigits radix (Nat.toDigits radix n)).length ≤ (Nat.toDigits radix n).length :=
      List.length_filterMap_le _ _
    have := hlimit hten
    omega
  simp only [magnitude, hrun, hbehind, hseparated, ofDigits_runDigits_toDigits radix n hlow hhigh]
  simp [hlength]

/-! ## Signs and marks -/

theorem splitSign_of_ne {c : Char} (hminus : c ≠ '-') (hplus : c ≠ '+') (rest : List Char) :
    splitSign (c :: rest) = (false, c :: rest) := by
  unfold splitSign
  split
  · next heq => exact absurd (List.cons.inj heq).1 hminus
  · next heq => exact absurd (List.cons.inj heq).1 hplus
  · rfl

theorem dropUnderscore_of_ne {c : Char} (hc : c ≠ '_') (rest : List Char) :
    dropUnderscore (c :: rest) = c :: rest := by
  unfold dropUnderscore
  split
  · next heq => exact absurd (List.cons.inj heq).1 hc
  · rfl

/-- Without a mark nothing is taken off. -/
theorem settle_hexadecimal_of_no_mark {cs : List Char}
    (hcs : ∀ mark rest, cs = '0' :: mark :: rest → mark ≠ 'x' ∧ mark ≠ 'X') :
    settle .hexadecimal cs = ⟨16, false, cs⟩ := by
  unfold settle
  split
  · contradiction
  · next mark rest _ =>
    obtain ⟨hsmall, hcapital⟩ := hcs mark rest rfl
    simp [hsmall, hcapital]
  · rfl
  · contradiction
  · contradiction

/-! ## Whole numerals -/

/-- The characters of a written form, the sign and the mark in front of the digits. -/
theorem toList_hex (n : Int) :
    (hex n).toList
      = if n < 0 then '-' :: '0' :: 'x' :: Nat.toDigits 16 n.natAbs
        else '0' :: 'x' :: Nat.toDigits 16 n.natAbs := by
  rw [hex, String.toList_ofList]

/-- A text whose first and last characters are no blanks is trimmed of nothing. -/
theorem trimBlanks_of_ends {text : String} (first last : Char)
    (hfirst : text.toList.head? = some first) (hlast : text.toList.getLast? = some last)
    (hfirst_blank : isBlank first = false) (hlast_blank : isBlank last = false) :
    trimBlanks text = text := by
  have hdrop : ∀ {cs : List Char} {c : Char}, cs.head? = some c → isBlank c = false →
      cs.dropWhile isBlank = cs := by
    intro cs c hc hblank
    cases cs with
    | nil => rfl
    | cons d rest =>
      cases hc
      rw [List.dropWhile_cons_of_neg (by simp [hblank])]
  rw [trimBlanks, trimChars, hdrop hfirst hfirst_blank,
    hdrop (by rw [List.head?_reverse]; exact hlast) hlast_blank, List.reverse_reverse,
    String.ofList_toList]

/-- The written form of an integer has no blanks at its ends. -/
theorem trimBlanks_hex (n : Int) : trimBlanks (hex n) = hex n := by
  obtain ⟨last, hlast⟩ : ∃ last, (Nat.toDigits 16 n.natAbs).getLast? = some last :=
    ⟨_, List.getLast?_eq_some_getLast Nat.toDigits_ne_nil⟩
  have hlast_blank : isBlank last = false := by
    obtain ⟨digit, hdigit, rfl⟩ := exists_digit_of_mem_toDigits 16 n.natAbs (by decide) last
      (List.mem_of_getLast? hlast)
    have hall : ∀ d, d < 16 → isBlank (Nat.digitChar d) = false := by decide
    exact hall digit hdigit
  by_cases hn : n < 0
  · refine trimBlanks_of_ends '-' last ?_ ?_ (by decide) hlast_blank
    · rw [toList_hex, if_pos hn, List.head?_cons]
    · rw [toList_hex, if_pos hn]
      simp [List.getLast?_cons, hlast]
  · refine trimBlanks_of_ends '0' last ?_ ?_ (by decide) hlast_blank
    · rw [toList_hex, if_neg hn, List.head?_cons]
    · rw [toList_hex, if_neg hn]
      simp [List.getLast?_cons, hlast]

/-- A mark `0x` is taken off, and an underscore only where there is one. -/
theorem settle_hexadecimal_mark (n : Nat) :
    settle .hexadecimal ('0' :: 'x' :: Nat.toDigits 16 n) = ⟨16, false, Nat.toDigits 16 n⟩ := by
  have hfirst : dropUnderscore (Nat.toDigits 16 n) = Nat.toDigits 16 n := by
    have hchar := char_of_mem_toDigits 16 n (by decide) (by decide)
    cases hdigits : Nat.toDigits 16 n with
    | nil => rfl
    | cons c rest =>
      rw [hdigits] at hchar
      exact dropUnderscore_of_ne (hchar c List.mem_cons_self).2.1 rest
  simp only [settle, hfirst]
  rfl

theorem map_toPlain_toDigits (n : Nat) :
    (Nat.toDigits 16 n).map toPlain = Nat.toDigits 16 n := by
  have hchar := char_of_mem_toDigits 16 n (by decide) (by decide)
  rw [List.map_congr_left (g := id) (fun c hc => (hchar c hc).2.2), List.map_id]

/-- **Reading the written form of an integer gives the integer.** -/
theorem read_hex (n : Int) : read .hexadecimal (hex n) = .ok n := by
  have hplain := map_toPlain_toDigits n.natAbs
  have hmagnitude : magnitude (settle .hexadecimal ('0' :: 'x' :: Nat.toDigits 16 n.natAbs))
      = .ok (some n.natAbs) := by
    rw [settle_hexadecimal_mark]
    exact magnitude_toDigits 16 n.natAbs (by decide) (by decide) (fun h => absurd h (by decide))
  unfold read
  rw [toList_hex]
  by_cases hn : n < 0
  · rw [if_pos hn]
    have hsplit : splitSign ((('-' :: '0' :: 'x' :: Nat.toDigits 16 n.natAbs).map toPlain).dropWhile
        isPlainBlank) = (true, '0' :: 'x' :: Nat.toDigits 16 n.natAbs) := by
      simp only [List.map_cons, hplain]
      rfl
    simp only [hsplit, hmagnitude]
    congr 1
    simp only [if_true]
    omega
  · rw [if_neg hn]
    have hsplit : splitSign ((('0' :: 'x' :: Nat.toDigits 16 n.natAbs).map toPlain).dropWhile
        isPlainBlank) = (false, '0' :: 'x' :: Nat.toDigits 16 n.natAbs) := by
      simp only [List.map_cons, hplain]
      rfl
    simp only [hsplit, hmagnitude]
    congr 1
    simp only [Bool.false_eq_true, if_false]
    omega

/-- Digits of the radix hold no mark. -/
theorem settle_hexadecimal_digits (n : Nat) :
    settle .hexadecimal (Nat.toDigits 16 n) = ⟨16, false, Nat.toDigits 16 n⟩ := by
  have hmark : ∀ c ∈ Nat.toDigits 16 n, c ≠ 'x' ∧ c ≠ 'X' := by
    intro c hc
    obtain ⟨digit, hdigit, rfl⟩ := exists_digit_of_mem_toDigits 16 n (by decide) c hc
    have hall : ∀ d, d < 16 → Nat.digitChar d ≠ 'x' ∧ Nat.digitChar d ≠ 'X' := by decide
    exact hall digit hdigit
  exact settle_hexadecimal_of_no_mark (fun mark rest hcs => hmark mark (by rw [hcs]; simp))

/-- Digits without mark are read as well. -/
theorem read_digits (n : Nat) :
    read .hexadecimal (String.ofList (Nat.toDigits 16 n)) = .ok (n : Int) := by
  have hplain := map_toPlain_toDigits n
  have hmagnitude : magnitude (settle .hexadecimal (Nat.toDigits 16 n)) = .ok (some n) := by
    rw [settle_hexadecimal_digits]
    exact magnitude_toDigits 16 n (by decide) (by decide) (fun h => absurd h (by decide))
  -- neither a blank nor a sign stands in front
  have hsplit : splitSign ((Nat.toDigits 16 n).dropWhile isPlainBlank)
      = (false, Nat.toDigits 16 n) := by
    cases hdigits : Nat.toDigits 16 n with
    | nil => exact absurd hdigits Nat.toDigits_ne_nil
    | cons c rest =>
      obtain ⟨digit, hdigit, rfl⟩ := exists_digit_of_mem_toDigits 16 n (by decide) c
        (by rw [hdigits]; exact List.mem_cons_self)
      have hall : ∀ d, d < 16 → isPlainBlank (Nat.digitChar d) = false
          ∧ Nat.digitChar d ≠ '-' ∧ Nat.digitChar d ≠ '+' := by decide
      obtain ⟨hblank, hminus, hplus⟩ := hall digit hdigit
      rw [List.dropWhile_cons_of_neg (by rw [hblank]; decide)]
      exact splitSign_of_ne hminus hplus rest
  unfold read
  rw [String.toList_ofList, hplain, hsplit]
  simp only [hmagnitude, Bool.false_eq_true, if_false]

theorem read?_eq_some_iff {radix : Radix} {text : String} {n : Int} :
    read? radix text = some n ↔ read radix text = .ok n := by
  unfold read?
  cases read radix text with
  | error e => simp [Except.toOption]
  | ok value => simp [Except.toOption]

theorem read_of_read? {radix : Radix} {text : String} {n : Int} (hread : read? radix text = some n) :
    read radix text = .ok n :=
  read?_eq_some_iff.1 hread

theorem read?_hex (n : Int) : read? .hexadecimal (hex n) = some n := by
  rw [read?, read_hex]
  rfl

/-- Integers with one written form are equal. -/
theorem hex_injective (m n : Int) (h : hex m = hex n) : m = n := by
  have hread : read? .hexadecimal (hex m) = read? .hexadecimal (hex n) := by rw [h]
  rw [read?_hex, read?_hex] at hread
  exact Option.some.inj hread

/-! ## The size of what is read -/

theorem lt_of_digitValue? {radix digit : Nat} {c : Char} (hc : digitValue? radix c = some digit) :
    digit < radix := by
  simp only [digitValue?, Option.ite_none_right_eq_some, Option.some.injEq] at hc
  obtain ⟨hlt, rfl⟩ := hc
  exact hlt

theorem ofDigits_lt (radix : Nat) (digits : List Nat) (hdigits : ∀ digit ∈ digits, digit < radix) :
    ofDigits radix digits < radix ^ digits.length := by
  induction digits using List.reverseRecOn with
  | nil => exact Nat.one_pos
  | append_singleton front last ih =>
    have hfront := ih (fun digit hdigit => hdigits digit (List.mem_append_left _ hdigit))
    have hlast := hdigits last (List.mem_append_right _ List.mem_cons_self)
    rw [ofDigits_append_singleton, List.length_append, List.length_singleton, Nat.pow_succ]
    calc ofDigits radix front * radix + last
        < ofDigits radix front * radix + radix := Nat.add_lt_add_left hlast _
      _ = (ofDigits radix front + 1) * radix := (Nat.succ_mul _ _).symm
      _ ≤ radix ^ front.length * radix := Nat.mul_le_mul_right radix hfront

/-- A magnitude is smaller than the power of the radix with as many factors as the text has characters. -/
theorem magnitude_lt {form : Unsigned} {value : Nat} (hradix : 0 < form.radix)
    (hok : magnitude form = .ok (some value)) : value < form.radix ^ form.text.length := by
  have hdigits : ∀ digit ∈ runDigits form.radix (form.text.takeWhile (inRun form.radix)),
      digit < form.radix := by
    intro digit hdigit
    obtain ⟨c, -, hc⟩ := List.mem_filterMap.1 hdigit
    exact lt_of_digitValue? hc
  have hlength : (runDigits form.radix (form.text.takeWhile (inRun form.radix))).length
      ≤ form.text.length :=
    (List.length_filterMap_le _ _).trans (List.takeWhile_prefix _).length_le
  have hvalue : ofDigits form.radix (runDigits form.radix (form.text.takeWhile (inRun form.radix)))
      = value := by
    unfold magnitude at hok
    dsimp only at hok
    split at hok
    · cases hok
    · split at hok
      · cases hok
      · split at hok
        · cases hok
        · cases hok
          rfl
  rw [← hvalue]
  exact (ofDigits_lt _ _ hdigits).trans_le (Nat.pow_le_pow_right hradix hlength)

theorem length_splitSign_le (cs : List Char) : (splitSign cs).2.length ≤ cs.length := by
  unfold splitSign
  split
  · exact Nat.le_succ _
  · exact Nat.le_succ _
  · exact Nat.le_refl _

/-- A decimal numeral denotes less than a power of ten with as many factors as it has characters. -/
theorem natAbs_lt_of_read {text : String} {n : Int} (hok : read .decimal text = .ok n) :
    n.natAbs < 10 ^ text.toList.length := by
  have hlength : (splitSign ((text.toList.map toPlain).dropWhile isPlainBlank)).2.length
      ≤ text.toList.length :=
    (length_splitSign_le _).trans ((List.length_dropWhile_le _ _).trans (List.length_map _).le)
  unfold read at hok
  generalize splitSign ((text.toList.map toPlain).dropWhile isPlainBlank) = parts at hok hlength
  obtain ⟨negative, rest⟩ := parts
  cases hmagnitude : magnitude (settle .decimal rest) with
  | error e =>
    simp only [hmagnitude] at hok
    cases hok
  | ok value? =>
    cases value? with
    | none =>
      simp only [hmagnitude] at hok
      cases hok
    | some value =>
      simp only [hmagnitude] at hok
      have hvalue : value < 10 ^ rest.length := magnitude_lt (Nat.succ_pos 9) hmagnitude
      have hsame : n.natAbs = value := by
        cases hok
        split <;> omega
      rw [hsame]
      exact hvalue.trans_le (Nat.pow_le_pow_right (by decide) hlength)

end EvmScope.Numeral
