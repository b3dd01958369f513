import EvmScope.Text.Blank
import EvmScope.Text.Casing
import EvmScope.Text.Digit
import Mathlib.Data.List.TakeWhile

set_option autoImplicit false

/-! # Digits are neither blanks nor letters

The digits of all scripts, the ornamental ones with them, are given by ranges of code points. None of these
ranges meets a blank or a letter that has a small form. So a text of digits loses nothing when it is trimmed
and does not change when it is put in small letters. Text that is trimmed loses only blanks in any case, and
a character of ASCII is found in small letters in the small form of a text. -/

namespace EvmScope

/-! ## Ranges -/

/-- The ranges between flip points, two by two. -/
def CharSet.ranges : List Nat → List (Nat × Nat)
  | first :: behind :: rest => (first, behind) :: ranges rest
  | _ => []

/-- A member of a set whose flip points come in pairs is in a range between two of them. -/
theorem CharSet.exists_range_of_walk (code : Nat) (flips : List Nat) (hpairs : flips.length % 2 = 0)
    (hwalk : walk code false flips = true) : ∃ range ∈ ranges flips, range.1 ≤ code ∧ code < range.2 := by
  induction flips using ranges.induct with
  | case1 first behind rest ih =>
    by_cases hfirst : code < first
    · simp [walk, hfirst] at hwalk
    · by_cases hbehind : code < behind
      · exact ⟨(first, behind), List.mem_cons_self, by omega, hbehind⟩
      · simp only [walk, hfirst, hbehind, if_false, Bool.not_false, Bool.not_true] at hwalk
        have hrest : rest.length % 2 = 0 := by
          simp only [List.length_cons] at hpairs
          omega
        obtain ⟨range, hmem, hrange⟩ := ih hrest hwalk
        exact ⟨range, List.mem_cons_of_mem _ hmem, hrange⟩
  | case2 flips hshort =>
    match flips with
    | [] => cases hwalk
    | [_] => simp at hpairs
    | first :: behind :: rest => exact absurd rfl (hshort first behind rest)

/-- The ranges of characters that show a digit. -/
def digitRanges : List (Nat × Nat) :=
  digitZeros.map (fun first => (first, first + 10)) ++ CharSet.ranges ornamentalDigits.flips

theorem exists_zero_of_isDecimalDigit {c : Char} (hc : isDecimalDigit c = true) :
    ∃ first ∈ digitZeros, first ≤ c.toNat ∧ c.toNat < first + 10 := by
  rw [isDecimalDigit, decimalValue?, Option.isSome_map, List.find?_isSome] at hc
  obtain ⟨first, hfirst, hrange⟩ := hc
  exact ⟨first, hfirst, by simpa using hrange⟩

theorem exists_range_of_isDigitLike {c : Char} (hc : isDigitLike c = true) :
    ∃ range ∈ digitRanges, range.1 ≤ c.toNat ∧ c.toNat < range.2 := by
  rw [isDigitLike, Bool.or_eq_true] at hc
  rcases hc with hdecimal | hornamental
  · obtain ⟨first, hfirst, hrange⟩ := exists_zero_of_isDecimalDigit hdecimal
    exact ⟨_, List.mem_append_left _ (List.mem_map_of_mem hfirst), hrange⟩
  · obtain ⟨range, hmem, hrange⟩ :=
      CharSet.exists_range_of_walk c.toNat ornamentalDigits.flips (by decide) hornamental
    exact ⟨range, List.mem_append_right _ hmem, hrange⟩

theorem isDigitLike_of_isDecimalDigit {c : Char} (hc : isDecimalDigit c = true) : isDigitLike c = true := by
  rw [isDigitLike, hc, Bool.true_or]

/-! ## Blanks -/

theorem isBlank_of_isDigitLike {c : Char} (hc : isDigitLike c = true) : isBlank c = false := by
  obtain ⟨range, hmem, hlow, hhigh⟩ := exists_range_of_isDigitLike hc
  have hall : ∀ range ∈ digitRanges, ∀ place < range.2 - range.1,
      isBlank (Char.ofNat (range.1 + place)) = false := by
    decide +kernel
  have hcode := hall range hmem (c.toNat - range.1) (by omega)
  rwa [Nat.add_sub_cancel' hlow, Char.ofNat_toNat] at hcode

/-- A text without blanks is trimmed of nothing. -/
theorem trimBlanks_of_forall {text : String} (htext : ∀ c ∈ text.toList, isBlank c = false) :
    trimBlanks text = text := by
  have hkept : ∀ cs : List Char, (∀ c ∈ cs, isBlank c = false) → cs.dropWhile isBlank = cs := by
    intro cs hcs
    rw [List.dropWhile_eq_self_iff]
    intro hlength
    rw [hcs _ (List.getElem_mem hlength)]
    exact Bool.false_ne_true
  rw [trimBlanks, trimChars, hkept _ htext, hkept _ (fun c hc => htext c (List.mem_reverse.1 hc)),
    List.reverse_reverse, String.ofList_toList]

/-- A text of digits is trimmed of nothing. -/
theorem trimBlanks_of_isDigitLike {text : String} (htext : ∀ c ∈ text.toList, isDigitLike c = true) :
    trimBlanks text = text :=
  trimBlanks_of_forall (fun c hc => isBlank_of_isDigitLike (htext c hc))

theorem mem_dropWhile {α : Type} {drop : α → Bool} {cs : List α} {c : α} (hmem : c ∈ cs)
    (hkept : drop c = false) : c ∈ cs.dropWhile drop := by
  rw [← List.takeWhile_append_dropWhile (p := drop) (l := cs), List.mem_append] at hmem
  rcases hmem with hfront | hrest
  · have hdropped := List.mem_takeWhile_imp hfront
    rw [hkept] at hdropped
    cases hdropped
  · exact hrest

/-- What is no blank is not trimmed off. -/
theorem mem_trimBlanks {text : String} {c : Char} (hmem : c ∈ text.toList) (hc : isBlank c = false) :
    c ∈ (trimBlanks text).toList := by
  rw [trimBlanks, String.toList_ofList, trimChars, List.mem_reverse]
  exact mem_dropWhile (List.mem_reverse.2 (mem_dropWhile hmem hc)) hc

/-- Trimmed text does not end with a blank. -/
theorem isBlank_of_mem_getLast?_trimBlanks {text : String} {c : Char}
    (hc : c ∈ (trimBlanks text).toList.getLast?) : isBlank c = false := by
  rw [trimBlanks, String.toList_ofList, trimChars, List.getLast?_reverse] at hc
  have hhead := List.head?_dropWhile_not isBlank (text.toList.dropWhile isBlank).reverse
  rw [Option.mem_def.1 hc] at hhead
  simpa using hhead

theorem length_trimBlanks_le (text : String) :
    (trimBlanks text).toList.length ≤ text.toList.length := by
  have hback := List.length_dropWhile_le isBlank (text.toList.dropWhile isBlank).reverse
  have hfront := List.length_dropWhile_le isBlank text.toList
  rw [List.length_reverse] at hback
  rw [trimBlanks, String.toList_ofList, trimChars, List.length_reverse]
  omega

/-! ## Small letters -/

/-- What is in no run and has no longer spelling is its own small form. -/
theorem recase_of_outside {runs : List CaseRun} {spellings : List (Nat × List Nat)} {c : Char}
    (hspelling : spellings.lookup c.toNat = none)
    (hruns : ∀ run ∈ runs, c.toNat < run.first ∨ run.last < c.toNat) : recase runs spellings c = [c] := by
  have hnone : runs.findSome? (fun run => run.map? c.toNat) = none := by
    refine List.findSome?_eq_none_iff.2 (fun run hrun => ?_)
    have houtside := hruns run hrun
    rw [CaseRun.map?, if_neg]
    simp only [Bool.and_eq_true, decide_eq_true_eq]
    omega
  rw [recase, hspelling, hnone]

/-- A digit is its own small form. -/
theorem smallOf_of_isDigitLike {c : Char} (hc : isDigitLike c = true) : smallOf c = [c] := by
  by_cases hascii : c.toNat < 128
  · have hall : ∀ code < 128, isDigitLike (Char.ofNat code) = true →
        (Char.ofNat code).toLower = Char.ofNat code := by
      decide +kernel
    have hlower := hall c.toNat hascii
    rw [Char.ofNat_toNat] at hlower
    rw [smallOf, if_pos hascii, hlower hc]
  · obtain ⟨range, hmem, hlow, hhigh⟩ := exists_range_of_isDigitLike hc
    have hapart : ∀ range ∈ digitRanges, (range.2 ≤ 304 ∨ 304 < range.1)
        ∧ ∀ run ∈ smallRuns, range.2 ≤ run.first ∨ run.last < range.1 := by
      decide +kernel
    obtain ⟨hspelled, hruns⟩ := hapart range hmem
    have hother : (c.toNat == 304) = false := by
      rw [beq_eq_false_iff_ne]
      omega
    rw [smallOf, if_neg hascii]
    refine recase_of_outside ?_ (fun run hrun => ?_)
    · rw [smallSpellings, List.lookup_cons, hother]
      rfl
    · have hrun := hruns run hrun
      omega

/-- The capital sigma shows no digit. -/
theorem ne_sigma_of_isDigitLike {c : Char} (hc : isDigitLike c = true) : c.toNat ≠ 0x3A3 := by
  obtain ⟨range, hmem, hlow, hhigh⟩ := exists_range_of_isDigitLike hc
  have hapart : ∀ range ∈ digitRanges, range.2 ≤ 0x3A3 ∨ 0x3A3 < range.1 := by
    decide +kernel
  have hrange := hapart range hmem
  omega

theorem smallFrom_of_isDigitLike (cs : List Char) (hcs : ∀ c ∈ cs, isDigitLike c = true)
    (before out : List Char) : smallFrom before out cs = out.reverse ++ cs := by
  induction cs generalizing before out with
  | nil => rw [smallFrom, List.append_nil]
  | cons c rest ih =>
    have hc := hcs c List.mem_cons_self
    rw [smallFrom, if_neg (ne_sigma_of_isDigitLike hc), smallOf_of_isDigitLike hc,
      ih (fun d hd => hcs d (List.mem_cons_of_mem _ hd))]
    simp

/-- A text of digits is its own small form. -/
theorem toSmall_of_isDigitLike {text : String} (htext : ∀ c ∈ text.toList, isDigitLike c = true) :
    toSmall text = text := by
  unfold toSmall
  split
  · next hascii =>
    have hlower : ∀ c ∈ text.toList, c.toLower = c := by
      intro c hc
      have hsmall := smallOf_of_isDigitLike (htext c hc)
      rw [smallOf, if_pos (by simpa using List.all_eq_true.1 hascii c hc)] at hsmall
      exact (List.cons.inj hsmall).1
    rw [List.map_congr_left (g := id) hlower, List.map_id, String.ofList_toList]
  · rw [smallFrom_of_isDigitLike _ htext, List.reverse_nil, List.nil_append, String.ofList_toList]

/-- What is written stays, and the small forms of characters of ASCII are written. -/
theorem mem_smallFrom {c : Char} (cs before out : List Char)
    (hmem : c ∈ out ∨ ∃ d ∈ cs, d.toNat < 128 ∧ d.toLower = c) : c ∈ smallFrom before out cs := by
  induction cs generalizing before out with
  | nil =>
    rcases hmem with hout | ⟨d, hd, -⟩
    · exact List.mem_reverse.2 hout
    · exact absurd hd List.not_mem_nil
  | cons e rest ih =>
    rw [smallFrom]
    refine ih _ _ ?_
    rcases hmem with hout | ⟨d, hd, hascii, hlower⟩
    · exact Or.inl (List.mem_append_right _ hout)
    · rcases List.mem_cons.1 hd with rfl | hd
      · left
        rw [if_neg (by omega), smallOf, if_pos hascii, hlower]
        simp
      · exact Or.inr ⟨d, hd, hascii, hlower⟩

theorem toLower_mem_toSmall {text : String} {c : Char} (hmem : c ∈ text.toList)
    (hascii : c.toNat < 128) : c.toLower ∈ (toSmall text).toList := by
  unfold toSmall
  split
  · rw [String.toList_ofList]
    exact List.mem_map_of_mem hmem
  · rw [String.toList_ofList]
    exact mem_smallFrom _ _ _ (Or.inr ⟨c, hmem, hascii, rfl⟩)

end EvmScope
