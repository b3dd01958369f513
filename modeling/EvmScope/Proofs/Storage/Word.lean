import EvmScope.Proofs.Text.Numeral
import EvmScope.Storage.Word

set_option autoImplicit false

/-! # Words read back

A word is written in small digits with a mark in front, or with a sign before the mark if it is negative.
Reading trims, makes letters small and takes off a mark that stands in front, and none of this loses
anything of a written word. -/

namespace EvmScope.Word

/-- A text of small characters of ASCII is its own small form. -/
theorem toSmall_of_small {text : String} (htext : ∀ c ∈ text.toList, c.toNat < 128 ∧ c.toLower = c) :
    toSmall text = text := by
  have hascii : text.toList.all (fun c => c.toNat < 128) = true := by
    rw [List.all_eq_true]
    exact fun c hc => decide_eq_true (htext c hc).1
  rw [toSmall, if_pos hascii, List.map_congr_left (g := id) (fun c hc => (htext c hc).2), List.map_id,
    String.ofList_toList]

/-- Written digits are small characters of ASCII. -/
theorem small_of_mem_toDigits {n : Nat} {c : Char} (hc : c ∈ Nat.toDigits 16 n) :
    c.toNat < 128 ∧ c.toLower = c := by
  obtain ⟨digit, hdigit, rfl⟩ := Numeral.exists_digit_of_mem_toDigits 16 n (by decide) c hc
  have hall : ∀ d, d < 16 → (Nat.digitChar d).toNat < 128
      ∧ (Nat.digitChar d).toLower = Nat.digitChar d := by decide
  exact hall digit hdigit

theorem toSmall_hex (n : Int) : toSmall (Numeral.hex n) = Numeral.hex n := by
  refine toSmall_of_small (fun c hc => ?_)
  rw [Numeral.toList_hex] at hc
  split at hc
  · simp only [List.mem_cons] at hc
    rcases hc with rfl | rfl | rfl | hc
    · decide
    · decide
    · decide
    · exact small_of_mem_toDigits hc
  · simp only [List.mem_cons] at hc
    rcases hc with rfl | rfl | hc
    · decide
    · decide
    · exact small_of_mem_toDigits hc

theorem toSmall_toDigits (n : Nat) :
    toSmall (String.ofList (Nat.toDigits 16 n)) = String.ofList (Nat.toDigits 16 n) := by
  refine toSmall_of_small (fun c hc => ?_)
  rw [String.toList_ofList] at hc
  exact small_of_mem_toDigits hc

/-- A mark in front is taken off. -/
theorem dropMark_of_mark (cs : List Char) :
    dropMark (String.ofList ('0' :: 'x' :: cs)) = String.ofList cs := by
  have hlist : (String.ofList ('0' :: 'x' :: cs)).toList = '0' :: 'x' :: cs := String.toList_ofList
  have hmark : beginsWith (String.ofList ('0' :: 'x' :: cs)) "0x" = true := by
    rw [beginsWith, hlist]
    rfl
  rw [dropMark, if_pos hmark, dropChars, hlist]
  rfl

theorem dropMark_hex_natCast (n : Nat) :
    dropMark (Numeral.hex n) = String.ofList (Nat.toDigits 16 n) := by
  have hlist : (Numeral.hex n).toList = '0' :: 'x' :: Nat.toDigits 16 n := by
    rw [Numeral.toList_hex, if_neg (by omega), Int.natAbs_natCast]
  rw [← String.ofList_toList (s := Numeral.hex n), hlist]
  exact dropMark_of_mark _

/-- The digits of a written word have its number. -/
theorem read_dropMark_hex (n : Int) :
    Numeral.read .hexadecimal (dropMark (Numeral.hex n)) = .ok n := by
  by_cases hn : n < 0
  · -- the sign in front hides the mark, which reading then takes off
    have hmark : beginsWith (Numeral.hex n) "0x" = false := by
      rw [beginsWith, Numeral.toList_hex, if_pos hn]
      rfl
    rw [dropMark, if_neg (ne_true_of_eq_false hmark)]
    exact Numeral.read_hex n
  · obtain ⟨m, rfl⟩ := Int.eq_ofNat_of_zero_le (Int.not_lt.1 hn)
    rw [dropMark_hex_natCast]
    exact Numeral.read_digits m

/-- **A written word is read back.** -/
theorem ofText_hex (n : Int) : ofText (Numeral.hex n) = .ok n := by
  have hread := read_dropMark_hex n
  have hsome : dropMark (Numeral.hex n) ≠ "" := by
    intro hempty
    rw [hempty] at hread
    cases hread
  unfold ofText
  simp only [Numeral.trimBlanks_hex, toSmall_hex, if_neg hsome, hread]
  rfl

end EvmScope.Word
