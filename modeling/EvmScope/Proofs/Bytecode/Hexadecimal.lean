import EvmScope.Bytecode.Decoding
import EvmScope.Proofs.Text.Numeral

set_option autoImplicit false

/-! # Hexadecimal text, pair by pair

Hexadecimal text is read in one of two ways: as plain hexadecimal if it is nothing else, or else pair by
pair, each pair as a numeral. Numerals allow more than digits, such as a sign, an underscore, a mark or
digits of other scripts, but a pair of ASCII letters and digits has room for none of these. So either way
a pair gives its byte exactly if both of its characters are digits (`cellOfPair_eq`), and the two ways
differ in nothing but speed.

`pairwise` is this common reading, and one equation tells each of its cells by the two characters of the
pair (`getElem?_pairwise`). All else follows from it: which cells are empty, that the bytes of a spelling
are read back, and that a pair has no say in any other cell. -/

namespace EvmScope

/-! ## Digits -/

/-- A character is the hexadecimal digit of a value, a small or a capital one. -/
def IsHexDigit (c : Char) (value : Nat) : Prop :=
  value < 16 ∧ (c = Nat.digitChar value ∨ c = (Nat.digitChar value).toUpper)

instance (c : Char) (value : Nat) : Decidable (IsHexDigit c value) :=
  inferInstanceAs (Decidable (_ ∧ _))

namespace Numeral

theorem digitValue?_eq_some_iff (c : Char) (value : Nat) :
    digitValue? 16 c = some value ↔ IsHexDigit c value := by
  constructor
  · intro hvalue
    have hall : ∀ n, n < 128 → ∀ v ∈ digitValue? 16 (Char.ofNat n), IsHexDigit (Char.ofNat n) v := by
      decide +kernel
    have hsmall : c.toNat < 128 := by
      by_contra hlarge
      have hnone : digitValue? 16 c = none := by
        simp [digitValue?, show ¬ c.toNat ≤ 57 by omega, show ¬ c.toNat ≤ 122 by omega,
          show ¬ c.toNat ≤ 90 by omega]
      rw [hnone] at hvalue
      cases hvalue
    have hdigit := hall c.toNat hsmall
    rw [Char.ofNat_toNat] at hdigit
    exact hdigit value hvalue
  · rintro ⟨hvalue, rfl | rfl⟩
    · exact digitValue?_digitChar 16 value (Nat.le_refl 16) hvalue
    · have hall : ∀ v, v < 16 → digitValue? 16 (Nat.digitChar v).toUpper = some v := by decide
      exact hall value hvalue

theorem isAlphanum_of_isHexDigit {c : Char} {value : Nat} (hc : IsHexDigit c value) :
    c.isAlphanum = true := by
  obtain ⟨hvalue, hc⟩ := hc
  have hall : ∀ v, v < 16 → (Nat.digitChar v).isAlphanum = true
      ∧ (Nat.digitChar v).toUpper.isAlphanum = true := by decide
  rcases hc with rfl | rfl
  · exact (hall value hvalue).1
  · exact (hall value hvalue).2

/-! ## Pairs as numerals -/

theorem toNat_of_isAlphanum {c : Char} (hc : c.isAlphanum = true) :
    (48 ≤ c.toNat ∧ c.toNat ≤ 57) ∨ (65 ≤ c.toNat ∧ c.toNat ≤ 90)
      ∨ (97 ≤ c.toNat ∧ c.toNat ≤ 122) := by
  have hranges : (decide (c.val ≥ 'A'.val ∧ c.val ≤ 'Z'.val)
      || (decide (c.val ≥ 'a'.val) && decide (c.val ≤ 'z'.val))
      || (decide (c.val ≥ '0'.val) && decide (c.val ≤ '9'.val))) = true := hc
  simp only [Bool.or_eq_true, Bool.and_eq_true, decide_eq_true_eq, UInt32.le_iff_toNat_le] at hranges
  rcases hranges with (hupper | hlower) | hdigit
  · exact .inr (.inl hupper)
  · exact .inr (.inr hlower)
  · exact .inl hdigit

/-- A letter or digit of ASCII stands for itself in a numeral, and is nothing that a numeral allows
    beside its digits. -/
theorem plain_of_isAlphanum {c : Char} (hc : c.isAlphanum = true) :
    toPlain c = c ∧ isPlainBlank c = false ∧ c ≠ '-' ∧ c ≠ '+' ∧ c ≠ '_' := by
  have hrange := toNat_of_isAlphanum hc
  refine ⟨?_, ?_, ?_, ?_, ?_⟩
  · rw [toPlain, if_pos (by omega)]
  · simp [isPlainBlank]
    omega
  all_goals
    rintro rfl
    revert hc
    decide

theorem splitSign_of_isAlphanum {c : Char} (hc : c.isAlphanum = true) (rest : List Char) :
    splitSign (c :: rest) = (false, c :: rest) := by
  obtain ⟨-, -, hminus, hplus, -⟩ := plain_of_isAlphanum hc
  exact splitSign_of_ne hminus hplus rest

/-- The value of two digits. -/
def pairValue? (high low : Char) : Option Nat :=
  match digitValue? 16 high, digitValue? 16 low with
  | some h, some l => some (16 * h + l)
  | _, _ => none

theorem magnitude_pair {high low : Char} (hhigh : high ≠ '_') (hlow : low ≠ '_')
    (hblank : isPlainBlank low = false) :
    magnitude ⟨16, false, [high, low]⟩ = .ok (pairValue? high low) := by
  cases hh : digitValue? 16 high with
  | none => simp [magnitude, pairValue?, inRun, hhigh, hh, separated]
  | some h =>
    cases hl : digitValue? 16 low with
    | none => simp [magnitude, pairValue?, inRun, hhigh, hlow, hh, hl, separated, hblank]
    | some l =>
      have hvalue : ofDigits 16 [h, l] = 16 * h + l := by
        simp [ofDigits, Nat.mul_comm]
      simp [magnitude, pairValue?, inRun, hhigh, hlow, hh, hl, separated, runDigits, hvalue]

/-- Two letters or digits of ASCII are a numeral if both are digits. -/
theorem read?_pair {high low : Char} (hhigh : high.isAlphanum = true) (hlow : low.isAlphanum = true) :
    read? .hexadecimal (String.ofList [high, low]) = (pairValue? high low).map Int.ofNat := by
  obtain ⟨hplain, hblank, -, -, hrun⟩ := plain_of_isAlphanum hhigh
  obtain ⟨hplain', hblank', -, -, hrun'⟩ := plain_of_isAlphanum hlow
  unfold read? Numeral.read
  rw [String.toList_ofList, List.map_cons, List.map_cons, List.map_nil, hplain, hplain',
    List.dropWhile_cons_of_neg (by simp [hblank]), splitSign_of_isAlphanum hhigh]
  dsimp only
  by_cases hmark : high = '0' ∧ (low = 'x' ∨ low = 'X')
  · -- a mark with nothing behind it is no numeral, and `x` is no digit
    obtain ⟨rfl, rfl | rfl⟩ := hmark
    · rfl
    · rfl
  · have hsettle : settle .hexadecimal [high, low] = ⟨16, false, [high, low]⟩ := by
      refine settle_hexadecimal_of_no_mark (fun mark rest hcs => ?_)
      simp only [List.cons.injEq] at hcs
      obtain ⟨rfl, rfl, rfl⟩ := hcs
      simpa using hmark
    rw [hsettle, magnitude_pair hrun hrun' hblank']
    cases pairValue? high low <;> rfl

end Numeral

namespace Code

theorem byteOfDigits?_eq (high low : Char) :
    byteOfDigits? high low = (Numeral.pairValue? high low).map UInt8.ofNat := by
  unfold byteOfDigits? Numeral.pairValue?
  cases Numeral.digitValue? 16 high with
  | none => rfl
  | some h => cases Numeral.digitValue? 16 low <;> rfl

/-- A pair gives a byte exactly if both of its characters are digits. -/
theorem byteOfDigits?_eq_some_iff (high low : Char) (byte : UInt8) :
    byteOfDigits? high low = some byte
      ↔ ∃ d e, IsHexDigit high d ∧ IsHexDigit low e ∧ byte.toNat = 16 * d + e := by
  simp only [← Numeral.digitValue?_eq_some_iff]
  have hbyte : ∀ d e, Numeral.digitValue? 16 high = some d → Numeral.digitValue? 16 low = some e →
      (UInt8.ofNat (16 * d + e)).toNat = 16 * d + e := by
    intro d e hd he
    obtain ⟨hd, -⟩ := (Numeral.digitValue?_eq_some_iff high d).1 hd
    obtain ⟨he, -⟩ := (Numeral.digitValue?_eq_some_iff low e).1 he
    rw [UInt8.toNat_ofNat', Nat.mod_eq_of_lt (by omega)]
  unfold byteOfDigits?
  constructor
  · intro hok
    split at hok
    · next d e hd he =>
      cases hok
      exact ⟨d, e, hd, he, hbyte d e hd he⟩
    · cases hok
  · rintro ⟨d, e, hd, he, hvalue⟩
    rw [hd, he, ← UInt8.toNat_inj.1 ((hbyte d e hd he).trans hvalue.symm)]

/-- **A pair read as a numeral** is read as two digits. -/
theorem cellOfPair_eq (high low : Char) : cellOfPair high low = byteOfDigits? high low := by
  unfold cellOfPair
  split
  · next halnum =>
    rw [Bool.and_eq_true] at halnum
    rw [Numeral.read?_pair halnum.1 halnum.2, byteOfDigits?_eq, Option.map_map]
    rfl
  · next hother =>
    -- two digits would be letters or digits
    cases hbyte : byteOfDigits? high low with
    | none => rfl
    | some byte =>
      obtain ⟨d, e, hhigh, hlow, -⟩ := (byteOfDigits?_eq_some_iff high low byte).1 hbyte
      rw [Numeral.isAlphanum_of_isHexDigit hhigh, Numeral.isAlphanum_of_isHexDigit hlow] at hother
      exact absurd rfl hother

/-! ## The common reading -/

/-- The cells of a text, pair by pair. -/
def pairwise : List Char → List Cell
  | [] => []
  | [_] => [none]
  | high :: low :: rest => byteOfDigits? high low :: pairwise rest

theorem pairUp_eq (out : List Cell) (cs : List Char) :
    pairUp out cs = out.reverse ++ pairwise cs := by
  fun_induction pairUp out cs with
  | case1 out => simp [pairwise]
  | case2 out c => simp [pairwise]
  | case3 out high low rest ih =>
    rw [ih, pairwise, cellOfPair_eq, List.reverse_cons, List.append_assoc, List.singleton_append]

/-- A text without blanks is read as plain hexadecimal exactly if no cell of it is empty, and then its
    bytes are the cells. -/
theorem plainBytes?_eq_some_iff (out values : List UInt8) (cs : List Char)
    (hcs : ∀ c ∈ cs, isPlainBlank c = false) :
    plainBytes? out cs = some values ↔ out.reverse.map some ++ pairwise cs = values.map some := by
  fun_induction plainBytes? out cs with
  | case1 out =>
    rw [pairwise, List.append_nil, Option.some.injEq, List.map_inj_right (fun _ _ => Option.some.inj)]
  | case2 out c hblank =>
    rw [hcs c List.mem_cons_self] at hblank
    cases hblank
  | case3 out c hblank =>
    refine iff_of_false (by simp) (fun heq => ?_)
    have hmem : (none : Cell) ∈ values.map some := heq ▸ by simp [pairwise]
    simp at hmem
  | case4 out high low rest hblank ih =>
    rw [hcs high List.mem_cons_self] at hblank
    cases hblank
  | case5 out high low rest hblank byte hbyte ih =>
    rw [ih (fun c hc => hcs c (by simp [hc])), pairwise, hbyte]
    simp
  | case6 out high low rest hblank hbyte =>
    refine iff_of_false (by simp) (fun heq => ?_)
    have hmem : (none : Cell) ∈ values.map some := heq ▸ by simp [pairwise, hbyte]
    simp at hmem

/-- **One equation for every cell.** -/
theorem getElem?_pairwise (cs : List Char) (place : Nat) :
    (pairwise cs)[place]? = cs[2 * place]?.map (fun high =>
      cs[2 * place + 1]?.bind (byteOfDigits? high)) := by
  induction cs using pairwise.induct generalizing place with
  | case1 => simp [pairwise]
  | case2 c => cases place <;> simp [pairwise]
  | case3 high low rest ih =>
    cases place with
    | zero => simp [pairwise]
    | succ place =>
      have hnext : 2 * (place + 1) = 2 * place + 1 + 1 := by omega
      simp [pairwise, ih, hnext]

theorem length_pairwise (cs : List Char) : (pairwise cs).length = (cs.length + 1) / 2 := by
  induction cs using pairwise.induct with
  | case1 => simp [pairwise]
  | case2 c => simp [pairwise]
  | case3 high low rest ih =>
    rw [pairwise, List.length_cons, ih, List.length_cons, List.length_cons]
    omega

/-! ## What is left out -/

theorem isPlainBlank_of_isBlank_eq_false {c : Char} (hc : isBlank c = false) :
    isPlainBlank c = false := by
  simp only [isBlank, Bool.or_eq_false_iff, Bool.and_eq_false_iff, decide_eq_false_iff_not] at hc
  simp only [isPlainBlank, Bool.or_eq_false_iff, Bool.and_eq_false_iff, decide_eq_false_iff_not,
    beq_eq_false_iff_ne]
  omega

theorem mem_of_mem_dropMark {c : Char} {cs : List Char} (hc : c ∈ dropMark cs) : c ∈ cs := by
  unfold dropMark at hc
  split at hc
  · split at hc
    · exact List.mem_cons_of_mem _ (List.mem_cons_of_mem _ hc)
    · exact hc
  · exact hc

theorem isPlainBlank_of_mem_readable {hex : String} {c : Char} (hc : c ∈ readable hex) :
    isPlainBlank c = false := by
  have hkept := (List.mem_filter.1 (mem_of_mem_dropMark hc)).2
  exact isPlainBlank_of_isBlank_eq_false (by simpa using hkept)

/-- **Both ways of reading** are the common one. -/
theorem cellsOfText_eq (hex : String) : cellsOfText hex = pairwise (readable hex) := by
  unfold cellsOfText
  split
  · next values hplain =>
    exact ((plainBytes?_eq_some_iff [] values _ (fun c hc => isPlainBlank_of_mem_readable hc)).1 hplain).symm
  · rw [pairUp_eq]
    rfl

/-- A cell that is given tells the digits of its pair. -/
theorem getElem?_pairwise_eq_some_iff (cs : List Char) (place : Nat) (byte : UInt8) :
    (pairwise cs)[place]? = some (some byte)
      ↔ ∃ high low d e, cs[2 * place]? = some high ∧ cs[2 * place + 1]? = some low
        ∧ IsHexDigit high d ∧ IsHexDigit low e ∧ byte.toNat = 16 * d + e := by
  simp only [getElem?_pairwise, Option.map_eq_some_iff, Option.bind_eq_some_iff,
    byteOfDigits?_eq_some_iff]
  constructor
  · rintro ⟨high, hhigh, low, hlow, d, e, hd, he, hvalue⟩
    exact ⟨high, low, d, e, hhigh, hlow, hd, he, hvalue⟩
  · rintro ⟨high, low, d, e, hhigh, hlow, hd, he, hvalue⟩
    exact ⟨high, hhigh, low, hlow, d, e, hd, he, hvalue⟩

/-! ## Spellings -/

/-- Digits spell bytes, two digits for each byte, in letters of either case. -/
inductive SpelledBy : List UInt8 → List Char → Prop
  | nil : SpelledBy [] []
  | cons {byte : UInt8} {values : List UInt8} {high low : Char} {digits : List Char}
    (hhigh : IsHexDigit high (byte.toNat / 16)) (hlow : IsHexDigit low (byte.toNat % 16))
    (hrest : SpelledBy values digits) : SpelledBy (byte :: values) (high :: low :: digits)

/-- What may stand in front of the digits. -/
def marks : List (List Char) := [[], ['0', 'x'], ['0', 'X']]

/-- A text spells bytes if it consists of their digits, blanks anywhere and perhaps a mark in front. -/
def Spells (hex : String) (values : List UInt8) : Prop :=
  ∃ mark ∈ marks, ∃ digits, removeBlanks hex.toList = mark ++ digits ∧ SpelledBy values digits

/-- Digits are read back. -/
theorem SpelledBy.pairwise_eq {values : List UInt8} {digits : List Char}
    (hspelled : SpelledBy values digits) : pairwise digits = values.map some := by
  induction hspelled with
  | nil => rfl
  | @cons byte values high low digits hhigh hlow hrest ih =>
    have hbyte : byteOfDigits? high low = some byte :=
      (byteOfDigits?_eq_some_iff high low byte).2 ⟨_, _, hhigh, hlow, by omega⟩
    rw [pairwise, hbyte, ih, List.map_cons]

/-- Digits do not begin with a mark, as `x` is none. -/
theorem SpelledBy.dropMark_eq {values : List UInt8} {digits : List Char}
    (hspelled : SpelledBy values digits) : dropMark digits = digits := by
  cases hspelled with
  | nil => rfl
  | @cons byte values high low digits hhigh hlow hrest =>
    have hlow_ne : ¬ (low = 'x' ∨ low = 'X') := by
      have hvalue := (Numeral.digitValue?_eq_some_iff low _).2 hlow
      rintro (rfl | rfl)
      · cases hvalue
      · cases hvalue
    unfold dropMark
    split
    · next heq =>
      simp only [List.cons.injEq] at heq
      obtain ⟨rfl, rfl, rfl⟩ := heq
      exact if_neg (by simpa using hlow_ne)
    · rfl

theorem Spells.cells_eq {hex : String} {values : List UInt8} (hspells : Spells hex values) :
    (text hex).cells = (bytes values).cells := by
  obtain ⟨mark, hmark, digits, hdigits, hspelled⟩ := hspells
  have hreadable : readable hex = digits := by
    simp only [marks, List.mem_cons, List.not_mem_nil, or_false] at hmark
    rw [readable, hdigits]
    rcases hmark with rfl | rfl | rfl
    · exact hspelled.dropMark_eq
    · rfl
    · rfl
  rw [cells, cellsOfText_eq, hreadable, hspelled.pairwise_eq, cells]

/-! ## What a text is read as -/

theorem exists_mark (cs : List Char) :
    ∃ mark ∈ marks, cs = mark ++ dropMark cs
      ∧ (mark = [] → ∀ m ∈ ['x', 'X'], ¬ ['0', m] <+: dropMark cs) := by
  unfold dropMark
  split
  · next m rest =>
    split
    · next hm =>
      have hm' : m = 'x' ∨ m = 'X' := by simpa using hm
      rcases hm' with rfl | rfl
      · exact ⟨['0', 'x'], by simp [marks], rfl, by simp⟩
      · exact ⟨['0', 'X'], by simp [marks], rfl, by simp⟩
    · next hm =>
      refine ⟨[], by simp [marks], rfl, fun _ mark hmark hprefix => ?_⟩
      obtain ⟨more, hmore⟩ := hprefix
      simp only [List.cons_append, List.nil_append, List.cons.injEq, true_and] at hmore
      obtain ⟨rfl, -⟩ := hmore
      simp only [List.mem_cons, List.not_mem_nil, or_false] at hmark
      exact hm (by simpa using hmark)
  · next hno =>
    refine ⟨[], by simp [marks], rfl, fun _ mark _ hprefix => ?_⟩
    obtain ⟨more, rfl⟩ := hprefix
    exact hno mark more rfl

/-- A text is read pair by pair, by whichever way. -/
structure ReadsInPairs (hex : String) : Prop where
  /-- All blanks are left out and, if the rest begins with a mark, this one mark. -/
  readable_eq : ∃ mark ∈ marks, removeBlanks hex.toList = mark ++ readable hex
    ∧ (mark = [] → ∀ m ∈ ['x', 'X'], ¬ ['0', m] <+: readable hex)
  /-- Every pair has a cell, and so has a character that is left over. -/
  length_cells : (text hex).cells.length = ((readable hex).length + 1) / 2
  /-- A cell holds the value of its pair, and is empty unless both characters are digits. -/
  cell_iff : ∀ place byte, (text hex).cells[place]? = some (some byte)
    ↔ ∃ high low d e, (readable hex)[2 * place]? = some high
      ∧ (readable hex)[2 * place + 1]? = some low
      ∧ IsHexDigit high d ∧ IsHexDigit low e ∧ byte.toNat = 16 * d + e
  /-- The text is plain hexadecimal exactly if no cell is empty. -/
  plain_iff : (∃ values, plainBytes? [] (readable hex) = some values)
    ↔ ∀ cell ∈ (text hex).cells, cell ≠ none
  /-- Pairs read as numerals have the same cells, also where the text is plain hexadecimal. -/
  pairUp_eq : pairUp [] (readable hex) = (text hex).cells
  /-- A spelling of bytes is decoded like the bytes. -/
  decode_eq : ∀ limit values, Spells hex values →
    decode limit (text hex) = decode limit (bytes values)
  /-- A text that differs within one pair has the same cells elsewhere. -/
  cells_congr : ∀ (other : String) (place : Nat),
    (∀ i, i ≠ 2 * place → i ≠ 2 * place + 1 → (readable hex)[i]? = (readable other)[i]?) →
    ∀ i, i ≠ place → (text hex).cells[i]? = (text other).cells[i]?

/-- **Hexadecimal text is read pair by pair.** Every text has a cell for every two characters that
    remain of it, with the byte of two digits and no byte for anything else, whether it is read as plain
    hexadecimal or by numerals. So all spellings of some bytes are decoded alike, and a pair has no say
    in the cells of others. -/
theorem text_readsInPairs (hex : String) : ReadsInPairs hex := by
  have hcells : ∀ hex, (text hex).cells = pairwise (readable hex) := cellsOfText_eq
  constructor
  case readable_eq => exact exists_mark _
  case length_cells => rw [hcells, length_pairwise]
  case cell_iff =>
    intro place byte
    rw [hcells]
    exact getElem?_pairwise_eq_some_iff _ place byte
  case plain_iff =>
    have hplain := fun values =>
      plainBytes?_eq_some_iff [] values (readable hex) (fun c hc => isPlainBlank_of_mem_readable hc)
    simp only [hplain, hcells, List.reverse_nil, List.map_nil, List.nil_append]
    constructor
    · rintro ⟨values, heq⟩ cell hcell
      rw [heq] at hcell
      obtain ⟨byte, -, rfl⟩ := List.mem_map.1 hcell
      exact Option.some_ne_none byte
    · intro hgiven
      refine ⟨(pairwise (readable hex)).filterMap id, ?_⟩
      rw [List.map_filterMap_some_eq_filter_map_isSome, List.map_id, eq_comm, List.filter_eq_self]
      exact fun cell hcell => Option.isSome_iff_ne_none.2 (hgiven cell hcell)
  case pairUp_eq => rw [pairUp_eq, hcells, List.reverse_nil, List.nil_append]
  case decode_eq =>
    intro limit values hspells
    rw [decode, hspells.cells_eq, decode]
  case cells_congr =>
    intro other place hsame i hi
    rw [hcells, hcells, getElem?_pairwise, getElem?_pairwise, hsame (2 * i) (by omega) (by omega),
      hsame (2 * i + 1) (by omega) (by omega)]

/-- One mark is left out; a second one and an underscore are no digits, nor is a digit of another
    script. -/
example : (text " 0X6 0\n0x6_٣6a").cells = [some 0x60, none, none, none, none] := by decide

end Code

end EvmScope
