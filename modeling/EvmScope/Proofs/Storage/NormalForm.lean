import EvmScope.Proofs.Storage.Word
import EvmScope.Proofs.Text.Digit
import EvmScope.Proofs.Text.Spelling
import EvmScope.Proofs.Traversal

set_option autoImplicit false

/-! # The normal form of a word

Slots and values reach a history as numbers and as hexadecimal text in many spellings. `Word.Denotes` says
which integer a value stands for, by the grammar of numerals. The normal form is the written form of this
integer; a written form is read back, so normal forms are told apart exactly as the integers are, however
they were spelled. -/

namespace EvmScope

/-! ## Trimming -/

/-- A text without blanks is what is left when blanks around it are trimmed. -/
theorem trimBlanks_of_between {text : String} {before body behind : List Char}
    (htext : text.toList = before ++ body ++ behind) (hbefore : ∀ c ∈ before, isBlank c = true)
    (hne : body ≠ []) (hbody : ∀ c ∈ body, isBlank c = false) (hbehind : ∀ c ∈ behind, isBlank c = true) :
    trimBlanks text = String.ofList body := by
  have hdrop : ∀ {blanks kept : List Char} (rest : List Char), (∀ c ∈ blanks, isBlank c = true) →
      kept ≠ [] → (∀ c ∈ kept, isBlank c = false) →
      (blanks ++ (kept ++ rest)).dropWhile isBlank = kept ++ rest := by
    intro blanks kept rest hblanks hkept hnone
    obtain ⟨c, tail, rfl⟩ := List.exists_cons_of_ne_nil hkept
    rw [List.dropWhile_append_of_pos hblanks, List.cons_append,
      List.dropWhile_cons_of_neg (by rw [hnone c List.mem_cons_self]; exact Bool.false_ne_true)]
  have hback := hdrop [] (fun c hc => hbehind c (List.mem_reverse.1 hc)) (List.reverse_ne_nil_iff.2 hne)
    (fun c hc => hbody c (List.mem_reverse.1 hc))
  rw [List.append_nil] at hback
  rw [trimBlanks, trimChars, htext, List.append_assoc, hdrop behind hbefore hne hbody, List.reverse_append,
    hback, List.reverse_reverse]

namespace Word

/-- The normal form of a value: the written form of its number. -/
def normalForm (value : Json) : Except Fault String :=
  (ofJson value).map Numeral.hex

/-- The integer that a value denotes: an integer that is not negative denotes itself, and text the integer
    that it spells once it is trimmed, put in small letters and freed of a mark. -/
def Denotes : Json → Int → Prop
  | .str text, n => Numeral.Spells ((dropMark (toSmall (trimBlanks text))).toList.map Numeral.toPlain) n
  | .int value, n => 0 ≤ value ∧ n = value
  | _, _ => False

theorem ofText_eq_ok_iff {text : String} {n : Int} :
    ofText text = .ok n ↔ Denotes (.str text) n := by
  unfold ofText Denotes
  dsimp only
  rw [← Numeral.read_hexadecimal_iff]
  by_cases hempty : dropMark (toSmall (trimBlanks text)) = ""
  · rw [if_pos hempty, hempty]
    constructor
    · intro hok
      cases hok
    · intro hok
      cases hok
  · rw [if_neg hempty, mapError_eq_ok_iff]

/-- **A value is a word** exactly if it denotes an integer. -/
theorem ofJson_eq_ok_iff {value : Json} {n : Int} : ofJson value = .ok n ↔ Denotes value n := by
  cases value with
  | str text =>
    rw [ofJson]
    exact ofText_eq_ok_iff
  | int value =>
    rw [ofJson, Denotes]
    by_cases hnegative : value < 0
    · simp [hnegative, Int.not_le.2 hnegative]
    · simp [hnegative, Int.not_lt.1 hnegative, eq_comm]
  | null | bool _ | float _ | arr _ | obj _ => simp [ofJson, Denotes]

theorem Denotes.unique {value : Json} {m n : Int} (hm : Denotes value m) (hn : Denotes value n) : m = n :=
  Except.ok.inj ((ofJson_eq_ok_iff.2 hm).symm.trans (ofJson_eq_ok_iff.2 hn))

theorem normalForm_eq_ok_iff {value : Json} {form : String} :
    normalForm value = .ok form ↔ ∃ n, Denotes value n ∧ form = Numeral.hex n := by
  simp only [normalForm, map_eq_ok_iff, ofJson_eq_ok_iff, eq_comm (a := form)]

/-- A normal form is its own normal form. -/
theorem normalForm_idempotent {value : Json} {form : String} (hform : normalForm value = .ok form) :
    normalForm (.str form) = .ok form := by
  obtain ⟨n, -, rfl⟩ := normalForm_eq_ok_iff.1 hform
  rw [normalForm, ofJson, ofText_hex]
  rfl

/-- Normal forms are equal exactly if the values denote one integer. -/
theorem normalForm_eq_iff {value other : Json} {form form' : String}
    (hform : normalForm value = .ok form) (hform' : normalForm other = .ok form') :
    form = form' ↔ ∃ n, Denotes value n ∧ Denotes other n := by
  obtain ⟨m, hm, rfl⟩ := normalForm_eq_ok_iff.1 hform
  obtain ⟨n, hn, rfl⟩ := normalForm_eq_ok_iff.1 hform'
  constructor
  · intro hsame
    obtain rfl := Numeral.hex_injective m n hsame
    exact ⟨m, hm, hn⟩
  · rintro ⟨k, hk, hk'⟩
    rw [hm.unique hk, hn.unique hk']

/-! ## Usual spellings -/

/-- A usual spelling of a number: its hexadecimal digits, small or capital, with zeros in front, a mark
    before them and blanks around it, as many of these as one likes. -/
structure IsSpelling (n : Nat) (text : String) : Prop where
  exists_parts : ∃ before mark digits behind : List Char, ∃ zeros : Nat,
    text.toList = before ++ (mark ++ List.replicate zeros '0' ++ digits) ++ behind
      ∧ (∀ c ∈ before, isBlank c = true) ∧ mark ∈ [[], ['0', 'x'], ['0', 'X']]
      ∧ digits.map Char.toLower = Nat.toDigits 16 n ∧ ∀ c ∈ behind, isBlank c = true

/-- Zeros in front of digits do not count. -/
theorem digits_of_zeros (zeros n : Nat) :
    Numeral.Digits 16 false 0 (List.replicate zeros '0' ++ Nat.toDigits 16 n) n := by
  have hchar : ∀ c ∈ List.replicate zeros '0' ++ Nat.toDigits 16 n,
      Numeral.inRun 16 c = true ∧ c ≠ '_' := by
    intro c hc
    rcases List.mem_append.1 hc with hc | hc
    · rw [List.eq_of_mem_replicate hc]
      decide
    · obtain ⟨hin, hline, -⟩ := Numeral.char_of_mem_toDigits 16 n (by decide) (by decide) c hc
      exact ⟨hin, hline⟩
  refine Numeral.digits_iff.2 ⟨fun c hc => (hchar c hc).1, ?_, ?_⟩
  · rw [Numeral.separated_of_no_underscore _ (fun c hc => (hchar c hc).2)]
    simp
  · have hzeros : ∀ k, (Numeral.runDigits 16 (List.replicate k '0')).foldl
        (fun value digit => value * 16 + digit) 0 = 0 := by
      intro k
      induction k with
      | zero => rfl
      | succ k ih => exact ih
    rw [Numeral.runDigits, List.filterMap_append, List.foldl_append]
    change List.foldl _ (List.foldl _ 0 (Numeral.runDigits 16 (List.replicate zeros '0'))) _ = n
    rw [hzeros]
    exact Numeral.ofDigits_runDigits_toDigits 16 n (by decide) (by decide)

/-- The small form of a character is the character itself, unless it is a capital of ASCII. -/
theorem toLower_eq_or_capital (c : Char) : c.toLower = c ∨ (65 ≤ c.toNat ∧ c.toNat < 65 + 26) := by
  unfold Char.toLower
  split
  · next hcapital =>
    have hlow : 'A'.val.toNat ≤ c.val.toNat := UInt32.le_iff_toNat_le.1 hcapital.1
    have hhigh : c.val.toNat ≤ 'Z'.val.toNat := UInt32.le_iff_toNat_le.1 hcapital.2
    exact Or.inr ⟨hlow, Nat.lt_succ_of_le hhigh⟩
  · exact Or.inl rfl

/-- A character whose small form is a digit of a number is one of ASCII and no blank. -/
theorem ascii_of_toLower_mem_toDigits {n : Nat} {c : Char} (hc : c.toLower ∈ Nat.toDigits 16 n) :
    isBlank c = false ∧ c.toNat < 128 := by
  rcases toLower_eq_or_capital c with hkept | ⟨hlow, hhigh⟩
  · obtain ⟨digit, hdigit, hsame⟩ := Numeral.exists_digit_of_mem_toDigits 16 n (by decide) _ hc
    have hall : ∀ d, d < 16 → isBlank (Nat.digitChar d) = false ∧ (Nat.digitChar d).toNat < 128 := by
      decide
    rw [← hkept, hsame]
    exact hall digit hdigit
  · have hcapital : ∀ place, place < 26 → isBlank (Char.ofNat (65 + place)) = false := by decide
    have hblank := hcapital (c.toNat - 65) (by omega)
    rw [Nat.add_sub_cancel' hlow, Char.ofNat_toNat] at hblank
    exact ⟨hblank, by omega⟩

theorem dropMark_of_no_mark {text : String} (htext : 'x' ∉ text.toList) : dropMark text = text := by
  refine if_neg (fun hmark => htext ?_)
  exact (List.isPrefixOf_iff_prefix.1 hmark).subset (by decide)

section Spelling

variable {mark digits : List Char} {zeros n : Nat}

/-- The marks of usual spellings. -/
theorem ascii_of_mem_mark (hmark : mark ∈ [[], ['0', 'x'], ['0', 'X']]) :
    ∀ c ∈ mark, isBlank c = false ∧ c.toNat < 128 := by
  have hall : ∀ c, c = '0' ∨ c = 'x' ∨ c = 'X' → isBlank c = false ∧ c.toNat < 128 := by
    rintro c (rfl | rfl | rfl)
    · decide
    · decide
    · decide
  intro c hc
  refine hall c ?_
  simp only [List.mem_cons, List.not_mem_nil, or_false] at hmark
  rcases hmark with rfl | rfl | rfl
  · cases hc
  · exact (List.mem_cons.1 hc).imp_right (fun hc => Or.inl (List.mem_singleton.1 hc))
  · exact (List.mem_cons.1 hc).imp_right (fun hc => Or.inr (List.mem_singleton.1 hc))

/-- A usual spelling without the blanks around it has no blanks in it. -/
theorem ascii_of_mem_spelling (hmark : mark ∈ [[], ['0', 'x'], ['0', 'X']])
    (hdigits : digits.map Char.toLower = Nat.toDigits 16 n) :
    ∀ c ∈ mark ++ List.replicate zeros '0' ++ digits, isBlank c = false ∧ c.toNat < 128 := by
  intro c hc
  rcases List.mem_append.1 hc with hc | hc
  · rcases List.mem_append.1 hc with hc | hc
    · exact ascii_of_mem_mark hmark c hc
    · rw [List.eq_of_mem_replicate hc]
      decide
  · exact ascii_of_toLower_mem_toDigits (hdigits ▸ List.mem_map_of_mem hc)

/-- In small letters only the case of the mark is left open. -/
theorem toSmall_spelling (hmark : mark ∈ [[], ['0', 'x'], ['0', 'X']])
    (hdigits : digits.map Char.toLower = Nat.toDigits 16 n) :
    toSmall (String.ofList (mark ++ List.replicate zeros '0' ++ digits))
      = String.ofList (mark.map Char.toLower ++ (List.replicate zeros '0' ++ Nat.toDigits 16 n)) := by
  have hascii : (mark ++ List.replicate zeros '0' ++ digits).all (fun c => c.toNat < 128) = true :=
    List.all_eq_true.2 (fun c hc => decide_eq_true (ascii_of_mem_spelling hmark hdigits c hc).2)
  unfold toSmall
  rw [String.toList_ofList, if_pos hascii, List.map_append, List.map_append, hdigits, List.map_replicate,
    List.append_assoc]
  rfl

/-- Without the mark the digits are left. -/
theorem dropMark_spelling (hmark : mark ∈ [[], ['0', 'x'], ['0', 'X']]) :
    dropMark (String.ofList (mark.map Char.toLower ++ (List.replicate zeros '0' ++ Nat.toDigits 16 n)))
      = String.ofList (List.replicate zeros '0' ++ Nat.toDigits 16 n) := by
  simp only [List.mem_cons, List.not_mem_nil, or_false] at hmark
  rcases hmark with rfl | rfl | rfl
  · refine dropMark_of_no_mark (fun hx => ?_)
    have hin : Numeral.inRun 16 'x' = true := by
      rw [String.toList_ofList] at hx
      exact (Numeral.digits_iff.1 (digits_of_zeros zeros n)).1 'x' hx
    exact absurd hin (by decide)
  · exact dropMark_of_mark _
  · exact dropMark_of_mark _

/-- Digits with zeros in front spell their number. -/
theorem spells_of_zeros (zeros n : Nat) :
    Numeral.Spells ((List.replicate zeros '0' ++ Nat.toDigits 16 n).map Numeral.toPlain) n := by
  have hplain : (List.replicate zeros '0' ++ Nat.toDigits 16 n).map Numeral.toPlain
      = List.replicate zeros '0' ++ Nat.toDigits 16 n := by
    rw [List.map_append, List.map_replicate, Numeral.map_toPlain_toDigits]
    rfl
  rw [hplain]
  refine ⟨[], [], _, n, rfl, fun c hc => absurd hc List.not_mem_nil, by decide, ?_, rfl⟩
  exact ⟨[], by decide, _, [], (List.append_nil _).symm, digits_of_zeros zeros n,
    fun c hc => absurd hc List.not_mem_nil⟩

end Spelling

/-- **A usual spelling** of a number is read as this number. -/
theorem IsSpelling.ofText_eq {n : Nat} {text : String} (hspells : IsSpelling n text) :
    ofText text = .ok (n : Int) := by
  obtain ⟨before, mark, digits, behind, zeros, htext, hbefore, hmark, hdigits, hbehind⟩ :=
    hspells.exists_parts
  have hne : mark ++ List.replicate zeros '0' ++ digits ≠ [] := by
    intro hnil
    rw [(List.append_eq_nil_iff.1 hnil).2] at hdigits
    exact Nat.toDigits_ne_nil hdigits.symm
  have htrim := trimBlanks_of_between htext hbefore hne
    (fun c hc => (ascii_of_mem_spelling hmark hdigits c hc).1) hbehind
  rw [ofText_eq_ok_iff, Denotes, htrim, toSmall_spelling hmark hdigits, dropMark_spelling hmark,
    String.toList_ofList]
  exact spells_of_zeros zeros n

end Word

end EvmScope
