import EvmScope.Proofs.Bytecode.Hexadecimal

set_option autoImplicit false

/-! # The spellings of hexadecimal numerals

A reader of numerals lets a lot pass: blanks around the numeral, a sign, a mark, single underscores between
digits and behind the mark, small and capital letters, zeros in front. `Spells` says as a grammar what it
lets pass and which integer it stands for, in the characters that the reader sees after blanks and digits
of other scripts have become those of ASCII; `read_hexadecimal_iff` says that the reader accepts these
texts and no others. So what a text denotes is a matter of the grammar, and no text denotes two integers.
-/

namespace EvmScope.Numeral

/-! ## Runs of digits -/

/-- The rest of a run of digits, with single underscores between them. It follows a digit or not, and it
    goes on from a value to another one. -/
inductive Digits (radix : Nat) : Bool → Nat → List Char → Nat → Prop
  | done (value : Nat) : Digits radix true value [] value
  | digit {afterDigit : Bool} {value digit last : Nat} {c : Char} {rest : List Char}
    (hc : digitValue? radix c = some digit) (hrest : Digits radix true (value * radix + digit) rest last) :
    Digits radix afterDigit value (c :: rest) last
  | underscore {value last : Nat} {rest : List Char} (hrest : Digits radix false value rest last) :
    Digits radix true value ('_' :: rest) last

theorem digitValue?_underscore (radix : Nat) : digitValue? radix '_' = none := by
  simp [digitValue?]

/-- A run is one that the reader separates into digits, and its value is that of its digits. -/
theorem digits_iff {radix : Nat} {run : List Char} {afterDigit : Bool} {value last : Nat} :
    Digits radix afterDigit value run last ↔ (∀ c ∈ run, inRun radix c = true)
      ∧ separated afterDigit run = true
      ∧ (runDigits radix run).foldl (fun value digit => value * radix + digit) value = last := by
  induction run generalizing afterDigit value with
  | nil =>
    constructor
    · intro hrun
      cases hrun
      exact ⟨fun c hc => absurd hc List.not_mem_nil, rfl, rfl⟩
    · rintro ⟨-, hseparated, rfl⟩
      rw [separated] at hseparated
      rw [hseparated]
      exact .done value
  | cons c rest ih =>
    by_cases hc : c = '_'
    · subst hc
      have hnone := digitValue?_underscore radix
      simp only [List.forall_mem_cons, separated, if_true, runDigits, List.filterMap_cons, hnone]
      constructor
      · intro hrun
        cases hrun with
        | digit hdigit =>
          rw [hnone] at hdigit
          cases hdigit
        | underscore hrest =>
          obtain ⟨hin, hseparated, hlast⟩ := ih.1 hrest
          exact ⟨⟨rfl, hin⟩, by rw [hseparated]; rfl, hlast⟩
      · rintro ⟨⟨-, hin⟩, hseparated, hlast⟩
        obtain ⟨rfl, hrest⟩ := Bool.and_eq_true_iff.1 hseparated
        exact .underscore (ih.2 ⟨hin, hrest, hlast⟩)
    · cases hdigit : digitValue? radix c with
      | none =>
        have hout : inRun radix c = false := by simp [inRun, hc, hdigit]
        simp only [List.forall_mem_cons, hout, Bool.false_eq_true, false_and, iff_false]
        intro hrun
        cases hrun with
        | digit hsome =>
          rw [hdigit] at hsome
          cases hsome
        | underscore => exact hc rfl
      | some digit =>
        have hin : inRun radix c = true := by simp [inRun, hdigit]
        simp only [List.forall_mem_cons, hin, true_and, separated, if_neg hc, runDigits,
          List.filterMap_cons, hdigit, List.foldl_cons]
        constructor
        · intro hrun
          cases hrun with
          | digit hsome hrest =>
            rw [hdigit] at hsome
            cases hsome
            exact ih.1 hrest
          | underscore => exact absurd rfl hc
        · exact fun hrest => .digit hdigit (ih.2 hrest)

/-- A run begins with a digit. -/
theorem Digits.exists_head {radix value last : Nat} {run : List Char}
    (hrun : Digits radix false value run last) :
    ∃ c digit rest, run = c :: rest ∧ digitValue? radix c = some digit := by
  cases hrun with
  | digit hc => exact ⟨_, _, _, rfl, hc⟩

/-- The magnitude of a text is the value of a run that blanks may follow. -/
theorem magnitude_hexadecimal_iff {cs : List Char} {value : Nat} :
    magnitude ⟨16, false, cs⟩ = .ok (some value) ↔ ∃ run behind, cs = run ++ behind
      ∧ Digits 16 false 0 run value ∧ ∀ c ∈ behind, isPlainBlank c = true := by
  constructor
  · intro hok
    refine ⟨cs.takeWhile (inRun 16), cs.dropWhile (inRun 16), List.takeWhile_append_dropWhile.symm, ?_⟩
    unfold magnitude at hok
    dsimp only at hok
    cases hseparated : separated false (cs.takeWhile (inRun 16)) with
    | false => simp [hseparated] at hok
    | true =>
      cases hblank : (cs.dropWhile (inRun 16)).all isPlainBlank with
      | false => simp [hseparated, hblank] at hok
      | true =>
        simp only [hseparated, hblank] at hok
        refine ⟨digits_iff.2 ⟨fun c hc => List.mem_takeWhile_imp hc, hseparated, ?_⟩,
          List.all_eq_true.1 hblank⟩
        simpa [ofDigits] using hok
  · rintro ⟨run, behind, rfl, hrun, hbehind⟩
    obtain ⟨hin, hseparated, hvalue⟩ := digits_iff.1 hrun
    obtain ⟨htake, hdrop⟩ := span_run_append hin hbehind
    unfold magnitude
    simp only [htake, hdrop, hseparated, List.all_eq_true.2 hbehind, ofDigits, hvalue]
    rfl

/-! ## Marks -/

/-- What may stand in front of the digits of a hexadecimal numeral. -/
def marks : List (List Char) :=
  [[], ['0', 'x'], ['0', 'X'], ['0', 'x', '_'], ['0', 'X', '_']]

/-- A text spells a number with a mark or without, with blanks behind it if need be. -/
def SpellsUnsigned (cs : List Char) (value : Nat) : Prop :=
  ∃ mark ∈ marks, ∃ run behind, cs = mark ++ run ++ behind ∧ Digits 16 false 0 run value
    ∧ ∀ c ∈ behind, isPlainBlank c = true

theorem plain_of_hexDigit {c : Char} {digit : Nat} (hc : digitValue? 16 c = some digit) :
    c.isAlphanum = true ∧ c ≠ 'x' ∧ c ≠ 'X' := by
  refine ⟨isAlphanum_of_isHexDigit ((digitValue?_eq_some_iff c digit).1 hc), ?_, ?_⟩
  · rintro rfl
    cases hc
  · rintro rfl
    cases hc

theorem SpellsUnsigned.exists_head {cs : List Char} {value : Nat} (hcs : SpellsUnsigned cs value) :
    ∃ c digit rest, cs = c :: rest ∧ digitValue? 16 c = some digit := by
  obtain ⟨mark, hmark, run, behind, rfl, hrun, -⟩ := hcs
  obtain ⟨c, digit, rest, rfl, hc⟩ := hrun.exists_head
  simp only [marks, List.mem_cons, List.not_mem_nil, or_false] at hmark
  rcases hmark with rfl | rfl | rfl | rfl | rfl
  · exact ⟨c, digit, rest ++ behind, rfl, hc⟩
  all_goals exact ⟨'0', 0, _, rfl, rfl⟩

/-- The reader takes a mark off and nothing else. -/
theorem settle_hexadecimal_eq (cs : List Char) :
    ∃ mark ∈ marks, ∃ text, cs = mark ++ text ∧ settle .hexadecimal cs = ⟨16, false, text⟩ := by
  by_cases hmarked : ∃ mark rest, cs = '0' :: mark :: rest ∧ (mark = 'x' ∨ mark = 'X')
  · obtain ⟨mark, rest, rfl, hmark⟩ := hmarked
    have hsettle : settle .hexadecimal ('0' :: mark :: rest) = ⟨16, false, dropUnderscore rest⟩ := by
      simp [settle, hmark]
    by_cases hline : ∃ behind, rest = '_' :: behind
    · obtain ⟨behind, rfl⟩ := hline
      refine ⟨['0', mark, '_'], ?_, behind, rfl, hsettle⟩
      rcases hmark with rfl | rfl
      · decide
      · decide
    · have hkept : dropUnderscore rest = rest := by
        unfold dropUnderscore
        split
        · next behind => exact absurd ⟨behind, rfl⟩ hline
        · rfl
      rw [hkept] at hsettle
      refine ⟨['0', mark], ?_, rest, rfl, hsettle⟩
      rcases hmark with rfl | rfl
      · decide
      · decide
  · refine ⟨[], by decide, cs, rfl, settle_hexadecimal_of_no_mark (fun mark rest hcs => ?_)⟩
    constructor
    · rintro rfl
      exact hmarked ⟨'x', rest, hcs, Or.inl rfl⟩
    · rintro rfl
      exact hmarked ⟨'X', rest, hcs, Or.inr rfl⟩

/-- In front of a run of digits no more than the mark is taken off. -/
theorem settle_hexadecimal_of_run {mark run behind : List Char} {value : Nat} (hmark : mark ∈ marks)
    (hrun : Digits 16 false 0 run value) (hbehind : ∀ c ∈ behind, isPlainBlank c = true) :
    settle .hexadecimal (mark ++ run ++ behind) = ⟨16, false, run ++ behind⟩ := by
  obtain ⟨c, digit, rest, rfl, hc⟩ := hrun.exists_head
  have hkept : dropUnderscore (c :: rest ++ behind) = c :: rest ++ behind := by
    exact dropUnderscore_of_ne (plain_of_isAlphanum (plain_of_hexDigit hc).1).2.2.2.2 _
  simp only [marks, List.mem_cons, List.not_mem_nil, or_false] at hmark
  rcases hmark with rfl | rfl | rfl | rfl | rfl
  · refine settle_hexadecimal_of_no_mark (fun mark front hcs => ?_)
    -- behind the first digit there is more of the run, or a blank
    have hmem : mark ∈ rest ++ behind := by
      have hrest : rest ++ behind = mark :: front := (List.cons.inj hcs).2
      rw [hrest]
      exact List.mem_cons_self
    rcases List.mem_append.1 hmem with hmem | hmem
    · have hin : inRun 16 mark = true := (digits_iff.1 hrun).1 mark (List.mem_cons_of_mem _ hmem)
      constructor
      · rintro rfl
        exact absurd hin (by decide)
      · rintro rfl
        exact absurd hin (by decide)
    · have hblank := hbehind mark hmem
      constructor
      · rintro rfl
        exact absurd hblank (by decide)
      · rintro rfl
        exact absurd hblank (by decide)
  · exact congrArg (Unsigned.mk 16 false) hkept
  · exact congrArg (Unsigned.mk 16 false) hkept
  · rfl
  · rfl

theorem magnitude_settle_iff {cs : List Char} {value : Nat} :
    magnitude (settle .hexadecimal cs) = .ok (some value) ↔ SpellsUnsigned cs value := by
  constructor
  · intro hok
    obtain ⟨mark, hmark, text, rfl, hsettle⟩ := settle_hexadecimal_eq cs
    rw [hsettle] at hok
    obtain ⟨run, behind, rfl, hrun, hbehind⟩ := magnitude_hexadecimal_iff.1 hok
    exact ⟨mark, hmark, run, behind, (List.append_assoc _ _ _).symm, hrun, hbehind⟩
  · rintro ⟨mark, hmark, run, behind, rfl, hrun, hbehind⟩
    rw [settle_hexadecimal_of_run hmark hrun hbehind]
    exact magnitude_hexadecimal_iff.2 ⟨run, behind, rfl, hrun, hbehind⟩

/-! ## Numerals -/

/-- A text spells an integer: behind blanks stand a sign, if there is one, and the spelling of a number. -/
def Spells (cs : List Char) (n : Int) : Prop :=
  ∃ before sign body value, cs = before ++ sign ++ body ∧ (∀ c ∈ before, isPlainBlank c = true)
    ∧ sign ∈ [[], ['+'], ['-']] ∧ SpellsUnsigned body value
    ∧ n = if sign = ['-'] then -(value : Int) else value

theorem splitSign_eq (cs : List Char) : ∃ sign ∈ [[], ['+'], ['-']], ∃ body, cs = sign ++ body
    ∧ splitSign cs = (decide (sign = ['-']), body) := by
  by_cases hminus : ∃ rest, cs = '-' :: rest
  · obtain ⟨rest, rfl⟩ := hminus
    exact ⟨['-'], by decide, rest, rfl, rfl⟩
  · by_cases hplus : ∃ rest, cs = '+' :: rest
    · obtain ⟨rest, rfl⟩ := hplus
      exact ⟨['+'], by decide, rest, rfl, rfl⟩
    · refine ⟨[], by decide, cs, rfl, ?_⟩
      unfold splitSign
      split
      · next rest => exact absurd ⟨rest, rfl⟩ hminus
      · next rest => exact absurd ⟨rest, rfl⟩ hplus
      · rfl

/-- In front of a digit no more than the sign is taken off, and blanks before it. -/
theorem splitSign_of_body {before sign body : List Char} {value : Nat}
    (hbefore : ∀ c ∈ before, isPlainBlank c = true) (hsign : sign ∈ [[], ['+'], ['-']])
    (hbody : SpellsUnsigned body value) :
    splitSign ((before ++ sign ++ body).dropWhile isPlainBlank) = (decide (sign = ['-']), body) := by
  obtain ⟨c, digit, rest, rfl, hc⟩ := hbody.exists_head
  have hplain := (plain_of_hexDigit hc).1
  rw [List.append_assoc, List.dropWhile_append_of_pos hbefore]
  simp only [List.mem_cons, List.not_mem_nil, or_false] at hsign
  rcases hsign with rfl | rfl | rfl
  · have hblank := (plain_of_isAlphanum hplain).2.1
    rw [List.nil_append, List.dropWhile_cons_of_neg (by rw [hblank]; exact Bool.false_ne_true)]
    exact splitSign_of_isAlphanum hplain rest
  · rfl
  · rfl

/-- **What a reader accepts.** A text is read as an integer exactly if it spells it. -/
theorem read_hexadecimal_iff {text : String} {n : Int} :
    read .hexadecimal text = .ok n ↔ Spells (text.toList.map toPlain) n := by
  unfold read
  constructor
  · intro hok
    obtain ⟨sign, hsign, body, hcs, hsplit⟩ :=
      splitSign_eq ((text.toList.map toPlain).dropWhile isPlainBlank)
    rw [hsplit] at hok
    dsimp only at hok
    refine ⟨(text.toList.map toPlain).takeWhile isPlainBlank, sign, body, ?_⟩
    cases hmagnitude : magnitude (settle .hexadecimal body) with
    | error e =>
      rw [hmagnitude] at hok
      cases hok
    | ok value? =>
      cases value? with
      | none =>
        rw [hmagnitude] at hok
        cases hok
      | some value =>
        rw [hmagnitude] at hok
        refine ⟨value, ?_, fun c hc => List.mem_takeWhile_imp hc, hsign,
          magnitude_settle_iff.1 hmagnitude, ?_⟩
        · rw [List.append_assoc, ← hcs, List.takeWhile_append_dropWhile]
        · simpa using hok.symm
  · rintro ⟨before, sign, body, value, hcs, hbefore, hsign, hbody, rfl⟩
    rw [hcs, splitSign_of_body hbefore hsign hbody]
    dsimp only
    rw [magnitude_settle_iff.2 hbody]
    simp

end EvmScope.Numeral
