import EvmScope.Proofs.Storage.Attribution

set_option autoImplicit false

/-! # Words with a sign

Slots and values of storage are numbers without a sign. An integer below zero is refused as a word, but text
is read by the grammar of numerals, and this grammar lets a minus sign pass (`Word.HasMinus`). There is no
other way to a written form with a sign. The words on the stacks of a trace are always text: where one was an
integer, it has been written in hexadecimal before it is looked at, sign and all.

A write hands the sign on to its changes. The slot always shows it; the values show it where the slot has
one variable or none, while the parts of a shared slot are cut out of the word and have none. -/

namespace EvmScope

namespace Word

/-! ## Written forms -/

/-- The written form of a number: the mark, and its small digits without zeros in front. -/
def IsForm (form : String) : Prop :=
  ∃ n : Nat, form = "0x" ++ String.ofList (Nat.toDigits 16 n)

/-- Text with a minus sign in front of the spelling of a number that is not zero. Blanks and a mark may stand
    before the sign. -/
def HasMinus : Json → Prop
  | .str text => ∃ before body value,
      (dropMark (toSmall (trimBlanks text))).toList.map Numeral.toPlain = before ++ '-' :: body
        ∧ (∀ c ∈ before, isPlainBlank c = true) ∧ Numeral.SpellsUnsigned body (value + 1)
  | _ => False

theorem hex_natCast (n : Nat) : Numeral.hex n = "0x" ++ String.ofList (Nat.toDigits 16 n) := by
  rw [← String.toList_inj, Numeral.toList_hex, if_neg (by omega), Int.natAbs_natCast, String.toList_append,
    String.toList_ofList (l := Nat.toDigits 16 n)]
  rfl

theorem hex_of_neg {n : Int} (hn : n < 0) :
    Numeral.hex n = "-0x" ++ String.ofList (Nat.toDigits 16 n.natAbs) := by
  rw [← String.toList_inj, Numeral.toList_hex, if_pos hn, String.toList_append,
    String.toList_ofList (l := Nat.toDigits 16 n.natAbs)]
  rfl

/-- An integer is written without a sign exactly if it is not below zero. -/
theorem isForm_hex_iff (n : Int) : IsForm (Numeral.hex n) ↔ 0 ≤ n := by
  constructor
  · rintro ⟨m, hform⟩
    by_contra hnegative
    rw [hex_of_neg (by omega)] at hform
    have hheads := congrArg (fun text => text.toList.head?) hform
    simp at hheads
  · intro hnonneg
    obtain ⟨m, rfl⟩ := Int.eq_ofNat_of_zero_le hnonneg
    exact ⟨m, hex_natCast m⟩

/-- **A minus sign** is what makes a value denote an integer below zero. -/
theorem hasMinus_iff (value : Json) : HasMinus value ↔ ∃ n < 0, Denotes value n := by
  cases value with
  | str text =>
    constructor
    · rintro ⟨before, body, value, htext, hbefore, hbody⟩
      refine ⟨-((value + 1 : Nat) : Int), by omega, before, ['-'], body, value + 1, ?_, hbefore, by decide, hbody,
        (if_pos rfl).symm⟩
      rw [htext, List.append_assoc]
      rfl
    · rintro ⟨n, hn, before, sign, body, value, htext, hbefore, -, hbody, rfl⟩
      by_cases hsign : sign = ['-']
      · subst hsign
        rw [if_pos rfl] at hn
        obtain ⟨rest, rfl⟩ := Nat.exists_eq_succ_of_ne_zero (n := value) (by omega)
        refine ⟨before, body, rest, ?_, hbefore, hbody⟩
        rw [htext, List.append_assoc]
        rfl
      · rw [if_neg hsign] at hn
        omega
  | int value =>
    refine ⟨fun hminus => hminus.elim, ?_⟩
    rintro ⟨n, hn, hnonneg, rfl⟩
    omega
  | null | bool _ | float _ | arr _ | obj _ =>
    refine ⟨fun hminus => hminus.elim, ?_⟩
    rintro ⟨n, -, hdenotes⟩
    exact hdenotes.elim

theorem isBadValue_of_ofJson {value : Json} {fault : Fault} (hfault : ofJson value = .error fault) :
    fault.isBadValue = true := by
  cases value with
  | str text =>
    rw [ofJson, ofText] at hfault
    split at hfault
    · cases hfault
      rfl
    · cases hread : Numeral.read .hexadecimal (dropMark (toSmall (trimBlanks text))) with
      | error cause =>
        rw [hread] at hfault
        cases hfault
        rfl
      | ok n =>
        rw [hread] at hfault
        cases hfault
  | int value =>
    rw [ofJson] at hfault
    split at hfault
    · cases hfault
      rfl
    · cases hfault
  | null | bool _ | float _ | arr _ | obj _ =>
    cases hfault
    rfl

/-- What becomes of signs in words, whatever value is normalized. -/
structure Signs : Prop where
  /-- What has no normal form is refused as a value. -/
  refused : ∀ value fault, normalForm value = .error fault → fault.isBadValue = true
  isForm_iff : ∀ value form, normalForm value = .ok form → (IsForm form ↔ ¬ HasMinus value)
  /-- A minus sign is kept in front of the mark. -/
  kept : ∀ value, HasMinus value →
    ∃ n : Nat, 0 < n ∧ normalForm value = .ok ("-0x" ++ String.ofList (Nat.toDigits 16 n))
  /-- An integer below zero has no normal form, but on a stack it becomes text that denotes it. -/
  stacked : ∀ n < 0, normalForm (.int n) = .error (.word (.negative n))
    ∧ ∃ word, TraceEntry.word? (.int n) = some word ∧ Denotes (.str word) n

theorem signs : Signs where
  refused := fun value fault hfault => by
    cases hread : ofJson value with
    | error cause =>
      rw [normalForm, hread] at hfault
      cases hfault
      exact isBadValue_of_ofJson hread
    | ok n =>
      rw [normalForm, hread] at hfault
      cases hfault
  isForm_iff := fun value form hform => by
    obtain ⟨n, hn, rfl⟩ := normalForm_eq_ok_iff.1 hform
    rw [isForm_hex_iff, hasMinus_iff, ← Int.not_lt]
    refine not_congr ⟨fun hnegative => ⟨n, hnegative, hn⟩, ?_⟩
    rintro ⟨m, hm, hdenotes⟩
    rwa [hn.unique hdenotes]
  kept := fun value hminus => by
    obtain ⟨n, hn, hdenotes⟩ := (hasMinus_iff value).1 hminus
    exact ⟨n.natAbs, by omega, normalForm_eq_ok_iff.2 ⟨n, hdenotes, (hex_of_neg hn).symm⟩⟩
  stacked := fun n hn => by
    refine ⟨?_, Numeral.hex n, rfl, ofText_eq_ok_iff.1 (ofText_hex n)⟩
    rw [normalForm, ofJson, if_pos hn]
    rfl

end Word

/-! ## One write -/

/-- The slot and the words of a change are numbers without a sign. -/
def StateChange.HasForms (c : StateChange) : Prop :=
  Word.IsForm c.slot ∧ Word.IsForm c.oldValue ∧ Word.IsForm c.newValue

/-- A change between two words of a slot. -/
structure StateChange.Between (slot old new : Int) (c : StateChange) : Prop where
  slot_eq : c.slot = Numeral.hex slot
  oldValue_eq : c.oldValue = Numeral.hex old
  newValue_eq : c.newValue = Numeral.hex new

theorem StateChange.Between.hasForms_iff {slot old new : Int} {c : StateChange}
    (hbetween : c.Between slot old new) : c.HasForms ↔ 0 ≤ slot ∧ 0 ≤ old ∧ 0 ≤ new := by
  rw [HasForms, hbetween.slot_eq, hbetween.oldValue_eq, hbetween.newValue_eq, Word.isForm_hex_iff,
    Word.isForm_hex_iff, Word.isForm_hex_iff]

/-- A variable of a word has no sign. -/
theorem StorageVariable.extract_nonneg {v : StorageVariable} {word n : Int} (hok : v.extract word = .ok n) :
    0 ≤ n := by
  unfold extract at hok
  split at hok
  · cases hok
  · cases hok
    exact Int.emod_nonneg _ (Int.natCast_ne_zero.2 (Nat.two_pow_pos _).ne')

namespace StorageWrite

/-- A write shows no sign: its slot has none, and neither has its value nor the word carried over, unless the
    slot is shared. -/
def ShowsNoSign (declared : List StorageVariable) (carried : Int → Int) (w : StorageWrite) : Prop :=
  0 ≤ w.slot ∧ (declared.countP (fun v => v.slot = w.slot) ≤ 1 → 0 ≤ w.value ∧ 0 ≤ carried w.slot)

variable {declared : List StorageVariable} {hash : Except Fault (Option String)} {w : StorageWrite}
  {old : Int} {made : List StateChange}

/-- **The changes of a write** have words without a sign exactly if the slot has none, and neither have the
    old word and the new one of a slot that is not shared. -/
theorem hasForms_iff (hok : w.changes (Layout.variablesAt declared w.slotText) hash old = .ok made) :
    (∀ c ∈ made, c.HasForms)
      ↔ 0 ≤ w.slot ∧ (declared.countP (fun v => v.slot = w.slot) ≤ 1 → 0 ≤ w.value ∧ 0 ≤ old) := by
  have hhere : (Layout.variablesAt declared w.slotText).length
      = declared.countP (fun v => v.slot = w.slot) := by
    rw [slotText, Layout.variablesAt_hex, List.countP_eq_length_filter]
  rw [← hhere]
  by_cases hsole : (Layout.variablesAt declared w.slotText).length ≤ 1
  · obtain ⟨name, label, typeName, rfl⟩ := exists_change_of_sole hok hsole
    have hforms : (w.change name old w.value label typeName).HasForms ↔ 0 ≤ w.slot ∧ 0 ≤ old ∧ 0 ≤ w.value :=
      StateChange.Between.hasForms_iff ⟨rfl, rfl, rfl⟩
    rw [List.forall_mem_singleton, hforms]
    exact and_congr_right (fun _ => ⟨fun hwords _ => hwords.symm, fun hwords => (hwords hsole).symm⟩)
  · have hparts : ∀ c ∈ made, c.HasForms ↔ 0 ≤ w.slot := by
      intro c hc
      obtain ⟨v, -, name, before, after, hbefore, hafter, rfl⟩ := exists_part_of_shared hok hsole c hc
      have hforms : (w.change name before after (some v.label) (Word.friendlyType v.typeLabel)).HasForms
          ↔ 0 ≤ w.slot ∧ 0 ≤ before ∧ 0 ≤ after := StateChange.Between.hasForms_iff ⟨rfl, rfl, rfl⟩
      rw [hforms]
      exact and_iff_left ⟨v.extract_nonneg hbefore, v.extract_nonneg hafter⟩
    obtain ⟨c, hc⟩ := List.exists_mem_of_ne_nil _ (makes_changes hok).1
    constructor
    · exact fun hforms => ⟨(hparts c hc).1 (hforms c hc), fun hfew => absurd hfew hsole⟩
    · exact fun hslot c hc => (hparts c hc).2 hslot.1

/-- A change of a write stands between two words of its slot. -/
theorem exists_between {here : List StorageVariable} (hok : w.changes here hash old = .ok made) :
    ∀ c ∈ made, ∃ before after, c.Between w.slot before after := by
  intro c hc
  by_cases hsole : here.length ≤ 1
  · obtain ⟨name, label, typeName, rfl⟩ := exists_change_of_sole hok hsole
    rw [List.mem_singleton.1 hc]
    exact ⟨_, _, rfl, rfl, rfl⟩
  · obtain ⟨v, -, name, before, after, -, -, rfl⟩ := exists_part_of_shared hok hsole c hc
    exact ⟨before, after, rfl, rfl, rfl⟩

/-! ## Recorded writes -/

/-- The word that a slot holds after some writes has no sign, if none was carried over and the writes to the
    slot show none. -/
theorem wordOver_nonneg_iff {carried : Int → Int} {writes : List StorageWrite} {slot : Int}
    (hwrites : ∀ w ∈ writes, w.ShowsNoSign declared carried)
    (hsole : declared.countP (fun v => v.slot = slot) ≤ 1) :
    0 ≤ wordOver carried writes slot ↔ 0 ≤ carried slot := by
  unfold wordOver
  cases hlast : last? writes slot with
  | none => rfl
  | some latest =>
    have hmem := List.mem_filter.1 (List.mem_of_getLast? hlast)
    have hslot : latest.slot = slot := of_decide_eq_true hmem.2
    obtain ⟨-, hwords⟩ := hwrites latest hmem.1
    rw [hslot] at hwords
    exact ⟨fun _ => (hwords hsole).2, fun _ => (hwords hsole).1⟩

end StorageWrite

/-- **Recorded writes** leave changes without a sign exactly if none of them shows one. -/
theorem Records.hasForms_iff {declared : List StorageVariable} {hash : Except Fault (Option String)}
    {carried : Int → Int} {recorded : List StorageWrite} {changes : List StateChange}
    (hrecords : Records declared hash carried recorded changes) :
    (∀ c ∈ changes, c.HasForms) ↔ ∀ w ∈ recorded, w.ShowsNoSign declared carried := by
  induction hrecords with
  | nothing => exact ⟨fun _ w hw => absurd hw List.not_mem_nil, fun _ c hc => absurd hc List.not_mem_nil⟩
  | @further recorded changes made w before hnew hmade ih =>
    rw [List.forall_mem_append, List.forall_mem_append, List.forall_mem_singleton, ih,
      StorageWrite.hasForms_iff hmade]
    refine and_congr_right (fun hwrites => and_congr_right (fun _ => forall_congr' (fun hsole => ?_)))
    rw [StorageWrite.wordOver_nonneg_iff hwrites hsole]

/-- The changes of recorded writes have the written forms of integers. -/
theorem Records.exists_between {declared : List StorageVariable} {hash : Except Fault (Option String)}
    {carried : Int → Int} {recorded : List StorageWrite} {changes : List StateChange}
    (hrecords : Records declared hash carried recorded changes) :
    ∀ c ∈ changes, ∃ w ∈ recorded, ∃ before after, c.Between w.slot before after := by
  induction hrecords with
  | nothing => exact fun c hc => absurd hc List.not_mem_nil
  | @further recorded changes made w before hnew hmade ih =>
    intro c hc
    rcases List.mem_append.1 hc with hc | hc
    · obtain ⟨w, hw, hbetween⟩ := ih c hc
      exact ⟨w, List.mem_append_left _ hw, hbetween⟩
    · exact ⟨w, List.mem_append_right _ (List.mem_singleton_self w), StorageWrite.exists_between hmade c hc⟩

/-! ## Traces -/

/-- An entry is malformed if it is a storage write whose operands are missing or denote no integer. -/
theorem Replay.isMalformed_iff {slotOnTop : Bool} {e : TraceEntry} : isMalformed slotOnTop e = true
    ↔ e.op = "SSTORE" ∧ ¬ ∃ slot value, e.Stores slotOnTop slot value := by
  have hsome : (∃ slot value, e.Stores slotOnTop slot value)
      ↔ ∃ w, StorageWrite.recognised? slotOnTop e = some w := by
    constructor
    · rintro ⟨slot, value, hstores⟩
      exact ⟨⟨slot, value, e.pc, e.depth⟩, StorageWrite.recognised?_eq_some_iff.2 ⟨hstores, rfl, rfl⟩⟩
    · rintro ⟨w, hw⟩
      exact ⟨w.slot, w.value, (StorageWrite.recognised?_eq_some_iff.1 hw).1⟩
  rw [hsome, ← Option.isSome_iff_exists, isMalformed, Bool.and_eq_true, beq_iff_eq, Option.isNone_iff_eq_none,
    ← Option.not_isSome_iff_eq_none]

/-- The operands of an entry lie on its stack. -/
theorem StorageWrite.mem_stack_of_operands {slotOnTop : Bool} {stack : List String} {slotWord valueWord : String}
    (hwords : operands? slotOnTop stack = some (slotWord, valueWord)) :
    slotWord ∈ stack ∧ valueWord ∈ stack := by
  rw [← List.mem_reverse, ← List.mem_reverse (x := valueWord)]
  unfold operands? at hwords
  split at hwords
  · next top second rest hstack =>
    rw [hstack]
    cases slotOnTop with
    | true =>
      cases hwords
      exact ⟨List.mem_cons_self, List.mem_cons_of_mem _ List.mem_cons_self⟩
    | false =>
      cases hwords
      exact ⟨List.mem_cons_of_mem _ List.mem_cons_self, List.mem_cons_self⟩
  · cases hwords

/-- Without a minus sign on its stack an entry stores a number in the slot of a number. -/
theorem TraceEntry.Stores.nonneg {slotOnTop : Bool} {e : TraceEntry} {slot value : Int}
    (hstores : e.Stores slotOnTop slot value) (hplain : ∀ word ∈ e.stack, ¬ Word.HasMinus (.str word)) :
    0 ≤ slot ∧ 0 ≤ value := by
  obtain ⟨-, slotWord, valueWord, hwords, hslot, hvalue⟩ := StorageWrite.stores_iff.1 hstores
  obtain ⟨hslot_mem, hvalue_mem⟩ := StorageWrite.mem_stack_of_operands hwords
  have hnonneg : ∀ {word : String} {n : Int}, word ∈ e.stack → Word.Denotes (.str word) n → 0 ≤ n := by
    intro word n hmem hdenotes
    by_contra hnegative
    exact hplain word hmem ((Word.hasMinus_iff _).2 ⟨n, by omega, hdenotes⟩)
  exact ⟨hnonneg hslot_mem hslot, hnonneg hvalue_mem hvalue⟩

/-- What becomes of signs in the words of a trace that is replayed over a history. -/
structure History.RecordsSigns (settings : Settings) (h : History) : Prop where
  /-- Every recorded write is that of an entry, and its operands denote its numbers. -/
  stored : ∀ document, ∀ w ∈ StorageWrite.recorded h.words.carried (recognised settings document),
    ∃ e ∈ (ParsedTrace.ofJson (some settings.traceLimit) document).entries,
      e.Stores settings.slotOnTop w.slot w.value
  /-- Every change stands between two words of the slot of a recorded write. -/
  between : ∀ document hash s, (h.replay settings document hash).result = .ok s → ∀ c ∈ s.changes,
    ∃ w ∈ StorageWrite.recorded h.words.carried (recognised settings document),
      ∃ before after, c.Between w.slot before after
  /-- The changes have words without a sign exactly if no recorded write shows one. -/
  hasForms_iff : ∀ document hash s, (h.replay settings document hash).result = .ok s →
    ((∀ c ∈ s.changes, c.HasForms)
      ↔ ∀ w ∈ StorageWrite.recorded h.words.carried (recognised settings document),
        w.ShowsNoSign h.layout h.words.carried)
  /-- Without a minus sign on the stacks there is none in the changes, if no word carried over has one. -/
  hasForms : ∀ document hash s, (h.replay settings document hash).result = .ok s →
    (∀ slot, 0 ≤ h.words.carried slot) →
    (∀ e ∈ (ParsedTrace.ofJson (some settings.traceLimit) document).entries, ∀ word ∈ e.stack,
      ¬ Word.HasMinus (.str word)) → ∀ c ∈ s.changes, c.HasForms
  /-- A storage write is counted as malformed if its operands are missing or denote no integer; a sign does
      not make it so. -/
  malformed : ∀ document hash s, (h.replay settings document hash).result = .ok s →
    ∃ malformed : TraceEntry → Bool, (∀ e, malformed e = true
      ↔ e.op = "SSTORE" ∧ ¬ ∃ slot value, e.Stores settings.slotOnTop slot value)
      ∧ (h.replay settings document hash).state.tally.malformed
        = (ParsedTrace.ofJson (some settings.traceLimit) document).entries.countP malformed

namespace History

section Signs

variable {settings : Settings} {h : History} {document hash : Json} {s : Snapshot}

theorem exists_stores_of_mem_recorded {carried : Int → Int} {w : StorageWrite}
    (hw : w ∈ StorageWrite.recorded carried (recognised settings document)) :
    ∃ e ∈ (ParsedTrace.ofJson (some settings.traceLimit) document).entries,
      e.Stores settings.slotOnTop w.slot w.value := by
  obtain ⟨e, he, hrecognised⟩ := List.mem_filterMap.1 (StorageWrite.mem_of_mem_recorded hw)
  exact ⟨e, he, (StorageWrite.recognised?_eq_some_iff.1 hrecognised).1⟩

/-- The changes of a snapshot are those of the recorded writes, and the malformed ones are counted. -/
theorem records_of_replay (hok : (h.replay settings document hash).result = .ok s) :
    (∃ name, Records h.layout name h.words.carried
        (StorageWrite.recorded h.words.carried (recognised settings document)) s.changes)
      ∧ (h.replay settings document hash).state.tally.malformed
        = (ParsedTrace.ofJson (some settings.traceLimit) document).entries.countP
          (Replay.isMalformed settings.slotOnTop) := by
  have hends := replay_ends settings h document hash
  generalize h.replay settings document hash = move at hends hok
  cases hends with
  | givenUp hrun => cases hok
  | unnamed hrun hhash => cases hok
  | added hrun hhash =>
    cases hok
    exact ⟨⟨_, (Replay.run_recorded hrun).records⟩, (Replay.run_counts hrun).2⟩

end Signs

/-- **Signs of words.** A word has a sign exactly if it was text with a minus sign, and the changes that a trace
    records show the signs of its words and of those carried over. -/
theorem signs_of_words (settings : Settings) (h : History) : Word.Signs ∧ h.RecordsSigns settings := by
  refine ⟨Word.signs, ?_⟩
  constructor
  · exact fun document w hw => exists_stores_of_mem_recorded hw
  · intro document hash s hok
    obtain ⟨⟨name, hrecords⟩, -⟩ := records_of_replay hok
    exact hrecords.exists_between
  · intro document hash s hok
    obtain ⟨⟨name, hrecords⟩, -⟩ := records_of_replay hok
    exact hrecords.hasForms_iff
  · intro document hash s hok hcarried hplain
    obtain ⟨⟨name, hrecords⟩, -⟩ := records_of_replay hok
    refine hrecords.hasForms_iff.2 (fun w hw => ?_)
    obtain ⟨e, he, hstores⟩ := exists_stores_of_mem_recorded hw
    obtain ⟨hslot, hvalue⟩ := hstores.nonneg (hplain e he)
    exact ⟨hslot, fun _ => ⟨hvalue, hcarried w.slot⟩⟩
  · intro document hash s hok
    obtain ⟨-, hmalformed⟩ := records_of_replay hok
    exact ⟨_, fun e => Replay.isMalformed_iff, hmalformed⟩

/-- A storage write of minus five to slot zero, with integers on the stack. -/
def negativeTrace : Json :=
  .obj [("structLogs", .arr [.obj [("pc", .int 0), ("op", .str "SSTORE"), ("stack", .arr [.int 0, .int (-5)])]])]

theorem recognised_negativeTrace : recognised Settings.standard negativeTrace = [⟨0, -5, 0, 1⟩] := by
  rw [recognised_eq]
  decide +kernel

/-- A minus sign passes: as text, and on a stack also as an integer. The change shows it, and nothing is counted
    as malformed. -/
theorem replay_keeps_minus : Word.normalForm (.str "-5") = .ok "-0x5" ∧ ¬ Word.IsForm "-0x5"
    ∧ ∃ s, (empty.replay Settings.standard negativeTrace .null).result = .ok s
      ∧ (¬ ∀ c ∈ s.changes, c.HasForms)
      ∧ (empty.replay Settings.standard negativeTrace .null).state.tally.malformed = 0 := by
  have hform : ¬ Word.IsForm (Numeral.hex (-5)) := by
    rw [Word.isForm_hex_iff]
    decide
  have hplaced : ∀ slot : Int, ¬ Layout.Misplaced empty.layout slot := by
    rintro slot ⟨-, v, hv, -⟩
    exact absurd hv List.not_mem_nil
  obtain ⟨s, hs⟩ := map_unit_eq_ok_iff.1 (succeeds_of_feed Settings.standard hplaced
    (.replay negativeTrace .null) ⟨none, rfl⟩)
  refine ⟨by rfl, hform, s, hs, ?_, ?_⟩
  · obtain ⟨⟨name, hrecords⟩, -⟩ := records_of_replay hs
    have hrecorded : StorageWrite.recorded empty.words.carried [⟨0, -5, 0, 1⟩] = [⟨0, -5, 0, 1⟩] := by
      rfl
    rw [recognised_negativeTrace, hrecorded] at hrecords
    rw [hrecords.hasForms_iff, List.forall_mem_singleton]
    rintro ⟨-, hwords⟩
    exact absurd (hwords (Nat.zero_le 1)).1 (by decide)
  · rw [(records_of_replay hs).2, Replay.isMalformed_eq]
    decide +kernel

end History

end EvmScope
