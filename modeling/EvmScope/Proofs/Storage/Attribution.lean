import EvmScope.Proofs.Storage.NormalForm
import EvmScope.Proofs.Storage.Recording

set_option autoImplicit false

/-! # Words of a trace count by their number

The operands of a storage write are text, and a trace may spell one slot or one value in many ways. A
replay keeps numbers only: the slot is looked up by the written form of its number, which is also how the
variables of a layout are found, and values are compared as integers. So a write is attributed to the
variables of the slot that its operand denotes, a second spelling of what a slot has been given is a
repetition, and a trace can be spelled anew word by word without any change to what it records. -/

namespace EvmScope

/-! ## Attribution -/

/-- A change is attributed to a variable of a slot. -/
def StateChange.AttributedTo (declared : List StorageVariable) (slot : Int) (c : StateChange) : Prop :=
  ∃ v ∈ declared, v.slot = slot ∧ c.variableName = some v.label ∧ c.slot = v.slotText

namespace StorageWrite

variable {declared : List StorageVariable} {hash : Except Fault (Option String)} {w : StorageWrite}
  {old : Int} {made : List StateChange}

/-- Every change of a write names a variable of the slot, unless there is none. -/
theorem attributed_of_changes
    (hok : w.changes (Layout.variablesAt declared w.slotText) hash old = .ok made) :
    ∀ c ∈ made, c.AttributedTo declared w.slot ∨ ∀ v ∈ declared, v.slot ≠ w.slot := by
  have hhere := Layout.mem_variablesAt_hex declared w.slot
  have hnamed : ∀ v ∈ Layout.variablesAt declared w.slotText, ∀ (name : Option String) (before after : Int),
      (w.change name before after (some v.label) (Word.friendlyType v.typeLabel)).AttributedTo declared
        w.slot := by
    intro v hv name before after
    obtain ⟨hmem, hslot⟩ := (hhere v).1 hv
    exact ⟨v, hmem, hslot, rfl, by rw [StorageVariable.slotText, hslot]; rfl⟩
  cases hlist : Layout.variablesAt declared w.slotText with
  | nil =>
    refine fun c _ => Or.inr (fun v hv hslot => ?_)
    have hmem := (hhere v).2 ⟨hv, hslot⟩
    rw [← slotText, hlist] at hmem
    exact absurd hmem List.not_mem_nil
  | cons v others =>
    rw [hlist] at hok
    cases others with
    | nil =>
      obtain ⟨name, -, hmade⟩ := bind_eq_ok_iff.1 hok
      cases hmade
      intro c hc
      rw [List.mem_singleton.1 hc]
      exact Or.inl (hnamed v (by rw [hlist]; exact List.mem_cons_self) _ _ _)
    | cons u rest =>
      have hshared : ¬ (v :: u :: rest).length ≤ 1 := by simp
      intro c hc
      obtain ⟨member, hmember, name, before, after, -, -, rfl⟩ := exists_part_of_shared hok hshared c hc
      exact Or.inl (hnamed member (by rw [hlist]; exact hmember) _ _ _)

/-- **A write** is attributed to variables of its own slot, if it has any, and to no others. -/
theorem attributed_iff (hok : w.changes (Layout.variablesAt declared w.slotText) hash old = .ok made)
    (slot : Int) : (∃ c ∈ made, c.AttributedTo declared slot)
      ↔ (∃ v ∈ declared, v.slot = slot) ∧ w.slot = slot := by
  obtain ⟨hne, hplaces⟩ := makes_changes hok
  constructor
  · rintro ⟨c, hc, v, hv, rfl, -, hslot⟩
    refine ⟨⟨v, hv, rfl⟩, Numeral.hex_injective _ _ ?_⟩
    exact (hplaces c hc).1.symm.trans hslot
  · rintro ⟨⟨v, hv, hslot⟩, rfl⟩
    obtain ⟨c, hc⟩ := List.exists_mem_of_ne_nil _ hne
    rcases attributed_of_changes hok c hc with hnamed | hnone
    · exact ⟨c, hc, hnamed⟩
    · exact absurd hslot (hnone v hv)

end StorageWrite

/-- Every recorded write contributes changes that are attributed by its slot. -/
theorem Records.exists_attributed {declared : List StorageVariable} {hash : Except Fault (Option String)}
    {carried : Int → Int} {recorded : List StorageWrite} {changes : List StateChange}
    (hrecords : Records declared hash carried recorded changes) :
    ∃ parts : List (List StateChange), changes = parts.flatten
      ∧ List.Forall₂ (fun w made => ∀ slot, (∃ c ∈ made, c.AttributedTo declared slot)
        ↔ (∃ v ∈ declared, v.slot = slot) ∧ w.slot = slot) recorded parts :=
  hrecords.exists_parts_of_forall StorageWrite.attributed_iff

/-! ## Repetitions -/

namespace Replay

variable {declared : List StorageVariable} {hash : Except Fault (Option String)} {slotOnTop : Bool}
  {r next : Replay}

/-- Behind a write, a write of the same value to the same slot is a repetition. -/
theorem repeats_of_write {w again : StorageWrite} (hok : r.write declared hash w = .ok next)
    (hslot : again.slot = w.slot) (hvalue : again.value = w.value) : next.repeats again = true := by
  have hsame : again.slotText = w.slotText := congrArg Numeral.hex hslot
  obtain ⟨hrepeats, rfl⟩ | ⟨-, made, -, rfl⟩ := write_ok hok
  · rw [repeats, hsame, hvalue]
    exact hrepeats
  · rw [repeats, hsame, hvalue, Words.at, Std.HashMap.getD_insert_self, Std.HashMap.contains_insert_self,
      if_pos rfl]
    exact beq_self_eq_true _

/-- An entry that stores what the entry before it has stored is counted and does nothing else, however the
    two are spelled. -/
theorem entry_of_repetition {e again : TraceEntry} {slot value : Int}
    (hok : r.entry declared hash slotOnTop e = .ok next) (hstores : e.Stores slotOnTop slot value)
    (hagain : again.Stores slotOnTop slot value) :
    next.entry declared hash slotOnTop again
      = .ok { next with writes := next.writes + 1, repetitions := next.repetitions + 1 } := by
  have hfirst : StorageWrite.recognised? slotOnTop e = some ⟨slot, value, e.pc, e.depth⟩ :=
    StorageWrite.recognised?_eq_some_iff.2 ⟨hstores, rfl, rfl⟩
  have hsecond : StorageWrite.recognised? slotOnTop again = some ⟨slot, value, again.pc, again.depth⟩ :=
    StorageWrite.recognised?_eq_some_iff.2 ⟨hagain, rfl, rfl⟩
  rw [entry_eq, hfirst] at hok
  have hrepeats : next.repeats ⟨slot, value, again.pc, again.depth⟩ = true := repeats_of_write hok rfl rfl
  have hcounted : Replay.repeats { next with writes := next.writes + 1 }
      ⟨slot, value, again.pc, again.depth⟩ = true := hrepeats
  rw [entry_eq, hsecond]
  exact if_pos hcounted

end Replay

/-! ## Other spellings -/

/-- Two stack words are spellings of one integer, or neither of them is a word. -/
def SpelledAlike (word other : String) : Prop :=
  ∀ n, Word.Denotes (.str word) n ↔ Word.Denotes (.str other) n

/-- Two entries are the same but for the spelling of their stack words. -/
structure TraceEntry.SameWords (e other : TraceEntry) : Prop where
  op_eq : e.op = other.op
  pc_eq : e.pc = other.pc
  depth_eq : e.depth = other.depth
  stack : List.Forall₂ SpelledAlike e.stack other.stack

/-- The operands of such entries are spelled alike. -/
theorem TraceEntry.SameWords.operands {e other : TraceEntry} (hsame : e.SameWords other)
    (slotOnTop : Bool) : Option.Rel (fun words others => SpelledAlike words.1 others.1
      ∧ SpelledAlike words.2 others.2) (StorageWrite.operands? slotOnTop e.stack)
      (StorageWrite.operands? slotOnTop other.stack) := by
  have hstack := List.forall₂_reverse_iff.2 hsame.stack
  unfold StorageWrite.operands?
  generalize e.stack.reverse = stack at hstack
  generalize other.stack.reverse = stack' at hstack
  match hstack with
  | .nil => exact .none
  | .cons _ .nil => exact .none
  | .cons htop (.cons hsecond _) =>
    cases slotOnTop with
    | true => exact .some ⟨htop, hsecond⟩
    | false => exact .some ⟨hsecond, htop⟩

/-- An entry is recognised as the same write, however its words are spelled. -/
theorem StorageWrite.recognised?_of_sameWords {e other : TraceEntry} (hsame : e.SameWords other)
    (slotOnTop : Bool) : recognised? slotOnTop e = recognised? slotOnTop other := by
  have hwords : ∀ {a b : String}, SpelledAlike a b →
      (Word.ofText a).toOption = (Word.ofText b).toOption := by
    intro a b hab
    refine Option.ext (fun n => ?_)
    rw [toOption_ofText_eq_some_iff, toOption_ofText_eq_some_iff]
    exact hab n
  have hoperands := hsame.operands slotOnTop
  rw [recognised?_eq]
  unfold ofEntry? ofStep?
  rw [hsame.op_eq, hsame.pc_eq, hsame.depth_eq]
  cases hfirst : operands? slotOnTop e.stack with
  | none =>
    rw [hfirst] at hoperands
    cases hsecond : operands? slotOnTop other.stack with
    | none => rfl
    | some others =>
      rw [hsecond] at hoperands
      cases hoperands
  | some words =>
    rw [hfirst] at hoperands
    cases hsecond : operands? slotOnTop other.stack with
    | none =>
      rw [hsecond] at hoperands
      cases hoperands
    | some others =>
      rw [hsecond] at hoperands
      cases hoperands with
      | some halike =>
        simp only [Option.bind_eq_bind, Option.bind_some, hwords halike.1, hwords halike.2]

namespace Replay

variable {declared : List StorageVariable} {hash : Except Fault (Option String)} {slotOnTop : Bool}

theorem entry_of_sameWords {e other : TraceEntry} (hsame : e.SameWords other) (r : Replay) :
    r.entry declared hash slotOnTop e = r.entry declared hash slotOnTop other := by
  rw [entry_eq, entry_eq, StorageWrite.recognised?_of_sameWords hsame, passed, passed, hsame.op_eq]

/-- **Traces of the same words** are replayed alike, however the words are spelled. -/
theorem run_of_sameWords {entries others : List TraceEntry}
    (hsame : List.Forall₂ TraceEntry.SameWords entries others) (words : Words) :
    run declared hash slotOnTop words entries = run declared hash slotOnTop words others := by
  unfold run
  generalize begin words = r
  induction hsame generalizing r with
  | nil => rfl
  | cons hhead _ ih =>
    rw [List.foldlM_cons, List.foldlM_cons, entry_of_sameWords hhead]
    exact bind_congr ih

end Replay

/-! ## Normal forms and traces -/

/-- Normal forms stand for integers. -/
structure Word.NormalForms : Prop where
  /-- Every usual spelling of a number has the normal form that the number itself has. -/
  spelled : ∀ n text, IsSpelling n text →
    normalForm (.str text) = .ok (Numeral.hex n) ∧ normalForm (.int n) = .ok (Numeral.hex n)
  /-- What denotes an integer has a normal form, and nothing else. -/
  accepts : ∀ value, (∃ form, normalForm value = .ok form) ↔ ∃ n, Denotes value n
  idempotent : ∀ value form, normalForm value = .ok form → normalForm (.str form) = .ok form
  eq_iff : ∀ value other form form', normalForm value = .ok form → normalForm other = .ok form' →
    (form = form' ↔ ∃ n, Denotes value n ∧ Denotes other n)

/-- The replay of traces over a history goes by the integers that words denote. -/
structure History.ReplaysNumbers (settings : Settings) (h : History) : Prop where
  /-- Every recorded write is that of an entry with operands, and it is attributed to the variables of a slot,
      if there are any, exactly if its first operand denotes this slot. -/
  attributed : ∀ document hash s, (h.replay settings document hash).result = .ok s →
    ∃ parts : List (List StateChange), s.changes = parts.flatten
      ∧ List.Forall₂ (fun w made =>
        ∃ e ∈ (ParsedTrace.ofJson (some settings.traceLimit) document).entries, ∃ slotWord valueWord,
          e.op = "SSTORE" ∧ StorageWrite.operands? settings.slotOnTop e.stack = some (slotWord, valueWord)
          ∧ Word.Denotes (.str valueWord) w.value
          ∧ ∀ slot, (∃ c ∈ made, c.AttributedTo h.layout slot)
            ↔ (∃ v ∈ h.layout, v.slot = slot) ∧ Word.Denotes (.str slotWord) slot)
        (StorageWrite.recorded h.words.carried (recognised settings document)) parts
  /-- A second spelling of what a slot has been given is a repetition. -/
  repeated : ∀ hash r next e again slot value, Replay.entry h.layout hash settings.slotOnTop r e = .ok next →
    e.Stores settings.slotOnTop slot value → again.Stores settings.slotOnTop slot value →
    Replay.entry h.layout hash settings.slotOnTop next again
      = .ok { next with writes := next.writes + 1, repetitions := next.repetitions + 1 }
  /-- Entries whose words are spelled anew are replayed as before. -/
  respelled : ∀ hash entries others, List.Forall₂ TraceEntry.SameWords entries others →
    Replay.run h.layout hash settings.slotOnTop h.words entries
      = Replay.run h.layout hash settings.slotOnTop h.words others

theorem StorageWrite.mem_of_mem_recorded {carried : Int → Int} {writes : List StorageWrite}
    {w : StorageWrite} (hw : w ∈ recorded carried writes) : w ∈ writes := by
  induction writes using List.reverseRecOn with
  | nil => exact hw
  | append_singleton front last ih =>
    rw [recorded_concat, record] at hw
    split at hw
    · exact List.mem_append_left _ (ih hw)
    · rcases List.mem_append.1 hw with hw | hw
      · exact List.mem_append_left _ (ih hw)
      · exact List.mem_append_right _ hw

theorem Word.normalForms : NormalForms where
  spelled := fun n text hspells => by
    constructor
    · rw [normalForm, ofJson, hspells.ofText_eq]
      rfl
    · exact normalForm_eq_ok_iff.2 ⟨n, ⟨Int.natCast_nonneg n, rfl⟩, rfl⟩
  accepts := fun value => by
    constructor
    · rintro ⟨form, hform⟩
      obtain ⟨n, hn, -⟩ := normalForm_eq_ok_iff.1 hform
      exact ⟨n, hn⟩
    · rintro ⟨n, hn⟩
      exact ⟨_, normalForm_eq_ok_iff.2 ⟨n, hn, rfl⟩⟩
  idempotent := fun _ _ => normalForm_idempotent
  eq_iff := fun _ _ _ _ => normalForm_eq_iff

namespace History

/-- The recorded writes of a trace are attributed by the slots that their words denote. -/
theorem exists_attributed_of_replay {settings : Settings} {h : History} {document hash : Json} {s : Snapshot}
    (hok : (h.replay settings document hash).result = .ok s) :
    ∃ parts : List (List StateChange), s.changes = parts.flatten
      ∧ List.Forall₂ (fun w made =>
        w ∈ recognised settings document ∧ ∀ slot, (∃ c ∈ made, c.AttributedTo h.layout slot)
          ↔ (∃ v ∈ h.layout, v.slot = slot) ∧ w.slot = slot)
        (StorageWrite.recorded h.words.carried (recognised settings document)) parts := by
  have hends := replay_ends settings h document hash
  generalize h.replay settings document hash = move at hends hok
  cases hends with
  | givenUp hrun => cases hok
  | unnamed hrun hhash => cases hok
  | @added name r context hrun hhash =>
    cases hok
    obtain ⟨parts, hparts, hattributed⟩ := (Replay.run_recorded hrun).records.exists_attributed
    exact ⟨parts, hparts, (List.forall₂_and_left _ _).2
      ⟨fun _ hw => StorageWrite.mem_of_mem_recorded hw, hattributed⟩⟩

/-- **Words count by their number.** -/
theorem words_count_by_number (settings : Settings) (h : History) :
    Word.NormalForms ∧ h.ReplaysNumbers settings := by
  refine ⟨Word.normalForms, ?_, ?_, ?_⟩
  · intro document hash s hok
    obtain ⟨parts, hparts, hattributed⟩ := exists_attributed_of_replay hok
    refine ⟨parts, hparts, hattributed.imp ?_⟩
    rintro w made ⟨hw, hslots⟩
    obtain ⟨e, he, hrecognised⟩ := List.mem_filterMap.1 hw
    obtain ⟨hop, slotWord, valueWord, hwords, hslot, hvalue⟩ :=
      StorageWrite.stores_iff.1 (StorageWrite.recognised?_eq_some_iff.1 hrecognised).1
    refine ⟨e, he, slotWord, valueWord, hop, hwords, hvalue, fun slot => ?_⟩
    rw [hslots slot]
    refine and_congr_right (fun _ => ⟨?_, hslot.unique⟩)
    rintro rfl
    exact hslot
  · exact fun hash r next e again slot value hok hstores hagain =>
      Replay.entry_of_repetition hok hstores hagain
  · exact fun hash entries others hsame => Replay.run_of_sameWords hsame h.words

end History

end EvmScope
