import EvmScope.Proofs.Storage.InStep
import EvmScope.Proofs.Storage.Reconstruction
import Mathlib.Data.List.Chain

set_option autoImplicit false

/-! # The writes that are recorded

Of the recognised writes of a trace some are recorded and some repeat their slot. Which ones is said here
without tables: a write is a repetition if the latest of the recorded writes to its slot gave the same
value, or if there is none and zero is written over a zero that was carried over. Other slots do not matter,
so the writes to a slot can be looked at on their own.

A replay holds the words and the slots of the recorded writes and nothing else. Every recorded write makes
its changes over the word that those before it leave. Where a slot has one variable or none, this is one
change for each write, and the changes of the slot make a chain. -/

namespace EvmScope

namespace StorageWrite

/-- The word of a slot after some writes, or else the one that was carried over. -/
def wordOver (carried : Int → Int) (writes : List StorageWrite) (slot : Int) : Int :=
  ((last? writes slot).map (·.value)).getD (carried slot)

/-- Whether a write repeats its slot after some that were recorded. -/
def isRepetition (carried : Int → Int) (recorded : List StorageWrite) (w : StorageWrite) : Bool :=
  match last? recorded w.slot with
  | some latest => latest.value == w.value
  | none => w.value == 0 && carried w.slot == 0

/-- Record a write unless it is a repetition. -/
def record (carried : Int → Int) (recorded : List StorageWrite) (w : StorageWrite) : List StorageWrite :=
  if isRepetition carried recorded w then recorded else recorded ++ [w]

/-- The writes that are recorded of some. -/
def recorded (carried : Int → Int) (writes : List StorageWrite) : List StorageWrite :=
  writes.foldl (record carried) []

variable {carried : Int → Int}

theorem filter_slot_concat_self (writes : List StorageWrite) (w : StorageWrite) :
    (writes ++ [w]).filter (fun other => other.slot = w.slot)
      = writes.filter (fun other => other.slot = w.slot) ++ [w] := by
  simp [List.filter_append]

theorem filter_slot_concat_of_ne (writes : List StorageWrite) {w : StorageWrite} {slot : Int}
    (hslot : w.slot ≠ slot) :
    (writes ++ [w]).filter (fun other => other.slot = slot)
      = writes.filter (fun other => other.slot = slot) := by
  simp [List.filter_append, hslot]

theorem wordOver_concat (writes : List StorageWrite) (w : StorageWrite) :
    wordOver carried (writes ++ [w]) = w.update (wordOver carried writes) := by
  funext slot
  rw [wordOver, update]
  by_cases hslot : slot = w.slot
  · rw [if_pos hslot, hslot, last?_append_self]
    rfl
  · rw [if_neg hslot, last?_append_of_ne _ _ _ hslot, wordOver]

theorem recorded_concat (writes : List StorageWrite) (w : StorageWrite) :
    recorded carried (writes ++ [w]) = record carried (recorded carried writes) w :=
  List.foldl_concat _ _ _ _

theorem isRepetition_filter (writes : List StorageWrite) (w : StorageWrite) :
    isRepetition carried (writes.filter (fun other => other.slot = w.slot)) w
      = isRepetition carried writes w := by
  simp only [isRepetition, last?, List.filter_filter, Bool.and_self]

/-- Which writes to a slot are recorded does not depend on the other slots. -/
theorem recorded_filter (writes : List StorageWrite) (slot : Int) :
    recorded carried (writes.filter (fun w => w.slot = slot))
      = (recorded carried writes).filter (fun w => w.slot = slot) := by
  induction writes using List.reverseRecOn with
  | nil => rfl
  | append_singleton front w ih =>
    rw [recorded_concat, record]
    by_cases hslot : w.slot = slot
    · subst hslot
      rw [filter_slot_concat_self, recorded_concat, ih, record, isRepetition_filter]
      split
      · rfl
      · rw [filter_slot_concat_self]
    · rw [filter_slot_concat_of_ne _ hslot, ih]
      split
      · rfl
      · rw [filter_slot_concat_of_ne _ hslot]

example : recorded (fun _ => 0) [⟨1, 0, 0, 1⟩, ⟨1, 5, 1, 1⟩, ⟨2, 5, 2, 1⟩, ⟨1, 5, 3, 1⟩, ⟨1, 0, 4, 1⟩]
    = [⟨1, 5, 1, 1⟩, ⟨2, 5, 2, 1⟩, ⟨1, 0, 4, 1⟩] := by decide

/-! ## The changes of one write -/

/-- A write to a slot of one variable or of none makes one change, from the old word to the new one. -/
theorem exists_change_of_sole {w : StorageWrite} {here : List StorageVariable}
    {hash : Except Fault (Option String)} {old : Int} {made : List StateChange}
    (hok : w.changes here hash old = .ok made) (hsole : here.length ≤ 1) :
    ∃ name label typeName, made = [w.change name old w.value label typeName] := by
  match here with
  | [] =>
    obtain ⟨name, -, hmade⟩ := bind_eq_ok_iff.1 hok
    exact ⟨name, none, _, (Except.ok.inj hmade).symm⟩
  | [v] =>
    obtain ⟨name, -, hmade⟩ := bind_eq_ok_iff.1 hok
    exact ⟨name, some v.label, _, (Except.ok.inj hmade).symm⟩
  | v :: u :: rest => exact absurd hsole (by simp)

/-- The changes of a write to a shared slot are those of variables in it. -/
theorem exists_part_of_shared {w : StorageWrite} {here : List StorageVariable}
    {hash : Except Fault (Option String)} {old : Int} {made : List StateChange}
    (hok : w.changes here hash old = .ok made) (hshared : ¬ here.length ≤ 1) :
    ∀ c ∈ made, ∃ v ∈ here, ∃ name before after, v.extract old = .ok before ∧ v.extract w.value = .ok after
      ∧ c = w.change name before after (some v.label) (Word.friendlyType v.typeLabel) := by
  match here with
  | [] => exact absurd (Nat.zero_le 1) hshared
  | [_] => exact absurd (Nat.le_refl 1) hshared
  | v :: u :: rest =>
    obtain ⟨found, hfound, hrest⟩ := bind_eq_ok_iff.1 hok
    obtain ⟨name, -, hmade⟩ := bind_eq_ok_iff.1 hrest
    cases hmade
    intro c hc
    obtain ⟨part, hpart, rfl⟩ := List.mem_map.1 hc
    have hmem : part ∈ found := by
      split at hpart
      · exact hpart
      · exact List.mem_of_mem_filter hpart
    obtain ⟨member, hmember, hextracted⟩ := exists_of_mem_mapM hfound part hmem
    obtain ⟨before, hbefore, hextracted⟩ := bind_eq_ok_iff.1 hextracted
    obtain ⟨after, hafter, hextracted⟩ := bind_eq_ok_iff.1 hextracted
    cases hextracted
    exact ⟨member, hmember, name, before, after, hbefore, hafter, rfl⟩

theorem makes_changes {w : StorageWrite} {here : List StorageVariable}
    {hash : Except Fault (Option String)} {old : Int} {made : List StateChange}
    (hok : w.changes here hash old = .ok made) :
    made ≠ [] ∧ ∀ c ∈ made, c.slot = w.slotText ∧ c.offset = w.offset ∧ c.depth = w.depth := by
  by_cases hsole : here.length ≤ 1
  · obtain ⟨name, label, typeName, rfl⟩ := exists_change_of_sole hok hsole
    exact ⟨List.cons_ne_nil _ _, List.forall_mem_singleton.2 ⟨rfl, rfl, rfl⟩⟩
  · match here with
    | [] => exact absurd (Nat.zero_le 1) hsole
    | [_] => exact absurd (Nat.le_refl 1) hsole
    | v :: u :: rest =>
      obtain ⟨found, hfound, hrest⟩ := bind_eq_ok_iff.1 hok
      obtain ⟨name, -, hmade⟩ := bind_eq_ok_iff.1 hrest
      have hlength := ((mapM_eq_ok_iff _ _ _).1 hfound).length_eq
      cases hmade
      refine ⟨?_, fun c hc => ?_⟩
      · -- the changes are those of the parts that differ, or of all parts if these are none
        rw [ne_eq, List.map_eq_nil_iff]
        split
        · rintro rfl
          cases hlength
        · next hdiffering => exact fun hnone => hdiffering (by rw [hnone]; rfl)
      · obtain ⟨part, -, rfl⟩ := List.mem_map.1 hc
        exact ⟨rfl, rfl, rfl⟩

end StorageWrite

/-! ## The changes of the recorded writes -/

/-- The recorded writes with the changes they make, each over the word that those before it leave. -/
inductive Records (declared : List StorageVariable) (hash : Except Fault (Option String))
    (carried : Int → Int) : List StorageWrite → List StateChange → Prop
  | nothing : Records declared hash carried [] []
  | further {recorded : List StorageWrite} {changes made : List StateChange} {w : StorageWrite}
    (before : Records declared hash carried recorded changes)
    (hnew : w.isRepetition carried recorded = false)
    (hmade : w.changes (Layout.variablesAt declared w.slotText) hash
      (StorageWrite.wordOver carried recorded w.slot) = .ok made) :
    Records declared hash carried (recorded ++ [w]) (changes ++ made)

/-- The recorded writes to a slot and its changes, if every write makes one: the changes have the words and
    the places of the writes, the first one starts from the word carried over, and every other one goes on
    from the one before it to another word. -/
structure SlotChain (carried : Int) (recorded : List StorageWrite) (changes : List StateChange) : Prop where
  steps_eq : changes.map (fun c => (c.newValue, c.offset, c.depth))
    = recorded.map (fun w => (Numeral.hex w.value, w.offset, w.depth))
  first_old : ∀ c ∈ changes.head?, c.oldValue = Numeral.hex carried
  chained : changes.IsChain (fun c next => next.oldValue = c.newValue ∧ next.newValue ≠ next.oldValue)

namespace SlotChain

variable {carried : Int} {recorded : List StorageWrite} {changes : List StateChange}

theorem newValue_getLast? (hchain : SlotChain carried recorded changes) :
    changes.getLast?.map (·.newValue) = recorded.getLast?.map (fun w => Numeral.hex w.value) := by
  have hlast := congrArg (fun steps => steps.getLast?.map Prod.fst) hchain.steps_eq
  simpa only [List.getLast?_map, Option.map_map, Function.comp_def] using hlast

theorem concat (hchain : SlotChain carried recorded changes) {w : StorageWrite} {c : StateChange}
    (hold : c.oldValue = Numeral.hex ((recorded.getLast?.map (·.value)).getD carried))
    (hstep : (c.newValue, c.offset, c.depth) = (Numeral.hex w.value, w.offset, w.depth))
    (hnew : ∀ latest ∈ recorded.getLast?, latest.value ≠ w.value) :
    SlotChain carried (recorded ++ [w]) (changes ++ [c]) := by
  have hlast := hchain.newValue_getLast?
  refine ⟨?_, ?_, ?_⟩
  · rw [List.map_append, List.map_append, hchain.steps_eq, List.map_singleton, List.map_singleton, hstep]
  · intro first hfirst
    rw [List.head?_append] at hfirst
    cases hhead : changes.head? with
    | some found =>
      rw [hhead] at hfirst
      exact hchain.first_old first (hhead ▸ hfirst)
    | none =>
      -- nothing was recorded before
      rw [List.head?_eq_none_iff.1 hhead, List.getLast?_nil, Option.map_none] at hlast
      rw [hhead] at hfirst
      cases hfirst
      rw [hold, List.getLast?_eq_none_iff.1 (Option.map_eq_none_iff.1 hlast.symm)]
      rfl
  · refine List.isChain_append.2 ⟨hchain.chained, List.isChain_singleton c, ?_⟩
    rintro before hbefore _ ⟨⟩
    rw [Option.mem_def.1 hbefore, Option.map_some] at hlast
    obtain ⟨latest, hlatest, hvalue⟩ := Option.map_eq_some_iff.1 hlast.symm
    rw [hlatest, Option.map_some, Option.getD_some, hvalue] at hold
    refine ⟨hold, fun hsame => ?_⟩
    rw [hold, ← hvalue, (Prod.mk.inj hstep).1] at hsame
    exact hnew latest hlatest (Numeral.hex_injective _ _ hsame).symm

end SlotChain

namespace Records

variable {declared : List StorageVariable} {hash : Except Fault (Option String)} {carried : Int → Int}
  {recorded : List StorageWrite} {changes : List StateChange}

/-- What holds of the changes of any write holds of those that each recorded write contributes. -/
theorem exists_parts_of_forall {Contributes : StorageWrite → List StateChange → Prop}
    (hrecords : Records declared hash carried recorded changes)
    (hcontributes : ∀ {w old made}, w.changes (Layout.variablesAt declared w.slotText) hash old = .ok made →
      Contributes w made) :
    ∃ parts : List (List StateChange), changes = parts.flatten
      ∧ List.Forall₂ Contributes recorded parts := by
  induction hrecords with
  | nothing => exact ⟨[], rfl, .nil⟩
  | further before hnew hmade ih =>
    obtain ⟨parts, rfl, hparts⟩ := ih
    refine ⟨parts ++ [_], ?_, List.rel_append hparts (.cons (hcontributes hmade) .nil)⟩
    rw [List.flatten_append, List.flatten_singleton]

/-- Every recorded write contributes changes of its slot and its place. -/
theorem exists_parts (hrecords : Records declared hash carried recorded changes) :
    ∃ parts : List (List StateChange), changes = parts.flatten
      ∧ List.Forall₂ (fun w made => made ≠ []
        ∧ ∀ c ∈ made, c.slot = w.slotText ∧ c.offset = w.offset ∧ c.depth = w.depth) recorded parts :=
  hrecords.exists_parts_of_forall StorageWrite.makes_changes

/-- **The chain of a slot.** Where a slot has one variable or none, its changes go on from each other. -/
theorem slotChain (hrecords : Records declared hash carried recorded changes) {slot : Int}
    (hsole : declared.countP (fun v => v.slot = slot) ≤ 1) :
    SlotChain (carried slot) (recorded.filter (fun w => w.slot = slot))
      (changes.filter (fun c => c.slot = Numeral.hex slot)) := by
  induction hrecords with
  | nothing => exact ⟨rfl, fun c hc => absurd hc (by simp), .nil⟩
  | @further recorded changes made w before hnew hmade ih =>
    by_cases hslot : w.slot = slot
    · subst hslot
      rw [StorageWrite.slotText, Layout.variablesAt_hex] at hmade
      rw [List.countP_eq_length_filter] at hsole
      obtain ⟨name, label, typeName, rfl⟩ := StorageWrite.exists_change_of_sole hmade hsole
      have hhere : [w.change name (StorageWrite.wordOver carried recorded w.slot) w.value label
          typeName].filter (fun c => c.slot = Numeral.hex w.slot)
          = [w.change name (StorageWrite.wordOver carried recorded w.slot) w.value label typeName] := by
        simp [StorageWrite.change, StorageWrite.slotText]
      rw [StorageWrite.filter_slot_concat_self, List.filter_append, hhere]
      refine ih.concat rfl rfl (fun latest hlatest => ?_)
      have hlast : StorageWrite.last? recorded w.slot = some latest := hlatest
      rw [StorageWrite.isRepetition, hlast] at hnew
      simpa using hnew
    · obtain ⟨-, hplaces⟩ := StorageWrite.makes_changes hmade
      have hnone : made.filter (fun c => c.slot = Numeral.hex slot) = [] := by
        refine List.filter_eq_nil_iff.2 (fun c hc hhex => ?_)
        rw [(hplaces c hc).1, decide_eq_true_eq] at hhex
        exact hslot (Numeral.hex_injective _ _ hhex)
      rw [StorageWrite.filter_slot_concat_of_ne _ hslot, List.filter_append, hnone, List.append_nil]
      exact ih

end Records

/-! ## Replays -/

namespace Words

/-- The words after some writes. -/
def store (words : Words) (writes : List StorageWrite) : Words :=
  writes.foldl (fun held w => held.insert w.slotText w.value) words

/-- The word that is held for a slot before a trace. -/
def carried (words : Words) (slot : Int) : Int :=
  words.at (Numeral.hex slot)

theorem store_concat (words : Words) (writes : List StorageWrite) (w : StorageWrite) :
    words.store (writes ++ [w]) = (words.store writes).insert w.slotText w.value :=
  List.foldl_concat _ _ _ _

theorem holds_store (words : Words) (writes : List StorageWrite) :
    (words.store writes).Holds (StorageWrite.wordOver words.carried writes) := by
  induction writes using List.reverseRecOn with
  | nil => exact fun slot => rfl
  | append_singleton front w ih =>
    rw [store_concat, StorageWrite.wordOver_concat]
    exact ih.insert w

end Words

namespace Replay

/-- A replay holds the recorded ones of some writes over the words before it. -/
structure Recorded (declared : List StorageVariable) (hash : Except Fault (Option String)) (words : Words)
    (writes : List StorageWrite) (r : Replay) : Prop where
  words_eq : r.words = words.store (StorageWrite.recorded words.carried writes)
  contains_eq : ∀ slot, r.written.contains (Numeral.hex slot)
    = (StorageWrite.last? (StorageWrite.recorded words.carried writes) slot).isSome
  records : Records declared hash words.carried (StorageWrite.recorded words.carried writes)
    r.changes.reverse
  repetitions_eq : r.repetitions + (StorageWrite.recorded words.carried writes).length = writes.length

section Recorded

variable {declared : List StorageVariable} {hash : Except Fault (Option String)} {words : Words}
  {writes : List StorageWrite} {r next : Replay}

/-- The tables tell the same repetitions as the recorded writes. -/
theorem Recorded.repeats_eq (hr : Recorded declared hash words writes r) (w : StorageWrite) :
    r.repeats w = w.isRepetition words.carried (StorageWrite.recorded words.carried writes) := by
  have hheld := words.holds_store (StorageWrite.recorded words.carried writes) w.slot
  rw [repeats, StorageWrite.slotText, hr.contains_eq, hr.words_eq, hheld, StorageWrite.isRepetition,
    StorageWrite.wordOver]
  cases StorageWrite.last? (StorageWrite.recorded words.carried writes) w.slot with
  | none => rfl
  | some latest => rfl

theorem Recorded.write (hr : Recorded declared hash words writes r) {w : StorageWrite}
    (hok : r.write declared hash w = .ok next) :
    Recorded declared hash words (writes ++ [w]) next := by
  have hconcat : StorageWrite.recorded words.carried (writes ++ [w])
      = StorageWrite.record words.carried (StorageWrite.recorded words.carried writes) w :=
    StorageWrite.recorded_concat writes w
  have hcount := hr.repetitions_eq
  rw [StorageWrite.record, ← hr.repeats_eq] at hconcat
  obtain ⟨hrepeats, rfl⟩ | ⟨hrepeats, made, hmade, rfl⟩ := write_ok hok
  · rw [if_pos hrepeats] at hconcat
    refine ⟨hconcat ▸ hr.words_eq, hconcat ▸ hr.contains_eq, hconcat ▸ hr.records, ?_⟩
    rw [hconcat, List.length_append, List.length_singleton, ← hcount]
    exact Nat.add_right_comm _ _ _
  · rw [hrepeats, if_neg Bool.false_ne_true] at hconcat
    constructor
    · rw [hconcat, Words.store_concat, ← hr.words_eq]
    · intro slot
      rw [hconcat, Std.HashMap.contains_insert, hr.contains_eq]
      by_cases hslot : slot = w.slot
      · subst hslot
        simp [StorageWrite.last?_append_self, StorageWrite.slotText]
      · have hne : (w.slotText == Numeral.hex slot) = false :=
          beq_eq_false_iff_ne.2 (fun hhex => hslot (Numeral.hex_injective _ _ hhex).symm)
        rw [hne, Bool.false_or, StorageWrite.last?_append_of_ne _ _ _ hslot]
    · have hheld := words.holds_store (StorageWrite.recorded words.carried writes) w.slot
      rw [← hr.words_eq] at hheld
      rw [StorageWrite.slotText, hheld] at hmade
      rw [hr.repeats_eq] at hrepeats
      rw [hconcat, List.reverse_append, List.reverse_reverse]
      exact .further hr.records hrepeats hmade
    · rw [hconcat, List.length_append, List.length_append, ← hcount]
      exact (Nat.add_assoc _ _ _).symm

theorem Recorded.entry (hr : Recorded declared hash words writes r) {slotOnTop : Bool} {e : TraceEntry}
    (hok : r.entry declared hash slotOnTop e = .ok next) :
    Recorded declared hash words (writes ++ (StorageWrite.recognised? slotOnTop e).toList) next := by
  rw [entry_eq] at hok
  cases hrecognised : StorageWrite.recognised? slotOnTop e with
  | none =>
    rw [hrecognised] at hok
    cases hok
    have hcount : (r.passed e).repetitions = r.repetitions := by
      unfold passed
      split
      · rfl
      · rfl
    obtain ⟨hwords, hwritten, hchanges⟩ := r.sameButCounts_passed e
    rw [Option.toList_none, List.append_nil]
    exact ⟨hwords ▸ hr.words_eq, hwritten ▸ hr.contains_eq, hchanges ▸ hr.records,
      hcount ▸ hr.repetitions_eq⟩
  | some w =>
    rw [hrecognised] at hok
    have hcounted : Recorded declared hash words writes { r with writes := r.writes + 1 } :=
      ⟨hr.words_eq, hr.contains_eq, hr.records, hr.repetitions_eq⟩
    exact hcounted.write hok

/-- **A replay that succeeds** has recorded the recognised writes of its entries. -/
theorem run_recorded {slotOnTop : Bool} {entries : List TraceEntry}
    (hok : run declared hash slotOnTop words entries = .ok r) :
    Recorded declared hash words (entries.filterMap (StorageWrite.recognised? slotOnTop)) r := by
  refine foldlM_induction
    (motive := fun done r =>
      Recorded declared hash words (done.filterMap (StorageWrite.recognised? slotOnTop)) r) ?_ ?_ hok
  · exact ⟨rfl, fun slot => Std.HashMap.contains_empty, .nothing, rfl⟩
  · intro done r next e hr hentry
    rw [List.filterMap_append, List.filterMap_eq_flatMap_toList _ [e], List.flatMap_singleton]
    exact hr.entry hentry

end Recorded

/-- The storage writes of a trace are those that are malformed and those that are recognised. -/
theorem countP_sstore (slotOnTop : Bool) (entries : List TraceEntry) :
    entries.countP (·.op == "SSTORE") = entries.countP (isMalformed slotOnTop)
      + (entries.filterMap (StorageWrite.recognised? slotOnTop)).length := by
  induction entries with
  | nil => rfl
  | cons e rest ih =>
    rw [List.countP_cons, List.countP_cons, ih, List.filterMap_cons, isMalformed]
    cases hrecognised : StorageWrite.recognised? slotOnTop e with
    | none =>
      by_cases hop : e.op = "SSTORE"
      · simp [hop]; omega
      · simp [hop]
    | some w =>
      have hop : e.op = "SSTORE" := StorageWrite.op_eq_of_recognised? hrecognised
      simp [hop]; omega

end Replay

namespace History

/-- What a trace leaves in its snapshot and its counts: which of its writes are recorded, and with which
    changes. -/
structure RecordsWrites (settings : Settings) (h : History) (document : Json) (s : Snapshot)
    (tally : ReplayTally) : Prop where
  /-- In a slot of one variable or of none the changes are those of the recorded writes to it. -/
  slot_chain : ∀ slot : Int, h.layout.countP (fun v => v.slot = slot) ≤ 1 →
    SlotChain (h.words.carried slot)
      (StorageWrite.recorded h.words.carried
        ((recognised settings document).filter (fun w => w.slot = slot)))
      (s.changes.filter (fun c => c.slot = Numeral.hex slot))
  /-- A storage write is malformed, a repetition or recorded. -/
  writes_eq : tally.writes = tally.malformed + tally.repetitions
    + (StorageWrite.recorded h.words.carried (recognised settings document)).length
  /-- In any slot a recorded write makes changes. -/
  exists_parts : ∃ parts : List (List StateChange), s.changes = parts.flatten
    ∧ List.Forall₂ (fun w made => made ≠ []
        ∧ ∀ c ∈ made, c.slot = w.slotText ∧ c.offset = w.offset ∧ c.depth = w.depth)
      (StorageWrite.recorded h.words.carried (recognised settings document)) parts

/-- **Recorded writes.** Whatever a history holds, a trace that is replayed over it records its writes
    without the repetitions. -/
theorem replay_recordsWrites {settings : Settings} {h : History} {document hash : Json} {s : Snapshot}
    (hok : (h.replay settings document hash).result = .ok s) :
    RecordsWrites settings h document s (h.replay settings document hash).state.tally := by
  have hends := replay_ends settings h document hash
  generalize h.replay settings document hash = move at hends hok
  cases hends with
  | givenUp hrun => cases hok
  | unnamed hrun hhash => cases hok
  | @added name r context hrun hhash =>
    cases hok
    have hrecorded := Replay.run_recorded hrun
    obtain ⟨hwrites, hmalformed⟩ := Replay.run_counts hrun
    refine ⟨fun slot hsole => ?_, ?_, hrecorded.records.exists_parts⟩
    · rw [StorageWrite.recorded_filter]
      exact hrecorded.records.slotChain hsole
    · have hcount := hrecorded.repetitions_eq
      have hsplit := Replay.countP_sstore settings.slotOnTop
        (ParsedTrace.ofJson (some settings.traceLimit) document).entries
      rw [← hwrites, ← hmalformed, ← hcount, ← Nat.add_assoc] at hsplit
      exact hsplit

/-- An entry that writes to storage, with its operands. -/
def storing (operands : List String) : Json :=
  .obj [("pc", .int 0), ("op", .str "SSTORE"), ("stack", .arr (operands.map Json.str))]

/-- A trace with two repetitions, one of them behind a write to another slot, and a malformed write. -/
def repeatingTrace : Json :=
  .obj [("structLogs", .arr [storing ["0x1", "0x0"], storing ["0x1", "0x5"], storing ["0x0", "0x7"],
    storing ["0x1", "0x5"], storing [], storing ["0x1", "0x0"]])]

/-- The history of a contract with two variables in one slot and one in the next. -/
def sharing : History :=
  { empty with layout :=
    [ ⟨0, "a", "t_uint128", "uint128", 0, 16⟩, ⟨0, "b", "t_uint128", "uint128", 16, 16⟩,
      ⟨1, "c", "t_uint256", "uint256", 0, 32⟩ ] }

theorem not_misplaced_sharing (slot : Int) : ¬ Layout.Misplaced sharing.layout slot := by
  rintro ⟨-, v, hv, -, hoffset⟩
  have hnone : ∀ v ∈ sharing.layout, ¬ v.offset < 0 := by decide
  exact hnone v hv hoffset

/-- Of the five writes that are recognised three are recorded. -/
theorem recorded_repeatingTrace :
    StorageWrite.recorded sharing.words.carried (recognised Settings.standard repeatingTrace)
      = [⟨1, 5, 0, 1⟩, ⟨0, 7, 0, 1⟩, ⟨1, 0, 0, 1⟩] := by
  have hcarried : sharing.words.carried = fun _ => 0 := by
    funext slot
    exact Std.HashMap.getD_empty
  rw [hcarried, recognised_eq]
  decide +kernel

theorem replay_recordsWrites_repeatingTrace :
    let tally := (sharing.replay Settings.standard repeatingTrace .null).state.tally
    ∃ s, (sharing.replay Settings.standard repeatingTrace .null).result = .ok s
      ∧ RecordsWrites Settings.standard sharing repeatingTrace s tally
      ∧ StorageWrite.recorded sharing.words.carried (recognised Settings.standard repeatingTrace)
        = [⟨1, 5, 0, 1⟩, ⟨0, 7, 0, 1⟩, ⟨1, 0, 0, 1⟩]
      ∧ tally.writes = 6 ∧ tally.malformed = 1 ∧ tally.repetitions = 2 := by
  intro tally
  obtain ⟨s, hs⟩ := map_unit_eq_ok_iff.1 (succeeds_of_feed Settings.standard not_misplaced_sharing
    (.replay repeatingTrace .null) ⟨none, rfl⟩)
  have hrecords : RecordsWrites Settings.standard sharing repeatingTrace s tally := replay_recordsWrites hs
  obtain ⟨-, -, hwrites, hmalformed⟩ := tally_of_replay hs
  have hsix : tally.writes = 6 := hwrites.trans (by decide +kernel)
  have hone : tally.malformed = 1 := hmalformed.trans (by rw [Replay.isMalformed_eq]; decide +kernel)
  have htwo : tally.repetitions = 2 := by
    have hsum := hrecords.writes_eq
    rw [hsix, hone, recorded_repeatingTrace, List.length_cons, List.length_cons, List.length_singleton]
      at hsum
    omega
  exact ⟨s, hs, hrecords, recorded_repeatingTrace, hsix, hone, htwo⟩

end History

end EvmScope
