import EvmScope.Proofs.Storage.Recognition
import EvmScope.Proofs.Storage.Write

set_option autoImplicit false

/-! # A replay writes to a store

What an entry and a write do to a replay is said once (`Replay.entry_eq`, `Replay.write_ok`). An invariant that
every write keeps is kept by all entries of a trace, whichever of them are recognised as writes
(`Replay.Preserves`).

A replay keeps its words in a hash table, passes repetitions over, and lists changes. None of this
shows: `Replay.Refines` says that the table holds a plain store of words and that the changes so far,
applied to the state before the replay, show it, and every entry keeps this for the store of the writes
up to there. A repetition is no exception, as it writes what the store holds already. -/

namespace EvmScope

/-! ## Stores of words -/

/-- The word of a slot after some writes: the value of the last one to it, or zero. -/
def lastWord (writes : List StorageWrite) (slot : Int) : Int :=
  ((writes.filter (fun w => w.slot = slot)).getLast?.map (·.value)).getD 0

theorem lastWord_append_singleton (writes : List StorageWrite) (w : StorageWrite) :
    lastWord (writes ++ [w]) = w.update (lastWord writes) := by
  funext slot
  rw [lastWord, StorageWrite.update, List.filter_append]
  by_cases hslot : slot = w.slot
  · simp [hslot]
  · have hne : ¬ w.slot = slot := fun h => hslot h.symm
    simp [hslot, hne, lastWord]

/-- A table of words holds a store. -/
def Words.Holds (words : Words) (store : Int → Int) : Prop :=
  ∀ slot, words.at (Numeral.hex slot) = store slot

theorem Words.Holds.insert {words : Words} {store : Int → Int} (hholds : words.Holds store)
    (w : StorageWrite) : Words.Holds (words.insert w.slotText w.value) (w.update store) := by
  intro slot
  rw [Words.at, Std.HashMap.getD_insert, StorageWrite.update, StorageWrite.slotText]
  by_cases hslot : slot = w.slot
  · subst hslot
    simp
  · have hne : (Numeral.hex w.slot == Numeral.hex slot) = false := by
      rw [beq_eq_false_iff_ne]
      intro hhex
      exact hslot (Numeral.hex_injective _ _ hhex).symm
    rw [hne, if_neg Bool.false_ne_true, if_neg hslot]
    exact hholds slot

/-! ## What all writes keep -/

namespace Replay

/-- Replays that differ in their counts only. -/
structure SameButCounts (r r' : Replay) : Prop where
  words_eq : r'.words = r.words
  written_eq : r'.written = r.written
  changes_eq : r'.changes = r.changes

/-- A replay behind an entry that is not recognised as a write; a storage write is counted all the same. -/
def passed (r : Replay) (e : TraceEntry) : Replay :=
  if e.op = "SSTORE" then { r with writes := r.writes + 1, malformed := r.malformed + 1 } else r

theorem sameButCounts_passed (r : Replay) (e : TraceEntry) : SameButCounts r (r.passed e) := by
  unfold passed
  split
  · exact ⟨rfl, rfl, rfl⟩
  · exact ⟨rfl, rfl, rfl⟩

/-- **One entry** is passed, or it is counted and its write is replayed. -/
theorem entry_eq (declared : List StorageVariable) (hash : Except Fault (Option String))
    (slotOnTop : Bool) (r : Replay) (e : TraceEntry) :
    r.entry declared hash slotOnTop e
      = match StorageWrite.recognised? slotOnTop e with
        | none => .ok (r.passed e)
        | some w => Replay.write declared hash { r with writes := r.writes + 1 } w := by
  rw [StorageWrite.recognised?_eq]
  unfold Replay.entry StorageWrite.ofEntry? passed
  by_cases hop : e.op = "SSTORE"
  · cases StorageWrite.ofStep? slotOnTop e with
    | none => simp [hop]
    | some w => simp [hop]
  · rw [if_pos (bne_iff_ne.2 hop), if_neg hop, if_neg hop]

/-- **One write** that succeeds is a repetition, which is counted, or it makes its changes over the word that
    is held. -/
theorem write_ok {declared : List StorageVariable} {hash : Except Fault (Option String)}
    {r next : Replay} {w : StorageWrite} (hok : r.write declared hash w = .ok next) :
    (r.repeats w = true ∧ next = { r with repetitions := r.repetitions + 1 })
      ∨ (r.repeats w = false ∧ ∃ made,
        w.changes (Layout.variablesAt declared w.slotText) hash (r.words.at w.slotText) = .ok made
          ∧ next = { r with
              words := r.words.insert w.slotText w.value
              written := r.written.insert w.slotText ()
              changes := made.reverse ++ r.changes }) := by
  unfold Replay.write at hok
  by_cases hrepeats : r.repeats w = true
  · rw [if_pos hrepeats] at hok
    exact .inl ⟨hrepeats, (Except.ok.inj hok).symm⟩
  · rw [if_neg hrepeats] at hok
    obtain ⟨made, hmade, hnext⟩ := map_eq_ok_iff.1 hok
    exact .inr ⟨Bool.eq_false_iff.2 hrepeats, made, hmade, hnext.symm⟩

/-- Every write succeeds and keeps an invariant of the writes so far and the replay, which does not look
    at counts. -/
structure Preserves (declared : List StorageVariable) (hash : Except Fault (Option String))
    (Inv : List StorageWrite → Replay → Prop) : Prop where
  of_counts : ∀ {writes : List StorageWrite} {r r' : Replay}, Inv writes r → SameButCounts r r' →
    Inv writes r'
  write : ∀ {writes : List StorageWrite} (r : Replay) (w : StorageWrite), Inv writes r →
    ∃ next, r.write declared hash w = .ok next ∧ Inv (writes ++ [w]) next

section Preserves

variable {declared : List StorageVariable} {hash : Except Fault (Option String)}
  {Inv : List StorageWrite → Replay → Prop}

theorem Preserves.entry (hinv : Preserves declared hash Inv) (slotOnTop : Bool) (e : TraceEntry)
    {writes : List StorageWrite} {r : Replay} (hr : Inv writes r) :
    ∃ next, r.entry declared hash slotOnTop e = .ok next
      ∧ Inv (writes ++ (StorageWrite.recognised? slotOnTop e).toList) next := by
  rw [entry_eq]
  cases StorageWrite.recognised? slotOnTop e with
  | none =>
    rw [Option.toList_none, List.append_nil]
    exact ⟨_, rfl, hinv.of_counts hr (r.sameButCounts_passed e)⟩
  | some w => exact hinv.write _ w (hinv.of_counts hr ⟨rfl, rfl, rfl⟩)

/-- **What every write keeps**, a list of entries keeps, with its recognised writes. -/
theorem Preserves.entries (hinv : Preserves declared hash Inv) (slotOnTop : Bool)
    (entries : List TraceEntry) {writes : List StorageWrite} {r : Replay} (hr : Inv writes r) :
    ∃ last, entries.foldlM (Replay.entry declared hash slotOnTop) r = .ok last
      ∧ Inv (writes ++ entries.filterMap (StorageWrite.recognised? slotOnTop)) last := by
  -- the writes before are arbitrary, as every entry may add one
  induction entries generalizing writes r with
  | nil =>
    rw [List.filterMap_nil, List.append_nil]
    exact ⟨r, rfl, hr⟩
  | cons e rest ih =>
    obtain ⟨next, hnext, hkept⟩ := hinv.entry slotOnTop e hr
    obtain ⟨last, hlast, hdone⟩ := ih hkept
    refine ⟨last, ?_, ?_⟩
    · rw [List.foldlM_cons, hnext]
      exact hlast
    · rw [List.filterMap_eq_flatMap_toList, List.flatMap_cons, ← List.filterMap_eq_flatMap_toList,
        ← List.append_assoc]
      exact hdone

end Preserves

end Replay

/-! ## Steps of a replay -/

namespace Replay

/-- The state that a replay leads to from the state before it. -/
def stateAfter (snapshot : Nat) (before : Projection) (r : Replay) : Projection :=
  r.changes.reverse.foldl (Projection.apply snapshot) before

/-- A replay refines a store: its words hold the store, and its changes lead from the state before the
    replay to one that shows it. -/
structure Refines (declared : List StorageVariable) (snapshot : Nat) (before : Projection)
    (store : Int → Int) (r : Replay) : Prop where
  words_hold : r.words.Holds store
  changes_show : Shows declared store (r.stateAfter snapshot before)

/-- A repetition writes the word that is held. -/
theorem held_of_repeats {r : Replay} {w : StorageWrite} (hrepeats : r.repeats w = true) :
    r.words.at w.slotText = w.value := by
  unfold repeats at hrepeats
  dsimp only at hrepeats
  -- either the word held is the written one, or both are zero
  split at hrepeats
  · exact beq_iff_eq.1 hrepeats
  · rw [Bool.and_eq_true, beq_iff_eq, beq_iff_eq] at hrepeats
    rw [hrepeats.1]
    exact hrepeats.2

/-- A repetition leaves the store as it is. -/
theorem update_of_repeats {r : Replay} {store : Int → Int} (hholds : r.words.Holds store)
    {w : StorageWrite} (hrepeats : r.repeats w = true) : w.update store = store := by
  have hvalue : store w.slot = w.value := by
    rw [← hholds w.slot]
    exact held_of_repeats hrepeats
  funext slot
  rw [StorageWrite.update]
  by_cases hslot : slot = w.slot
  · rw [if_pos hslot, hslot, hvalue]
  · rw [if_neg hslot]

variable {declared : List StorageVariable} {snapshot : Nat} {before : Projection}

/-- **A write of a replay** succeeds and refines the store with this write. -/
theorem Refines.write {store : Int → Int} {r : Replay}
    (hr : Refines declared snapshot before store r) (hproper : Layout.Proper declared)
    (hash : Option String) (w : StorageWrite) :
    ∃ r', r.write declared (.ok hash) w = .ok r'
      ∧ Refines declared snapshot before (w.update store) r' := by
  unfold Replay.write
  by_cases hrepeats : r.repeats w = true
  · rw [if_pos hrepeats, update_of_repeats hr.words_hold hrepeats]
    exact ⟨_, rfl, hr.words_hold, hr.changes_show⟩
  · rw [if_neg hrepeats]
    -- the words held give the old value that the changes are made from
    obtain ⟨changes, hchanges, hshows⟩ := hr.changes_show.write hproper w hash snapshot
    have hheld : r.words.at w.slotText = store w.slot := hr.words_hold w.slot
    dsimp only
    rw [hheld, hchanges]
    refine ⟨_, rfl, hr.words_hold.insert w, ?_⟩
    rw [stateAfter, List.reverse_append, List.reverse_reverse, List.foldl_append]
    exact hshows

theorem Refines.of_counts {store : Int → Int} {r r' : Replay}
    (hr : Refines declared snapshot before store r) (hsame : SameButCounts r r') :
    Refines declared snapshot before store r' := by
  obtain ⟨hwords, -, hchanges⟩ := hsame
  refine ⟨?_, ?_⟩
  · rw [hwords]
    exact hr.words_hold
  · rw [stateAfter, hchanges]
    exact hr.changes_show

/-- A list of entries writes its recognised writes in their order. -/
theorem Refines.entries {writes : List StorageWrite} {r : Replay}
    (hr : Refines declared snapshot before (lastWord writes) r) (hproper : Layout.Proper declared)
    (hash : Option String) (slotOnTop : Bool) (entries : List TraceEntry) :
    ∃ r', entries.foldlM (Replay.entry declared (.ok hash) slotOnTop) r = .ok r'
      ∧ Refines declared snapshot before
        (lastWord (writes ++ entries.filterMap (StorageWrite.recognised? slotOnTop))) r' := by
  have hstep : Preserves declared (.ok hash)
      (fun writes r => Refines declared snapshot before (lastWord writes) r) := by
    refine ⟨fun hr hsame => hr.of_counts hsame, fun {writes} r w hr => ?_⟩
    rw [lastWord_append_singleton]
    exact hr.write hproper hash w
  exact hstep.entries slotOnTop entries hr

theorem run_singleton_eq {hash : Except Fault (Option String)} {slotOnTop : Bool} (words : Words)
    {e : TraceEntry} {w : StorageWrite} (hwrite : StorageWrite.ofEntry? slotOnTop e = some w) :
    run declared hash slotOnTop words [e] = Replay.write declared hash ⟨words, ∅, [], 1, 0, 0⟩ w := by
  rw [run, List.foldlM_cons, entry_eq, StorageWrite.recognised?_eq, hwrite]
  exact bind_pure _

/-- A trace of one write that is no repetition makes the changes of this write. -/
theorem run_singleton {hash : Except Fault (Option String)} {slotOnTop : Bool} {words : Words}
    {e : TraceEntry} {w : StorageWrite} {old : Int} {changes : List StateChange}
    (hwrite : StorageWrite.ofEntry? slotOnTop e = some w)
    (hheld : words.at w.slotText = old) (hword : w.value ≠ 0 ∨ old ≠ 0)
    (hchanges : w.changes (Layout.variablesAt declared w.slotText) hash old = .ok changes) :
    ∃ r, run declared hash slotOnTop words [e] = .ok r ∧ r.changes.reverse = changes := by
  have hrepeats : repeats ⟨words, ∅, [], 1, 0, 0⟩ w = false := by
    simp only [repeats, Std.HashMap.contains_empty, Bool.false_eq_true, if_false, hheld]
    rcases hword with hvalue | hold
    · rw [beq_false_of_ne hvalue, Bool.false_and]
    · rw [beq_false_of_ne hold, Bool.and_false]
  rw [run_singleton_eq words hwrite]
  simp only [Replay.write, hrepeats, Bool.false_eq_true, if_false, hheld, hchanges]
  refine ⟨_, rfl, ?_⟩
  simp

/-- **A replay** over words that hold a store succeeds and refines the store with all its writes. -/
theorem run_refines {writes : List StorageWrite} {words : Words}
    (hholds : words.Holds (lastWord writes)) (hshows : Shows declared (lastWord writes) before)
    (hproper : Layout.Proper declared) (hash : Option String) (slotOnTop : Bool) (snapshot : Nat)
    (entries : List TraceEntry) :
    ∃ r, run declared (.ok hash) slotOnTop words entries = .ok r
      ∧ Refines declared snapshot before
        (lastWord (writes ++ entries.filterMap (StorageWrite.recognised? slotOnTop))) r := by
  have hbegin : Refines declared snapshot before (lastWord writes) (begin words) :=
    ⟨hholds, hshows⟩
  exact hbegin.entries hproper hash slotOnTop entries

end Replay

end EvmScope
