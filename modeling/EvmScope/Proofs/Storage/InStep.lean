import EvmScope.Proofs.Storage.Replay

set_option autoImplicit false

/-! # Traces and the words that are held

A trace is replayed over the words that the history holds, which need not be those that the current
state shows. Where they are, the variable is in step, and it stays so: its entry becomes its part of
every word written. A variable that is not in step is brought back by the first change that names it.
A write to a shared slot names a variable only if it changes bytes of the variable in the word that is
held, or none at all. -/

namespace EvmScope

/-- The last one of some writes to a slot. -/
def StorageWrite.last? (writes : List StorageWrite) (slot : Int) : Option StorageWrite :=
  (writes.filter (fun w => w.slot = slot)).getLast?

theorem StorageWrite.last?_append_self (writes : List StorageWrite) (w : StorageWrite) :
    last? (writes ++ [w]) w.slot = some w := by
  simp [last?, List.filter_append]

theorem StorageWrite.last?_append_of_ne (writes : List StorageWrite) (w : StorageWrite) (slot : Int)
    (hslot : slot ≠ w.slot) : last? (writes ++ [w]) slot = last? writes slot := by
  have hne : ¬ w.slot = slot := fun h => hslot h.symm
  simp [last?, List.filter_append, hne]

/-! ## Variables in step -/

namespace StorageVariable

/-- A variable is in step with the words held if the state shows at it what it shows of the word of its
    slot. -/
def InStep (declared : List StorageVariable) (words : Words) (state : Projection)
    (v : StorageVariable) : Prop :=
  state.number? v.label = some (Layout.shown declared v (words.at v.slotText))

theorem InStep.of_unchanged {declared : List StorageVariable} {words words' : Words}
    {state state' : Projection} {v : StorageVariable} (hstep : v.InStep declared words state)
    (hnumber : state'.number? v.label = state.number? v.label)
    (hshown : Layout.shown declared v (words'.at v.slotText)
      = Layout.shown declared v (words.at v.slotText)) : v.InStep declared words' state' := by
  unfold InStep at hstep ⊢
  rw [hnumber, hshown]
  exact hstep

end StorageVariable

/-! ## Traces -/

/-- What a write does to a variable: it is given its part of the word, or no change names it, and then
    its part was the same before. -/
theorem StorageWrite.changes_at {declared : List StorageVariable} (hproper : Layout.Proper declared)
    (w : StorageWrite) (hash : Option String) (old : Int) (snapshot : Nat) :
    ∃ changes, w.changes (Layout.variablesAt declared w.slotText) (.ok hash) old = .ok changes
      ∧ ∀ v ∈ declared,
        (v.slot = w.slot ∧ ∀ state : Projection,
          (changes.foldl (Projection.apply snapshot) state).number? v.label
            = some (Layout.shown declared v w.value))
        ∨ ((∀ c ∈ changes, c.key ≠ v.label) ∧ (v.slot = w.slot →
          Layout.shown declared v w.value = Layout.shown declared v old)) := by
  by_cases hnone : Layout.variablesAt declared w.slotText = []
  · rw [hnone]
    refine ⟨_, rfl, fun v hv => Or.inr ⟨?_, fun hslot => ?_⟩⟩
    · intro c hc
      rw [List.mem_singleton.1 hc]
      exact (hproper.label_ne_slotKey hv w.slotText).symm
    · have hmem := (Layout.mem_variablesAt_hex declared w.slot v).2 ⟨hv, hslot⟩
      rw [← StorageWrite.slotText, hnone] at hmem
      exact absurd hmem List.not_mem_nil
  · obtain ⟨touched, htouches, hchanges⟩ := changes_ok hproper w hash old hnone
    have hkey := htouches.key_changeOf hproper hash
    refine ⟨_, hchanges, fun v hv => ?_⟩
    by_cases hin : v ∈ touched
    · refine Or.inl ⟨(htouches.here hin).2, fun state => ?_⟩
      rw [Projection.number?, Projection.lookup_foldl_labelled_of_mem hkey
        (htouches.labels_nodup hproper) v hin snapshot state, Option.bind_some]
      exact Numeral.read?_hex _
    · refine Or.inr ⟨fun c hc => ?_, fun hslot => htouches.shown_eq v hv hslot hin⟩
      obtain ⟨other, hother, rfl⟩ := List.mem_map.1 hc
      rw [hkey other hother]
      exact htouches.label_ne hproper hv hin other hother

namespace Replay

/-- A replay holds the last words written, and every variable is in step or is one that was `behind`
    before it and that no change names. -/
structure Catches (declared : List StorageVariable) (snapshot : Nat) (before : Projection)
    (behind : StorageVariable → Prop) (writes : List StorageWrite) (r : Replay) : Prop where
  words_last : ∀ slot w, StorageWrite.last? writes slot = some w →
    r.words.at (Numeral.hex slot) = w.value
  settled : ∀ v ∈ declared, v.InStep declared r.words (r.stateAfter snapshot before)
    ∨ (behind v ∧ ∀ c ∈ r.changes, c.key ≠ v.label)

variable {declared : List StorageVariable} {snapshot : Nat} {before : Projection}
  {behind : StorageVariable → Prop} {writes : List StorageWrite}

theorem Catches.words_last_append {r : Replay} (hr : Catches declared snapshot before behind writes r)
    (w : StorageWrite) {words : Words}
    (hwords : ∀ slot, words.at (Numeral.hex slot)
      = w.update (fun slot => r.words.at (Numeral.hex slot)) slot) :
    ∀ slot last, StorageWrite.last? (writes ++ [w]) slot = some last →
      words.at (Numeral.hex slot) = last.value := by
  intro slot last hlast
  rw [hwords, StorageWrite.update]
  by_cases hslot : slot = w.slot
  · subst hslot
    rw [StorageWrite.last?_append_self] at hlast
    cases hlast
    exact if_pos rfl
  · rw [StorageWrite.last?_append_of_ne _ _ _ hslot] at hlast
    rw [if_neg hslot]
    exact hr.words_last slot last hlast

theorem Catches.write {r : Replay} (hr : Catches declared snapshot before behind writes r)
    (hproper : Layout.Proper declared) (hash : Option String) (w : StorageWrite) :
    ∃ next, r.write declared (.ok hash) w = .ok next
      ∧ Catches declared snapshot before behind (writes ++ [w]) next := by
  have hholds : r.words.Holds (fun slot => r.words.at (Numeral.hex slot)) := fun _ => rfl
  unfold Replay.write
  by_cases hrepeats : r.repeats w = true
  · rw [if_pos hrepeats]
    refine ⟨_, rfl, hr.words_last_append w ?_, hr.settled⟩
    rw [update_of_repeats hholds hrepeats]
    exact hholds
  · rw [if_neg hrepeats]
    obtain ⟨changes, hchanges, hat⟩ :=
      StorageWrite.changes_at hproper w hash (r.words.at w.slotText) snapshot
    have hwords := hholds.insert w
    dsimp only
    rw [hchanges]
    refine ⟨_, rfl, hr.words_last_append w hwords, fun v hv => ?_⟩
    have hword := hwords v.slot
    rw [StorageWrite.update] at hword
    rcases hat v hv with ⟨hslot, hnumber⟩ | ⟨hkeys, hpart⟩
    · -- a change names the variable and gives it its part of the word
      rw [if_pos hslot] at hword
      left
      unfold StorageVariable.InStep stateAfter
      dsimp only
      rw [StorageVariable.slotText, hword, List.reverse_append, List.reverse_reverse,
        List.foldl_append]
      exact hnumber _
    · -- no change names it, and what it shows of its word is what it showed
      rcases hr.settled v hv with hstep | ⟨hbehind, hnamed⟩
      · refine Or.inl (hstep.of_unchanged ?_ ?_)
        · rw [stateAfter, List.reverse_append, List.reverse_reverse, List.foldl_append]
          exact Projection.number?_foldl_apply_of_ne snapshot changes _ _ hkeys
        · rw [StorageVariable.slotText, hword]
          by_cases hslot : v.slot = w.slot
          · rw [if_pos hslot, hpart hslot, StorageWrite.slotText, hslot]
          · rw [if_neg hslot]
      · refine Or.inr ⟨hbehind, fun c hc => ?_⟩
        rcases List.mem_append.1 hc with hc | hc
        · exact hkeys c (List.mem_reverse.1 hc)
        · exact hnamed c hc

/-- **A replay** keeps variables in step and gives the others no change or their part of a word. -/
theorem run_catches (hproper : Layout.Proper declared) (hash : Option String) (slotOnTop : Bool)
    (snapshot : Nat) {words : Words} (entries : List TraceEntry)
    (hsettled : ∀ v ∈ declared, v.InStep declared words before ∨ behind v) :
    ∃ r, run declared (.ok hash) slotOnTop words entries = .ok r
      ∧ Catches declared snapshot before behind
        (entries.filterMap (StorageWrite.recognised? slotOnTop)) r := by
  have hstep : Preserves declared (.ok hash) (Catches declared snapshot before behind) := by
    refine ⟨fun {writes r r'} hr hsame => ?_, fun r w hr => hr.write hproper hash w⟩
    obtain ⟨hwords, -, hchanges⟩ := hsame
    refine ⟨?_, ?_⟩
    · rw [hwords]
      exact hr.words_last
    · rw [stateAfter, hwords, hchanges]
      exact hr.settled
  have hbegin : Catches declared snapshot before behind [] (begin words) := by
    refine ⟨fun slot w hlast => ?_, fun v hv => ?_⟩
    · cases hlast
    · rcases hsettled v hv with hv | hv
      · exact Or.inl hv
      · exact Or.inr ⟨hv, fun c hc => absurd hc List.not_mem_nil⟩
  exact hstep.entries slotOnTop entries hbegin

end Replay

end EvmScope
