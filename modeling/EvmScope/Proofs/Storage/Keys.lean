import EvmScope.Proofs.Storage.History

set_option autoImplicit false

/-! # The keys of the current state

The order of the keys of a state is decided by the writes alone, and not by which changes they leave:
first come the variables, which have their first values, and then the slots without variables, each where
it was first given a word other than zero. A repetition, or a variable that is listed though its bytes
did not change, brings no key, as it has one already. `StorageWrite.visit` is this rule for one write and
`History.Tracks` the invariant of a history. -/

namespace EvmScope

/-- The keys after a write: a slot without variables gets one with its first word other than zero. -/
def StorageWrite.visit (declared : List StorageVariable) (keys : List String) (w : StorageWrite) :
    List String :=
  if (∃ v ∈ declared, v.slot = w.slot) ∨ w.value = 0 ∨ StateChange.slotKey w.slotText ∈ keys then keys
  else keys ++ [StateChange.slotKey w.slotText]

/-! ## Changes -/

namespace Projection

theorem keys_apply (snapshot : Nat) (state : Projection) (c : StateChange) :
    Table.keys (apply snapshot state c)
      = if c.key ∈ Table.keys state then Table.keys state else Table.keys state ++ [c.key] :=
  Table.keys_put state c.key _

theorem keys_foldl_apply_of_mem (snapshot : Nat) (changes : List StateChange) (state : Projection)
    (hmem : ∀ c ∈ changes, c.key ∈ Table.keys state) :
    Table.keys (changes.foldl (apply snapshot) state) = Table.keys state := by
  induction changes generalizing state with
  | nil => rfl
  | cons c rest ih =>
    have hkept : Table.keys (apply snapshot state c) = Table.keys state := by
      rw [keys_apply, if_pos (hmem c List.mem_cons_self)]
    have hrest : ∀ other ∈ rest, other.key ∈ Table.keys (apply snapshot state c) := by
      intro other hother
      rw [hkept]
      exact hmem other (List.mem_cons_of_mem c hother)
    rw [List.foldl_cons, ih _ hrest, hkept]

/-- Changes of different keys that are all new bring these keys in their order. -/
theorem keys_foldl_apply_of_nodup (snapshot : Nat) (changes : List StateChange) (state : Projection)
    (hnodup : (Table.keys state ++ changes.map StateChange.key).Nodup) :
    Table.keys (changes.foldl (apply snapshot) state)
      = Table.keys state ++ changes.map StateChange.key := by
  induction changes generalizing state with
  | nil => simp
  | cons c rest ih =>
    have hnew : c.key ∉ Table.keys state := by
      intro hmem
      exact (List.nodup_append.1 hnodup).2.2 _ hmem _ (by simp) rfl
    have hput : Table.keys (apply snapshot state c) = Table.keys state ++ [c.key] := by
      rw [keys_apply, if_neg hnew]
    rw [List.foldl_cons, ih _ (by simpa [hput] using hnodup), hput]
    simp

end Projection

/-! ## One write -/

section Write

variable {declared : List StorageVariable} {store : Int → Int} {state : Projection}

/-- A state that shows a store has every variable among its keys. -/
theorem Shows.label_mem_keys (hshows : Shows declared store state) {v : StorageVariable}
    (hv : v ∈ declared) : v.label ∈ Table.keys state := by
  obtain ⟨entry, hlookup, -⟩ := hshows.of_variable v hv
  exact (Table.mem_keys_iff_exists_lookup _ _).2 ⟨entry, hlookup⟩

/-- A state that shows a store has the key of every slot without variables whose word is not zero. -/
theorem Shows.slotKey_mem_keys (hshows : Shows declared store state) {slot : Int}
    (hbare : ∀ v ∈ declared, v.slot ≠ slot) (hword : store slot ≠ 0) :
    StateChange.slotKey (Numeral.hex slot) ∈ Table.keys state := by
  rcases hshows.of_slot slot hbare with ⟨entry, hlookup, -⟩ | ⟨-, hzero⟩
  · exact (Table.mem_keys_iff_exists_lookup _ _).2 ⟨entry, hlookup⟩
  · exact absurd hzero hword

/-- A write of the word that is held brings no key. -/
theorem Shows.visit_of_held (hshows : Shows declared store state) {w : StorageWrite}
    (hheld : store w.slot = w.value) : w.visit declared (Table.keys state) = Table.keys state := by
  unfold StorageWrite.visit
  by_cases hdeclared : ∃ v ∈ declared, v.slot = w.slot
  · rw [if_pos (Or.inl hdeclared)]
  · by_cases hzero : w.value = 0
    · rw [if_pos (Or.inr (Or.inl hzero))]
    · have hbare : ∀ v ∈ declared, v.slot ≠ w.slot := fun v hv hslot => hdeclared ⟨v, hv, hslot⟩
      have hword : store w.slot ≠ 0 := by rwa [hheld]
      have hmem : StateChange.slotKey w.slotText ∈ Table.keys state :=
        hshows.slotKey_mem_keys hbare hword
      rw [if_pos (Or.inr (Or.inr hmem))]

/-- **The changes of a write** bring the key of the write, if it is a new one. A first write of zero to
    a slot that holds zero makes no changes and is left out here. -/
theorem Shows.keys_write (hshows : Shows declared store state) (hproper : Layout.Proper declared)
    (w : StorageWrite) (hash : Option String) (snapshot : Nat) {changes : List StateChange}
    (hchanges : w.changes (Layout.variablesAt declared w.slotText) (.ok hash) (store w.slot)
      = .ok changes)
    (hword : w.value ≠ 0 ∨ store w.slot ≠ 0) :
    Table.keys (changes.foldl (Projection.apply snapshot) state)
      = w.visit declared (Table.keys state) := by
  unfold StorageWrite.visit
  by_cases hnone : Layout.variablesAt declared w.slotText = []
  · have hbare : ∀ v ∈ declared, v.slot ≠ w.slot := by
      intro v hv hslot
      have hmem := (Layout.mem_variablesAt_hex declared w.slot v).2 ⟨hv, hslot⟩
      rw [← StorageWrite.slotText, hnone] at hmem
      exact List.not_mem_nil hmem
    have hnot : ¬ ∃ v ∈ declared, v.slot = w.slot := by
      rintro ⟨v, hv, hslot⟩
      exact hbare v hv hslot
    rw [hnone] at hchanges
    cases hchanges
    rw [List.foldl_cons, List.foldl_nil, Projection.keys_apply]
    by_cases hmem : StateChange.slotKey w.slotText ∈ Table.keys state
    · rw [if_pos (Or.inr (Or.inr hmem))]
      exact if_pos hmem
    · -- a slot without a key holds zero, so the word is not zero
      have hzero : w.value ≠ 0 := by
        rcases hword with hvalue | hstore
        · exact hvalue
        · exact absurd (hshows.slotKey_mem_keys hbare hstore) hmem
      have hnew : ¬ ((∃ v ∈ declared, v.slot = w.slot) ∨ w.value = 0
          ∨ StateChange.slotKey w.slotText ∈ Table.keys state) := by
        rintro (h | h | h)
        · exact hnot h
        · exact hzero h
        · exact hmem h
      rw [if_neg hnew]
      exact if_neg hmem
  · obtain ⟨touched, htouches, hmade⟩ :=
      StorageWrite.changes_ok hproper w hash (store w.slot) hnone
    obtain ⟨v, hv⟩ := List.exists_mem_of_ne_nil _ hnone
    rw [if_pos (Or.inl ⟨v, (Layout.mem_variablesAt_hex declared w.slot v).1 hv⟩)]
    rw [hmade] at hchanges
    cases hchanges
    refine Projection.keys_foldl_apply_of_mem snapshot _ state ?_
    intro c hc
    obtain ⟨v, hv, rfl⟩ := List.mem_map.1 hc
    rw [htouches.key_changeOf hproper hash v hv]
    exact hshows.label_mem_keys (htouches.here hv).1

end Write

/-! ## The writes of a replay -/

namespace Replay

variable {declared : List StorageVariable} {snapshot : Nat} {before : Projection}

/-- What is no repetition has a word other than zero before or after it. -/
theorem word_ne_zero_of_not_repeats {r : Replay} {w : StorageWrite}
    (hrepeats : ¬ r.repeats w = true) : w.value ≠ 0 ∨ r.words.at w.slotText ≠ 0 := by
  by_contra hzero
  rw [not_or, not_not, not_not] at hzero
  apply hrepeats
  simp [repeats, hzero]

theorem Refines.keys_write {store : Int → Int} {r next : Replay}
    (hr : Refines declared snapshot before store r) (hproper : Layout.Proper declared)
    (hash : Option String) (w : StorageWrite) (hnext : r.write declared (.ok hash) w = .ok next) :
    Table.keys (next.stateAfter snapshot before)
      = w.visit declared (Table.keys (r.stateAfter snapshot before)) := by
  have hheld : r.words.at w.slotText = store w.slot := hr.words_hold w.slot
  unfold Replay.write at hnext
  by_cases hrepeats : r.repeats w = true
  · rw [if_pos hrepeats] at hnext
    cases hnext
    exact (hr.changes_show.visit_of_held (hheld ▸ held_of_repeats hrepeats)).symm
  · rw [if_neg hrepeats] at hnext
    have hword := word_ne_zero_of_not_repeats hrepeats
    dsimp only at hnext
    rw [hheld] at hnext hword
    cases hchanges : w.changes (Layout.variablesAt declared w.slotText) (.ok hash)
        (store w.slot) with
    | error fault =>
      rw [hchanges] at hnext
      cases hnext
    | ok changes =>
      rw [hchanges] at hnext
      cases hnext
      rw [stateAfter, List.reverse_append, List.reverse_reverse, List.foldl_append]
      exact hr.changes_show.keys_write hproper w hash snapshot hchanges hword

/-- **A replay** refines the store with its writes, which bring their keys in order. -/
theorem run_refines_keys {writes : List StorageWrite} {words : Words} {labels : List String}
    (hholds : words.Holds (lastWord writes)) (hshows : Shows declared (lastWord writes) before)
    (hkeys : Table.keys before = writes.foldl (StorageWrite.visit declared) labels)
    (hproper : Layout.Proper declared) (hash : Option String) (slotOnTop : Bool) (snapshot : Nat)
    (entries : List TraceEntry) :
    ∃ r, run declared (.ok hash) slotOnTop words entries = .ok r
      ∧ Refines declared snapshot before
        (lastWord (writes ++ entries.filterMap (StorageWrite.recognised? slotOnTop))) r
      ∧ Table.keys (r.stateAfter snapshot before)
        = (writes ++ entries.filterMap (StorageWrite.recognised? slotOnTop)).foldl
          (StorageWrite.visit declared) labels := by
  have hstep : Preserves declared (.ok hash) (fun writes r =>
      Refines declared snapshot before (lastWord writes) r
      ∧ Table.keys (r.stateAfter snapshot before)
        = writes.foldl (StorageWrite.visit declared) labels) := by
    refine ⟨fun hr hsame => ⟨hr.1.of_counts hsame, ?_⟩, fun {writes} r w hr => ?_⟩
    · rw [stateAfter, hsame.changes_eq]
      exact hr.2
    · obtain ⟨next, hnext, hrefines⟩ := hr.1.write hproper hash w
      refine ⟨next, hnext, ?_, ?_⟩
      · rw [lastWord_append_singleton]
        exact hrefines
      · rw [hr.1.keys_write hproper hash w hnext, hr.2, List.foldl_append]
        rfl
  exact hstep.entries slotOnTop entries ⟨⟨hholds, hshows⟩, hkeys⟩

end Replay

/-! ## Histories -/

namespace History

/-- A history tracks some writes over a layout: it refines their store, and its keys are those of the
    variables and then those that the writes brought. -/
structure Tracks (declared : List StorageVariable) (writes : List StorageWrite) (h : History) :
    Prop where
  layout_eq : h.layout = declared
  refines : h.Refines writes
  keys_eq : Table.keys (h.currentState none)
    = writes.foldl (StorageWrite.visit declared) (declared.map StorageVariable.label)

variable {declared : List StorageVariable}

/-- The first values bring the variables in the order of the layout. -/
theorem keys_firstChanges (hproper : Layout.Proper declared) (snapshot : Nat) :
    Table.keys ((declared.map firstChange).foldl (Projection.apply snapshot) [])
      = declared.map StorageVariable.label := by
  have hkeys : (declared.map firstChange).map StateChange.key
      = declared.map StorageVariable.label := by
    rw [List.map_map]
    refine List.map_congr_left (fun v hv => ?_)
    exact StateChange.key_of_label _ v.label rfl (hproper.label_ne_empty v hv)
  have hnodup : (Table.keys ([] : Projection)
      ++ (declared.map firstChange).map StateChange.key).Nodup := by
    rw [hkeys]
    exact hproper.labels_nodup
  rw [Projection.keys_foldl_apply_of_nodup snapshot _ [] hnodup, hkeys]
  rfl

/-- A fresh history with a layout and its first values has seen no writes. -/
theorem tracks_deploy {layout name abi : Json} (hproper : Layout.Proper declared)
    (hloaded : (empty.loadLayout layout name abi).result = .ok declared) :
    Tracks declared [] (empty.loadLayout layout name abi).state.deploy.state := by
  obtain ⟨hlayout, hsnapshots, hwords⟩ := loadLayout_ok hloaded
  have hproper' : Layout.Proper (empty.loadLayout layout name abi).state.layout := hlayout ▸ hproper
  obtain ⟨hkept, hrefines⟩ := refines_deploy hproper' hsnapshots hwords
  refine ⟨hkept.trans hlayout, hrefines, ?_⟩
  have hfresh : (empty.loadLayout layout name abi).state.currentState none = [] := by
    rw [currentState, hsnapshots]
    rfl
  rw [List.foldl_nil, ← hlayout]
  unfold deploy
  by_cases hnone : (empty.loadLayout layout name abi).state.layout.isEmpty = true
  · rw [if_pos hnone, Transition.stay, hfresh, List.isEmpty_iff.1 hnone]
    rfl
  · rw [if_neg hnone]
    dsimp only
    rw [currentState_append, hfresh]
    exact keys_firstChanges hproper' _

/-- **One trace** is replayed, and the history then tracks its writes too. -/
theorem Tracks.replay {writes : List StorageWrite} {h : History} (hh : Tracks declared writes h)
    (hproper : Layout.Proper declared) (settings : Settings) (document : Json)
    (given : Option String) :
    ∃ next, h.replayAll settings [(document, given)] = .ok next
      ∧ Tracks declared (writes ++ recognised settings document) next := by
  obtain ⟨hash, hhash⟩ := exists_hashOf given
    (ParsedTrace.ofJson (some settings.traceLimit) document)
  have hshows := hh.refines.state_shows
  rw [hh.layout_eq] at hshows
  obtain ⟨r, hrun, hrefines, hkeys⟩ := Replay.run_refines_keys hh.refines.words_hold hshows hh.keys_eq
    hproper hash settings.slotOnTop h.snapshots.length
    (ParsedTrace.ofJson (some settings.traceLimit) document).entries
  rw [← hh.layout_eq] at hrun
  obtain ⟨next, s, hnext, hleaves⟩ := replayAll_of_run hhash hrun
  have hlayout : next.layout = declared := hleaves.layout_eq.trans hh.layout_eq
  refine ⟨next, hnext, hlayout, ⟨?_, ?_⟩, ?_⟩
  · rw [hleaves.words_eq]
    exact hrefines.words_hold
  · rw [hlayout, hleaves.currentState_eq]
    exact hrefines.changes_show
  · rw [hleaves.currentState_eq]
    exact hkeys

/-- **A run of traces** succeeds, and the history then tracks all their writes. -/
theorem Tracks.replayAll {writes : List StorageWrite} {h : History} (hh : Tracks declared writes h)
    (hproper : Layout.Proper declared) (settings : Settings)
    (traces : List (Json × Option String)) :
    ∃ last, h.replayAll settings traces = .ok last
      ∧ Tracks declared (writes ++ traces.flatMap (fun trace => recognised settings trace.1))
        last := by
  induction traces generalizing writes h with
  | nil =>
    rw [List.flatMap_nil, List.append_nil]
    exact ⟨h, rfl, hh⟩
  | cons trace rest ih =>
    obtain ⟨next, hnext, htracks⟩ := hh.replay hproper settings trace.1 trace.2
    obtain ⟨last, hlast, hdone⟩ := ih htracks
    refine ⟨last, ?_, ?_⟩
    · rw [replayAll_cons hnext]
      exact hlast
    · rwa [List.append_assoc] at hdone

end History

end EvmScope
