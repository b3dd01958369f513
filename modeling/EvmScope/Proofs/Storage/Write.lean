import EvmScope.Proofs.Storage.Layout
import EvmScope.Proofs.Storage.Projection
import EvmScope.Proofs.Traversal

set_option autoImplicit false

/-! # One write, seen through the current state

`Shows` relates a plain store of words to the current state: a variable has an entry of the value it
shows of its word, and a bare slot has an entry of its word or none if the word is zero. A write keeps
this relation: the variables that it leaves out show the same before and after, as they have the same
bytes in both words, and a key of its own is given to everything that it touches. -/

namespace EvmScope

/-- The store after a write. -/
def StorageWrite.update (w : StorageWrite) (store : Int → Int) (slot : Int) : Int :=
  if slot = w.slot then w.value else store slot

/-- A state shows a store of words through the variables of a layout. -/
structure Shows (declared : List StorageVariable) (store : Int → Int) (state : Projection) :
    Prop where
  /-- The entry of a variable has the value that it shows of its word. -/
  of_variable : ∀ v ∈ declared, ∃ entry, state.lookup v.label = some entry
    ∧ Numeral.read? .hexadecimal entry.value
      = some (Layout.shown declared v (store v.slot))
  /-- A slot without a variable has an entry of its word, or none, and then the word is zero. -/
  of_slot : ∀ slot : Int, (∀ v ∈ declared, v.slot ≠ slot) →
    (∃ entry, state.lookup (StateChange.slotKey (Numeral.hex slot)) = some entry
      ∧ entry.value = Numeral.hex (store slot))
    ∨ (state.lookup (StateChange.slotKey (Numeral.hex slot)) = none ∧ store slot = 0)

theorem Shows.number?_eq {declared : List StorageVariable} {store : Int → Int} {state : Projection}
    (hshows : Shows declared store state) {v : StorageVariable} (hv : v ∈ declared) :
    state.number? v.label = some (Layout.shown declared v (store v.slot)) := by
  obtain ⟨entry, hlookup, hvalue⟩ := hshows.of_variable v hv
  rw [Projection.number?, hlookup]
  exact hvalue

/-! ## The changes of a write -/

namespace StorageWrite

/-- The change of a write to a variable, by what the variable shows. -/
def changeOf (w : StorageWrite) (declared : List StorageVariable) (hash : Option String) (old : Int)
    (v : StorageVariable) : StateChange :=
  w.change hash (Layout.shown declared v old) (Layout.shown declared v w.value) (some v.label)
    (Word.friendlyType v.typeLabel)

/-- The variables that show a difference between two words. -/
def differing (declared : List StorageVariable) (old new : Int) (here : List StorageVariable) :
    List StorageVariable :=
  here.filter (fun v => Layout.shown declared v old != Layout.shown declared v new)

/-- A write to a slot of several variables changes those that show a difference, or all of them. -/
theorem changes_of_shared {declared : List StorageVariable} (w : StorageWrite)
    (hash : Option String) (old : Int) (v u : StorageVariable) (rest : List StorageVariable)
    (hextract : ∀ member ∈ v :: u :: rest, ∀ word,
      member.extract word = .ok (Layout.shown declared member word)) :
    w.changes (v :: u :: rest) (.ok hash) old
      = .ok ((if (differing declared old w.value (v :: u :: rest)).isEmpty then v :: u :: rest
          else differing declared old w.value (v :: u :: rest)).map
            (w.changeOf declared hash old)) := by
  have hparts : parts (v :: u :: rest) old w.value = .ok ((v :: u :: rest).map (fun member =>
      (member, Layout.shown declared member old, Layout.shown declared member w.value))) := by
    refine mapM_eq_ok_map ?_
    intro member hmember
    rw [hextract member hmember, hextract member hmember]
    rfl
  simp only [changes, hparts, bind, Except.bind, pure, Except.pure, List.filter_map,
    List.isEmpty_map]
  -- one test decides on either side between the differing variables and all of them
  change Except.ok (List.map _
    (if (differing declared old w.value (v :: u :: rest)).isEmpty = true then _
      else (differing declared old w.value (v :: u :: rest)).map _)) = _
  by_cases hnone : (differing declared old w.value (v :: u :: rest)).isEmpty = true
  · rw [if_pos hnone, if_pos hnone, List.map_map]
    rfl
  · rw [if_neg hnone, if_neg hnone, List.map_map]
    rfl

/-- The variables that a write to a slot that held `old` names: some of those in the slot, each once,
    and those left out show the same before and after. -/
structure Touches (declared : List StorageVariable) (w : StorageWrite) (old : Int)
    (touched : List StorageVariable) : Prop where
  sublist : touched.Sublist (Layout.variablesAt declared w.slotText)
  shown_eq : ∀ v ∈ declared, v.slot = w.slot → v ∉ touched →
    Layout.shown declared v w.value = Layout.shown declared v old

section Touches

variable {declared touched : List StorageVariable} {w : StorageWrite} {old : Int}

theorem Touches.here (htouches : Touches declared w old touched) {v : StorageVariable}
    (hv : v ∈ touched) : v ∈ declared ∧ v.slot = w.slot :=
  (Layout.mem_variablesAt_hex declared w.slot v).1 (htouches.sublist.subset hv)

theorem Touches.labels_nodup (htouches : Touches declared w old touched)
    (hproper : Layout.Proper declared) : (touched.map StorageVariable.label).Nodup :=
  hproper.labels_nodup.sublist ((htouches.sublist.trans List.filter_sublist).map _)

theorem Touches.key_changeOf (htouches : Touches declared w old touched)
    (hproper : Layout.Proper declared) (hash : Option String) :
    ∀ v ∈ touched, (w.changeOf declared hash old v).key = v.label := by
  intro v hv
  exact StateChange.key_of_label _ v.label rfl (hproper.label_ne_empty v (htouches.here hv).1)

/-- A variable that is left out shares its label with none that is touched. -/
theorem Touches.label_ne (htouches : Touches declared w old touched)
    (hproper : Layout.Proper declared) {v : StorageVariable} (hv : v ∈ declared)
    (hout : v ∉ touched) : ∀ other ∈ touched, other.label ≠ v.label := by
  intro other hother hlabel
  exact hout (hproper.eq_of_label_eq (htouches.here hother).1 hv hlabel ▸ hother)

end Touches

theorem changes_ok {declared : List StorageVariable} (hproper : Layout.Proper declared)
    (w : StorageWrite) (hash : Option String) (old : Int)
    (hsome : Layout.variablesAt declared w.slotText ≠ []) :
    ∃ touched, Touches declared w old touched
      ∧ w.changes (Layout.variablesAt declared w.slotText) (.ok hash) old
        = .ok (touched.map (w.changeOf declared hash old)) := by
  have hmem : ∀ v ∈ declared, v.slot = w.slot → v ∈ Layout.variablesAt declared w.slotText :=
    fun v hv hslot => (Layout.mem_variablesAt_hex declared w.slot v).2 ⟨hv, hslot⟩
  cases hhere : Layout.variablesAt declared w.slotText with
  | nil => exact absurd hhere hsome
  | cons v others =>
    rw [hhere] at hmem
    cases others with
    | nil =>
      -- the variable has the slot to itself and shows the words as they are
      refine ⟨[v], ⟨?_, fun other hother hslot hout => absurd (hmem other hother hslot) hout⟩, ?_⟩
      · rw [hhere]
      · rw [List.map_singleton, changeOf, Layout.shown_of_alone hhere, Layout.shown_of_alone hhere]
        rfl
    | cons u rest =>
      have hextract : ∀ member ∈ v :: u :: rest, ∀ word,
          member.extract word = .ok (Layout.shown declared member word) := by
        intro member hmember word
        rw [← hhere] at hmember
        have hdeclared := (Layout.mem_variablesAt_hex declared w.slot member).1 hmember
        refine Layout.extract_eq_shown hmember ?_ (hproper.offset_nonneg member hdeclared.1) word
        rw [← slotText, hhere]
        simp
      have hchanges := changes_of_shared w hash old v u rest hextract
      by_cases hnone : (differing declared old w.value (v :: u :: rest)).isEmpty = true
      · rw [if_pos hnone] at hchanges
        refine ⟨v :: u :: rest, ⟨?_, ?_⟩, hchanges⟩
        · rw [hhere]
        · exact fun member hmember hslot hout => absurd (hmem member hmember hslot) hout
      · rw [if_neg hnone] at hchanges
        refine ⟨differing declared old w.value (v :: u :: rest), ⟨?_, ?_⟩, hchanges⟩
        · rw [hhere]
          exact List.filter_sublist
        · intro member hmember hslot hout
          rw [differing, List.mem_filter] at hout
          by_cases hsame : Layout.shown declared member old = Layout.shown declared member w.value
          · exact hsame.symm
          · exact absurd ⟨hmem member hmember hslot, by simpa using hsame⟩ hout

end StorageWrite

/-! ## The state after a write -/

/-- The label of a variable is not the key of a bare slot. -/
theorem Layout.Proper.label_ne_slotKey {declared : List StorageVariable}
    (hproper : Layout.Proper declared) {v : StorageVariable} (hv : v ∈ declared) (slot : String) :
    v.label ≠ StateChange.slotKey slot := by
  intro hlabel
  have hstart := hproper.label_not_slotKey v hv
  rw [hlabel, StateChange.beginsWith_slotKey] at hstart
  cases hstart

/-- A write to a slot without variables gives its word to the key of the slot. -/
theorem Shows.write_bare {declared : List StorageVariable} {store : Int → Int} {state : Projection}
    (hshows : Shows declared store state) (hproper : Layout.Proper declared) (w : StorageWrite)
    (hash : Option String) (old : Int) (typeName : String) (snapshot : Nat)
    (hbare : ∀ v ∈ declared, v.slot ≠ w.slot) :
    Shows declared (w.update store)
      ([w.change hash old w.value none typeName].foldl (Projection.apply snapshot) state) := by
  have hkey : (w.change hash old w.value none typeName).key
      = StateChange.slotKey (Numeral.hex w.slot) := rfl
  rw [List.foldl_cons, List.foldl_nil, Projection.apply, hkey]
  constructor
  · intro v hv
    rw [Table.lookup_put_of_ne _ _ _ _ (hproper.label_ne_slotKey hv _), StorageWrite.update,
      if_neg (hbare v hv)]
    exact hshows.of_variable v hv
  · intro slot hslot
    by_cases hsame : slot = w.slot
    · subst hsame
      rw [Table.lookup_put_self, StorageWrite.update, if_pos rfl]
      exact Or.inl ⟨_, rfl, rfl⟩
    · have hne : StateChange.slotKey (Numeral.hex slot)
          ≠ StateChange.slotKey (Numeral.hex w.slot) := by
        intro hkeys
        exact hsame (Numeral.hex_injective _ _ (StateChange.slotKey_injective _ _ hkeys))
      rw [Table.lookup_put_of_ne _ _ _ _ hne, StorageWrite.update, if_neg hsame]
      exact hshows.of_slot slot hslot

/-- A write to a slot with variables gives new entries to those that it touches, and the others show
    the same as before. -/
theorem Shows.write_declared {declared : List StorageVariable} {store : Int → Int}
    {state : Projection} (hshows : Shows declared store state) (hproper : Layout.Proper declared)
    (w : StorageWrite) (hash : Option String) (snapshot : Nat) (touched : List StorageVariable)
    (htouches : w.Touches declared (store w.slot) touched) (hsome : ∃ v ∈ declared, v.slot = w.slot) :
    Shows declared (w.update store)
      ((touched.map (w.changeOf declared hash (store w.slot))).foldl
        (Projection.apply snapshot) state) := by
  have hkey := htouches.key_changeOf hproper hash
  -- a key that no touched variable has keeps its entry
  have hkept := Projection.lookup_foldl_labelled_of_ne hkey
  constructor
  · intro v hv
    by_cases hin : v ∈ touched
    · have hlookup := Projection.lookup_foldl_labelled_of_mem hkey (htouches.labels_nodup hproper) v
        hin snapshot state
      refine ⟨_, hlookup, ?_⟩
      rw [StorageWrite.update, if_pos (htouches.here hin).2]
      exact Numeral.read?_hex _
    · rw [hkept v.label (htouches.label_ne hproper hv hin)]
      obtain ⟨entry, hlookup, hvalue⟩ := hshows.of_variable v hv
      refine ⟨entry, hlookup, ?_⟩
      rw [hvalue, StorageWrite.update]
      -- a variable of the slot that is left out shows the same in both words
      by_cases hslot : v.slot = w.slot
      · rw [if_pos hslot, hslot, htouches.shown_eq v hv hslot hin]
      · rw [if_neg hslot]
  · intro slot hslot
    have hne : slot ≠ w.slot := by
      rintro rfl
      obtain ⟨v, hv, heq⟩ := hsome
      exact hslot v hv heq
    rw [hkept _ (fun v hv => hproper.label_ne_slotKey (htouches.here hv).1 _), StorageWrite.update,
      if_neg hne]
    exact hshows.of_slot slot hslot

/-- **One write.** Over a state that shows a store, a write makes changes after which the state shows
    the store with this write. -/
theorem Shows.write {declared : List StorageVariable} {store : Int → Int} {state : Projection}
    (hshows : Shows declared store state) (hproper : Layout.Proper declared) (w : StorageWrite)
    (hash : Option String) (snapshot : Nat) :
    ∃ changes, w.changes (Layout.variablesAt declared w.slotText) (.ok hash) (store w.slot)
        = .ok changes
      ∧ Shows declared (w.update store) (changes.foldl (Projection.apply snapshot) state) := by
  by_cases hnone : Layout.variablesAt declared w.slotText = []
  · rw [hnone]
    refine ⟨_, rfl, hshows.write_bare hproper w hash _ _ snapshot ?_⟩
    intro v hv hslot
    have hmem : v ∈ Layout.variablesAt declared w.slotText :=
      (Layout.mem_variablesAt_hex declared w.slot v).2 ⟨hv, hslot⟩
    rw [hnone] at hmem
    exact List.not_mem_nil hmem
  · obtain ⟨touched, htouches, hchanges⟩ :=
      StorageWrite.changes_ok hproper w hash (store w.slot) hnone
    refine ⟨_, hchanges, hshows.write_declared hproper w hash snapshot touched htouches ?_⟩
    obtain ⟨v, hv⟩ := List.exists_mem_of_ne_nil _ hnone
    exact ⟨v, (Layout.mem_variablesAt_hex declared w.slot v).1 hv⟩

end EvmScope
