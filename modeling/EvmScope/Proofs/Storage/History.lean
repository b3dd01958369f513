import EvmScope.Proofs.Storage.Loading
import EvmScope.Proofs.Storage.Replay

set_option autoImplicit false

/-! # A history refines a store of words

The current state of a history is computed from records of single changes, but it tells no more and no
less than a plain store would: every slot holds the last word written to it by any of the traces, and a
variable shows its part. The invariant is `History.Refines`. A fresh history with its first values
refines the store of zeros, and every trace writes its recognised writes. -/

namespace EvmScope

namespace History

/-- A history refines the store of some writes: it remembers their words, and its current state shows
    them. -/
structure Refines (writes : List StorageWrite) (h : History) : Prop where
  words_hold : h.words.Holds (lastWord writes)
  state_shows : Shows h.layout (lastWord writes) (h.currentState none)

/-- The recognised writes of a trace document, as far as it is read. -/
noncomputable def recognised (settings : Settings) (document : Json) : List StorageWrite :=
  (ParsedTrace.ofJson (some settings.traceLimit) document).entries.filterMap
    (StorageWrite.recognised? settings.slotOnTop)

/-- They are those that a replay reads. -/
theorem recognised_eq (settings : Settings) (document : Json) :
    recognised settings document
      = (ParsedTrace.ofJson (some settings.traceLimit) document).entries.filterMap
        (StorageWrite.ofEntry? settings.slotOnTop) := by
  rw [recognised, StorageWrite.recognised?_eq]

theorem recognised_of_entries_singleton {settings : Settings} {document : Json} {e : TraceEntry} {w : StorageWrite}
    (hentries : (ParsedTrace.ofJson (some settings.traceLimit) document).entries = [e])
    (hwrite : StorageWrite.ofEntry? settings.slotOnTop e = some w) : recognised settings document = [w] := by
  rw [recognised_eq, hentries, List.filterMap_cons_some hwrite, List.filterMap_nil]

/-- Replay traces one after another, each with the hash it is given, if any. -/
def replayAll (settings : Settings) (h : History) (traces : List (Json × Option String)) :
    Except Fault History :=
  traces.foldlM (fun h (document, hash) =>
    let move := h.replay settings document (Json.ofOption .str hash)
    move.result.map (fun _ => move.state)) h

/-! ## The first values -/

/-- The first value of a variable reads as zero. -/
theorem read?_defaultText (label : String) :
    Numeral.read? .hexadecimal (Word.defaultText label) = some 0 := by
  unfold Word.defaultText
  by_cases haddress : label = "address"
  · rw [if_pos haddress]
    decide
  · rw [if_neg haddress]
    exact Numeral.read?_hex 0

/-- The first values show the store of zeros. -/
theorem shows_firstChanges {declared : List StorageVariable} (hproper : Layout.Proper declared)
    (snapshot : Nat) :
    Shows declared (lastWord [])
      ((declared.map firstChange).foldl (Projection.apply snapshot) []) := by
  have hkey : ∀ v ∈ declared, (firstChange v).key = v.label := by
    intro v hv
    exact StateChange.key_of_label _ v.label rfl (hproper.label_ne_empty v hv)
  constructor
  · intro v hv
    refine ⟨_, Projection.lookup_foldl_labelled_of_mem hkey hproper.labels_nodup v hv snapshot [],
      ?_⟩
    have hzero : Layout.shown declared v (lastWord [] v.slot) = 0 := by
      simp [Layout.shown, lastWord]
    rw [hzero]
    exact read?_defaultText v.typeLabel
  · intro slot _
    refine Or.inr ⟨?_, rfl⟩
    rw [Projection.lookup_foldl_labelled_of_ne hkey _
      (fun v hv => hproper.label_ne_slotKey hv _)]
    rfl

/-- Loading a layout puts its variables in place and leaves snapshots and words alone. -/
theorem loadLayout_ok {h : History} {layout name abi : Json} {declared : List StorageVariable}
    (hloaded : (h.loadLayout layout name abi).result = .ok declared) :
    (h.loadLayout layout name abi).state.layout = declared
      ∧ (h.loadLayout layout name abi).state.snapshots = h.snapshots
      ∧ (h.loadLayout layout name abi).state.words = h.words := by
  have hends := h.loadLayout_ends layout name abi
  generalize h.loadLayout layout name abi = move at hends hloaded
  cases hends with
  | unread hlayout => cases hloaded
  | halfway hlayout habi => cases hloaded
  | loaded hlayout habi =>
    cases hloaded
    exact ⟨rfl, rfl, rfl⟩

theorem layout_deploy (h : History) : h.deploy.state.layout = h.layout := by
  unfold deploy
  split
  · rfl
  · rfl

/-- A fresh history with the first values of its variables refines the store of zeros. -/
theorem refines_deploy {h : History} (hproper : Layout.Proper h.layout)
    (hsnapshots : h.snapshots = []) (hwords : h.words = ∅) :
    h.deploy.state.layout = h.layout ∧ Refines [] h.deploy.state := by
  have hholds : Words.Holds h.words (lastWord []) := by
    intro slot
    rw [hwords, Words.at, Std.HashMap.getD_empty]
    rfl
  have hshows := shows_firstChanges hproper h.snapshots.length
  have hfresh : h.currentState none = [] := by
    rw [currentState, hsnapshots]
    rfl
  unfold deploy
  by_cases hnone : h.layout.isEmpty = true
  · -- without variables no snapshot is made, and the state has no entries
    rw [if_pos hnone]
    rw [List.isEmpty_iff.1 hnone] at hshows
    refine ⟨rfl, hholds, ?_⟩
    rw [Transition.stay, hfresh, List.isEmpty_iff.1 hnone]
    exact hshows
  · rw [if_neg hnone]
    refine ⟨rfl, hholds, ?_⟩
    dsimp only
    rw [currentState_append, hfresh]
    exact hshows

/-! ## Traces -/

theorem exists_hashOf (given : Option String) (trace : ParsedTrace) :
    ∃ hash, hashOf (Json.ofOption .str given) trace = .ok hash := by
  unfold hashOf
  by_cases hpresent : (Json.ofOption Json.str given).isPresent = true
  · rw [if_pos hpresent]
    cases given with
    | none => cases hpresent
    | some text => exact ⟨some text, rfl⟩
  · rw [if_neg hpresent]
    exact ⟨trace.transactionHash, rfl⟩

/-- A replay leaves its words, and behind the other snapshots one of its changes. -/
structure Leaves (h : History) (r : Replay) (s : Snapshot) (next : History) : Prop where
  layout_eq : next.layout = h.layout
  words_eq : next.words = r.words
  id_eq : s.id = h.snapshots.length
  changes_eq : s.changes = r.changes.reverse
  snapshots_eq : next.snapshots = h.snapshots ++ [s]

theorem Leaves.currentState_eq {h next : History} {r : Replay} {s : Snapshot}
    (hleaves : Leaves h r s next) :
    next.currentState none = r.stateAfter h.snapshots.length (h.currentState none) := by
  rw [currentState_of_snapshots hleaves.id_eq hleaves.snapshots_eq, hleaves.changes_eq]
  rfl

/-- A trace with a hash that can be used is replayed if its entries can be. -/
theorem replay_of_run {h : History} {settings : Settings} {document : Json}
    {given hash : Option String} {r : Replay}
    (hhash : hashOf (Json.ofOption .str given)
      (ParsedTrace.ofJson (some settings.traceLimit) document) = .ok hash)
    (hrun : Replay.run h.layout (.ok hash) settings.slotOnTop h.words
      (ParsedTrace.ofJson (some settings.traceLimit) document).entries = .ok r) :
    ∃ s, (h.replay settings document (Json.ofOption .str given)).result = .ok s
      ∧ Leaves h r s (h.replay settings document (Json.ofOption .str given)).state := by
  unfold replay
  dsimp only
  rw [hhash]
  dsimp only
  rw [hrun]
  exact ⟨_, rfl, rfl, rfl, rfl, rfl, rfl⟩

/-- Traces behind a first one start from the history that it leaves. -/
theorem replayAll_cons {settings : Settings} {h next : History} {trace : Json × Option String}
    (hnext : h.replayAll settings [trace] = .ok next) (rest : List (Json × Option String)) :
    h.replayAll settings (trace :: rest) = next.replayAll settings rest := by
  have hsplit : trace :: rest = [trace] ++ rest := rfl
  unfold replayAll at hnext ⊢
  rw [hsplit, List.foldlM_append, hnext]
  rfl

theorem replayAll_of_run {h : History} {settings : Settings} {document : Json}
    {given hash : Option String} {r : Replay}
    (hhash : hashOf (Json.ofOption .str given)
      (ParsedTrace.ofJson (some settings.traceLimit) document) = .ok hash)
    (hrun : Replay.run h.layout (.ok hash) settings.slotOnTop h.words
      (ParsedTrace.ofJson (some settings.traceLimit) document).entries = .ok r) :
    ∃ next s, h.replayAll settings [(document, given)] = .ok next ∧ Leaves h r s next := by
  obtain ⟨s, hresult, hleaves⟩ := replay_of_run hhash hrun
  refine ⟨_, s, ?_, hleaves⟩
  unfold replayAll
  rw [List.foldlM_cons]
  dsimp only
  rw [hresult]
  rfl

/-- What a trace that was replayed left is what the replay of its entries left. -/
theorem run_of_replayAll {h next : History} {settings : Settings} {document : Json}
    {given hash : Option String}
    (hhash : hashOf (Json.ofOption .str given)
      (ParsedTrace.ofJson (some settings.traceLimit) document) = .ok hash)
    (hnext : h.replayAll settings [(document, given)] = .ok next) :
    ∃ r s, Replay.run h.layout (.ok hash) settings.slotOnTop h.words
        (ParsedTrace.ofJson (some settings.traceLimit) document).entries = .ok r
      ∧ Leaves h r s next := by
  cases hrun : Replay.run h.layout (.ok hash) settings.slotOnTop h.words
      (ParsedTrace.ofJson (some settings.traceLimit) document).entries with
  | error fault =>
    unfold replayAll at hnext
    rw [List.foldlM_cons] at hnext
    unfold replay at hnext
    dsimp only at hnext
    rw [hhash, hrun] at hnext
    cases hnext
  | ok r =>
    obtain ⟨other, s, hother, hleaves⟩ := replayAll_of_run hhash hrun
    rw [hother] at hnext
    cases hnext
    exact ⟨r, s, rfl, hleaves⟩

/-- **One trace** is replayed, and the history then refines the store with its writes. -/
theorem Refines.replay {writes : List StorageWrite} {h : History} (hh : Refines writes h)
    (hproper : Layout.Proper h.layout) (settings : Settings) (document : Json)
    (given : Option String) :
    ∃ next, h.replayAll settings [(document, given)] = .ok next
      ∧ next.layout = h.layout ∧ Refines (writes ++ recognised settings document) next := by
  obtain ⟨hash, hhash⟩ := exists_hashOf given
    (ParsedTrace.ofJson (some settings.traceLimit) document)
  obtain ⟨r, hrun, hrefines⟩ := Replay.run_refines hh.words_hold hh.state_shows hproper hash
    settings.slotOnTop h.snapshots.length
    (ParsedTrace.ofJson (some settings.traceLimit) document).entries
  obtain ⟨next, s, hnext, hleaves⟩ := replayAll_of_run hhash hrun
  refine ⟨next, hnext, hleaves.layout_eq, ?_, ?_⟩
  · rw [hleaves.words_eq]
    exact hrefines.words_hold
  · rw [hleaves.layout_eq, hleaves.currentState_eq]
    exact hrefines.changes_show

/-- **A run of traces** succeeds, and the history then refines the store with all their writes. -/
theorem Refines.replayAll {writes : List StorageWrite} {h : History} (hh : Refines writes h)
    (hproper : Layout.Proper h.layout) (settings : Settings) (traces : List (Json × Option String)) :
    ∃ last, h.replayAll settings traces = .ok last ∧ last.layout = h.layout
      ∧ Refines (writes ++ traces.flatMap (fun trace => recognised settings trace.1)) last := by
  -- each trace starts from the history that the one before it left
  induction traces generalizing writes h with
  | nil =>
    rw [List.flatMap_nil, List.append_nil]
    exact ⟨h, rfl, rfl, hh⟩
  | cons trace rest ih =>
    obtain ⟨document, given⟩ := trace
    obtain ⟨next, hnext, hlayout, hrefines⟩ := hh.replay hproper settings document given
    obtain ⟨last, hlast, hkept, hdone⟩ := ih hrefines (hlayout ▸ hproper)
    refine ⟨last, ?_, hkept.trans hlayout, ?_⟩
    · rw [replayAll_cons hnext]
      exact hlast
    · rw [List.append_assoc] at hdone
      exact hdone

/-- **Replaying traces refines a plain store of words.** On a fresh history with a layout of proper
    variables, loaded and given its first values, every list of traces can be replayed, and the current
    state then shows the store in which every slot holds its last recognised write. -/
theorem replayAll_shows_lastWord (settings : Settings) (layout name abi : Json)
    (declared : List StorageVariable) (traces : List (Json × Option String))
    (hloaded : (empty.loadLayout layout name abi).result = .ok declared)
    (hproper : Layout.Proper declared) :
    ∃ h, (empty.loadLayout layout name abi).state.deploy.state.replayAll settings traces = .ok h
      ∧ Shows declared (lastWord (traces.flatMap (fun trace => recognised settings trace.1)))
        (h.currentState none) := by
  obtain ⟨hlayout, hsnapshots, hwords⟩ := loadLayout_ok hloaded
  rw [← hlayout] at hproper
  obtain ⟨hdeployed, hrefines⟩ := refines_deploy hproper hsnapshots hwords
  rw [← hdeployed] at hproper
  obtain ⟨h, hrun, hkept, hdone⟩ := hrefines.replayAll hproper settings traces
  refine ⟨h, hrun, ?_⟩
  have hshows := hdone.state_shows
  rw [hkept, hdeployed, hlayout, List.nil_append] at hshows
  exact hshows

theorem replayAll_shows_lastWord_packed :
    let layout : Json := .obj
      [ ("storage", .arr
          [ .obj [("label", .str "low"), ("slot", .str "0"), ("type", .str "t_uint128")],
            .obj [("label", .str "high"), ("slot", .str "0"), ("offset", .int 16),
              ("type", .str "t_uint128")] ]),
        ("types", .obj [("t_uint128", .obj [("numberOfBytes", .str "16")])]) ]
    let declared : List StorageVariable :=
      [ ⟨0, "low", "t_uint128", "uint128", 0, 16⟩, ⟨0, "high", "t_uint128", "uint128", 16, 16⟩ ]
    let trace : Json := .obj
      [("structLogs", .arr [.obj [("pc", .int 4), ("op", .str "SSTORE"),
        ("stack", .arr [.str "0x0", .str "0x700000000000000000000000000000005"])]])]
    (empty.loadLayout layout (.str "Vault") .null).result = .ok declared
      ∧ Layout.Proper declared
      ∧ ∃ h, (empty.loadLayout layout (.str "Vault") .null).state.deploy.state.replayAll
          Settings.standard [(trace, some "0xaa"), (trace, none)] = .ok h
        ∧ Shows declared (lastWord ([(trace, some "0xaa"), (trace, none)].flatMap
          (fun trace => recognised Settings.standard trace.1))) (h.currentState none)
        ∧ (h.currentState none).number? "low" = some 5
        ∧ (h.currentState none).number? "high" = some 7 := by
  intro layout declared trace
  have hloaded : (empty.loadLayout layout (.str "Vault") .null).result = .ok declared := by
    rfl
  have hproper : Layout.Proper declared := by
    refine ⟨?_, ?_, ?_, ?_⟩ <;> decide
  obtain ⟨h, hrun, hshows⟩ := replayAll_shows_lastWord Settings.standard layout (.str "Vault") .null
    declared [(trace, some "0xaa"), (trace, none)] hloaded hproper
  have hword : lastWord ([(trace, some "0xaa"), (trace, none)].flatMap
      (fun trace => recognised Settings.standard trace.1)) 0 = 0x700000000000000000000000000000005 := by
    rw [List.flatMap_cons, List.flatMap_cons, List.flatMap_nil, recognised_eq]
    decide +kernel
  have hlow := hshows.number?_eq (v := ⟨0, "low", "t_uint128", "uint128", 0, 16⟩) List.mem_cons_self
  have hhigh := hshows.number?_eq (v := ⟨0, "high", "t_uint128", "uint128", 16, 16⟩)
    (List.mem_cons_of_mem _ List.mem_cons_self)
  rw [hword] at hlow hhigh
  exact ⟨hloaded, hproper, h, hrun, hshows, hlow, hhigh⟩

end History

end EvmScope
