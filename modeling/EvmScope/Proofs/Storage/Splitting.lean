import EvmScope.Proofs.Storage.Keys
import EvmScope.Proofs.Trace.Logs

set_option autoImplicit false

/-! # A trace may be split

What counts as a repetition depends on where a trace begins, so a list of entries leaves other changes if
it is replayed in two parts. The storage that is shown does not depend on it: both ways track the same
writes, and histories that track the same writes have the same keys in the same order, with the same
numbers (`History.Tracks.alike`). They also hold the same words, which is all that later traces look at,
so these leave the very same changes. -/

namespace EvmScope

/-! ## States that show the same -/

/-- Two states have the same keys in the same order and show the same number at each of them. -/
structure Projection.Alike (a b : Projection) : Prop where
  keys_eq : Table.keys a = Table.keys b
  number_eq : ∀ key ∈ Table.keys a, ∃ n, a.number? key = some n ∧ b.number? key = some n

/-- A key that writes may bring: the label of a variable, or the key of a slot without variables. -/
def Layout.MayBring (declared : List StorageVariable) (key : String) : Prop :=
  (∃ v ∈ declared, v.label = key)
    ∨ ∃ slot, (∀ v ∈ declared, v.slot ≠ slot) ∧ StateChange.slotKey (Numeral.hex slot) = key

theorem mayBring_of_mem_visit {declared : List StorageVariable} {keys : List String}
    {w : StorageWrite} (hkeys : ∀ key ∈ keys, Layout.MayBring declared key) :
    ∀ key ∈ w.visit declared keys, Layout.MayBring declared key := by
  unfold StorageWrite.visit
  split
  · exact hkeys
  · rename_i hnew
    intro key hkey
    rcases List.mem_append.1 hkey with hkey | hkey
    · exact hkeys key hkey
    · refine Or.inr ⟨w.slot, ?_, (List.mem_singleton.1 hkey).symm⟩
      exact fun v hv hslot => hnew (Or.inl ⟨v, hv, hslot⟩)

theorem mayBring_of_mem_foldl_visit {declared : List StorageVariable} (writes : List StorageWrite)
    {keys : List String} (hkeys : ∀ key ∈ keys, Layout.MayBring declared key) :
    ∀ key ∈ writes.foldl (StorageWrite.visit declared) keys, Layout.MayBring declared key := by
  induction writes generalizing keys with
  | nil => exact hkeys
  | cons w rest ih => exact ih (mayBring_of_mem_visit hkeys)

/-- What is shown at a key is decided by the store: all states that show it have one number there. -/
theorem Layout.MayBring.exists_number {declared : List StorageVariable} {key : String}
    (hkey : MayBring declared key) (store : Int → Int) :
    ∃ n, ∀ state, Shows declared store state → key ∈ Table.keys state →
      state.number? key = some n := by
  rcases hkey with ⟨v, hv, rfl⟩ | ⟨slot, hbare, rfl⟩
  · exact ⟨Layout.shown declared v (store v.slot), fun state hshows _ => hshows.number?_eq hv⟩
  · refine ⟨store slot, fun state hshows hmem => ?_⟩
    obtain ⟨entry, hlookup⟩ := (Table.mem_keys_iff_exists_lookup _ _).1 hmem
    rcases hshows.of_slot slot hbare with ⟨found, hfound, hvalue⟩ | ⟨hnone, -⟩
    · rw [Projection.number?, hfound, Option.bind_some, hvalue]
      exact Numeral.read?_hex _
    · rw [hnone] at hlookup
      cases hlookup

namespace History

/-- **Histories that track the same writes** show the same. -/
theorem Tracks.alike {declared : List StorageVariable} {writes : List StorageWrite} {h h' : History}
    (hh : Tracks declared writes h) (hh' : Tracks declared writes h') :
    Projection.Alike (h.currentState none) (h'.currentState none) := by
  have hshows := hh.refines.state_shows
  have hshows' := hh'.refines.state_shows
  rw [hh.layout_eq] at hshows
  rw [hh'.layout_eq] at hshows'
  have hkeys : Table.keys (h.currentState none) = Table.keys (h'.currentState none) :=
    hh.keys_eq.trans hh'.keys_eq.symm
  refine ⟨hkeys, fun key hkey => ?_⟩
  have hlabels : ∀ key ∈ declared.map StorageVariable.label, Layout.MayBring declared key :=
    fun key hkey => Or.inl (List.mem_map.1 hkey)
  have hbring := mayBring_of_mem_foldl_visit writes hlabels key (hh.keys_eq ▸ hkey)
  obtain ⟨n, hn⟩ := hbring.exists_number (lastWord writes)
  exact ⟨n, hn _ hshows hkey, hn _ hshows' (hkeys ▸ hkey)⟩

end History

/-! ## Words that agree -/

/-- Two tables hold the same word for every slot. -/
def Words.Agree (words words' : Words) : Prop :=
  ∀ slot, words.at (Numeral.hex slot) = words'.at (Numeral.hex slot)

theorem Words.Agree.insert {words words' : Words} (hagree : words.Agree words')
    (w : StorageWrite) :
    Words.Agree (words.insert w.slotText w.value) (words'.insert w.slotText w.value) := by
  intro slot
  have hsame := hagree slot
  unfold Words.at at hsame ⊢
  rw [Std.HashMap.getD_insert, Std.HashMap.getD_insert, hsame]

namespace Replay

/-- Two replays are at the same point but for how their tables of words came about. -/
structure Agree (r r' : Replay) : Prop where
  words : r.words.Agree r'.words
  written : r.written = r'.written
  changes : r.changes = r'.changes

variable {declared : List StorageVariable} {hash : Except Fault (Option String)} {slotOnTop : Bool}

theorem Agree.repeats_eq {r r' : Replay} (hagree : Agree r r') (w : StorageWrite) :
    r.repeats w = r'.repeats w := by
  have hword : r.words.at w.slotText = r'.words.at w.slotText := hagree.words w.slot
  unfold repeats
  rw [hword, hagree.written]

theorem Agree.of_counts {r r' next next' : Replay} (hagree : Agree r r') (hnext : SameButCounts r next)
    (hnext' : SameButCounts r' next') : Agree next next' := by
  refine ⟨?_, ?_, ?_⟩
  · rw [hnext.words_eq, hnext'.words_eq]
    exact hagree.words
  · rw [hnext.written_eq, hnext'.written_eq, hagree.written]
  · rw [hnext.changes_eq, hnext'.changes_eq, hagree.changes]

theorem Agree.write {r r' next next' : Replay} (hagree : Agree r r') (w : StorageWrite)
    (hnext : r.write declared hash w = .ok next) (hnext' : r'.write declared hash w = .ok next') :
    Agree next next' := by
  have hword : r.words.at w.slotText = r'.words.at w.slotText := hagree.words w.slot
  have hrepeats := hagree.repeats_eq w
  obtain ⟨hyes, rfl⟩ | ⟨hno, made, hmade, rfl⟩ := write_ok hnext
  · obtain ⟨-, rfl⟩ | ⟨hno, -⟩ := write_ok hnext'
    · exact hagree.of_counts ⟨rfl, rfl, rfl⟩ ⟨rfl, rfl, rfl⟩
    · rw [hyes, hno] at hrepeats
      cases hrepeats
  · obtain ⟨hyes, -⟩ | ⟨-, made', hmade', rfl⟩ := write_ok hnext'
    · rw [hyes, hno] at hrepeats
      cases hrepeats
    · rw [hword, hmade'] at hmade
      cases hmade
      refine ⟨hagree.words.insert w, ?_, ?_⟩
      · exact congrArg (fun written => written.insert w.slotText ()) hagree.written
      · exact congrArg (made.reverse ++ ·) hagree.changes

theorem Agree.entry {r r' next next' : Replay} (hagree : Agree r r') (e : TraceEntry)
    (hnext : r.entry declared hash slotOnTop e = .ok next)
    (hnext' : r'.entry declared hash slotOnTop e = .ok next') : Agree next next' := by
  rw [entry_eq] at hnext hnext'
  cases hrecognised : StorageWrite.recognised? slotOnTop e with
  | none =>
    rw [hrecognised] at hnext hnext'
    cases hnext
    cases hnext'
    exact hagree.of_counts (r.sameButCounts_passed e) (r'.sameButCounts_passed e)
  | some w =>
    rw [hrecognised] at hnext hnext'
    have hcounted : Agree { r with writes := r.writes + 1 } { r' with writes := r'.writes + 1 } :=
      hagree.of_counts ⟨rfl, rfl, rfl⟩ ⟨rfl, rfl, rfl⟩
    exact hcounted.write w hnext hnext'

theorem Agree.entries {r r' last last' : Replay} (hagree : Agree r r') (entries : List TraceEntry)
    (hlast : entries.foldlM (Replay.entry declared hash slotOnTop) r = .ok last)
    (hlast' : entries.foldlM (Replay.entry declared hash slotOnTop) r' = .ok last') :
    Agree last last' := by
  induction entries generalizing r r' with
  | nil =>
    cases hlast
    cases hlast'
    exact hagree
  | cons e rest ih =>
    rw [List.foldlM_cons] at hlast hlast'
    cases hnext : r.entry declared hash slotOnTop e with
    | error fault =>
      rw [hnext] at hlast
      cases hlast
    | ok next =>
      cases hnext' : r'.entry declared hash slotOnTop e with
      | error fault =>
        rw [hnext'] at hlast'
        cases hlast'
      | ok next' =>
        rw [hnext] at hlast
        rw [hnext'] at hlast'
        exact ih (hagree.entry e hnext hnext') hlast hlast'

end Replay

/-! ## Later traces -/

namespace History

/-- Two histories give a trace the same changes: they have one layout and the same words. -/
structure Agree (h h' : History) : Prop where
  layout : h.layout = h'.layout
  words : h.words.Agree h'.words

theorem Tracks.agree {declared : List StorageVariable} {writes : List StorageWrite} {h h' : History}
    (hh : Tracks declared writes h) (hh' : Tracks declared writes h') : Agree h h' :=
  ⟨hh.layout_eq.trans hh'.layout_eq.symm, fun slot =>
    (hh.refines.words_hold slot).trans (hh'.refines.words_hold slot).symm⟩

/-- The changes of the snapshots of a history. -/
def changeLists (h : History) : List (List StateChange) :=
  h.snapshots.map Snapshot.changes

/-- A trace leaves the same changes in both, and they still agree. -/
theorem Agree.of_leaves {h h' next next' : History} {r r' : Replay} {s s' : Snapshot}
    (hagree : Agree h h') (hreplays : Replay.Agree r r') (hleaves : Leaves h r s next)
    (hleaves' : Leaves h' r' s' next') :
    Agree next next' ∧ next.changeLists = h.changeLists ++ [r.changes.reverse]
      ∧ next'.changeLists = h'.changeLists ++ [r.changes.reverse] := by
  refine ⟨⟨?_, ?_⟩, ?_, ?_⟩
  · rw [hleaves.layout_eq, hleaves'.layout_eq, hagree.layout]
  · rw [hleaves.words_eq, hleaves'.words_eq]
    exact hreplays.words
  · simp [changeLists, hleaves.snapshots_eq, hleaves.changes_eq]
  · simp [changeLists, hleaves'.snapshots_eq, hleaves'.changes_eq, hreplays.changes]

theorem Agree.replay {h h' next next' : History} (hagree : Agree h h') (settings : Settings)
    (document : Json) (given : Option String)
    (hnext : h.replayAll settings [(document, given)] = .ok next)
    (hnext' : h'.replayAll settings [(document, given)] = .ok next') :
    Agree next next' ∧ ∃ changes, next.changeLists = h.changeLists ++ [changes]
      ∧ next'.changeLists = h'.changeLists ++ [changes] := by
  obtain ⟨hash, hhash⟩ := exists_hashOf given
    (ParsedTrace.ofJson (some settings.traceLimit) document)
  obtain ⟨r, s, hrun, hleaves⟩ := run_of_replayAll hhash hnext
  obtain ⟨r', s', hrun', hleaves'⟩ := run_of_replayAll hhash hnext'
  have hbegin : Replay.Agree (Replay.begin h.words) (Replay.begin h'.words) :=
    ⟨hagree.words, rfl, rfl⟩
  rw [hagree.layout] at hrun
  have hend : Replay.Agree r r' := hbegin.entries _ hrun hrun'
  obtain ⟨hafter, hchanges, hchanges'⟩ := hagree.of_leaves hend hleaves hleaves'
  exact ⟨hafter, _, hchanges, hchanges'⟩

/-- **Later traces** leave the same changes in histories that track the same writes. -/
theorem Tracks.replayAll_alike {declared : List StorageVariable} {writes : List StorageWrite}
    {h h' : History} (hh : Tracks declared writes h) (hh' : Tracks declared writes h')
    (hproper : Layout.Proper declared) (settings : Settings)
    (traces : List (Json × Option String)) :
    ∃ last last', h.replayAll settings traces = .ok last ∧ h'.replayAll settings traces = .ok last'
      ∧ Projection.Alike (last.currentState none) (last'.currentState none)
      ∧ ∃ added, last.changeLists = h.changeLists ++ added
        ∧ last'.changeLists = h'.changeLists ++ added := by
  induction traces generalizing writes h h' with
  | nil =>
    refine ⟨h, h', rfl, rfl, hh.alike hh', [], ?_, ?_⟩
    · rw [List.append_nil]
    · rw [List.append_nil]
  | cons trace rest ih =>
    obtain ⟨document, given⟩ := trace
    obtain ⟨next, hnext, htracks⟩ := hh.replay hproper settings document given
    obtain ⟨next', hnext', htracks'⟩ := hh'.replay hproper settings document given
    obtain ⟨-, changes, hadded, hadded'⟩ :=
      (hh.agree hh').replay settings document given hnext hnext'
    obtain ⟨last, last', hlast, hlast', halike, added, hrest, hrest'⟩ := ih htracks htracks'
    refine ⟨last, last', ?_, ?_, halike, changes :: added, ?_, ?_⟩
    · rw [replayAll_cons hnext]
      exact hlast
    · rw [replayAll_cons hnext']
      exact hlast'
    · rw [hrest, hadded, List.append_assoc, List.singleton_append]
    · rw [hrest', hadded', List.append_assoc, List.singleton_append]

/-! ## Two parts of a list of entries -/

theorem recognised_split {settings : Settings} {whole first second : Json} {logs₁ logs₂ : List Json}
    (hwhole : ParsedTrace.logs? whole = some (logs₁ ++ logs₂))
    (hfirst : ParsedTrace.logs? first = some logs₁)
    (hsecond : ParsedTrace.logs? second = some logs₂)
    (hlimit : (logs₁ ++ logs₂).length ≤ settings.traceLimit) :
    recognised settings whole = recognised settings first ++ recognised settings second := by
  have hlength : (logs₁ ++ logs₂).length = logs₁.length + logs₂.length := List.length_append
  have hlimit₁ : logs₁.length ≤ settings.traceLimit := by omega
  have hlimit₂ : logs₂.length ≤ settings.traceLimit := by omega
  unfold recognised
  rw [ParsedTrace.entries_of_logs hwhole hlimit, ParsedTrace.entries_of_logs hfirst hlimit₁,
    ParsedTrace.entries_of_logs hsecond hlimit₂, List.filterMap_append, List.filterMap_append]

/-- **Splitting a trace does not change the storage.** Take a history that a proper layout, its first
    values and some earlier traces led to, and a list of entries that is no longer than what is read of
    a trace. Replayed in one trace or, cut anywhere, in two, it leads to states with the same keys in
    the same order and the same numbers. From there on all later traces leave the same changes, and
    states that are alike again. -/
theorem replay_split_alike (settings : Settings) (layout name abi : Json)
    (declared : List StorageVariable) (earlier : List (Json × Option String))
    (whole first second : Json) (hash hash₁ hash₂ : Option String) (logs₁ logs₂ : List Json)
    (hloaded : (empty.loadLayout layout name abi).result = .ok declared)
    (hproper : Layout.Proper declared)
    (hwhole : ParsedTrace.logs? whole = some (logs₁ ++ logs₂))
    (hfirst : ParsedTrace.logs? first = some logs₁)
    (hsecond : ParsedTrace.logs? second = some logs₂)
    (hlimit : (logs₁ ++ logs₂).length ≤ settings.traceLimit) :
    ∃ h one two,
      (empty.loadLayout layout name abi).state.deploy.state.replayAll settings earlier = .ok h
      ∧ h.replayAll settings [(whole, hash)] = .ok one
      ∧ h.replayAll settings [(first, hash₁), (second, hash₂)] = .ok two
      ∧ Projection.Alike (one.currentState none) (two.currentState none)
      ∧ ∀ later, ∃ one' two', one.replayAll settings later = .ok one'
        ∧ two.replayAll settings later = .ok two'
        ∧ Projection.Alike (one'.currentState none) (two'.currentState none)
        ∧ ∃ added, one'.changeLists = one.changeLists ++ added
          ∧ two'.changeLists = two.changeLists ++ added := by
  have hdeployed := tracks_deploy hproper hloaded
  obtain ⟨h, hearlier, htracks⟩ := hdeployed.replayAll hproper settings earlier
  obtain ⟨one, hone, htracks₁⟩ := htracks.replayAll hproper settings [(whole, hash)]
  obtain ⟨two, htwo, htracks₂⟩ :=
    htracks.replayAll hproper settings [(first, hash₁), (second, hash₂)]
  -- in one part or in two, the writes are the same
  have hwrites : [(whole, hash)].flatMap (fun trace => recognised settings trace.1)
      = [(first, hash₁), (second, hash₂)].flatMap (fun trace => recognised settings trace.1) := by
    simpa using recognised_split hwhole hfirst hsecond hlimit
  rw [hwrites] at htracks₁
  exact ⟨h, one, two, hearlier, hone, htwo, htracks₁.alike htracks₂,
    fun later => htracks₁.replayAll_alike htracks₂ hproper settings later⟩

theorem replay_split_alike_packed :
    let layout : Json := .obj
      [ ("storage", .arr
          [ .obj [("label", .str "low"), ("slot", .str "0"), ("type", .str "t_uint128")],
            .obj [("label", .str "high"), ("slot", .str "0"), ("offset", .int 16),
              ("type", .str "t_uint128")] ]),
        ("types", .obj [("t_uint128", .obj [("numberOfBytes", .str "16")])]) ]
    let declared : List StorageVariable :=
      [ ⟨0, "low", "t_uint128", "uint128", 0, 16⟩, ⟨0, "high", "t_uint128", "uint128", 16, 16⟩ ]
    let log : Json := .obj [("pc", .int 4), ("op", .str "SSTORE"),
      ("stack", .arr [.str "0x0", .str "0x700000000000000000000000000000005"])]
    let whole : Json := .obj [("structLogs", .arr [log, log])]
    let part : Json := .obj [("structLogs", .arr [log])]
    ((empty.loadLayout layout (.str "Vault") .null).result = .ok declared
        ∧ Layout.Proper declared
        ∧ ParsedTrace.logs? whole = some ([log] ++ [log])
        ∧ ParsedTrace.logs? part = some [log]
        ∧ ([log] ++ [log]).length ≤ Settings.standard.traceLimit)
      ∧ ∃ h one two,
        (empty.loadLayout layout (.str "Vault") .null).state.deploy.state.replayAll
          Settings.standard [(part, some "0xaa")] = .ok h
        ∧ h.replayAll Settings.standard [(whole, none)] = .ok one
        ∧ h.replayAll Settings.standard [(part, none), (part, none)] = .ok two
        ∧ Projection.Alike (one.currentState none) (two.currentState none)
        ∧ ∀ later, ∃ one' two', one.replayAll Settings.standard later = .ok one'
          ∧ two.replayAll Settings.standard later = .ok two'
          ∧ Projection.Alike (one'.currentState none) (two'.currentState none)
          ∧ ∃ added, one'.changeLists = one.changeLists ++ added
            ∧ two'.changeLists = two.changeLists ++ added := by
  intro layout declared log whole part
  have hloaded : (empty.loadLayout layout (.str "Vault") .null).result = .ok declared := by
    rfl
  have hproper : Layout.Proper declared := by
    refine ⟨?_, ?_, ?_, ?_⟩ <;> decide
  have hwhole : ParsedTrace.logs? whole = some ([log] ++ [log]) := by
    rfl
  have hpart : ParsedTrace.logs? part = some [log] := by
    rfl
  have hlimit : ([log] ++ [log]).length ≤ Settings.standard.traceLimit := by
    decide
  exact ⟨⟨hloaded, hproper, hwhole, hpart, hlimit⟩,
    replay_split_alike Settings.standard layout (.str "Vault") .null declared
      [(part, some "0xaa")] whole part part none none none [log] [log] hloaded hproper hwhole hpart
      hpart hlimit⟩

end History

end EvmScope
