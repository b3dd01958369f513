import EvmScope.Proofs.Storage.AppendOnly
import EvmScope.Proofs.Storage.History
import EvmScope.Proofs.Storage.Reading
import EvmScope.Proofs.Storage.Word
import EvmScope.Proofs.Trace.Entry
import EvmScope.Proofs.Trace.Logs

set_option autoImplicit false

/-! # When a reconstruction fails

Storage is reconstructed from a layout and traces that may be anything. Entries of either that cannot be
used are passed over, those of traces with a count. What fails all the same comes from the layout alone:
it cannot be read, or it puts several variables into one slot and one of them at a negative offset
(`Layout.Misplaced`). The bytes of such a variable cannot be taken out of a word, which no one notices
until a trace writes to the slot.

A failure is followed from the whole to the part: of all calls it is a replay that fails, of a replay one
entry, of an entry the write, and of a write the shift. In the other direction one write is enough, so a
layout without flaw is the same as a layout under which nothing fails. -/

namespace EvmScope

/-- A slot has several variables, and one of them has a negative offset. -/
def Layout.Misplaced (declared : List StorageVariable) (slot : Int) : Prop :=
  1 < declared.countP (fun v => v.slot = slot) ∧ ∃ v ∈ declared, v.slot = slot ∧ v.offset < 0

/-! ## One write -/

namespace StorageWrite

theorem part_error {v : StorageVariable} {old new : Int} {fault : Fault}
    (herror : (do
      let before ← v.extract old
      let after ← v.extract new
      return (v, before, after) : Except Fault (StorageVariable × Int × Int)) = .error fault) :
    fault = .negativeShift ∧ v.offset < 0 := by
  unfold StorageVariable.extract at herror
  by_cases hoffset : v.offset < 0
  · rw [if_pos hoffset] at herror
    cases herror
    exact ⟨rfl, hoffset⟩
  · simp only [if_neg hoffset] at herror
    cases herror

/-- A write fails only in a slot of several variables, for one of them at a negative offset. -/
theorem changes_error {w : StorageWrite} {here : List StorageVariable} {hash : Option String}
    {old : Int} {fault : Fault} (herror : w.changes here (.ok hash) old = .error fault) :
    fault = .negativeShift ∧ 1 < here.length ∧ ∃ v ∈ here, v.offset < 0 := by
  match here with
  | [] => cases herror
  | [_] => cases herror
  | v :: u :: rest =>
    cases hparts : parts (v :: u :: rest) old w.value with
    | ok found =>
      simp only [changes, hparts] at herror
      cases herror
    | error cause =>
      simp only [changes, hparts] at herror
      cases herror
      obtain ⟨member, hmember, hpart⟩ := exists_of_mapM_error hparts
      obtain ⟨hfault, hoffset⟩ := part_error hpart
      exact ⟨hfault, by simp, member, hmember, hoffset⟩

/-- There a write does fail. -/
theorem changes_of_misplaced (w : StorageWrite) {here : List StorageVariable} (hash : Option String)
    (old : Int) (hshared : 1 < here.length) {v : StorageVariable} (hv : v ∈ here)
    (hoffset : v.offset < 0) : w.changes here (.ok hash) old = .error .negativeShift := by
  match here with
  | [] => cases hv
  | [_] => exact absurd hshared (by simp)
  | first :: second :: rest =>
    cases hparts : parts (first :: second :: rest) old w.value with
    | error cause =>
      obtain ⟨member, -, hpart⟩ := exists_of_mapM_error hparts
      simp only [changes, hparts, (part_error hpart).1]
      rfl
    | ok found =>
      -- no part is made of the misplaced variable
      obtain ⟨part, hpart⟩ := (exists_mapM_eq_ok_iff _ _).1 ⟨found, hparts⟩ v hv
      rw [StorageVariable.extract, if_pos hoffset] at hpart
      cases hpart

theorem changes_at_misplaced {declared : List StorageVariable} (w : StorageWrite)
    (hash : Option String) (old : Int) (hmisplaced : Layout.Misplaced declared w.slot) :
    w.changes (Layout.variablesAt declared w.slotText) (.ok hash) old = .error .negativeShift := by
  obtain ⟨hshared, v, hv, hslot, hoffset⟩ := hmisplaced
  have hhere : v ∈ Layout.variablesAt declared w.slotText :=
    (Layout.mem_variablesAt_hex declared w.slot v).2 ⟨hv, hslot⟩
  have hlength : 1 < (Layout.variablesAt declared w.slotText).length := by
    rw [slotText, Layout.variablesAt_hex, ← List.countP_eq_length_filter]
    exact hshared
  exact changes_of_misplaced w hash old hlength hhere hoffset

end StorageWrite

/-! ## One trace -/

namespace Replay

variable {declared : List StorageVariable} {hash : Option String} {slotOnTop : Bool} {fault : Fault}

theorem write_error {r : Replay} {w : StorageWrite}
    (herror : r.write declared (.ok hash) w = .error fault) :
    fault = .negativeShift ∧ Layout.Misplaced declared w.slot := by
  unfold write at herror
  split at herror
  · cases herror
  · cases hchanges : w.changes (Layout.variablesAt declared w.slotText) (.ok hash)
        (r.words.at w.slotText) with
    | ok changes =>
      simp only [hchanges] at herror
      cases herror
    | error cause =>
      simp only [hchanges] at herror
      cases herror
      obtain ⟨hfault, hshared, v, hv, hoffset⟩ := StorageWrite.changes_error hchanges
      rw [StorageWrite.slotText, Layout.variablesAt_hex] at hshared
      obtain ⟨hdeclared, hslot⟩ := (Layout.mem_variablesAt_hex declared w.slot v).1 hv
      exact ⟨hfault, List.countP_eq_length_filter ▸ hshared, v, hdeclared, hslot, hoffset⟩

/-- An entry fails only where it writes to a slot with a misplaced variable. -/
theorem entry_error {r : Replay} {e : TraceEntry}
    (herror : r.entry declared (.ok hash) slotOnTop e = .error fault) :
    fault = .negativeShift ∧ ∃ w, StorageWrite.recognised? slotOnTop e = some w
      ∧ Layout.Misplaced declared w.slot := by
  rw [entry_eq] at herror
  cases hrecognised : StorageWrite.recognised? slotOnTop e with
  | none =>
    rw [hrecognised] at herror
    cases herror
  | some w =>
    rw [hrecognised] at herror
    obtain ⟨hfault, hmisplaced⟩ := write_error herror
    exact ⟨hfault, w, rfl, hmisplaced⟩

theorem run_error {words : Words} {entries : List TraceEntry}
    (herror : run declared (.ok hash) slotOnTop words entries = .error fault) :
    fault = .negativeShift ∧ ∃ w ∈ entries.filterMap (StorageWrite.recognised? slotOnTop),
      Layout.Misplaced declared w.slot := by
  obtain ⟨e, he, r, hentry⟩ := exists_of_foldlM_error herror
  obtain ⟨hfault, w, hw, hmisplaced⟩ := entry_error hentry
  exact ⟨hfault, w, List.mem_filterMap.2 ⟨e, he, hw⟩, hmisplaced⟩

/-- One write of a new word to such a slot is enough. -/
theorem run_singleton_of_misplaced {words : Words} {e : TraceEntry} {w : StorageWrite}
    (hwrite : StorageWrite.ofEntry? slotOnTop e = some w)
    (hvalue : w.value ≠ 0) (hmisplaced : Layout.Misplaced declared w.slot) :
    run declared (.ok hash) slotOnTop words [e] = .error .negativeShift := by
  have hrepeats : repeats ⟨words, ∅, [], 1, 0, 0⟩ w = false := by
    simp [repeats, Std.HashMap.contains_empty, hvalue]
  rw [run_singleton_eq words hwrite]
  simp only [Replay.write, hrepeats, Bool.false_eq_true, if_false,
    StorageWrite.changes_at_misplaced w hash _ hmisplaced]
  rfl

/-! ## Counts -/

/-- Whether an entry is a storage write, but none that is recognised. -/
noncomputable def isMalformed (slotOnTop : Bool) (e : TraceEntry) : Bool :=
  e.op == "SSTORE" && (StorageWrite.recognised? slotOnTop e).isNone

theorem isMalformed_eq (slotOnTop : Bool) : isMalformed slotOnTop
    = fun e => e.op == "SSTORE" && (StorageWrite.ofEntry? slotOnTop e).isNone := by
  funext e
  rw [isMalformed, StorageWrite.recognised?_eq]

theorem write_counts {r next : Replay} {w : StorageWrite} {given : Except Fault (Option String)}
    (hok : r.write declared given w = .ok next) :
    next.writes = r.writes ∧ next.malformed = r.malformed := by
  obtain ⟨-, rfl⟩ | ⟨-, made, -, rfl⟩ := write_ok hok
  · exact ⟨rfl, rfl⟩
  · exact ⟨rfl, rfl⟩

theorem entry_counts {r next : Replay} {e : TraceEntry} {given : Except Fault (Option String)}
    (hok : r.entry declared given slotOnTop e = .ok next) :
    next.writes = r.writes + (if e.op == "SSTORE" then 1 else 0)
      ∧ next.malformed = r.malformed + (if isMalformed slotOnTop e then 1 else 0) := by
  rw [entry_eq] at hok
  unfold isMalformed
  cases hrecognised : StorageWrite.recognised? slotOnTop e with
  | none =>
    rw [hrecognised] at hok
    cases hok
    by_cases hop : e.op = "SSTORE"
    · simp [passed, hop]
    · simp [passed, hop]
  | some w =>
    rw [hrecognised] at hok
    have hop : e.op = "SSTORE" := StorageWrite.op_eq_of_recognised? hrecognised
    obtain ⟨hwrites, hmalformed⟩ := write_counts hok
    simp [hop, hwrites, hmalformed]

/-- A replay counts the storage writes among its entries and those of them that are malformed. -/
theorem run_counts {words : Words} {entries : List TraceEntry} {r : Replay}
    {given : Except Fault (Option String)}
    (hok : run declared given slotOnTop words entries = .ok r) :
    r.writes = entries.countP (·.op == "SSTORE")
      ∧ r.malformed = entries.countP (isMalformed slotOnTop) := by
  refine foldlM_induction
    (motive := fun done r => r.writes = done.countP (·.op == "SSTORE")
      ∧ r.malformed = done.countP (isMalformed slotOnTop)) ⟨rfl, rfl⟩ ?_ hok
  rintro done r next e ⟨hwrites, hmalformed⟩ hentry
  obtain ⟨hwrites', hmalformed'⟩ := entry_counts hentry
  rw [List.countP_append, List.countP_append, List.countP_singleton, List.countP_singleton, hwrites',
    hmalformed', hwrites, hmalformed]
  exact ⟨rfl, rfl⟩

end Replay

namespace History

/-- The operands of a write of one to a slot. -/
def operandsOfOne (slotOnTop : Bool) (slot : Int) : List String :=
  if slotOnTop then [Numeral.hex 1, Numeral.hex slot] else [Numeral.hex slot, Numeral.hex 1]

/-- A trace that writes one to a slot. -/
def writeOne (slotOnTop : Bool) (slot : Int) : Json :=
  .obj [("structLogs", .arr [.obj [("pc", .int 0), ("op", .str "SSTORE"),
    ("stack", .arr ((operandsOfOne slotOnTop slot).map Json.str))]])]

theorem ofEntry?_operandsOfOne (slotOnTop : Bool) (slot : Int) :
    StorageWrite.ofEntry? slotOnTop ⟨0, "SSTORE", 0, none, 1, operandsOfOne slotOnTop slot⟩
      = some ⟨slot, 1, 0, 1⟩ := by
  cases slotOnTop <;>
    simp [StorageWrite.ofEntry?, StorageWrite.ofStep?, StorageWrite.operands?, operandsOfOne, Word.ofText_hex,
      Except.toOption]

theorem entries_writeOne {limit : Nat} (hlimit : 0 < limit) (slotOnTop : Bool) (slot : Int) :
    (ParsedTrace.ofJson (some limit) (writeOne slotOnTop slot)).entries
      = [⟨0, "SSTORE", 0, none, 1, operandsOfOne slotOnTop slot⟩] := by
  have hop : toCapitals "SSTORE" = "SSTORE" := by decide +kernel
  have hread := TraceEntry.ofJson?_stack "SSTORE" (operandsOfOne slotOnTop slot)
  rw [hop] at hread
  have hlogs : ParsedTrace.logs? (writeOne slotOnTop slot) = some [.obj [("pc", .int 0),
      ("op", .str "SSTORE"), ("stack", .arr ((operandsOfOne slotOnTop slot).map Json.str))]] := rfl
  rw [ParsedTrace.entries_of_logs hlogs hlimit, List.filterMap_cons_some hread, List.filterMap_nil]

/-- The history after the entries of a trace, before a snapshot is added. -/
def replayed (h : History) (trace : ParsedTrace) (r : Replay) : History :=
  { h with
    words := r.words
    tally := ⟨trace.total, trace.skipped, r.writes, r.malformed, r.repetitions⟩ }

/-- How the replay of a trace ends: an entry fails, the hash is of no use, or a snapshot is added. -/
inductive ReplayEnds (h : History) (trace : ParsedTrace) (hash : Except Fault (Option String))
    (slotOnTop : Bool) : HistoryMove Snapshot → Prop
  | givenUp {fault : Fault}
    (hrun : Replay.run h.layout hash slotOnTop h.words trace.entries = .error fault) :
    ReplayEnds h trace hash slotOnTop (h.refuse fault)
  | unnamed {fault : Fault} {r : Replay}
    (hrun : Replay.run h.layout hash slotOnTop h.words trace.entries = .ok r)
    (hhash : hash = .error fault) :
    ReplayEnds h trace hash slotOnTop ((h.replayed trace r).refuse fault)
  | added {name : Option String} {r : Replay} {context : List (String × Json)}
    (hrun : Replay.run h.layout hash slotOnTop h.words trace.entries = .ok r)
    (hhash : hash = .ok name) :
    ReplayEnds h trace hash slotOnTop ((h.replayed trace r).append r.changes.reverse name context)

section Replay

variable {settings : Settings} {h : History} {document : Json}

theorem replay_ends (settings : Settings) (h : History) (document hash : Json) :
    ReplayEnds h (ParsedTrace.ofJson (some settings.traceLimit) document)
      (hashOf hash (ParsedTrace.ofJson (some settings.traceLimit) document)) settings.slotOnTop
      (h.replay settings document hash) := by
  unfold replay
  dsimp only
  split
  · next fault hrun => exact .givenUp hrun
  · next r hrun =>
    split
    · next fault hhash => exact .unnamed hrun hhash
    · next name hhash => exact .added hrun hhash

/-- A trace fails only where it writes to a slot with a misplaced variable. -/
theorem replay_error {given : Option String} {fault : Fault}
    (herror : (h.replay settings document (Json.ofOption .str given)).result = .error fault) :
    fault = .negativeShift ∧ ∃ w ∈ recognised settings document,
      Layout.Misplaced h.layout w.slot := by
  have hends := replay_ends settings h document (Json.ofOption .str given)
  obtain ⟨name, hname⟩ := exists_hashOf given
    (ParsedTrace.ofJson (some settings.traceLimit) document)
  rw [hname] at hends
  generalize h.replay settings document (Json.ofOption .str given) = move at hends herror
  cases hends with
  | givenUp hrun =>
    cases herror
    exact Replay.run_error hrun
  | unnamed hrun hhash => cases hhash
  | added hrun hhash => cases herror

/-- What a trace is counted for: its entries, those that cannot be read or lie beyond the limit, its
    storage writes, and those of them that are malformed. -/
theorem tally_of_replay {hash : Json} {s : Snapshot}
    (hok : (h.replay settings document hash).result = .ok s) :
    let logs := (ParsedTrace.logs? document).getD []
    let entries := (logs.take settings.traceLimit).filterMap TraceEntry.ofJson?
    let tally := (h.replay settings document hash).state.tally
    tally.entries = logs.length
      ∧ tally.skipped
        = (logs.take settings.traceLimit).countP (fun log => (TraceEntry.ofJson? log).isNone)
          + (logs.length - settings.traceLimit)
      ∧ tally.writes = entries.countP (·.op == "SSTORE")
      ∧ tally.malformed = entries.countP (Replay.isMalformed settings.slotOnTop) := by
  obtain ⟨hentries, htotal, hskipped⟩ := ParsedTrace.read_eq settings.traceLimit document
  dsimp only
  rw [← hentries, ← hskipped, ← htotal]
  have hends := replay_ends settings h document hash
  generalize h.replay settings document hash = move at hends hok
  cases hends with
  | givenUp hrun => cases hok
  | unnamed hrun hhash => cases hok
  | added hrun hhash =>
    obtain ⟨hwrites, hmalformed⟩ := Replay.run_counts hrun
    exact ⟨rfl, rfl, hwrites, hmalformed⟩

theorem layout_replay (settings : Settings) (h : History) (document hash : Json) :
    (h.replay settings document hash).state.layout = h.layout := by
  have hends := replay_ends settings h document hash
  generalize h.replay settings document hash = move at hends
  cases hends with
  | givenUp hrun => rfl
  | unnamed hrun hhash => rfl
  | added hrun hhash => rfl

/-- Under a layout with a misplaced variable there is a trace that fails. -/
theorem replay_writeOne (hlimit : 0 < settings.traceLimit) {slot : Int}
    (hmisplaced : Layout.Misplaced h.layout slot) (given : Option String) :
    (h.replay settings (writeOne settings.slotOnTop slot) (Json.ofOption .str given)).result
      = .error .negativeShift := by
  have hends := replay_ends settings h (writeOne settings.slotOnTop slot) (Json.ofOption .str given)
  obtain ⟨name, hname⟩ := exists_hashOf given
    (ParsedTrace.ofJson (some settings.traceLimit) (writeOne settings.slotOnTop slot))
  have hnew : (⟨slot, 1, 0, 1⟩ : StorageWrite).value ≠ 0 := Int.one_ne_zero
  have hfails : Replay.run h.layout (.ok name) settings.slotOnTop h.words
      (ParsedTrace.ofJson (some settings.traceLimit) (writeOne settings.slotOnTop slot)).entries
        = .error .negativeShift := by
    rw [entries_writeOne hlimit]
    exact Replay.run_singleton_of_misplaced (ofEntry?_operandsOfOne settings.slotOnTop slot) hnew
      hmisplaced
  rw [hname] at hends
  generalize h.replay settings (writeOne settings.slotOnTop slot) (Json.ofOption .str given) = move
    at hends
  cases hends with
  | givenUp hrun =>
    rw [hfails] at hrun
    cases hrun
    rfl
  | unnamed hrun hhash => cases hhash
  | added hrun hhash =>
    rw [hfails] at hrun
    cases hrun

end Replay

end History

/-! ## Many calls -/

/-- The calls that feed a history with what was observed: the first values and traces, these with a hash
    in text or without one. -/
def HistoryCall.IsFeed : HistoryCall → Prop
  | deploy => True
  | replay _ hash => ∃ given : Option String, hash = Json.ofOption .str given
  | loadLayout _ _ _ => False
  | addSimulated _ _ => False

/-- A layout document under which something can fail: one that cannot be read, or one that puts
    variables into a slot of which one is misplaced. -/
def Layout.Flawed (document : Json) : Prop :=
  HasNoList document ∨ (∃ item ∈ listed document, Breaks (typeTable document) item)
    ∨ ∃ slot, Misplaced ((listed document).filterMap (usable? (typeTable document))) slot

namespace History

/-- Every one of some calls succeeds, each on the history that the one before it leaves. -/
def Succeeds (settings : Settings) (h : History) : List HistoryCall → Prop
  | [] => True
  | call :: rest =>
    (call.perform settings h).result = .ok () ∧ Succeeds settings (call.perform settings h).state rest

theorem loadLayout_eq_ok_iff (h : History) (layout name : Json) (abi : List Json)
    (declared : List StorageVariable) :
    (h.loadLayout layout name (.arr abi)).result = .ok declared
      ↔ Layout.read layout = .ok declared := by
  unfold loadLayout
  cases Layout.read layout with
  | error fault =>
    constructor
    · intro hok
      cases hok
    · intro hok
      cases hok
  | ok found => exact Iff.rfl

theorem layout_of_feed (settings : Settings) (h : History) (call : HistoryCall)
    (hfeed : call.IsFeed) : (call.perform settings h).state.layout = h.layout := by
  cases call with
  | deploy => exact layout_deploy h
  | replay document hash => exact layout_replay settings h document hash
  | loadLayout layout name abi => exact hfeed.elim
  | addSimulated changes context => exact hfeed.elim

/-- Without a misplaced variable every call succeeds. -/
theorem succeeds_of_feed (settings : Settings) {h : History}
    (hplaced : ∀ slot, ¬ Layout.Misplaced h.layout slot) (call : HistoryCall) (hfeed : call.IsFeed) :
    (call.perform settings h).result = .ok () := by
  cases call with
  | deploy =>
    exact map_unit_eq_ok_iff.2 h.exists_deploy_ok
  | replay document hash =>
    obtain ⟨given, rfl⟩ := hfeed
    refine map_unit_eq_ok_iff.2 ?_
    cases hresult : (h.replay settings document (Json.ofOption .str given)).result with
    | ok s => exact ⟨s, rfl⟩
    | error fault =>
      obtain ⟨-, w, -, hmisplaced⟩ := replay_error hresult
      exact absurd hmisplaced (hplaced w.slot)
  | loadLayout layout name abi => exact hfeed.elim
  | addSimulated changes context => exact hfeed.elim

/-- So does every list of calls, as none of them changes the layout. -/
theorem succeeds_of_feeds (settings : Settings) {h : History}
    (hplaced : ∀ slot, ¬ Layout.Misplaced h.layout slot) (calls : List HistoryCall)
    (hfeeds : ∀ call ∈ calls, call.IsFeed) : h.Succeeds settings calls := by
  induction calls generalizing h with
  | nil => trivial
  | cons call rest ih =>
    rw [List.forall_mem_cons] at hfeeds
    refine ⟨succeeds_of_feed settings hplaced call hfeeds.1, ih ?_ hfeeds.2⟩
    rw [layout_of_feed settings h call hfeeds.1]
    exact hplaced

section Load

variable {settings : Settings} {h : History} {layout name : Json} {abi : List Json}

/-- Under a flawed layout some call fails, the first one or a write to the slot of the misplaced
    variable. -/
theorem not_flawed_of_succeeds (hlimit : 0 < settings.traceLimit)
    (hall : ∀ calls : List HistoryCall, (∀ call ∈ calls, call.IsFeed) →
      h.Succeeds settings (.loadLayout layout name (.arr abi) :: calls)) : ¬ Layout.Flawed layout := by
  obtain ⟨hloaded, -⟩ := hall [] (fun call hcall => absurd hcall List.not_mem_nil)
  obtain ⟨declared, hresult⟩ := map_unit_eq_ok_iff.1 hloaded
  obtain ⟨hlist, hsound, hdeclared⟩ :=
    (Layout.read_eq_ok_iff _ _).1 ((loadLayout_eq_ok_iff _ _ _ _ _).1 hresult)
  rintro (hno | ⟨item, hitem, hbreaks⟩ | ⟨slot, hmisplaced⟩)
  · exact hlist hno
  · exact hsound item hitem hbreaks
  · rw [← hdeclared, ← (loadLayout_ok hresult).1] at hmisplaced
    obtain ⟨-, hreplayed, -⟩ := hall
      [.replay (writeOne settings.slotOnTop slot) (Json.ofOption .str none)]
      (fun call hcall => List.mem_singleton.1 hcall ▸ ⟨none, rfl⟩)
    obtain ⟨s, hs⟩ := map_unit_eq_ok_iff.1 hreplayed
    have hfails := replay_writeOne hlimit hmisplaced none
    exact absurd (hs.symm.trans hfails) (by simp)

theorem succeeds_of_not_flawed (hsound : ¬ Layout.Flawed layout) (calls : List HistoryCall)
    (hfeeds : ∀ call ∈ calls, call.IsFeed) :
    h.Succeeds settings (.loadLayout layout name (.arr abi) :: calls) := by
  unfold Layout.Flawed at hsound
  push Not at hsound
  obtain ⟨hlist, hitems, hplaced⟩ := hsound
  have hresult := (loadLayout_eq_ok_iff h layout name abi _).2
    ((Layout.read_eq_ok_iff _ _).2 ⟨hlist, hitems, rfl⟩)
  refine ⟨map_unit_eq_ok_iff.2 ⟨_, hresult⟩, succeeds_of_feeds settings ?_ calls hfeeds⟩
  intro slot
  have hlayout := (loadLayout_ok hresult).1
  change ¬ Layout.Misplaced (h.loadLayout layout name (.arr abi)).state.layout slot
  rw [hlayout]
  exact hplaced slot

end Load

/-- What holds of the reconstruction of storage from a layout document and from traces. -/
structure Reconstructs (settings : Settings) (h : History) (layout name : Json) (abi : List Json) :
    Prop where
  /-- Loading the layout and feeding the history fails nowhere, unless the layout is flawed. -/
  succeeds_iff : (∀ calls : List HistoryCall, (∀ call ∈ calls, call.IsFeed) →
    h.Succeeds settings (.loadLayout layout name (.arr abi) :: calls)) ↔ ¬ Layout.Flawed layout
  /-- Of a layout that is loaded the entries that are not usable are left out. -/
  loaded_eq : ∀ declared, (h.loadLayout layout name (.arr abi)).result = .ok declared →
    declared = (Layout.listed layout).filterMap (Layout.usable? (Layout.typeTable layout))
  /-- What fails later on is a trace that writes to a slot with a misplaced variable. -/
  replay_error : ∀ (later : History) (document : Json) (given : Option String) (fault : Fault),
    (later.replay settings document (Json.ofOption .str given)).result = .error fault →
    fault = .negativeShift
      ∧ ∃ w ∈ recognised settings document, Layout.Misplaced later.layout w.slot
  /-- Of a trace that is replayed the entries that are not usable are counted. -/
  tally_eq : ∀ (later : History) (document hash : Json) (s : Snapshot),
    (later.replay settings document hash).result = .ok s →
    let logs := (ParsedTrace.logs? document).getD []
    let entries := (logs.take settings.traceLimit).filterMap TraceEntry.ofJson?
    let tally := (later.replay settings document hash).state.tally
    tally.skipped
        = (logs.take settings.traceLimit).countP (fun log => (TraceEntry.ofJson? log).isNone)
          + (logs.length - settings.traceLimit)
      ∧ tally.malformed = entries.countP (Replay.isMalformed settings.slotOnTop)

/-- **A reconstruction fails for nothing but a flaw of the layout.** Whatever the layout document and the
    traces are, entries that cannot be used are left out and counted. All calls succeed exactly if the
    document can be read and puts no variable of a shared slot at a negative offset. -/
theorem reconstructs (settings : Settings) (hlimit : 0 < settings.traceLimit) (h : History)
    (layout name : Json) (abi : List Json) : Reconstructs settings h layout name abi := by
  constructor
  · exact ⟨not_flawed_of_succeeds hlimit, succeeds_of_not_flawed⟩
  · intro declared hresult
    have hread := (loadLayout_eq_ok_iff h layout name abi declared).1 hresult
    exact ((Layout.read_eq_ok_iff _ _).1 hread).2.2
  · intro later document given fault
    exact replay_error
  · intro later document hash s hok
    obtain ⟨-, hskipped, -, hmalformed⟩ := tally_of_replay hok
    exact ⟨hskipped, hmalformed⟩

/-- Two variables share a slot, and a third entry has no label. -/
theorem reconstructs_sharedSlot :
    let layout : Json := .arr
      [ .obj [("label", .str "low"), ("slot", .str "0")],
        .obj [("label", .str "high"), ("slot", .str "0"), ("offset", .int 16)],
        .obj [("slot", .str "1")] ]
    0 < Settings.standard.traceLimit
      ∧ Reconstructs Settings.standard empty layout (.str "Pair") [] := by
  intro layout
  exact ⟨by decide, reconstructs Settings.standard (by decide) empty layout (.str "Pair") []⟩

/-- Layouts of all kinds of flaws: a number in place of the list of entries, a type that is described by
    text, and a negative offset in a shared slot, which comes to light with a trace. -/
theorem reconstruction_fails :
    (empty.loadLayout (.obj [("storage", .int 5)]) (.str "C") (.arr [])).result = .error .wrongKind
      ∧ (empty.loadLayout (.obj
          [ ("storage", .arr [.obj [("label", .str "a"), ("slot", .str "0"), ("type", .str "t")]]),
            ("types", .obj [("t", .str "uint256")]) ]) (.str "C") (.arr [])).result = .error .noFields
      ∧ ∃ declared loaded,
        empty.loadLayout (.arr
            [ .obj [("label", .str "a"), ("slot", .str "0")],
              .obj [("label", .str "b"), ("slot", .str "0"), ("offset", .int (-1))] ]) (.str "C")
            (.arr []) = ⟨loaded, [.contractAnalyzed (.str "C") [] declared], .ok declared⟩
          ∧ (loaded.replay Settings.standard (writeOne false 0) .null).result
            = .error .negativeShift := by
  refine ⟨rfl, rfl, _, _, rfl, ?_⟩
  refine replay_writeOne (by decide) ⟨?_, ⟨0, "b", "", "", -1, 32⟩, ?_, rfl, ?_⟩ none
  · decide
  · decide
  · decide

end History

end EvmScope
