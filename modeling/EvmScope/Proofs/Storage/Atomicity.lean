import EvmScope.Proofs.Storage.Recording

set_option autoImplicit false

/-! # A trace is replayed as a whole

A replay works on words of its own and hands them over at the end. If a write fails, however many came
before it, the history is left as it was and no one is told. If none does, one snapshot is added behind the
others, the words of the recorded writes are taken over, and everything else stays. What could come between
is a transaction hash that is no text, which shows only after the words were taken over; a text or an absent
hash is always of use.

Which of the two it is can be told from the recorded writes: it fails if one of them goes to a slot with a
misplaced variable. A repetition does no harm there, as it makes no changes. -/

namespace EvmScope

theorem Words.getElem?_store_of_ne (words : Words) {writes : List StorageWrite} {key : String}
    (hkey : ∀ w ∈ writes, w.slotText ≠ key) : (words.store writes)[key]? = words[key]? := by
  induction writes using List.reverseRecOn with
  | nil => rfl
  | append_singleton front w ih =>
    rw [List.forall_mem_append] at hkey
    have hw : (w.slotText == key) = false := beq_eq_false_iff_ne.2 (hkey.2 w List.mem_cons_self)
    rw [store_concat, Std.HashMap.getElem?_insert, hw, if_neg Bool.false_ne_true, ih hkey.1]

/-! ## When a replay is given up -/

theorem StorageWrite.recorded_prefix {carried : Int → Int} (writes more : List StorageWrite) :
    recorded carried writes <+: recorded carried (writes ++ more) := by
  induction more using List.reverseRecOn with
  | nil => simp only [List.append_nil, List.prefix_rfl]
  | append_singleton front w ih =>
    rw [← List.append_assoc, recorded_concat, record]
    split
    · exact ih
    · exact ih.trans (List.prefix_append _ _)

/-- Where all recorded writes make changes, none of them goes to a slot with a misplaced variable. -/
theorem Records.not_misplaced {declared : List StorageVariable} {name : Option String}
    {carried : Int → Int} {recorded : List StorageWrite} {changes : List StateChange}
    (hrecords : Records declared (.ok name) carried recorded changes) :
    ∀ w ∈ recorded, ¬ Layout.Misplaced declared w.slot := by
  induction hrecords with
  | nothing => exact fun w hw => absurd hw List.not_mem_nil
  | further before hnew hmade ih =>
    refine List.forall_mem_append.2 ⟨ih, List.forall_mem_singleton.2 (fun hmisplaced => ?_)⟩
    rw [StorageWrite.changes_at_misplaced _ name _ hmisplaced] at hmade
    cases hmade

namespace Replay

variable {declared : List StorageVariable} {name : Option String} {slotOnTop : Bool} {words : Words}
  {fault : Fault}

theorem repeats_of_entry_error {r : Replay} {e : TraceEntry} {w : StorageWrite}
    (hwrite : StorageWrite.recognised? slotOnTop e = some w)
    (herror : r.entry declared (.ok name) slotOnTop e = .error fault) : r.repeats w = false := by
  rw [entry_eq, hwrite] at herror
  by_contra hrepeats
  have hcounted : repeats { r with writes := r.writes + 1 } w = true := Bool.not_eq_false _ ▸ hrepeats
  dsimp only at herror
  rw [Replay.write, if_pos hcounted] at herror
  cases herror

/-- The write at which a replay is given up would have been recorded. -/
theorem run_error_recorded {entries : List TraceEntry}
    (herror : run declared (.ok name) slotOnTop words entries = .error fault) :
    fault = .negativeShift ∧ ∃ w ∈ StorageWrite.recorded words.carried
      (entries.filterMap (StorageWrite.recognised? slotOnTop)), Layout.Misplaced declared w.slot := by
  obtain ⟨done, e, rest, r, rfl, hdone, hentry⟩ := exists_split_of_foldlM_error herror
  obtain ⟨hfault, w, hw, hmisplaced⟩ := entry_error hentry
  have hrepeats := repeats_of_entry_error hw hentry
  rw [(run_recorded hdone).repeats_eq] at hrepeats
  refine ⟨hfault, w, ?_, hmisplaced⟩
  rw [List.filterMap_append, List.filterMap_cons_some hw, List.append_cons]
  refine (StorageWrite.recorded_prefix _ _).subset ?_
  rw [StorageWrite.recorded_concat, StorageWrite.record, hrepeats, if_neg Bool.false_ne_true]
  exact List.mem_append_right _ List.mem_cons_self

end Replay

/-! ## All or nothing -/

namespace History

/-- A replay is given up at a recorded write and leaves everything as it was, or adds one snapshot of the
    next number, tells so once, and touches the words of the recorded writes alone. -/
inductive AppliesWhole (settings : Settings) (h : History) (document : Json) :
    HistoryMove Snapshot → Prop
  | nothing
    (hmisplaced : ∃ w ∈ StorageWrite.recorded h.words.carried (recognised settings document),
      Layout.Misplaced h.layout w.slot) :
    AppliesWhole settings h document ⟨h, [], .error .negativeShift⟩
  | added {next : History} {s : Snapshot}
    (hplaced : ∀ w ∈ StorageWrite.recorded h.words.carried (recognised settings document),
      ¬ Layout.Misplaced h.layout w.slot)
    (hid : s.id = h.snapshots.length)
    (hsnapshots : next.snapshots = h.snapshots ++ [s])
    (hlayout : next.layout = h.layout)
    (hname : next.contractName = h.contractName)
    (habi : next.abi = h.abi)
    (hholds : next.words.Holds (StorageWrite.wordOver h.words.carried
      (StorageWrite.recorded h.words.carried (recognised settings document))))
    (hkept : ∀ key, (∀ w ∈ StorageWrite.recorded h.words.carried (recognised settings document),
      w.slotText ≠ key) → next.words[key]? = h.words[key]?) :
    AppliesWhole settings h document ⟨next, [.snapshotCreated s], .ok s⟩

/-- **All or nothing.** A trace with a hash in text or without one is replayed as a whole or not at all. -/
theorem replay_appliesWhole (settings : Settings) (h : History) (document : Json)
    (given : Option String) :
    AppliesWhole settings h document (h.replay settings document (Json.ofOption .str given)) := by
  have hends := replay_ends settings h document (Json.ofOption .str given)
  obtain ⟨name, hname⟩ := exists_hashOf given
    (ParsedTrace.ofJson (some settings.traceLimit) document)
  rw [hname] at hends
  generalize h.replay settings document (Json.ofOption .str given) = move at hends
  cases hends with
  | givenUp hrun =>
    obtain ⟨rfl, hmisplaced⟩ := Replay.run_error_recorded hrun
    exact .nothing hmisplaced
  | unnamed hrun hhash => cases hhash
  | @added _ r _ hrun hhash =>
    have hrecorded := Replay.run_recorded hrun
    have hwords : r.words = h.words.store
        (StorageWrite.recorded h.words.carried (recognised settings document)) := hrecorded.words_eq
    refine .added hrecorded.records.not_misplaced rfl rfl rfl rfl rfl ?_ (fun key hkey => ?_)
    · change r.words.Holds _
      rw [hwords]
      exact h.words.holds_store _
    · change r.words[key]? = _
      rw [hwords]
      exact h.words.getElem?_store_of_ne hkey

end History

end EvmScope
