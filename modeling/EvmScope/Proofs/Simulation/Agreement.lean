import EvmScope.Proofs.Simulation.Commitment
import EvmScope.Proofs.Simulation.Writes
import EvmScope.Proofs.Storage.Simulated

set_option autoImplicit false

/-! # The state of a draft and the current state

A call that is carried out computes the state after it twice: the draft is written to in place, and the
history applies the changes that the draft recorded. A change finds its entry again by its key, and the
key is made anew from the name of the variable or from the slot. So the two states agree, entry by entry
and in the same order, if every entry that is written to has the key that its change will have. This is
so for all entries but one kind, which `StateChange.Addressed` leaves out: those of variables whose names
begin like the key of a slot. -/

namespace EvmScope

/-- A change leads back to the entry it makes: it has a slot, and if it names a variable by a label that
    begins like the key of a slot, this is the key of its own slot. -/
def StateChange.Addressed (c : StateChange) : Prop :=
  c.slot ≠ "" ∧ ∀ label, c.variableName = some label → beginsWith label "slot_" = true →
    label = slotKey c.slot

/-- An entry is found again by a change that is recorded when it is written to. -/
structure StateEntry.Findable (key : String) (e : StateEntry) : Prop where
  key_ne_empty : key ≠ ""
  typeName_ne_empty : e.typeName ≠ ""
  slot_ne_empty : e.slot ≠ ""
  eq_slotKey : beginsWith key "slot_" = true → key = StateChange.slotKey e.slot

theorem StateChange.key_ne_empty (c : StateChange) : c.key ≠ "" := by
  have hslot : slotKey c.slot ≠ "" := by
    intro hempty
    have hbegins := beginsWith_slotKey c.slot
    rw [hempty] at hbegins
    exact absurd hbegins (by decide)
  unfold key
  split
  · split
    · exact hslot
    · assumption
  · exact hslot

/-- The entry that an addressed change makes can be found again. -/
theorem StateChange.Addressed.findable {c : StateChange} (haddressed : c.Addressed) (snapshot : Nat) :
    StateEntry.Findable c.key (StateEntry.ofChange snapshot c) := by
  refine ⟨c.key_ne_empty, ?_, haddressed.1, fun hbegins => ?_⟩
  · unfold StateEntry.ofChange
    dsimp only
    split
    · decide
    · assumption
  · unfold StateChange.key at hbegins ⊢
    split
    · next name hname =>
      rw [hname] at hbegins
      by_cases hempty : name = ""
      · exact if_pos hempty
      · rw [if_neg hempty]
        dsimp only at hbegins
        rw [if_neg hempty] at hbegins
        exact haddressed.2 name hname hbegins
    · rfl

/-! ## Where entries come from -/

namespace Projection

theorem nodup_keys_foldl_apply (snapshot : Nat) (changes : List StateChange) {state : Projection}
    (hnodup : (Table.keys state).Nodup) :
    (Table.keys (changes.foldl (apply snapshot) state)).Nodup := by
  induction changes generalizing state with
  | nil => exact hnodup
  | cons c rest ih => exact ih (Table.nodup_keys_put hnodup _ _)

/-- No key comes twice in the state after some snapshots. -/
theorem nodup_keys_foldl_applySnapshot (snapshots : List Snapshot) {state : Projection}
    (hnodup : (Table.keys state).Nodup) :
    (Table.keys (snapshots.foldl applySnapshot state)).Nodup := by
  induction snapshots generalizing state with
  | nil => exact hnodup
  | cons s rest ih => exact ih (nodup_keys_foldl_apply s.id s.changes hnodup)

/-- Every entry after some changes is that of a change with its key, or was there before. -/
theorem exists_change_of_foldl {changes : List (Snapshot × StateChange)} {state : Projection}
    {key : String} {entry : StateEntry}
    (hentry : (changes.foldl (fun state d => apply d.1.id state d.2) state).lookup key = some entry) :
    (∃ d ∈ changes, d.2.key = key ∧ entry = StateEntry.ofChange d.1.id d.2)
      ∨ state.lookup key = some entry := by
  induction changes generalizing state with
  | nil => exact Or.inr hentry
  | cons d rest ih =>
    rcases ih hentry with ⟨other, hmem, hother⟩ | hnow
    · exact Or.inl ⟨other, List.mem_cons_of_mem _ hmem, hother⟩
    · change (apply d.1.id state d.2).lookup key = some entry at hnow
      by_cases hkey : key = d.2.key
      · rw [hkey, apply, Table.lookup_put_self] at hnow
        exact Or.inl ⟨d, List.mem_cons_self, hkey.symm, (Option.some.inj hnow).symm⟩
      · rw [apply, Table.lookup_put_of_ne _ _ _ _ hkey] at hnow
        exact Or.inr hnow

end Projection

namespace History

theorem nodup_keys_currentState (h : History) : (Table.keys (h.currentState none)).Nodup :=
  Projection.nodup_keys_foldl_applySnapshot h.snapshots List.nodup_nil

/-- Every entry of the current state was made by a change of the history. -/
theorem exists_change_of_lookup {h : History} {key : String} {entry : StateEntry}
    (hentry : (h.currentState none).lookup key = some entry) :
    ∃ d ∈ h.changes, d.2.key = key ∧ entry = StateEntry.ofChange d.1.id d.2 := by
  have hfold : h.currentState none
      = h.changes.foldl (fun state d => Projection.apply d.1.id state d.2) [] := by
    simp only [currentState, Projection.upTo, Projection.ofSnapshots, changes, List.foldl_flatMap,
      List.foldl_map]
    rfl
  rw [hfold] at hentry
  rcases Projection.exists_change_of_foldl hentry with hchange | hnone
  · exact hchange
  · cases hnone

end History

/-! ## Drafts -/

/-- An entry as a snapshot leaves it: those at its keys are last changed by it. -/
def StateEntry.stampedAt (snapshot : Nat) (keys : List String) (key : String) (e : StateEntry) :
    StateEntry :=
  if key ∈ keys then { e with lastChanged := snapshot } else e

namespace StateEntry

theorem stampedAt_nil (snapshot : Nat) (key : String) : stampedAt snapshot [] key = id :=
  funext fun _ => if_neg List.not_mem_nil

theorem stampedAt_cons_self (snapshot : Nat) (keys : List String) (key : String) (e : StateEntry) :
    stampedAt snapshot (key :: keys) key e = { e with lastChanged := snapshot } :=
  if_pos List.mem_cons_self

theorem stampedAt_cons_of_ne (snapshot : Nat) (keys : List String) {key other : String}
    (hne : other ≠ key) : stampedAt snapshot (key :: keys) other = stampedAt snapshot keys other := by
  funext e
  simp [stampedAt, hne]

theorem stampedAt_reverse (snapshot : Nat) (keys : List String) (key : String) :
    stampedAt snapshot keys.reverse key = stampedAt snapshot keys key := by
  funext e
  simp [stampedAt]

end StateEntry

/-- A state is another one with the entries at some keys last changed by a snapshot. -/
structure Projection.IsStamped (snapshot : Nat) (keys : List String) (state stamped : Projection) :
    Prop where
  keys_eq : Table.keys stamped = Table.keys state
  lookup_eq : ∀ key, stamped.lookup key
    = (state.lookup key).map (StateEntry.stampedAt snapshot keys key)

/-- Marking the entries of changes succeeds if all of them are there. -/
theorem Simulation.stamp_ok (snapshot : Nat) (changes : List StateChange) (state : Projection)
    (hkeys : ∀ c ∈ changes, c.key ∈ Table.keys state) :
    ∃ stamped, stamp snapshot state changes = .ok stamped
      ∧ Projection.IsStamped snapshot (changes.map StateChange.key) state stamped := by
  induction changes generalizing state with
  | nil =>
    refine ⟨state, rfl, rfl, fun key => ?_⟩
    rw [List.map_nil, StateEntry.stampedAt_nil, Option.map_id, id]
  | cons c rest ih =>
    obtain ⟨entry, hentry⟩ := (Table.mem_keys_iff_exists_lookup _ _).1 (hkeys c List.mem_cons_self)
    have hput : Table.keys (Table.put state c.key { entry with lastChanged := snapshot })
        = Table.keys state := by
      rw [Table.keys_put, if_pos (hkeys c List.mem_cons_self)]
    obtain ⟨stamped, hstamp, hkept, hlookup⟩ := ih
      (Table.put state c.key { entry with lastChanged := snapshot })
      (fun other hother => hput ▸ hkeys other (List.mem_cons_of_mem _ hother))
    refine ⟨stamped, ?_, hkept.trans hput, fun key => ?_⟩
    · rw [stamp, List.foldlM_cons, hentry]
      exact hstamp
    · rw [hlookup key]
      by_cases hkey : key = c.key
      · subst hkey
        rw [Table.lookup_put_self, hentry, List.map_cons, Option.map_some, Option.map_some,
          StateEntry.stampedAt_cons_self]
        unfold StateEntry.stampedAt
        split
        · rfl
        · rfl
      · rw [Table.lookup_put_of_ne _ _ _ _ hkey, List.map_cons,
          StateEntry.stampedAt_cons_of_ne _ _ hkey]

namespace Draft

/-- The state with the changes of a draft applied as those of a snapshot. -/
def folded (snapshot : Nat) (start : Projection) (d : Draft) : Projection :=
  d.changes.reverse.foldl (Projection.apply snapshot) start

/-- A draft is in step with a state if its own state differs only in that nothing in it is marked by the
    snapshot yet. -/
structure InStep (snapshot : Nat) (start : Projection) (d : Draft) : Prop where
  keys_eq : Table.keys d.state = Table.keys start
  /-- Writing leaves the slot and the type of an entry as they are. -/
  kept : ∀ key entry, d.state.lookup key = some entry → ∃ first, start.lookup key = some first
    ∧ entry.slot = first.slot ∧ entry.typeName = first.typeName
  mem_keys : ∀ c ∈ d.changes, c.key ∈ Table.keys d.state
  stamped : Projection.IsStamped snapshot (d.changes.map StateChange.key) d.state
    (d.folded snapshot start)

variable {snapshot : Nat} {start : Projection}

theorem inStep_start : InStep snapshot start ⟨start, []⟩ where
  keys_eq := rfl
  kept := fun _ entry hentry => ⟨entry, hentry, rfl, rfl⟩
  mem_keys := fun _ hc => absurd hc List.not_mem_nil
  stamped := by
    refine ⟨rfl, fun key => ?_⟩
    rw [List.map_nil, StateEntry.stampedAt_nil, Option.map_id, id]
    rfl

/-- The change of a write has the key of the entry, if a key like that of a slot is that of the entry's own
    slot. -/
theorem key_changeOf {key : String} {entry : StateEntry} (hkey : key ≠ "")
    (hslot : beginsWith key "slot_" = true → entry.slot ≠ "" ∧ key = StateChange.slotKey entry.slot)
    (word operation : String) : (changeOf entry key word operation).key = key := by
  unfold StateChange.key changeOf
  dsimp only
  by_cases hbegins : beginsWith key "slot_" = true
  · rw [if_pos hbegins, if_neg (hslot hbegins).1]
    exact (hslot hbegins).2.symm
  · rw [if_neg hbegins]
    exact if_neg hkey

/-- The change of such a write makes the entry that the write leaves behind. -/
theorem ofChange_changeOf {key : String} {entry : StateEntry} (hfindable : entry.Findable key)
    (word operation : String) (snapshot : Nat) :
    StateEntry.ofChange snapshot (changeOf entry key word operation)
      = { written entry word operation with lastChanged := snapshot } := by
  unfold StateEntry.ofChange changeOf written
  simp [hfindable.slot_ne_empty, hfindable.typeName_ne_empty]

/-- **One write** to an entry that can be found again keeps a draft in step. -/
theorem InStep.write {d next : Draft} {key word operation : String}
    (hd : InStep snapshot start d) (hok : d.write key word operation = .ok next)
    (hfindable : ∀ first, start.lookup key = some first → first.Findable key) :
    InStep snapshot start next := by
  obtain ⟨entry, hentry, hstate, hchanges⟩ := write_ok hok
  obtain ⟨first, hfirst, hslot, htype⟩ := hd.kept key entry hentry
  obtain ⟨hkeyed, htyped, hslotted, hnamed⟩ := hfindable first hfirst
  have hfound : entry.Findable key := ⟨hkeyed, htype ▸ htyped, hslot ▸ hslotted, hslot ▸ hnamed⟩
  have hmem : key ∈ Table.keys d.state :=
    (Table.mem_keys_iff_exists_lookup _ _).2 ⟨entry, hentry⟩
  have hkeys : Table.keys next.state = Table.keys d.state := by
    rw [hstate, Table.keys_put, if_pos hmem]
  have hkey := key_changeOf hkeyed (fun hbegins => ⟨hfound.slot_ne_empty, hfound.eq_slotKey hbegins⟩)
    word operation
  have hfolded : next.folded snapshot start = Table.put (d.folded snapshot start) key
      { written entry word operation with lastChanged := snapshot } := by
    rw [folded, hchanges, List.reverse_cons, List.foldl_append, List.foldl_cons, List.foldl_nil,
      Projection.apply, hkey, ofChange_changeOf hfound]
    rfl
  refine ⟨hkeys.trans hd.keys_eq, ?_, ?_, ?_, ?_⟩
  · intro k e he
    rw [hstate] at he
    by_cases hk : k = key
    · subst hk
      rw [Table.lookup_put_self] at he
      cases he
      exact ⟨first, hfirst, hslot, htype⟩
    · rw [Table.lookup_put_of_ne _ _ _ _ hk] at he
      exact hd.kept k e he
  · intro c hc
    rw [hkeys]
    rw [hchanges] at hc
    rcases List.mem_cons.1 hc with rfl | hc
    · rw [hkey]
      exact hmem
    · exact hd.mem_keys c hc
  · rw [hfolded, Table.keys_put, hkeys, hd.stamped.keys_eq, if_pos hmem]
  · intro k
    rw [hfolded, hstate, hchanges, List.map_cons, hkey]
    by_cases hk : k = key
    · subst hk
      rw [Table.lookup_put_self, Table.lookup_put_self, Option.map_some,
        StateEntry.stampedAt_cons_self]
    · rw [Table.lookup_put_of_ne _ _ _ _ hk, Table.lookup_put_of_ne _ _ _ _ hk,
        hd.stamped.lookup_eq k, StateEntry.stampedAt_cons_of_ne _ _ hk]

/-- **Many writes** keep a draft in step. -/
theorem Writes.inStep {keys : List String} {d : Draft} (hwrites : Writes ⟨start, []⟩ keys d)
    (hfindable : ∀ key ∈ keys, ∀ first, start.lookup key = some first → first.Findable key) :
    InStep snapshot start d := by
  induction hwrites with
  | none => exact inStep_start
  | more _ hwrite ih =>
    refine (ih (fun key hkey => hfindable key (List.mem_append_left _ hkey))).write hwrite ?_
    exact hfindable _ (List.mem_append_right _ List.mem_cons_self)

end Draft

/-! ## Calls -/

namespace Simulation

variable {h : History} {functions : List AbiFunction} {name arguments : Json} {f : AbiFunction}
  {values : List Json} {draft : Draft}

theorem currentState_commit (h : History) (f : AbiFunction) (values : List Json) (draft : Draft) :
    (commit h f values draft.state draft.changes.reverse).state.currentState none
      = draft.folded h.snapshots.length (h.currentState none) := by
  have hadded : (commit h f values draft.state draft.changes.reverse).state.snapshots
      = h.snapshots ++ [snapshotOf h f values draft.changes.reverse] := rfl
  exact History.currentState_of_snapshots rfl hadded

/-- A draft that is in step is committed, and the state that is shown is the current one. -/
theorem commit_of_inStep
    (hstep : Draft.InStep h.snapshots.length (h.currentState none) draft) :
    (commit h f values draft.state draft.changes.reverse).result = .ok
      ⟨draft.changes.reverse, draft.folded h.snapshots.length (h.currentState none), []⟩ := by
  obtain ⟨stamped, hstamp, hkeys, hlookup⟩ := stamp_ok h.snapshots.length draft.changes.reverse
    draft.state (fun c hc => hstep.mem_keys c (List.mem_reverse.1 hc))
  have hnodup : (Table.keys stamped).Nodup := by
    rw [hkeys, hstep.keys_eq]
    exact h.nodup_keys_currentState
  have hsame : stamped = draft.folded h.snapshots.length (h.currentState none) := by
    refine Table.eq_of_lookup_eq hnodup (hkeys.trans hstep.stamped.keys_eq.symm) (fun key => ?_)
    rw [hlookup, hstep.stamped.lookup_eq, List.map_reverse, StateEntry.stampedAt_reverse]
  rw [result_commit, hstamp, hsame]
  rfl

/-- An entry of a history was left by a change that does not lead back to it. -/
def LeftUnaddressed (h : History) (key : String) : Prop :=
  ∃ d ∈ h.changes, d.2.key = key
    ∧ (h.currentState none).lookup key = some (StateEntry.ofChange d.1.id d.2)
    ∧ ¬ d.2.Addressed

/-- **Agreement.** A call over the current state of a history that makes changes returns, and the state
    it shows is the current state of the history after it, in every entry and in their order. The only
    exception is a call that writes to an entry that a change without an address left. -/
theorem run_agrees_or_writes_unaddressed (h : History) (functions : List AbiFunction)
    (name arguments : Json) (f : AbiFunction) (values : List Json) (draft : Draft)
    (memory : Nat) (hmakes : Makes functions name arguments (h.currentState none) memory f values draft) :
    let move := run h functions name arguments none memory
    (∃ r, move.result = .ok r ∧ r.errors = [] ∧ r.changes = draft.changes.reverse
      ∧ r.state = move.state.currentState none)
    ∨ ∃ keys, Draft.Writes ⟨h.currentState none, []⟩ keys draft
      ∧ ∃ key ∈ keys, LeftUnaddressed h key := by
  intro move
  have hmove : move = commit h f values draft.state draft.changes.reverse := hmakes.run_eq
  obtain ⟨keys, hwrites⟩ := Draft.writes_of_apply hmakes.applied
  by_cases hleft : ∃ key ∈ keys, LeftUnaddressed h key
  · exact Or.inr ⟨keys, hwrites, hleft⟩
  · left
    have hfindable : ∀ key ∈ keys, ∀ first, (h.currentState none).lookup key = some first →
        first.Findable key := by
      intro key hkey first hfirst
      obtain ⟨d, hd, rfl, rfl⟩ := History.exists_change_of_lookup hfirst
      by_cases haddressed : d.2.Addressed
      · exact haddressed.findable d.1.id
      · exact absurd ⟨d.2.key, hkey, d, hd, rfl, hfirst, haddressed⟩ hleft
    rw [hmove, currentState_commit]
    exact ⟨_, commit_of_inStep (hwrites.inStep hfindable), rfl, rfl, rfl⟩

/-! ## A transfer to oneself -/

/-- A history of one balance that a simulated call has set to nine. -/
def ownBalance : History :=
  let layout : Json := .arr [.obj [("label", .str "alice_balance"), ("slot", .str "0"),
    ("type", .str "t_uint256")]]
  let deployed := (History.empty.loadLayout layout (.str "Token") (.arr [])).state.deploy.state
  (deployed.addSimulated [⟨"0x0", "0x0", "0x9", some "alice_balance", some "Number (uint256)", "SET",
    0, 0, none⟩] .null).state

/-- The draft of a transfer of five from the balance to itself. -/
def transferToOneself : Draft where
  state := [("alice_balance", ⟨"Number (uint256)", "0x9", "9", "0x4", 1, "0x0", "TRANSFER_TO"⟩)]
  changes :=
    [ ⟨"0x0", "0x4", "0x9", some "alice_balance", some "Number (uint256)", "TRANSFER_TO", 0, 0, none⟩,
      ⟨"0x0", "0x9", "0x4", some "alice_balance", some "Number (uint256)", "TRANSFER_FROM", 0, 0,
        none⟩ ]

theorem makes_transferToOneself :
    Makes [transferFunction] (.str "transfer") (.arr [.str "alice", .int 5]) (ownBalance.currentState none)
      Argument.standardMemory transferFunction [.str "alice", .int 5] transferToOneself where
  found := rfl
  listed := rfl
  accepted := rfl
  writes := rfl
  applied := rfl
  changed := List.cons_ne_nil _ _

theorem run_agrees_or_writes_unaddressed_ownBalance :
    let move := run ownBalance [transferFunction] (.str "transfer") (.arr [.str "alice", .int 5]) none
    Makes [transferFunction] (.str "transfer") (.arr [.str "alice", .int 5]) (ownBalance.currentState none)
        Argument.standardMemory transferFunction [.str "alice", .int 5] transferToOneself
      ∧ ((∃ r, move.result = .ok r ∧ r.errors = [] ∧ r.changes = transferToOneself.changes.reverse
          ∧ r.state = move.state.currentState none)
        ∨ ∃ keys, Draft.Writes ⟨ownBalance.currentState none, []⟩ keys transferToOneself
          ∧ ∃ key ∈ keys, LeftUnaddressed ownBalance key) :=
  ⟨makes_transferToOneself,
    run_agrees_or_writes_unaddressed ownBalance [transferFunction] (.str "transfer")
      (.arr [.str "alice", .int 5]) transferFunction [.str "alice", .int 5] transferToOneself
      Argument.standardMemory makes_transferToOneself⟩

/-! ## A variable with the name of a slot -/

/-- A history of one variable whose label begins like the key of a slot. -/
def slotLikeLabel : History :=
  let layout : Json := .arr [.obj [("label", .str "slot_x"), ("slot", .str "0"),
    ("type", .str "t_uint256")]]
  (History.empty.loadLayout layout (.str "Counter") (.arr [])).state.deploy.state

/-- A function that counts up. -/
def pokeFunction : AbiFunction := ⟨"poke", [], [], .str "nonpayable"⟩

/-- The exception is real: the change of a call that counts `slot_x` up is recorded for its slot, the
    state of the draft has no entry at the key of the slot, and the call fails with its snapshot already
    added. -/
theorem run_refuses_slotLikeLabel :
    (∃ draft, Makes [pokeFunction] (.str "poke") (.arr []) (slotLikeLabel.currentState none)
        Argument.standardMemory pokeFunction [] draft)
      ∧ (run slotLikeLabel [pokeFunction] (.str "poke") (.arr []) none).result = .error .noEntry
      ∧ (run slotLikeLabel [pokeFunction] (.str "poke") (.arr []) none).state.snapshots.length = 2 := by
  refine ⟨⟨_, ⟨rfl, rfl, rfl, rfl, rfl, List.cons_ne_nil _ _⟩⟩, rfl, rfl⟩

end Simulation

end EvmScope
