import EvmScope.Proofs.Text.Numeral
import EvmScope.Storage.History

set_option autoImplicit false

/-! # What changes do to the current state

The current state is looked up by key, so what a list of changes does to it can be said one key at a
time: a key that none of them has keeps its entry, and where no two changes share a key, the key of
each has the entry of this change. Adding a snapshot to a history applies its changes to the state
before. The keys of variables and those of bare slots are kept apart here too. -/

namespace EvmScope

/-! ## Keys -/

namespace StateChange

theorem key_of_label (c : StateChange) (label : String) (hname : c.variableName = some label)
    (hlabel : label ≠ "") : c.key = label := by
  rw [key, hname]
  exact if_neg hlabel

/-- Slots of different written forms have different keys. -/
theorem slotKey_injective (a b : String) (h : slotKey a = slotKey b) : a = b := by
  rw [slotKey, slotKey, ← String.toList_inj, String.toList_append, String.toList_append] at h
  exact String.toList_inj.1 (List.append_cancel_left h)

/-- The key of a slot begins with the mark of such keys. -/
theorem beginsWith_slotKey (slot : String) : beginsWith (slotKey slot) "slot_" = true := by
  rw [beginsWith, slotKey, String.toList_append, List.isPrefixOf_iff_prefix]
  exact List.prefix_append _ _

end StateChange

/-! ## Changes by key -/

namespace Projection

/-- The number that a state shows at a key. -/
def number? (state : Projection) (key : String) : Option Int :=
  (state.lookup key).bind (fun entry => Numeral.read? .hexadecimal entry.value)

theorem lookup_foldl_apply_of_ne (snapshot : Nat) (changes : List StateChange) (state : Projection)
    (key : String) (hkey : ∀ c ∈ changes, c.key ≠ key) :
    (changes.foldl (apply snapshot) state).lookup key = state.lookup key := by
  induction changes generalizing state with
  | nil => rfl
  | cons c rest ih =>
    have hc : key ≠ c.key := fun h => hkey c List.mem_cons_self h.symm
    rw [List.foldl_cons, ih _ (fun other hother => hkey other (List.mem_cons_of_mem _ hother)), apply,
      Table.lookup_put_of_ne _ _ _ _ hc]

theorem number?_foldl_apply_of_ne (snapshot : Nat) (changes : List StateChange) (state : Projection)
    (key : String) (hkey : ∀ c ∈ changes, c.key ≠ key) :
    (changes.foldl (apply snapshot) state).number? key = state.number? key := by
  rw [number?, number?, lookup_foldl_apply_of_ne snapshot changes state key hkey]

theorem lookup_foldl_apply_of_mem (snapshot : Nat) (changes : List StateChange)
    (state : Projection) (hnodup : (changes.map StateChange.key).Nodup) (c : StateChange)
    (hc : c ∈ changes) :
    (changes.foldl (apply snapshot) state).lookup c.key
      = some (StateEntry.ofChange snapshot c) := by
  -- the last change with the key wins, and only one has it
  induction changes generalizing state with
  | nil => exact absurd hc List.not_mem_nil
  | cons head rest ih =>
    rw [List.map_cons, List.nodup_cons] at hnodup
    rw [List.foldl_cons]
    rcases List.mem_cons.1 hc with rfl | hrest
    · -- no later change has this key, so the first entry stays
      have hkeys : ∀ other ∈ rest, other.key ≠ c.key := by
        intro other hother heq
        exact hnodup.1 (heq ▸ List.mem_map_of_mem hother)
      rw [lookup_foldl_apply_of_ne _ _ _ _ hkeys, apply, Table.lookup_put_self]
    · exact ih _ hnodup.2 hrest

/-! ## One change for each variable -/

section Labelled

variable {change : StorageVariable → StateChange} {vars : List StorageVariable}

theorem lookup_foldl_labelled_of_ne (hkey : ∀ v ∈ vars, (change v).key = v.label) (key : String)
    (hne : ∀ v ∈ vars, v.label ≠ key) (snapshot : Nat) (state : Projection) :
    ((vars.map change).foldl (apply snapshot) state).lookup key = state.lookup key := by
  refine lookup_foldl_apply_of_ne snapshot _ state key ?_
  intro c hc
  obtain ⟨v, hv, rfl⟩ := List.mem_map.1 hc
  rw [hkey v hv]
  exact hne v hv

theorem lookup_foldl_labelled_of_mem (hkey : ∀ v ∈ vars, (change v).key = v.label)
    (hnodup : (vars.map StorageVariable.label).Nodup) (v : StorageVariable) (hv : v ∈ vars)
    (snapshot : Nat) (state : Projection) :
    ((vars.map change).foldl (apply snapshot) state).lookup v.label
      = some (StateEntry.ofChange snapshot (change v)) := by
  have hkeys : (vars.map change).map StateChange.key = vars.map StorageVariable.label := by
    rw [List.map_map]
    exact List.map_congr_left hkey
  rw [← hkey v hv]
  refine lookup_foldl_apply_of_mem snapshot _ state ?_ _ (List.mem_map_of_mem hv)
  rw [hkeys]
  exact hnodup

end Labelled

end Projection

/-! ## Snapshots -/

/-- One more snapshot applies its changes to the current state. -/
theorem History.currentState_of_snapshots {h next : History} {s : Snapshot}
    (hid : s.id = h.snapshots.length) (hsnapshots : next.snapshots = h.snapshots ++ [s]) :
    next.currentState none
      = s.changes.foldl (Projection.apply h.snapshots.length) (h.currentState none) := by
  rw [currentState, currentState, Projection.upTo, Projection.upTo, Projection.ofSnapshots,
    Projection.ofSnapshots, hsnapshots, List.foldl_append, List.foldl_cons, List.foldl_nil,
    Projection.applySnapshot, hid]

theorem History.currentState_append (h : History) (changes : List StateChange)
    (hash : Option String) (context : List (String × Json)) :
    (h.append changes hash context).state.currentState none
      = changes.foldl (Projection.apply h.snapshots.length) (h.currentState none) := by
  have hadded : (h.append changes hash context).state.snapshots
      = h.snapshots ++ [⟨h.snapshots.length, changes, hash, context⟩] := rfl
  exact currentState_of_snapshots rfl hadded

end EvmScope
