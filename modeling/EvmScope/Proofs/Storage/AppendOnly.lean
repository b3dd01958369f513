import EvmScope.Proofs.Storage.Loading
import EvmScope.Proofs.Storage.Projection
import Mathlib.Data.List.Induction

set_option autoImplicit false

/-! # Histories only grow

Whatever is done to a history, and whether it succeeds or not, adds at most one snapshot, and this one
is numbered by its place. `History.Grows` says so of one call, and all else follows by induction on the
calls: numbers are places, snapshots stay, and as the numbers rise along the list, the snapshots up to a
number are always the same ones, so the state at a snapshot is for ever what it was when the snapshot was
new. -/

namespace EvmScope

/-! ## Calls -/

/-- What can be done to a history, short of dropping it. Looking at a history is no call, as it is a
    function of it. -/
inductive HistoryCall
  | loadLayout (layout name abi : Json)
  | deploy
  | replay (document hash : Json)
  | addSimulated (changes : List StateChange) (context : Json)

/-- Carry out a call; only whether it succeeds is kept of its result. -/
def HistoryCall.perform (settings : Settings) (h : History) : HistoryCall → HistoryMove Unit
  | loadLayout layout name abi =>
    (h.loadLayout layout name abi).mapResult (Except.map fun _ => ())
  | deploy => h.deploy.mapResult (Except.map fun _ => ())
  | replay document hash => (h.replay settings document hash).mapResult (Except.map fun _ => ())
  | addSimulated changes context =>
    (h.addSimulated changes context).mapResult (Except.map fun _ => ())

namespace History

/-- The history after some calls on a history, failed ones included. -/
def afterCalls (settings : Settings) (h : History) (calls : List HistoryCall) : History :=
  calls.foldl (fun h call => (call.perform settings h).state) h

theorem afterCalls_append (settings : Settings) (h : History) (calls later : List HistoryCall) :
    h.afterCalls settings (calls ++ later) = (h.afterCalls settings calls).afterCalls settings later :=
  List.foldl_append

theorem afterCalls_append_singleton (settings : Settings) (h : History) (calls : List HistoryCall)
    (call : HistoryCall) : h.afterCalls settings (calls ++ [call])
      = (call.perform settings (h.afterCalls settings calls)).state := by
  simp [afterCalls]

/-! ## One call -/

/-- A history becomes another one by a snapshot that has its place for a number, or keeps its
    snapshots. -/
inductive Grows (before after : History) : Prop
  | keeps (h : after.snapshots = before.snapshots)
  | adds (s : Snapshot) (hid : s.id = before.snapshots.length)
      (h : after.snapshots = before.snapshots ++ [s])

theorem grows_append (h : History) (changes : List StateChange) (hash : Option String)
    (context : List (String × Json)) : Grows h (h.append changes hash context).state :=
  .adds ⟨h.snapshots.length, changes, hash, context⟩ rfl rfl

theorem grows_loadLayout (h : History) (layout name abi : Json) :
    Grows h (h.loadLayout layout name abi).state := by
  have hends := h.loadLayout_ends layout name abi
  generalize h.loadLayout layout name abi = move at hends
  cases hends with
  | unread hlayout => exact .keeps rfl
  | halfway hlayout habi => exact .keeps rfl
  | loaded hlayout habi => exact .keeps rfl

theorem grows_deploy (h : History) : Grows h h.deploy.state := by
  unfold deploy
  split
  · exact .keeps rfl
  · exact grows_append h _ _ _

/-- A trace is given up before anything is kept of it, after its words were kept, or not at all. -/
theorem grows_replay (h : History) (settings : Settings) (document hash : Json) :
    Grows h (h.replay settings document hash).state := by
  unfold replay
  dsimp only
  split
  · exact .keeps rfl
  · split
    · exact .keeps rfl
    · exact .adds _ rfl rfl

theorem grows_addSimulated (h : History) (changes : List StateChange) (context : Json) :
    Grows h (h.addSimulated changes context).state := by
  unfold addSimulated
  split
  · exact .adds _ rfl rfl
  · split
    · exact .keeps rfl
    · exact .adds _ rfl rfl

/-- **Every call** adds a snapshot numbered by its place or none. -/
theorem grows_perform (settings : Settings) (h : History) (call : HistoryCall) :
    Grows h (call.perform settings h).state := by
  cases call with
  | loadLayout layout name abi => exact grows_loadLayout h layout name abi
  | deploy => exact grows_deploy h
  | replay document hash => exact grows_replay h settings document hash
  | addSimulated changes context => exact grows_addSimulated h changes context

/-! ## Numbers are places -/

/-- The numbers of the snapshots are their places. -/
def Numbered (h : History) : Prop :=
  h.snapshots.map Snapshot.id = List.range h.snapshots.length

theorem Grows.numbered {before after : History} (hgrows : Grows before after)
    (hnumbered : Numbered before) : Numbered after := by
  unfold Numbered at hnumbered ⊢
  cases hgrows with
  | keeps h => rw [h, hnumbered]
  | adds s hid h =>
    rw [h, List.map_append, hnumbered, List.length_append, List.length_singleton, List.range_succ,
      List.map_singleton, hid]

theorem Grows.isPrefix {before after : History} (hgrows : Grows before after) :
    before.snapshots <+: after.snapshots := by
  cases hgrows with
  | keeps h => exact ⟨[], by rw [List.append_nil, h]⟩
  | adds s hid h => exact ⟨[s], h.symm⟩

theorem Numbered.id_getElem {h : History} (hnumbered : Numbered h) (k : Nat)
    (hk : k < h.snapshots.length) : h.snapshots[k].id = k := by
  have hmap : (h.snapshots.map Snapshot.id)[k]? = (List.range h.snapshots.length)[k]? := by
    rw [hnumbered]
  simpa [hk] using hmap

/-- Taking while a test holds takes a number of members if the test tells the places below it. -/
theorem takeWhile_eq_take {α : Type} {p : α → Bool} {l : List α} {n : Nat}
    (hp : ∀ (i : Nat) (hi : i < l.length), p l[i] = decide (i < n)) : l.takeWhile p = l.take n := by
  induction l generalizing n with
  | nil => simp
  | cons a rest ih =>
    have hhead : p a = decide (0 < n) := hp 0 (by simp)
    cases n with
    | zero => simp [hhead]
    | succ n =>
      have hrest : ∀ (i : Nat) (hi : i < rest.length), p rest[i] = decide (i < n) := by
        intro i hi
        have hnext : p rest[i] = decide (i + 1 < n + 1) := hp (i + 1) (Nat.succ_lt_succ hi)
        simpa using hnext
      simp [hhead, ih hrest]

/-- The state at a snapshot is made from the snapshots up to its place. -/
theorem Numbered.currentState_eq {h : History} (hnumbered : Numbered h) (k : Nat) :
    h.currentState (some (k : Int)) = Projection.ofSnapshots (h.snapshots.take (k + 1)) := by
  have htake : h.snapshots.takeWhile (fun s => decide ((s.id : Int) ≤ (k : Int)))
      = h.snapshots.take (k + 1) := by
    refine takeWhile_eq_take ?_
    intro i hi
    rw [hnumbered.id_getElem i hi, decide_eq_decide]
    omega
  exact congrArg Projection.ofSnapshots htake

/-! ## Many calls -/

section Run

variable (settings : Settings)

theorem numbered_afterCalls {h : History} (hnumbered : Numbered h) (calls : List HistoryCall) :
    Numbered (h.afterCalls settings calls) := by
  induction calls generalizing h with
  | nil => exact hnumbered
  | cons call rest ih => exact ih ((grows_perform settings h call).numbered hnumbered)

theorem isPrefix_afterCalls (h : History) (calls : List HistoryCall) :
    h.snapshots <+: (h.afterCalls settings calls).snapshots := by
  induction calls generalizing h with
  | nil => exact List.prefix_rfl
  | cons call rest ih => exact (grows_perform settings h call).isPrefix.trans (ih _)

/-- The state at the last snapshot stays what it is, whatever calls follow. -/
theorem Numbered.currentState_afterCalls {h : History} (hnumbered : Numbered h) (k : Nat)
    (hlast : h.snapshots.length = k + 1) (later : List HistoryCall) :
    (h.afterCalls settings later).currentState (some (k : Int)) = h.currentState none := by
  have hfirst : (h.afterCalls settings later).snapshots.take (k + 1) = h.snapshots := by
    rw [← hlast]
    exact (List.prefix_iff_eq_take.1 (isPrefix_afterCalls settings h later)).symm
  rw [(numbered_afterCalls settings hnumbered later).currentState_eq k, hfirst]
  rfl

/-- Every snapshot was added by one of the calls, when it had the last place. -/
theorem exists_call_of_lt (calls : List HistoryCall) (k : Nat)
    (hk : k < (empty.afterCalls settings calls).snapshots.length) :
    ∃ before call later, calls = before ++ call :: later
      ∧ (empty.afterCalls settings before).snapshots.length = k
      ∧ (empty.afterCalls settings (before ++ [call])).snapshots.length = k + 1 := by
  -- either the last call added the snapshot, or it was there before
  induction calls using List.reverseRecOn with
  | nil => exact absurd hk (Nat.not_lt_zero k)
  | append_singleton calls call ih =>
    by_cases hbefore : k < (empty.afterCalls settings calls).snapshots.length
    · obtain ⟨before, first, later, rfl, hlength⟩ := ih hbefore
      refine ⟨before, first, later ++ [call], ?_, hlength⟩
      rw [List.append_assoc, List.cons_append]
    · refine ⟨calls, call, [], rfl, ?_⟩
      rw [afterCalls_append_singleton] at hk ⊢
      cases grows_perform settings (empty.afterCalls settings calls) call with
      | keeps h =>
        rw [h] at hk
        exact absurd hk hbefore
      | adds s hid h =>
        rw [h, List.length_append, List.length_singleton] at hk ⊢
        omega

/-- What holds of a history after some calls. -/
structure IsAppendOnly (calls : List HistoryCall) : Prop where
  /-- The numbers of the snapshots are their places. -/
  ids_eq : (empty.afterCalls settings calls).snapshots.map Snapshot.id
    = List.range (empty.afterCalls settings calls).snapshots.length
  exists_snapshot?_iff : ∀ id : Int, (∃ s, (empty.afterCalls settings calls).snapshot? id = some s)
    ↔ 0 ≤ id ∧ id < (empty.afterCalls settings calls).snapshots.length
  id_of_snapshot? : ∀ (id : Int) (s : Snapshot),
    (empty.afterCalls settings calls).snapshot? id = some s → (s.id : Int) = id
  /-- Calls that follow leave the snapshots as they are and where they are. -/
  isPrefix : ∀ later, (empty.afterCalls settings calls).snapshots
    <+: (empty.afterCalls settings (calls ++ later)).snapshots
  /-- Every snapshot was added by one call, and the state at it is the one right after this call. -/
  exists_added : ∀ k < (empty.afterCalls settings calls).snapshots.length,
    ∃ before call later, calls = before ++ call :: later
      ∧ (empty.afterCalls settings before).snapshots.length = k
      ∧ (empty.afterCalls settings (before ++ [call])).snapshots.length = k + 1
  currentState_eq : ∀ (k : Nat) (before : List HistoryCall) (call : HistoryCall)
    (later : List HistoryCall), calls = before ++ call :: later →
    (empty.afterCalls settings before).snapshots.length = k →
    (empty.afterCalls settings (before ++ [call])).snapshots.length = k + 1 →
    (empty.afterCalls settings calls).currentState (some (k : Int))
      = (empty.afterCalls settings (before ++ [call])).currentState none

/-- **Histories are append-only**, and the state at a snapshot is for ever the one that there was when
    the snapshot was added. -/
theorem afterCalls_isAppendOnly (calls : List HistoryCall) : IsAppendOnly settings calls := by
  have hempty : Numbered empty := rfl
  have hnumbered := numbered_afterCalls settings hempty calls
  refine ⟨hnumbered, ?_, ?_, ?_, exists_call_of_lt settings calls, ?_⟩
  · intro id
    unfold snapshot?
    by_cases hneg : id < 0
    · rw [if_pos hneg]
      constructor
      · rintro ⟨s, hs⟩
        cases hs
      · rintro ⟨hpos, -⟩
        omega
    · simp only [if_neg hneg, ← Option.isSome_iff_exists, isSome_getElem?]
      omega
  · intro id s hs
    unfold snapshot? at hs
    by_cases hneg : id < 0
    · simp [hneg] at hs
    · rw [if_neg hneg, List.getElem?_eq_some_iff] at hs
      obtain ⟨hlt, rfl⟩ := hs
      rw [hnumbered.id_getElem _ hlt]
      omega
  · intro later
    rw [afterCalls_append]
    exact isPrefix_afterCalls settings _ later
  · rintro k before call later rfl - hlength
    have hsplit : before ++ call :: later = (before ++ [call]) ++ later := by simp
    rw [hsplit, afterCalls_append]
    exact (numbered_afterCalls settings hempty _).currentState_afterCalls settings k hlength later

end Run

end History

end EvmScope
