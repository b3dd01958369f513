import EvmScope.Storage.Change
import EvmScope.Table

set_option autoImplicit false

/-! # The current state

The state after a history is no part of the history: it is computed from the changes, of which the last
one to a key wins. A key keeps the place that its first change gave it. -/

namespace EvmScope

/-- The values of variables and slots by key, in the order in which they were first written. -/
abbrev Projection := List (String × StateEntry)

namespace Projection

/-- Apply a change of a snapshot. -/
def apply (snapshot : Nat) (state : Projection) (c : StateChange) : Projection :=
  Table.put state c.key (StateEntry.ofChange snapshot c)

/-- Apply all changes of a snapshot. -/
def applySnapshot (state : Projection) (s : Snapshot) : Projection :=
  s.changes.foldl (apply s.id) state

/-- The snapshots up to and including one, or all. -/
def upTo (last? : Option Int) (snapshots : List Snapshot) : List Snapshot :=
  match last? with
  | none => snapshots
  | some last => snapshots.takeWhile (fun s => (s.id : Int) ≤ last)

/-- The state after a list of snapshots. -/
def ofSnapshots (snapshots : List Snapshot) : Projection :=
  snapshots.foldl applySnapshot []

/-- A state as JSON. -/
def toJson (state : Projection) : Json :=
  .obj (state.map (fun (key, entry) => (key, entry.toJson)))

end Projection

end EvmScope
