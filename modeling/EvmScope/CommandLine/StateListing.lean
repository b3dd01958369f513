import EvmScope.Json.Literal
import EvmScope.Storage.Projection
import EvmScope.Text.Search
import EvmScope.Text.Style

set_option autoImplicit false

/-! # Listings of storage

The snapshots of a history and the state after them as people read them. Quiet listings leave out the
snapshots. -/

namespace EvmScope.CommandLine

/-- The line of a snapshot: its number, what it comes from, its size and its transaction. -/
def snapshotLine (s : Snapshot) : String :=
  let kind := ((s.context.lookup "type").map Json.display).getD "?"
  let hash :=
    match s.transactionHash with
    | some hash => if hash = "" then "" else "  " ++ Style.paint [.dim] hash
    | none => ""
  "  " ++ Style.paint [.dim] ("#" ++ padRight 3 (Numeral.decimal s.id)) ++ " " ++ padRight 14 kind
    ++ " " ++ Numeral.decimal s.changes.length ++ " changes" ++ hash

/-- The line of an entry, its key as wide as the widest one. -/
def entryLine (width : Nat) (key : String) (e : StateEntry) : String :=
  "  " ++ Style.paint [.brightCyan] (padRight width key) ++ "  " ++ e.display ++ "  "
    ++ Style.paint [.dim] (e.typeName ++ " @ " ++ e.slot ++ ", #" ++ Numeral.decimal e.lastChanged
      ++ " " ++ e.operation)

/-- Snapshots and a state as people read them. -/
def stateListing (quiet : Bool) (snapshots : List Snapshot) (state : Projection) : String :=
  let heading :=
    if quiet then []
    else ("\n" ++ Style.paint [.bold] "Snapshots") :: snapshots.map snapshotLine ++ [""]
  let none := if state.isEmpty then [Style.paint [.dim] "  (no storage values recorded)"] else []
  let width := (state.map (fun entry => entry.1.length)).foldl max 0
  "\n".intercalate (heading ++ [Style.paint [.bold] "Current state"] ++ none
    ++ state.map (fun (key, e) => entryLine width key e))

end EvmScope.CommandLine
