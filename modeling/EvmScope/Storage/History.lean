import EvmScope.Event
import EvmScope.Settings.Basic
import EvmScope.Storage.Projection
import EvmScope.Storage.Replay
import EvmScope.Transition

set_option autoImplicit false

/-! # Storage histories

The history of a contract's storage is a list of snapshots that only grows. Snapshots come from three
sources: the layout, which gives every variable its first value, traces, whose storage writes are
replayed, and simulated calls. Beside the snapshots the history keeps the words that slots hold, so that
the old value of a write is known. -/

namespace EvmScope

/-- The storage of one contract over time. -/
structure History where
  /-- The snapshots, the first one first; each one's number is its place. -/
  snapshots : List Snapshot
  layout : List StorageVariable
  words : Words
  /-- The name of the contract as its artifact gives it. -/
  contractName : Json
  abi : List Json
  /-- The counts of the last trace. -/
  tally : ReplayTally

/-- What a history tells its handlers. -/
inductive HistoryEvent
  | snapshotCreated (snapshot : Snapshot)
  | contractAnalyzed (name : Json) (abi : List Json) (declared : List StorageVariable)

/-- The topic of an event of a history. -/
def HistoryEvent.topic : HistoryEvent → Topic
  | snapshotCreated _ => .snapshotCreated
  | contractAnalyzed _ _ _ => .contractAnalyzed

/-- A step of a history. -/
abbrev HistoryMove (α : Type) := Transition History HistoryEvent (Except Fault α)

namespace History

/-- The history of no contract. -/
def empty : History := ⟨[], [], ∅, .str "", [], ReplayTally.zero⟩

/-- Give an operation up and leave the history in some state. -/
def refuse {α : Type} (h : History) (fault : Fault) : HistoryMove α :=
  .stay h (.error fault)

/-! ## Looking at a history -/

/-- The snapshot of a number. -/
def snapshot? (h : History) (id : Int) : Option Snapshot :=
  if id < 0 then none else h.snapshots[id.toNat]?

/-- The state after a snapshot, or after the last one. -/
def currentState (h : History) (last? : Option Int) : Projection :=
  Projection.ofSnapshots (Projection.upTo last? h.snapshots)

/-- The variables of a slot. -/
def variablesAt (h : History) (slot : String) : List StorageVariable :=
  Layout.variablesAt h.layout slot

/-! ## Snapshots -/

/-- Add a snapshot behind the others. -/
def append (h : History) (changes : List StateChange) (hash : Option String)
    (context : List (String × Json)) : HistoryMove Snapshot :=
  let s : Snapshot := ⟨h.snapshots.length, changes, hash, context⟩
  ⟨{ h with snapshots := h.snapshots ++ [s] }, [.snapshotCreated s], .ok s⟩

/-! ## Layout -/

/-- The items of a list of descriptors; null and other absent values have none. Fails on values that
    cannot be gone through. -/
def items : Json → Except Fault (List Json)
  | .arr items => .ok items
  | .obj fields => .ok (fields.map (fun field => .str field.1))
  | .str text => .ok (text.toList.map (fun c => .str (String.singleton c)))
  | value => if value.isPresent then .error .wrongKind else .ok []

/-- Replace the variables by those of a layout and take over the contract's name and descriptors. If the
    descriptors are of no use, the variables and the name are replaced all the same. -/
def loadLayout (h : History) (layout name abi : Json) : HistoryMove (List StorageVariable) :=
  match Layout.read layout with
  | .error fault => h.refuse fault
  | .ok declared =>
    let named := { h with layout := declared, contractName := name }
    match items abi with
    | .error fault => named.refuse fault
    | .ok abi =>
      ⟨{ named with abi := abi }, [.contractAnalyzed name abi declared], .ok declared⟩

/-- The change that gives a variable its first value. -/
def firstChange (v : StorageVariable) : StateChange where
  slot := v.slotText
  oldValue := Word.zeroText
  newValue := Word.defaultText v.typeLabel
  variableName := some v.label
  typeName := some (Word.friendlyType v.typeLabel)
  operation := "INITIAL"
  offset := 0
  depth := 0
  transactionHash := none

/-- Give all variables their first value; without variables nothing happens. -/
def deploy (h : History) : HistoryMove (Option Snapshot) :=
  if h.layout.isEmpty then .stay h (.ok none)
  else
    let move := h.append (h.layout.map firstChange) none
      [("type", .str "initial_state"), ("contract_name", h.contractName)]
    ⟨move.state, move.events, move.result.map some⟩

/-! ## Traces -/

/-- What a trace says about its transaction, with the number of unusable entries if there are any. -/
def traceContext (document : Json) (unusable : Nat) : List (String × Json) :=
  let ofDocument :=
    match document with
    | .obj fields =>
      [ ("to", Json.fieldOrNull "to" fields),
        ("from", (Json.fieldOrNull "from" fields).orElse (.str "unknown")),
        ("value", (Json.fieldOrNull "value" fields).orElse (.str Word.zeroText)) ]
    | _ => []
  ("type", .str "trace") :: ofDocument
    ++ (if unusable = 0 then [] else [("skipped_entries", .int unusable)])

/-- The hash of a transaction: the given one, else the one of its trace. A given hash that is no text is
    a fault. -/
def hashOf (given : Json) (trace : ParsedTrace) : Except Fault (Option String) :=
  if given.isPresent then
    (Schema.string given).map some |>.mapError (fun kind => .fields [⟨"transaction_hash", kind⟩])
  else .ok trace.transactionHash

/-- Replay a trace and add a snapshot of the changes it makes. -/
def replay (h : History) (settings : Settings) (document hash : Json) : HistoryMove Snapshot :=
  let trace := ParsedTrace.ofJson (some settings.traceLimit) document
  let hash := hashOf hash trace
  match Replay.run h.layout hash settings.slotOnTop h.words trace.entries with
  | .error fault => h.refuse fault
  | .ok r =>
    let tally : ReplayTally := ⟨trace.total, trace.skipped, r.writes, r.malformed, r.repetitions⟩
    let replayed := { h with words := r.words, tally := tally }
    match hash with
    | .error fault => replayed.refuse fault
    | .ok hash =>
      replayed.append r.changes.reverse hash
        (traceContext document (tally.skipped + tally.malformed))

/-! ## Simulated calls -/

/-- Take over the new word of a simulated change, unless several variables share its slot or the new
    value is no word. -/
def adopt (h : History) (words : Words) (c : StateChange) : Words :=
  if 1 < (h.variablesAt c.slot).length then words
  else
    match Word.ofText c.newValue with
    | .ok word => words.insert c.slot word
    | .error _ => words

/-- Add a snapshot of simulated changes. The context must be an object or absent. -/
def addSimulated (h : History) (changes : List StateChange) (context : Json) :
    HistoryMove Snapshot :=
  let adopted := { h with words := changes.foldl h.adopt h.words }
  let base : List (String × Json) := [("type", .str "simulation")]
  match context with
  | .obj fields =>
    adopted.append changes none
      (fields.foldl (fun context field => Table.put context field.1 field.2) base)
  | value => if value.isPresent then adopted.refuse .wrongKind else adopted.append changes none base

end History

end EvmScope
