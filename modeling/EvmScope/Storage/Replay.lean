import EvmScope.Storage.Change
import EvmScope.Storage.Layout
import EvmScope.Trace.Parsed
import Std.Data.HashMap

set_option autoImplicit false

/-! # Replaying storage writes

The storage writes of a trace are replayed over the words that storage held before. A write that leaves
its slot as an earlier write of the same trace left it is a repetition, and so is a first write of zero
to a slot that holds zero; repetitions are counted and leave no change. A write to a slot of several
variables leaves a change for each variable whose bytes differ, or for all of them if none do. -/

namespace EvmScope

/-- The words that slots hold, by the written form of the slot; other slots hold zero. -/
abbrev Words := Std.HashMap String Int

/-- The word of a slot. -/
def Words.at (words : Words) (slot : String) : Int := words.getD slot 0

/-- Counts of one replayed trace. -/
structure ReplayTally where
  entries : Nat
  skipped : Nat
  writes : Nat
  /-- Writes whose operands are no words. -/
  malformed : Nat
  /-- Writes that repeat what the slot holds. -/
  repetitions : Nat
  deriving DecidableEq, Repr

namespace ReplayTally

/-- Nothing was replayed. -/
def zero : ReplayTally := ⟨0, 0, 0, 0, 0⟩

/-- Counts as JSON. -/
def toJson (t : ReplayTally) : Json :=
  .obj
    [ ("trace_entries", .int t.entries), ("skipped_entries", .int t.skipped),
      ("sstore_count", .int t.writes), ("malformed_sstores", .int t.malformed),
      ("noop_writes", .int t.repetitions) ]

end ReplayTally

/-! ## One write -/

/-- A write of a trace: its slot and value as numbers, and where it stands. -/
structure StorageWrite where
  slot : Int
  value : Int
  offset : Int
  depth : Int
  deriving DecidableEq, Repr

namespace StorageWrite

/-- The slot and the value among the operands of a write, of which the top one stands last. -/
def operands? (slotOnTop : Bool) (stack : List String) : Option (String × String) :=
  match stack.reverse with
  | top :: second :: _ => some (if slotOnTop then (top, second) else (second, top))
  | _ => none

/-- The write of an entry; `none` if its operands are no words. -/
def ofStep? (slotOnTop : Bool) (entry : TraceEntry) : Option StorageWrite := do
  let (slot, value) ← operands? slotOnTop entry.stack
  let slot ← (Word.ofText slot).toOption
  let value ← (Word.ofText value).toOption
  return ⟨slot, value, entry.pc, entry.depth⟩

/-- The written form of the slot. -/
def slotText (w : StorageWrite) : String := Numeral.hex w.slot

/-- A change that a write makes to the slot or one of its variables. -/
def change (w : StorageWrite) (hash : Option String) (old new : Int) (name : Option String)
    (typeName : String) : StateChange where
  slot := w.slotText
  oldValue := Numeral.hex old
  newValue := Numeral.hex new
  variableName := name
  typeName := some typeName
  operation := "SSTORE"
  offset := w.offset
  depth := w.depth
  transactionHash := hash

/-- The old and the new value of every variable of a slot that is written. -/
def parts (declared : List StorageVariable) (old new : Int) :
    Except Fault (List (StorageVariable × Int × Int)) :=
  declared.mapM (fun v => do
    let before ← v.extract old
    let after ← v.extract new
    return (v, before, after))

/-- The changes of a write to a slot that held `old`. The transaction hash is checked only where there
    is a change to carry it. -/
def changes (w : StorageWrite) (declared : List StorageVariable)
    (hash : Except Fault (Option String)) (old : Int) : Except Fault (List StateChange) :=
  match declared with
  | [] => do
    let hash ← hash
    return [w.change hash old w.value none (Word.inferTypeOf w.value)]
  | [v] => do
    let hash ← hash
    return [w.change hash old w.value (some v.label) (Word.friendlyType v.typeLabel)]
  | declared => do
    let parts ← parts declared old w.value
    let hash ← hash
    let differing := parts.filter (fun (_, before, after) => before != after)
    let touched := if differing.isEmpty then parts else differing
    return touched.map (fun (v, before, after) =>
      w.change hash before after (some v.label) (Word.friendlyType v.typeLabel))

end StorageWrite

/-! ## All writes of a trace -/

/-- A replay under way. -/
structure Replay where
  words : Words
  /-- The slots that were written by this trace. -/
  written : Std.HashMap String Unit
  /-- The changes so far, the last one first. -/
  changes : List StateChange
  writes : Nat
  malformed : Nat
  repetitions : Nat

namespace Replay

/-- A replay that begins over some words. -/
def begin (words : Words) : Replay := ⟨words, ∅, [], 0, 0, 0⟩

/-- Whether a write repeats what its slot holds. -/
def repeats (r : Replay) (w : StorageWrite) : Bool :=
  let held := r.words.at w.slotText
  if r.written.contains w.slotText then held == w.value else w.value == 0 && held == 0

/-- Replay one write. -/
def write (declared : List StorageVariable) (hash : Except Fault (Option String)) (r : Replay)
    (w : StorageWrite) : Except Fault Replay :=
  if r.repeats w then .ok { r with repetitions := r.repetitions + 1 }
  else
    let slot := w.slotText
    (w.changes (Layout.variablesAt declared slot) hash (r.words.at slot)).map (fun changes =>
      { r with
        words := r.words.insert slot w.value
        written := r.written.insert slot ()
        changes := changes.reverse ++ r.changes })

/-- Replay one entry; entries other than storage writes do nothing. -/
def entry (declared : List StorageVariable) (hash : Except Fault (Option String))
    (slotOnTop : Bool) (r : Replay) (e : TraceEntry) : Except Fault Replay :=
  if e.op != "SSTORE" then .ok r
  else
    let r := { r with writes := r.writes + 1 }
    match StorageWrite.ofStep? slotOnTop e with
    | none => .ok { r with malformed := r.malformed + 1 }
    | some w => r.write declared hash w

/-- Replay the entries of a trace. -/
def run (declared : List StorageVariable) (hash : Except Fault (Option String)) (slotOnTop : Bool)
    (words : Words) (entries : List TraceEntry) : Except Fault Replay :=
  entries.foldlM (entry declared hash slotOnTop) (begin words)

end Replay

end EvmScope
