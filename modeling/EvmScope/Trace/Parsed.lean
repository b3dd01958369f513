import EvmScope.Trace.Entry

set_option autoImplicit false

/-! # Execution traces

A trace document holds the list of executed instructions, either on its own or inside its result, and
fields on the transaction as a whole. Reading never fails: entries that cannot be read and entries
beyond a limit are skipped and counted, and a document without a list gives no entries. -/

namespace EvmScope

/-- A trace that was read. -/
structure ParsedTrace where
  /-- The readable entries in order. -/
  entries : List TraceEntry
  /-- The gas the transaction took, as the document gives it; text is read as an integer. -/
  gasUsed : Option Json
  transactionHash : Option String
  /-- The call data of the transaction. -/
  inputData : Option String
  /-- The number of entries in the document. -/
  total : Nat
  /-- The number of entries that were not kept. -/
  skipped : Nat
  /-- Whether the limit cut the list. -/
  truncated : Bool
  /-- Whether the document has no list of entries. -/
  malformed : Bool

namespace ParsedTrace

/-- The trace of no document. -/
def empty : ParsedTrace := ⟨[], none, none, none, 0, 0, false, false⟩

/-- The depth of the outermost call frame. -/
def outerDepth? (trace : ParsedTrace) : Option Int :=
  (trace.entries.map (·.depth)).min?

/-! ## Fields of the document -/

/-- The value in place of the list of entries. -/
def rawEntries (fields : List (String × Json)) : Json :=
  match fields.lookup "structLogs" with
  | some value => value
  | none => (Json.fieldOrNull "result" fields).get "structLogs"

/-- The gas figure of a document: from its result, else under one of two names. Text that is no
    integer counts as no figure. -/
def gasFigure (fields : List (String × Json)) : Option Json :=
  let inner := (Json.fieldOrNull "result" fields).get "gasUsed"
  let raw :=
    match inner with
    | .null => ((fields.lookup "gasUsed").or (fields.lookup "gas")).getD .null
    | value => value
  match raw with
  | .null => none
  | .str text => (TraceEntry.intOfText? text).map Json.int
  | value => some value

/-- The hash of the transaction, under one of two names. -/
def hashField (fields : List (String × Json)) : Option String :=
  ((Json.fieldOrNull "hash" fields).orElse (Json.fieldOrNull "transactionHash" fields)).str?

/-- The number of entries that a limit lets through. -/
def limitOf (limit : Option Int) (total : Nat) : Nat :=
  match limit with
  | none => total
  | some n => min n.toNat total

/-- Read a trace document, looking at no more than `limit` entries. -/
def ofJson (limit : Option Int) (document : Json) : ParsedTrace :=
  match document with
  | .null => empty
  | .obj fields =>
    let base : ParsedTrace :=
      { empty with
        gasUsed := gasFigure fields
        transactionHash := hashField fields
        inputData := (Json.fieldOrNull "input" fields).str? }
    match rawEntries fields with
    | .arr items =>
      let total := items.length
      let seen := limitOf limit total
      let entries := (items.take seen).filterMap TraceEntry.ofJson?
      { base with
        entries := entries
        total := total
        skipped := total - entries.length
        truncated := seen < total }
    | _ => { base with malformed := true }
  | _ => { empty with malformed := true }

end ParsedTrace

end EvmScope
