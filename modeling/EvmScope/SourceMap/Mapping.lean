import EvmScope.Text.Numeral
import EvmScope.Text.Split

set_option autoImplicit false

/-! # Source maps

A source map gives a source location to every instruction of a code. Its text is a row of entries set
apart by semicolons, each made of up to five fields set apart by colons: start, length, file index,
jump kind and modifier depth. A field that is missing, empty or unreadable has the value it has in the
entry before, and before the first entry all fields are zero and the jump is regular.

So a field of an entry is the last readable one up to there, whatever the other fields hold. An entry
is *malformed* if it breaks the format; what can be read of it counts all the same. -/

namespace EvmScope

/-- How an instruction jumps. -/
inductive JumpKind
  /-- Into a function. -/
  | into
  /-- Out of a function. -/
  | out
  /-- Within a function, or not at all. -/
  | regular
  deriving DecidableEq, Repr

namespace JumpKind

/-- The letter for a jump kind. -/
def name : JumpKind → String
  | into => "i"
  | out => "o"
  | regular => "-"

/-- The jump kind that a text stands for; other texts stand for a regular one. -/
def ofChars : List Char → JumpKind
  | ['i'] => into
  | ['o'] => out
  | _ => regular

end JumpKind

/-- The source location of one instruction. -/
structure Mapping where
  start : Int
  length : Int
  fileIndex : Int
  jump : JumpKind
  modifierDepth : Int
  deriving DecidableEq, Repr

namespace Mapping

/-- The location before the first entry. -/
def root : Mapping := ⟨0, 0, 0, .regular, 0⟩

/-- The offset behind the range. -/
def finish (m : Mapping) : Int := m.start + m.length

/-- Whether the instruction has a source range; code made by the compiler has a negative start or
    file. -/
def hasSource (m : Mapping) : Bool := 0 ≤ m.start && 0 ≤ m.fileIndex

/-! ## Reading one entry -/

/-- The fields of an entry. -/
def fieldsOf (entry : List Char) : List (List Char) :=
  splitAtChar ':' entry

/-- The integer of a field, or the inherited value if the field is missing, empty or unreadable. -/
def inheritInt (parts : List (List Char)) (place : Nat) (inherited : Int) : Int :=
  match parts[place]? with
  | none => inherited
  | some part =>
    if part.isEmpty then inherited
    else (Numeral.read? .decimal (String.ofList part)).getD inherited

/-- The jump kind of the fourth field, or the inherited one if it is missing or empty. -/
def inheritJump (parts : List (List Char)) (inherited : JumpKind) : JumpKind :=
  match parts[3]? with
  | none => inherited
  | some part => if part.isEmpty then inherited else JumpKind.ofChars part

/-- The location of an entry that follows a location. -/
def follow (previous : Mapping) (entry : List Char) : Mapping :=
  if entry.isEmpty then previous
  else
    let parts := fieldsOf entry
    { start := inheritInt parts 0 previous.start
      length := inheritInt parts 1 previous.length
      fileIndex := inheritInt parts 2 previous.fileIndex
      jump := inheritJump parts previous.jump
      modifierDepth := inheritInt parts 4 previous.modifierDepth }

/-! ## The format -/

/-- Digits of any script, with a minus sign allowed in front. -/
def isSignedDigits : List Char → Bool
  | '-' :: rest => rest.all isDecimalDigit
  | cs => cs.all isDecimalDigit

/-- A jump letter or nothing. -/
def isJumpField (part : List Char) : Bool :=
  part.isEmpty || part == ['i'] || part == ['o'] || part == ['-']

/-- Whether the field at a place keeps the format. -/
def fieldFits (place : Nat) (part : List Char) : Bool :=
  if place = 3 then isJumpField part
  else if place = 4 then part.all isDecimalDigit
  else isSignedDigits part

/-- Whether an entry keeps the format: at most five fields, each of its form. -/
def keepsFormat (entry : List Char) : Bool :=
  let parts := fieldsOf entry
  parts.length ≤ 5 && parts.zipIdx.all (fun (part, place) => fieldFits place part)

/-- Whether an entry is malformed; one line end behind it does no harm. -/
def isMalformed (entry : List Char) : Bool :=
  let trimmed :=
    if entry.getLast? = some (Char.ofNat 10) then entry.dropLast else entry
  !entry.isEmpty && !keepsFormat trimmed

end Mapping

/-! ## Whole maps -/

/-- The locations of all instructions. -/
structure SourceMap where
  entries : List Mapping
  /-- The number of entries that break the format. -/
  malformed : Nat
  deriving Repr

namespace SourceMap

/-- The map of nothing. -/
def empty : SourceMap := ⟨[], 0⟩

/-- The locations of entries that follow a location; `out` holds those before, last first. -/
def locate (previous : Mapping) (out : List Mapping) : List (List Char) → List Mapping
  | [] => out.reverse
  | entry :: rest =>
    let m := previous.follow entry
    locate m (m :: out) rest

/-- The entries of a text. -/
def entriesOf (text : String) : List (List Char) :=
  splitAtChar ';' (trimChars isBlank text.toList)

/-- Read a source map; no text and the empty text give the empty map. -/
def ofText (text : Option String) : SourceMap :=
  match text with
  | none => empty
  | some text =>
    if text = "" then empty
    else
      let pieces := entriesOf text
      ⟨locate Mapping.root [] pieces, pieces.countP Mapping.isMalformed⟩

/-- The location of the instruction at a place, if the map goes that far. -/
def get? (map : SourceMap) (place : Int) : Option Mapping :=
  if place < 0 then none else map.entries[place.toNat]?

end SourceMap

end EvmScope
