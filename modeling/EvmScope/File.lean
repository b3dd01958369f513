import EvmScope.Fault
import EvmScope.Json.Reader
import EvmScope.Text.Newline

set_option autoImplicit false

/-! # Files

What a path leads to, and how the content of a file is read: as text, which is UTF-8 with line feeds as
its only line ends, or as a JSON document. -/

namespace EvmScope

/-- What a path leads to. -/
inductive FileState
  /-- There is nothing, or a folder. -/
  | missing
  /-- The path cannot be looked up. -/
  | badPath
  /-- There is a file that cannot be read. -/
  | unreadable
  /-- There is something else than a file that can be read all the same. -/
  | stream (bytes : ByteArray)
  | content (bytes : ByteArray)

namespace FileState

/-- The text of a file; `none` if it cannot be read or is no text. -/
def text? : FileState → Option String
  | stream bytes | content bytes => (String.fromUTF8? bytes).map unifyLineEnds
  | missing | badPath | unreadable => none

/-- The text of a file that need not be there. -/
def optionalText : FileState → Except Fault (Option String)
  | missing | stream _ => .ok none
  | badPath | unreadable => .error .badPath
  | content bytes =>
    match (content bytes).text? with
    | some text => .ok (some text)
    | none => .error .notText

/-- The document in a file, which may be nested `levels` deep. A file without a document fails with the
    given fault; a number that is too long to be read and nesting that is too deep are faults of their
    own. -/
def json (file : FileState) (refusal : Fault) (levels : Nat) : Except Fault Json :=
  match file.text? with
  | none => .error refusal
  | some text =>
    match Json.read text levels with
    | .ok document => .ok document
    | .error .malformed => .error refusal
    | .error (.numeral cause) => .error (.numeral cause)
    | .error .tooDeep => .error .tooDeep

end FileState

end EvmScope
