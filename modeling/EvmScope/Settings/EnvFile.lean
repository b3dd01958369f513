import EvmScope.Table
import EvmScope.Text.Blank
import EvmScope.Text.Newline
import EvmScope.Text.Quoted

set_option autoImplicit false

/-! # Environment files

A text of assignments `NAME=value`, one on a line. Lines may be blank or comments, `export` may stand in
front of a name, and a name may stand without a value. A value without quotes goes to the end of the
line or to a comment set apart by a blank; a value in quotes may hold line ends, with a backslash in
front of the quotes it contains. A line that is no assignment is passed over.

A value may refer to a variable by a dollar sign and the name in braces, with a replacement behind `:-`
for a variable that is not set. References see the assignments above them before the environment. -/

namespace EvmScope.EnvFile

/-- A blank within a line. -/
def isInlineBlank (c : Char) : Bool :=
  isBlank c && c ≠ lineFeed && c ≠ carriageReturn

/-- Not the end of a line. -/
def isInLine (c : Char) : Bool :=
  c ≠ lineFeed && c ≠ carriageReturn

/-! ## Names -/

/-- Pass over the word `export` and the blanks behind it. -/
def dropExport (cs : List Char) : List Char :=
  if cs.take 6 == "export".toList && ((cs.drop 6).head?.map isInlineBlank).getD false then
    (cs.drop 6).dropWhile isInlineBlank
  else cs

/-- A character of a name that is not quoted. -/
def isNameChar (c : Char) : Bool :=
  c ≠ '=' && c ≠ '#' && !isBlank c

/-- The name in front of a text, `none` for a comment. Fails if there is neither. -/
def readName : List Char → Option (Option String × List Char)
  | '#' :: rest => some (none, '#' :: rest)
  | c :: rest =>
    if c = Quoted.single then
      let name := rest.takeWhile (· ≠ Quoted.single)
      match rest.dropWhile (· ≠ Quoted.single) with
      | _ :: behind => if name.isEmpty then none else some (some (String.ofList name), behind)
      | [] => none
    else
      let name := (c :: rest).takeWhile isNameChar
      if name.isEmpty then none
      else some (some (String.ofList name), (c :: rest).dropWhile isNameChar)
  | [] => none

/-! ## Values -/

/-- The content of a quoted value and the text behind its closing quote, which is the first quote
    without a backslash in front, or the last quote if all have one. -/
def splitQuoted (mark : Char) (out : List Char) : List Char → Option (List Char × List Char)
  | [] => none
  | [c] => if c = mark then some (out.reverse, []) else none
  | c :: d :: rest =>
    if c = mark then some (out.reverse, d :: rest)
    else if c = Quoted.backslash && d = mark then
      (splitQuoted mark (d :: c :: out) rest).or (some ((c :: out).reverse, rest))
    else splitQuoted mark (c :: out) (d :: rest)

/-- The character that an escaped letter stands for between double quotes. -/
def letterEscape? (c : Char) : Option Char :=
  if c = Quoted.single || c = Quoted.double || c = Quoted.backslash then some c
  else
    (List.lookup c
      [('a', 7), ('b', 8), ('f', 12), ('n', 10), ('r', 13), ('t', 9), ('v', 11)]).map Char.ofNat

/-- The character that an escaped character stands for between single quotes. -/
def plainEscape? (c : Char) : Option Char :=
  if c = Quoted.single || c = Quoted.backslash then some c else none

/-- Replace escapes; a backslash in front of any other character stands for itself. -/
def unescape (escape? : Char → Option Char) : List Char → List Char
  | [] => []
  | [c] => [c]
  | c :: d :: rest =>
    match if c = Quoted.backslash then escape? d else none with
    | some e => e :: unescape escape? rest
    | none => c :: unescape escape? (d :: rest)

/-- Cut off a comment, which is set apart by blanks. -/
def cutComment : List Char → List Char
  | [] => []
  | c :: rest =>
    if isBlank c && (rest.dropWhile isBlank).head? == some '#' then [] else c :: cutComment rest

/-- Drop the blanks at the end of a text. -/
def dropBlankEnd (cs : List Char) : List Char :=
  (cs.reverse.dropWhile isBlank).reverse

/-- The value in front of a text, blanks around it left out. Fails if a quote is not closed. A number sign
    that stands behind a blank begins a comment even where no value stands before it. -/
def readValue (cs : List Char) : Option (List Char × List Char) :=
  let line := cs.takeWhile isInLine
  let plain := some ((dropBlankEnd (cutComment line)).dropWhile isBlank, cs.dropWhile isInLine)
  match cs.dropWhile isInlineBlank with
  | [] => plain
  | c :: rest =>
    if c = Quoted.single then
      (splitQuoted c [] rest).map (fun (value, behind) => (unescape plainEscape? value, behind))
    else if c = Quoted.double then
      (splitQuoted c [] rest).map (fun (value, behind) => (unescape letterEscape? value, behind))
    else plain

/-! ## Lines -/

/-- A name with its value, if it has one. -/
abbrev Assignment := String × Option String

/-- Pass over the rest of a line and its end. -/
def dropLine (cs : List Char) : List Char :=
  (cs.dropWhile isInLine).drop 1

/-- Pass over blanks and a comment up to the end of the line. -/
def dropComment (cs : List Char) : List Char :=
  match cs.dropWhile isInlineBlank with
  | '#' :: rest => rest.dropWhile isInLine
  | _ => cs

/-- Close a line with an assignment: nothing but a comment may follow it. -/
def closeLine (found : Option Assignment) (cs : List Char) : Option Assignment × List Char :=
  let behind := dropComment cs
  match behind.dropWhile isInlineBlank with
  | [] => (found, [])
  | c :: rest => if isInLine c then (none, dropLine behind) else (found, rest)

/-- The assignment of one line, if it has one, and the text behind the line. -/
def readLine (cs : List Char) : Option Assignment × List Char :=
  let start := dropExport cs
  match readName start with
  | none => (none, dropLine start)
  | some (name?, behind) =>
    match behind.dropWhile isInlineBlank with
    | '=' :: rest =>
      match readValue rest with
      | none => (none, dropLine rest)
      | some (value, behind) =>
        closeLine (name?.map (fun name => (name, some (String.ofList value)))) behind
    | behind => closeLine (name?.map (fun name => (name, none))) behind

/-- The assignments of a text; every line takes at least one character, so the length of the text bounds
    the number of lines. -/
def readLines : Nat → List Char → List Assignment
  | 0, _ => []
  | fuel + 1, cs =>
    match cs.dropWhile isBlank with
    | [] => []
    | start =>
      let (found, rest) := readLine start
      found.toList ++ readLines fuel rest

/-- The assignments of a text in order. -/
def assignments (text : String) : List Assignment :=
  let cs := (unifyLineEnds text).toList
  readLines (cs.length + 1) cs

/-! ## References -/

/-- A reference in front of a text: the name, the replacement, and how many characters it takes. -/
def reference? : List Char → Option (String × List Char × Nat)
  | '$' :: '\x7b' :: rest =>
    let name := rest.takeWhile (fun c => c ≠ '\x7d' && c ≠ ':')
    match rest.drop name.length with
    | '\x7d' :: _ => some (String.ofList name, [], name.length + 3)
    | ':' :: '-' :: more =>
      let replacement := more.takeWhile (· ≠ '\x7d')
      if (more.drop replacement.length).isEmpty then none
      else some (String.ofList name, replacement, name.length + replacement.length + 5)
    | _ => none
  | _ => none

/-- Replace the references in a text, of which the first `skip` characters are passed over. -/
def expandFrom (value? : String → Option String) (skip : Nat) : List Char → List Char
  | [] => []
  | c :: rest =>
    match skip with
    | skip + 1 => expandFrom value? skip rest
    | 0 =>
      match reference? (c :: rest) with
      | some (name, replacement, taken) =>
        ((value? name).map String.toList).getD replacement ++ expandFrom value? (taken - 1) rest
      | none => c :: expandFrom value? 0 rest

/-- The names that references in a text mean. -/
def referredTo : List Char → List String
  | [] => []
  | c :: rest => ((reference? (c :: rest)).map (·.1)).toList ++ referredTo rest

/-- The table of assigned values with references replaced; a name assigned without a value counts as
    set to the empty text where it is referred to. -/
def resolve (environment : List (String × String)) (given : List Assignment) :
    List (String × Option String) :=
  given.foldl
    (fun table (name, value) =>
      let value? (wanted : String) : Option String :=
        match table.lookup wanted with
        | some assigned => some (assigned.getD "")
        | none => environment.lookup wanted
      Table.put table name
        (value.map (fun text => String.ofList (expandFrom value? 0 text.toList))))
    []

/-- The values that a text assigns, in the order in which the names first come. -/
def read (environment : List (String × String)) (text : String) : List (String × Option String) :=
  resolve environment (assignments text)

end EvmScope.EnvFile
