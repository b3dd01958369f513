import EvmScope.CommandLine.Manuals
import EvmScope.Gas.Severity
import EvmScope.Text.Numeral

set_option autoImplicit false

/-! # Invocations

What the program is asked to do: general options, and at most one command with its own. The words of a
command are read by the grammar of that command; words that it leaves over are refused only after its
own misuse. -/

namespace EvmScope.CommandLine

/-- How results are written. -/
inductive Format
  | table
  | json
  deriving DecidableEq, Repr

/-- What is asked of an analysis of gas. -/
structure GasRequest where
  artifact : String
  source : String
  contract : Option String
  trace : Option String
  /-- Whether the code that creates the contract is meant. -/
  creation : Bool
  format : Format
  /-- The lightest severity that is shown. -/
  least : Option Severity
  /-- Where the result goes instead of standard output. -/
  output : Option String
  deriving DecidableEq, Repr

/-- What is asked of a reconstruction of storage. -/
structure StateRequest where
  artifact : String
  contract : Option String
  /-- The traces in the order in which they are applied. -/
  traces : List String
  /-- The snapshot up to which the state is shown. -/
  snapshot : Option Int
  format : Format
  deriving DecidableEq, Repr

/-- A command of the program. -/
inductive Command
  | analyze (request : GasRequest)
  | state (request : StateRequest)
  | config
  deriving DecidableEq, Repr

/-- What the program is asked to do. -/
structure Invocation where
  version : Bool
  noBanner : Bool
  quiet : Bool
  command : Option Command
  deriving DecidableEq, Repr

/-! ## Values -/

/-- The one of some choices that a word names. -/
def choose {β : Type} (choices : List (String × β)) (word : String) : Except BadValue β :=
  match choices.lookup word with
  | some value => .ok value
  | none => .error (.notAChoice word (choices.map (·.1)))

/-- The integer that a word spells. -/
def integer (word : String) : Except BadValue Int :=
  match Numeral.read? .decimal word with
  | some n => .ok n
  | none => .error (.notAnInteger word)

/-- The formats by name. -/
def formats : List (String × Format) := [("table", .table), ("json", .json)]

/-- The severities by name. -/
def severities : List (String × Severity) := Severity.all.map (fun s => (s.name, s))

/-! ## Grammars -/

section Rules

variable {α : Type}

/-- The option that asks for the manual. -/
def helpRule : OptionRule α := ⟨["-h", "--help"], .help, false⟩

/-- An option without a value. -/
def flagRule (names : List String) (set : α → α) : OptionRule α := ⟨names, .flag set, false⟩

/-- An option that takes any word. -/
def wordRule (names : List String) (set : String → α → α) : OptionRule α :=
  ⟨names, .value (fun word a => .ok (set word a)), false⟩

/-- An option that takes a word of some form. -/
def valueRule {β : Type} (names : List String) (read : String → Except BadValue β)
    (set : β → α → α) : OptionRule α :=
  ⟨names, .value (fun word a => (read word).map (fun value => set value a)), false⟩

end Rules

/-- The grammar of the command that ranks hotspots. -/
def gasGrammar : Grammar GasRequest where
  manual := gasManual
  options :=
    [ helpRule,
      { wordRule ["--source", "-s"] (fun word r => { r with source := word }) with
        required := true },
      wordRule ["--contract", "-c"] (fun word r => { r with contract := some word }),
      wordRule ["--trace", "-t"] (fun word r => { r with trace := some word }),
      flagRule ["--creation"] (fun r => { r with creation := true }),
      valueRule ["--format", "-f"] (choose formats) (fun format r => { r with format := format }),
      valueRule ["--min-severity"] (choose severities) (fun s r => { r with least := some s }),
      wordRule ["--output", "-o"] (fun word r => { r with output := some word }) ]
  operand := .word "artifact" (fun word r => .ok { r with artifact := word })

/-- The grammar of the command that shows storage. -/
def stateGrammar : Grammar StateRequest where
  manual := stateManual
  options :=
    [ helpRule,
      wordRule ["--contract", "-c"] (fun word r => { r with contract := some word }),
      wordRule ["--trace", "-t"] (fun word r => { r with traces := r.traces ++ [word] }),
      valueRule ["--snapshot"] integer (fun n r => { r with snapshot := some n }),
      valueRule ["--format", "-f"] (choose formats) (fun format r => { r with format := format }) ]
  operand := .word "artifact" (fun word r => .ok { r with artifact := word })

/-- The grammar of the command that shows the settings. -/
def configGrammar : Grammar Unit where
  manual := configManual
  options := [helpRule]
  operand := .none

/-- The commands of the program. -/
inductive CommandName
  | analyze
  | state
  | config
  deriving DecidableEq, Repr

/-- The commands by name. -/
def commandNames : List (String × CommandName) :=
  [("analyze", .analyze), ("state", .state), ("config", .config)]

/-- General options, and the command with the words that belong to it. -/
structure Outline where
  version : Bool
  noBanner : Bool
  quiet : Bool
  command : Option (CommandName × List String)
  deriving DecidableEq, Repr

/-- The grammar of the general options. -/
def programGrammar : Grammar Outline where
  manual := programManual
  options :=
    [ helpRule,
      flagRule ["--version"] (fun o => { o with version := true }),
      flagRule ["--no-banner"] (fun o => { o with noBanner := true }),
      flagRule ["--quiet", "-q"] (fun o => { o with quiet := true }) ]
  operand := .rest "command" (fun word rest o =>
    (choose commandNames word).map (fun name => { o with command := some (name, rest) }))

/-! ## Reading -/

/-- Read the words of a command, with those that are left over. -/
def Command.read (name : CommandName) (words : List String) :
    Except Stop (Command × List String) :=
  match name with
  | .analyze =>
    (gasGrammar.read ⟨"", "", none, none, false, .table, none, none⟩ words).map
      (fun (request, extras) => (.analyze request, extras))
  | .state =>
    (stateGrammar.read ⟨"", none, [], none, .table⟩ words).map
      (fun (request, extras) => (.state request, extras))
  | .config => (configGrammar.read () words).map (fun (_, extras) => (.config, extras))

/-- Read the words that the program was called with. -/
def Invocation.read (words : List String) : Except Stop Invocation := do
  let (o, extras) ← programGrammar.read ⟨false, false, false, none⟩ words
  let (command, more) ←
    match o.command with
    | none => .ok (none, [])
    | some (name, words) =>
      (Command.read name words).map (fun (command, more) => (some command, more))
  match extras ++ more with
  | [] => .ok ⟨o.version, o.noBanner, o.quiet, command⟩
  | words => .error (.misuse programManual (.leftOver words))

/-- The files that a command reads. -/
def Command.inputs : Command → List String
  | analyze request =>
    [request.artifact, request.source] ++ (request.trace.filter (· ≠ "")).toList
  | state request => request.artifact :: request.traces
  | config => []

/-- The files that an invocation reads. -/
def Invocation.inputs (i : Invocation) : List String :=
  (i.command.map Command.inputs).getD []

end EvmScope.CommandLine
