import EvmScope.Text.Digit
import EvmScope.Text.Newline
import EvmScope.Text.Quoted
import EvmScope.Text.Search

set_option autoImplicit false

/-! # Command grammars

A command is a row of words. A grammar says which options the command has and what its operand is, and
reads the words into a value: every option and the operand update the value they find.

A word that begins with a dash means an option. It may be cut short where no other option begins alike,
it may carry a value behind an equals sign, and short options may share one dash. A double dash ends the
options. Words are first told apart, all of them, and then used from left to right; what no option and no
operand takes is left over. -/

namespace EvmScope.CommandLine

/-! ## Misuse -/

/-- Why a word is no value for an option or operand. -/
inductive BadValue
  | notAChoice (given : String) (choices : List String)
  | notAnInteger (given : String)
  deriving DecidableEq, Repr

/-- Why the words of a command are refused. Options and operands go by their labels. -/
inductive Misuse
  /-- A shortened option may mean several. -/
  | ambiguous (word : String) (candidates : List String)
  | noValue (label : String)
  | unwantedValue (label value : String)
  | badValue (label : String) (cause : BadValue)
  | missing (labels : List String)
  | leftOver (words : List String)
  deriving DecidableEq, Repr

/-- A bad value in words. -/
def BadValue.message : BadValue → String
  | notAChoice given choices =>
    "invalid choice: " ++ Quoted.quote given
      ++ " (choose from " ++ ", ".intercalate (choices.map Quoted.quote) ++ ")"
  | notAnInteger given => "invalid int value: " ++ Quoted.quote given

/-- A misuse in words. -/
def Misuse.message : Misuse → String
  | ambiguous word candidates =>
    "ambiguous option: " ++ word ++ " could match " ++ ", ".intercalate candidates
  | noValue label => "argument " ++ label ++ ": expected one argument"
  | unwantedValue label value =>
    "argument " ++ label ++ ": ignored explicit argument " ++ Quoted.quote value
  | badValue label cause => "argument " ++ label ++ ": " ++ cause.message
  | missing labels => "the following arguments are required: " ++ ", ".intercalate labels
  | leftOver words => "unrecognized arguments: " ++ " ".intercalate words

/-- What people are told about a command. -/
structure Manual where
  /-- The words that call the command. -/
  program : String
  usage : String
  /-- What is told beyond the usage. -/
  details : String
  deriving DecidableEq, Repr

/-- The whole manual. -/
def Manual.text (m : Manual) : String := m.usage ++ "\n" ++ m.details

/-- Why the words of a command do not lead to its execution. -/
inductive Stop
  /-- The manual was asked for. -/
  | help (manual : Manual)
  | misuse (manual : Manual) (cause : Misuse)
  deriving DecidableEq, Repr

/-! ## Grammars -/

/-- What an option does to the value. -/
inductive OptionUse (α : Type)
  | help
  | flag (set : α → α)
  /-- The option takes the word behind it. -/
  | value (set : String → α → Except BadValue α)

/-- An option of a command. -/
structure OptionRule (α : Type) where
  names : List String
  use : OptionUse α
  required : Bool

/-- What a command takes beside its options. -/
inductive Operand (α : Type)
  | none
  /-- One word, without which the command cannot do. -/
  | word (label : String) (set : String → α → Except BadValue α)
  /-- A word and everything behind it. -/
  | rest (label : String) (set : String → List String → α → Except BadValue α)

/-- The options and the operand of a command. -/
structure Grammar (α : Type) where
  manual : Manual
  options : List (OptionRule α)
  operand : Operand α

variable {α : Type}

namespace OptionRule

/-- The name of an option in messages. -/
def label (rule : OptionRule α) : String := "/".intercalate rule.names

/-- Whether an option takes a value. -/
def takesValue (rule : OptionRule α) : Bool :=
  match rule.use with
  | .value _ => true
  | _ => false

end OptionRule

/-! ## Telling words apart -/

/-- What a word is. -/
inductive Role (α : Type)
  | operand
  /-- The double dash that ends the options. -/
  | dashes
  /-- An option by one of its names, with the value that the word itself holds. -/
  | option (rule : OptionRule α) (name : String) (attached : Option (List Char))
  /-- An option that the command does not have. -/
  | unknown

/-- A word with what it is. -/
structure Token (α : Type) where
  text : String
  role : Role α

/-- Whether a text is a negative decimal number, with or without a fraction; a line feed may end it. -/
def isNegativeNumber : List Char → Bool
  | '-' :: rest =>
    let rest := if rest.getLast? = some lineFeed then rest.dropLast else rest
    let whole := rest.takeWhile isDecimalDigit
    match rest.drop whole.length with
    | [] => !whole.isEmpty
    | '.' :: fraction => !fraction.isEmpty && fraction.all isDecimalDigit
    | _ => false
  | _ => false

/-- Split a word at its first equals sign; without one there is no value. -/
def splitValue (word : List Char) : List Char × Option (List Char) :=
  let name := word.takeWhile (· ≠ '=')
  match word.drop name.length with
  | [] => (name, none)
  | _ :: value => (name, some value)

namespace Grammar

/-- The options of a command by name. -/
def named (g : Grammar α) : List (String × OptionRule α) :=
  g.options.flatMap (fun rule => rule.names.map (fun name => (name, rule)))

/-- The option of a name. -/
def option? (g : Grammar α) (name : List Char) : Option (OptionRule α) :=
  g.named.lookup (String.ofList name)

/-- The options that a word can mean without being one of their names: a long option may be cut short, a
    short one may have its value right behind it. -/
def candidates (g : Grammar α) (word : List Char) : List (String × Role α) :=
  match word with
  | '-' :: '-' :: _ =>
    let (name, value) := splitValue word
    (g.named.filter (fun entry => name.isPrefixOf entry.1.toList)).map
      (fun entry => (entry.1, .option entry.2 entry.1 value))
  | _ =>
    (g.named.filter (fun entry => entry.1.toList == word.take 2)).map
      (fun entry => (entry.1, .option entry.2 entry.1 (some (word.drop 2))))

/-- What a word is that begins with a dash. -/
def roleOfDashed (g : Grammar α) (word : String) : Except Misuse (Role α) :=
  let cs := word.toList
  let (name, value) := splitValue cs
  match g.option? cs with
  | some rule => .ok (.option rule word none)
  | none =>
    match value.bind (fun value => (g.option? name).map (fun rule => (rule, value))) with
    | some (rule, value) => .ok (.option rule (String.ofList name) (some value))
    | none =>
      match g.candidates cs with
      | [(_, role)] => .ok role
      | [] => .ok (if isNegativeNumber cs || cs.contains ' ' then .operand else .unknown)
      | several => .error (.ambiguous word (several.map (·.1)))

/-- What a word in front of the double dash is. -/
def roleOf (g : Grammar α) (word : String) : Except Misuse (Role α) :=
  match word.toList with
  | '-' :: _ :: _ => g.roleOfDashed word
  | _ => .ok .operand

/-- The words of a command with what they are. -/
def tokens (g : Grammar α) : List String → Except Misuse (List (Token α))
  | [] => .ok []
  | word :: rest =>
    if word = "--" then .ok (⟨word, .dashes⟩ :: rest.map (fun word => ⟨word, .operand⟩))
    else do
      let role ← g.roleOf word
      let others ← g.tokens rest
      return ⟨word, role⟩ :: others

/-! ## Using words -/

/-- What has come of the words so far. -/
structure Progress (α : Type) where
  value : α
  /-- The labels of the options and the operand that were given. -/
  given : List String
  /-- The words that were not taken. -/
  extras : List String

namespace Progress

/-- Leave a word over. -/
def leave (p : Progress α) (word : String) : Progress α :=
  { p with extras := p.extras ++ [word] }

/-- Take a new value that an option or operand makes. -/
def take (p : Progress α) (label : String) (made : Except BadValue α) :
    Except Misuse (Progress α) :=
  match made with
  | .ok value => .ok { p with value := value, given := label :: p.given }
  | .error cause => .error (.badValue label cause)

end Progress

/-- The options that share the dash of one, given by their letters, up to one that takes a value. The last
    of them comes with the value behind it, if there is one. -/
def cluster (g : Grammar α) (rule : OptionRule α) :
    List Char → Except Misuse (List (OptionRule α) × OptionRule α × Option String)
  | [] => .ok ([], rule, none)
  | c :: rest =>
    if rule.takesValue then .ok ([], rule, some (String.ofList (c :: rest)))
    else
      match g.option? ['-', c] with
      | none => .error (.unwantedValue rule.label (String.ofList (c :: rest)))
      | some next => (g.cluster next rest).map (fun (flags, last) => (rule :: flags, last))

/-- The options that a word means: some without a value, and a last one with what the word holds for
    it. -/
def optionsOf (g : Grammar α) (rule : OptionRule α) (name : String) :
    Option (List Char) → Except Misuse (List (OptionRule α) × OptionRule α × Option String)
  | none => .ok ([], rule, none)
  | some attached =>
    if rule.takesValue then .ok ([], rule, some (String.ofList attached))
    else if beginsWith name "--" || attached.isEmpty then
      .error (.unwantedValue rule.label (String.ofList attached))
    else g.cluster rule attached

/-- Use an option. -/
def useOption (g : Grammar α) (p : Progress α) (rule : OptionRule α) (given : Option String) :
    Except Stop (Progress α) :=
  match rule.use, given with
  | .help, _ => .error (.help g.manual)
  | .flag set, _ => (p.take rule.label (.ok (set p.value))).mapError (.misuse g.manual)
  | .value set, some word => (p.take rule.label (set word p.value)).mapError (.misuse g.manual)
  | .value _, none => .error (.misuse g.manual (.noValue rule.label))

/-- Use some options without a value and one with the value given. -/
def useOptions (g : Grammar α) (p : Progress α) (flags : List (OptionRule α))
    (last : OptionRule α) (given : Option String) : Except Stop (Progress α) := do
  let p ← flags.foldlM (fun p rule => g.useOption p rule none) p
  g.useOption p last given

/-- The operand, if it has not been given yet. -/
def pending (g : Grammar α) (p : Progress α) : Operand α :=
  match g.operand with
  | .none => .none
  | .word label set => if p.given.contains label then .none else .word label set
  | .rest label set => if p.given.contains label then .none else .rest label set

/-- Use words from left to right. A double dash next to the operand belongs to it. -/
def consume (g : Grammar α) (p : Progress α) : List (Token α) → Except Stop (Progress α)
  | [] => .ok p
  | ⟨word, .unknown⟩ :: rest => g.consume (p.leave word) rest
  | ⟨_, .option rule name attached⟩ :: rest =>
    match g.optionsOf rule name attached with
    | .error cause => .error (.misuse g.manual cause)
    | .ok (flags, last, given) =>
      if last.takesValue && given.isNone then
        match rest with
        | ⟨word, .operand⟩ :: rest =>
          (g.useOptions p flags last (some word)).bind (fun p => g.consume p rest)
        | _ => .error (.misuse g.manual (.noValue last.label))
      else (g.useOptions p flags last given).bind (fun p => g.consume p rest)
  | ⟨word, .operand⟩ :: rest =>
    match g.pending p with
    | .none => g.consume (p.leave word) rest
    | .rest label set =>
      (p.take label (set word (rest.map (·.text)) p.value)).mapError (.misuse g.manual)
    | .word label set =>
      match p.take label (set word p.value) with
      | .error cause => .error (.misuse g.manual cause)
      | .ok p =>
        match rest with
        | ⟨_, .dashes⟩ :: rest => g.consume p rest
        | rest => g.consume p rest
  | ⟨word, .dashes⟩ :: rest =>
    match g.pending p, rest with
    | .rest label set, _ :: _ =>
      (p.take label (set word (rest.map (·.text)) p.value)).mapError (.misuse g.manual)
    | .word label set, ⟨operand, .operand⟩ :: rest =>
      match p.take label (set operand p.value) with
      | .error cause => .error (.misuse g.manual cause)
      | .ok p => g.consume p rest
    | _, rest => g.consume (p.leave word) rest

/-- The labels of what a command needs and was not given. -/
def missing (g : Grammar α) (p : Progress α) : List String :=
  let operand :=
    match g.pending p with
    | .word label _ => [label]
    | _ => []
  operand ++ (g.options.filter (fun rule => rule.required && !p.given.contains rule.label)).map
    OptionRule.label

/-- Read the words of a command into a value, with the words that are left over. -/
def read (g : Grammar α) (start : α) (words : List String) : Except Stop (α × List String) := do
  let tokens ← (g.tokens words).mapError (.misuse g.manual)
  let p ← g.consume ⟨start, [], []⟩ tokens
  match g.missing p with
  | [] => .ok (p.value, p.extras)
  | labels => .error (.misuse g.manual (.missing labels))

end Grammar

end EvmScope.CommandLine
