import EvmScope.Artifact.Document
import EvmScope.File
import EvmScope.Text.PathName

set_option autoImplicit false

/-! # Loading a contract

One contract is loaded from an artifact, chosen by its name or by its name with the source path in front.
Without a selector the artifact must hold one contract only. -/

namespace EvmScope.Artifact

/-! ## Selection -/

/-- Whether a selector means a contract. -/
def isMeant (selector : String) (c : Contract) : Bool :=
  c.name.str? == some selector || c.qualifiedName.str? == some selector

/-- The qualified names of contracts. Fails if one of them is no text. -/
def qualifiedNames (contracts : List Contract) : Except Fault (List String) :=
  contracts.mapM (fun c =>
    match c.qualifiedName with
    | .str name => .ok name
    | _ => .error .wrongKind)

/-- The only one of some contracts. -/
def only : List Contract → Except Fault Contract
  | [] => .error (.artifact .noContracts)
  | [c] => .ok c
  | several => do
    let names ← qualifiedNames several
    .error (.artifact (.ambiguous names))

/-- Choose a contract; the empty selector is none. -/
def select (contracts : List Contract) (selector : Option String) : Except Fault Contract :=
  match selector.filter (· ≠ "") with
  | none => only contracts
  | some selector =>
    match contracts.filter (isMeant selector) with
    | [] => do
      let names ← qualifiedNames contracts
      .error (.artifact (.noSuchContract selector names))
    | meant => only meant

/-! ## Documents and files -/

/-- Load a contract from a document. -/
def ofDocument (document : Json) (selector : Option String) : Except Fault Contract := do
  let found ← contracts document defaultName
  select found selector

/-- Load a contract from a file that may be nested `levels` deep. The name of the file stands in for a
    missing name of the contract. -/
def ofFile (path : String) (file : FileState) (selector : Option String)
    (levels : Nat := Json.standardLevels) : Except Fault Contract :=
  let shown := PathName.normal path
  match file with
  | .missing | .stream _ => .error (.artifact (.notFound shown))
  | .badPath => .error .badPath
  | file => do
    let document ← file.json (.artifact (.unreadable shown)) levels
    let found ← contracts document (PathName.stem path)
    select found selector

end EvmScope.Artifact
