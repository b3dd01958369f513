import EvmScope.Simulation.Abi
import EvmScope.Simulation.Argument
import EvmScope.Simulation.Effect

set_option autoImplicit false

/-! # Simulated calls

A simulated call checks its arguments, applies the likely effect of its function to a state, and adds the
changes to the history as one snapshot. A call that cannot be carried out leaves the state and the
history as they were and says why. -/

namespace EvmScope

/-- The outcome of a simulated call. -/
structure Simulation where
  changes : List StateChange
  /-- The state after the call. -/
  state : Projection
  /-- Why the call was not carried out; empty if it was. -/
  errors : List SimulationFault

namespace Simulation

/-- A call without effect on a state. -/
def without (state : Projection) (errors : List SimulationFault) : Simulation :=
  ⟨[], state, errors⟩

/-! ## Arguments -/

/-- The name of a parameter in messages. -/
def parameterName (parameter : Json) : String :=
  ((parameter.get "name").orElse (.str "input")).display

/-- What is wrong with an argument for a parameter. -/
def problem? (parameter argument : Json) (memory : Nat) : Except Fault (Option SimulationFault) := do
  let typeName ← AbiFunction.typeName parameter
  let verdict ← Argument.check argument typeName memory
  return verdict.map (fun problem => .badArgument (parameterName parameter) problem.message)

/-- What is wrong with the arguments of a call; arguments without a parameter are not looked at. -/
def problems (f : AbiFunction) (arguments : List Json) (memory : Nat) :
    Except Fault (List SimulationFault) :=
  ((f.inputs.zip arguments).mapM (fun pair => problem? pair.1 pair.2 memory)).map
    (fun (found : List (Option SimulationFault)) => found.filterMap id)

/-! ## Carrying out -/

/-- Mark the entries of changes as last changed by a snapshot. Fails if a change has no entry under its
    key. -/
def stamp (snapshot : Nat) (state : Projection) (changes : List StateChange) :
    Except Fault Projection :=
  changes.foldlM
    (fun state c =>
      match state.lookup c.key with
      | some entry => .ok (Table.put state c.key { entry with lastChanged := snapshot })
      | none => .error .noEntry)
    state

/-- Add the changes of a call to the history. -/
def commit (h : History) (f : AbiFunction) (arguments : List Json) (state : Projection)
    (changes : List StateChange) : HistoryMove Simulation :=
  let move := h.addSimulated changes
    (.obj [("function", .str f.name), ("inputs", .arr arguments)])
  let result := do
    let snapshot ← move.result
    let state ← stamp snapshot.id state changes
    return ⟨changes, state, []⟩
  ⟨move.state, move.events, result⟩

/-- Carry out a call of a function over a state. -/
def perform (h : History) (f : AbiFunction) (arguments : List Json) (state : Projection)
    (memory : Nat) : HistoryMove Simulation :=
  match problems f arguments memory with
  | .error fault => h.refuse fault
  | .ok (error :: errors) => .stay h (.ok (without state (error :: errors)))
  | .ok [] =>
    if f.isReadOnly then .stay h (.ok (without state []))
    else
      match Draft.apply ⟨state, []⟩ f.name arguments with
      | .error fault =>
        if fault.isBadValue then .stay h (.ok (without state [.failed fault.message]))
        else h.refuse fault
      | .ok draft =>
        if draft.changes.isEmpty then .stay h (.ok (without state []))
        else commit h f arguments draft.state draft.changes.reverse

/-- The arguments of a call in a list; a text stands for the list of its characters. Fails on a single
    value. -/
def argumentsOf : Json → Except Fault (List Json)
  | .null | .bool _ | .int _ | .float _ => .error .wrongKind
  | value => History.items value

/-- Simulate a call over a given state, or over the current state of the history. -/
def run (h : History) (functions : List AbiFunction) (name arguments : Json)
    (given : Option Projection) (memory : Nat := Argument.standardMemory) : HistoryMove Simulation :=
  let state := given.getD (h.currentState none)
  match AbiFunction.find? name functions with
  | .error fault => h.refuse fault
  | .ok none => .stay h (.ok (without state [.functionNotFound name.display]))
  | .ok (some f) =>
    match argumentsOf arguments with
    | .error fault => h.refuse fault
    | .ok arguments => perform h f arguments state memory

end Simulation

end EvmScope
