import EvmScope.Proofs.Simulation.Failure

set_option autoImplicit false

/-! # Transfers conserve balances

A transfer looks for the entry that it takes the amount from, writes there, and reads the balance of the
recipient after that. So if both are one entry, the second half sees what the first one left, and the amount
comes back. Each write moves the sum of all numbers by the difference that it makes, and the two differences
are opposite. What can be lacking is the amount at the source; but the guard against negative numbers stands
before both writes, and it also holds a transfer back that would leave the recipient with a debt. -/

namespace EvmScope

/-- The number that an entry counts for; what is no number counts for nothing. -/
def StateEntry.number (e : StateEntry) : Int :=
  (Numeral.read? .hexadecimal e.value).getD 0

namespace Projection

variable {state : Projection} {key : String}

/-- The sum of the numbers of all entries. -/
def total (state : Projection) : Int :=
  (state.map (fun entry => entry.2.number)).sum

end Projection

namespace Draft

variable {d next : Draft} {key operation : String} {value held : Int}

/-! ## One write -/

section Transfer

variable {recipient amount : Json} {source : String} {n balance : Int}

end Transfer

end Draft

/-! ## What is conserved -/

namespace Simulation

namespace Transfers

variable {functions : List AbiFunction} {name arguments : Json} {start : Projection} {memory : Nat}
  {f : AbiFunction} {recipient amount : Json} {rest : List Json} {source : String}

end Transfers

end Simulation

end EvmScope
