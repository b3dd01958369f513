import EvmScope.Bytecode.Mnemonic
import EvmScope.Text.Casing

set_option autoImplicit false

/-! # Static gas costs

A flat cost for every instruction. A *dynamic* cost stands for one that depends on the state at run
time, such as cold access or memory growth: its figure is pessimistic and gives way to the cost that a
trace records. Instructions without an entry cost nothing. -/

namespace EvmScope

/-- The static cost of an instruction. -/
structure GasCost where
  base : Int
  dynamic : Bool
  deriving DecidableEq, Repr

namespace GasCost

/-- A cost that does not depend on the state. -/
def fixed (base : Int) : GasCost := ⟨base, false⟩

/-- A stand-in for a cost that depends on the state. -/
def varying (base : Int) : GasCost := ⟨base, true⟩

/-- The costs of the members `first`, …, `last` of a numbered family. -/
def family (name : String) (first last : Nat) (cost : Nat → GasCost) : List (String × GasCost) :=
  (List.range (last + 1 - first)).map (fun i => (numbered name (first + i), cost (first + i)))

/-- The costs by mnemonic. -/
def table : List (String × GasCost) :=
  [ ("STOP", fixed 0), ("ADD", fixed 3), ("MUL", fixed 5), ("SUB", fixed 3), ("DIV", fixed 5),
    ("SDIV", fixed 5), ("MOD", fixed 5), ("SMOD", fixed 5), ("ADDMOD", fixed 8),
    ("MULMOD", fixed 8), ("EXP", varying 10), ("SIGNEXTEND", fixed 5),
    ("LT", fixed 3), ("GT", fixed 3), ("SLT", fixed 3), ("SGT", fixed 3), ("EQ", fixed 3),
    ("ISZERO", fixed 3), ("AND", fixed 3), ("OR", fixed 3), ("XOR", fixed 3), ("NOT", fixed 3),
    ("BYTE", fixed 3), ("SHL", fixed 3), ("SHR", fixed 3), ("SAR", fixed 3),
    ("KECCAK256", varying 30),
    ("ADDRESS", fixed 2), ("BALANCE", varying 2600), ("ORIGIN", fixed 2), ("CALLER", fixed 2),
    ("CALLVALUE", fixed 2), ("CALLDATALOAD", fixed 3), ("CALLDATASIZE", fixed 2),
    ("CALLDATACOPY", varying 3), ("CODESIZE", fixed 2), ("CODECOPY", varying 3),
    ("GASPRICE", fixed 2), ("EXTCODESIZE", varying 2600), ("EXTCODECOPY", varying 2600),
    ("RETURNDATASIZE", fixed 2), ("RETURNDATACOPY", varying 3), ("EXTCODEHASH", varying 2600),
    ("BLOCKHASH", fixed 20), ("COINBASE", fixed 2), ("TIMESTAMP", fixed 2), ("NUMBER", fixed 2),
    ("PREVRANDAO", fixed 2), ("GASLIMIT", fixed 2), ("CHAINID", fixed 2), ("SELFBALANCE", fixed 5),
    ("BASEFEE", fixed 2), ("BLOBHASH", fixed 3), ("BLOBBASEFEE", fixed 2),
    ("POP", fixed 2), ("MLOAD", varying 3), ("MSTORE", varying 3), ("MSTORE8", varying 3),
    ("MCOPY", varying 3), ("SLOAD", varying 2100), ("SSTORE", varying 20000),
    ("TLOAD", fixed 100), ("TSTORE", fixed 100),
    ("JUMP", fixed 8), ("JUMPI", fixed 10), ("PC", fixed 2), ("MSIZE", fixed 2), ("GAS", fixed 2),
    ("JUMPDEST", fixed 1), ("PUSH0", fixed 2) ]
  ++ family "PUSH" 1 32 (fun _ => fixed 3)
  ++ family "DUP" 1 16 (fun _ => fixed 3)
  ++ family "SWAP" 1 16 (fun _ => fixed 3)
  ++ family "LOG" 0 4 (fun topics => varying (375 * (topics + 1)))
  ++ [ ("CREATE", varying 32000), ("CREATE2", varying 32000), ("CALL", varying 700),
    ("CALLCODE", varying 700), ("DELEGATECALL", varying 700), ("STATICCALL", varying 700),
    ("RETURN", fixed 0), ("REVERT", fixed 0), ("INVALID", fixed 0), ("SELFDESTRUCT", varying 5000) ]

/-- Earlier names of instructions. -/
def formerNames : List (String × String) :=
  [("SHA3", "KECCAK256"), ("DIFFICULTY", "PREVRANDAO"), ("SUICIDE", "SELFDESTRUCT")]

/-- The cost by the name of an instruction in capital letters. -/
def ofCapitals (name : String) : GasCost :=
  (table.lookup ((formerNames.lookup name).getD name)).getD (fixed 0)

/-- The cost by the name of an instruction, in any letter case. -/
def ofMnemonic (name : String) : GasCost :=
  ofCapitals (toCapitals name)

end GasCost

end EvmScope
