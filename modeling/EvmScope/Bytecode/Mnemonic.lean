import EvmScope.Text.Numeral

set_option autoImplicit false

/-! # Mnemonics

The names of the instructions, by opcode. Four ranges of opcodes are numbered families: `PUSH1` to
`PUSH32`, `DUP1` to `DUP16`, `SWAP1` to `SWAP16` and `LOG0` to `LOG4`. An opcode without an assigned
instruction is `UNKNOWN`. -/

namespace EvmScope

/-- The name of an opcode without an assigned instruction. -/
def unknownMnemonic : String := "UNKNOWN"

/-- The name of the member `index` of a numbered family. -/
def numbered (family : String) (index : Nat) : String :=
  family ++ Numeral.decimal index

/-- The name of the instruction with an opcode. -/
def mnemonic (opcode : UInt8) : String :=
  match opcode.toNat with
  | 0x00 => "STOP"
  | 0x01 => "ADD"
  | 0x02 => "MUL"
  | 0x03 => "SUB"
  | 0x04 => "DIV"
  | 0x05 => "SDIV"
  | 0x06 => "MOD"
  | 0x07 => "SMOD"
  | 0x08 => "ADDMOD"
  | 0x09 => "MULMOD"
  | 0x0A => "EXP"
  | 0x0B => "SIGNEXTEND"
  | 0x10 => "LT"
  | 0x11 => "GT"
  | 0x12 => "SLT"
  | 0x13 => "SGT"
  | 0x14 => "EQ"
  | 0x15 => "ISZERO"
  | 0x16 => "AND"
  | 0x17 => "OR"
  | 0x18 => "XOR"
  | 0x19 => "NOT"
  | 0x1A => "BYTE"
  | 0x1B => "SHL"
  | 0x1C => "SHR"
  | 0x1D => "SAR"
  | 0x20 => "KECCAK256"
  | 0x30 => "ADDRESS"
  | 0x31 => "BALANCE"
  | 0x32 => "ORIGIN"
  | 0x33 => "CALLER"
  | 0x34 => "CALLVALUE"
  | 0x35 => "CALLDATALOAD"
  | 0x36 => "CALLDATASIZE"
  | 0x37 => "CALLDATACOPY"
  | 0x38 => "CODESIZE"
  | 0x39 => "CODECOPY"
  | 0x3A => "GASPRICE"
  | 0x3B => "EXTCODESIZE"
  | 0x3C => "EXTCODECOPY"
  | 0x3D => "RETURNDATASIZE"
  | 0x3E => "RETURNDATACOPY"
  | 0x3F => "EXTCODEHASH"
  | 0x40 => "BLOCKHASH"
  | 0x41 => "COINBASE"
  | 0x42 => "TIMESTAMP"
  | 0x43 => "NUMBER"
  | 0x44 => "PREVRANDAO"
  | 0x45 => "GASLIMIT"
  | 0x46 => "CHAINID"
  | 0x47 => "SELFBALANCE"
  | 0x48 => "BASEFEE"
  | 0x49 => "BLOBHASH"
  | 0x4A => "BLOBBASEFEE"
  | 0x50 => "POP"
  | 0x51 => "MLOAD"
  | 0x52 => "MSTORE"
  | 0x53 => "MSTORE8"
  | 0x54 => "SLOAD"
  | 0x55 => "SSTORE"
  | 0x56 => "JUMP"
  | 0x57 => "JUMPI"
  | 0x58 => "PC"
  | 0x59 => "MSIZE"
  | 0x5A => "GAS"
  | 0x5B => "JUMPDEST"
  | 0x5C => "TLOAD"
  | 0x5D => "TSTORE"
  | 0x5E => "MCOPY"
  | 0x5F => "PUSH0"
  | 0xF0 => "CREATE"
  | 0xF1 => "CALL"
  | 0xF2 => "CALLCODE"
  | 0xF3 => "RETURN"
  | 0xF4 => "DELEGATECALL"
  | 0xF5 => "CREATE2"
  | 0xFA => "STATICCALL"
  | 0xFD => "REVERT"
  | 0xFE => "INVALID"
  | 0xFF => "SELFDESTRUCT"
  | n =>
    if 0x60 ≤ n && n < 0x80 then numbered "PUSH" (n - 0x5F)
    else if 0x80 ≤ n && n < 0x90 then numbered "DUP" (n - 0x7F)
    else if 0x90 ≤ n && n < 0xA0 then numbered "SWAP" (n - 0x8F)
    else if 0xA0 ≤ n && n < 0xA5 then numbered "LOG" (n - 0xA0)
    else unknownMnemonic

/-- The name of the instruction at a place in the list of all opcodes; a negative place counts from the
    end of the list. -/
def mnemonicAt? (place : Int) : Option String :=
  if 0 ≤ place && place < 256 then some (mnemonic (UInt8.ofNat place.toNat))
  else if -256 ≤ place && place < 0 then some (mnemonic (UInt8.ofNat (place + 256).toNat))
  else none

/-- The number of bytes that follow an opcode as inline data: `n` for `PUSHn`, else none. -/
def inlineLength (opcode : UInt8) : Nat :=
  let n := opcode.toNat
  if 0x60 ≤ n && n < 0x80 then n - 0x5F else 0

end EvmScope
