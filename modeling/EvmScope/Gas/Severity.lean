set_option autoImplicit false

/-! # Severity

How grave the gas of a source range is. Three thresholds cut the gas figures into four classes; the
comparisons are made from the lowest threshold up, so thresholds out of order make some classes
empty. The *rank* of a severity counts from the gravest. -/

namespace EvmScope

/-- A class of gas figures. -/
inductive Severity
  | optimal
  | warning
  | high
  | critical
  deriving DecidableEq, Repr

/-- The gas figures from which each severity but the lowest holds. -/
structure Thresholds where
  warning : Int
  high : Int
  critical : Int
  deriving DecidableEq, Repr

/-- The thresholds unless others are set. -/
def Thresholds.standard : Thresholds := ⟨1000, 5000, 20000⟩

namespace Severity

/-- All severities, the lightest first. -/
def all : List Severity := [optimal, warning, high, critical]

/-- The severity of a gas figure. -/
def ofGas (t : Thresholds) (gas : Int) : Severity :=
  if gas < t.warning then optimal
  else if gas < t.high then warning
  else if gas < t.critical then high
  else critical

/-- The rank of a severity, zero for the gravest. -/
def rank : Severity → Nat
  | critical => 0
  | high => 1
  | warning => 2
  | optimal => 3

/-- The word for a severity. -/
def name : Severity → String
  | optimal => "optimal"
  | warning => "warning"
  | high => "high"
  | critical => "critical"

/-- The severity that a word stands for. -/
def ofName? (word : String) : Option Severity :=
  all.find? (fun s => s.name == word)

end Severity

end EvmScope
