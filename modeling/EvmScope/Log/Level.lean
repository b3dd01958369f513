import EvmScope.Fault
import EvmScope.Text.Casing

set_option autoImplicit false

/-! # Log levels

Records have a level, and a log takes records from some level on. Levels are named in any letter case; an
unknown name stands for the level of plain information. Two names belong to the layout of log lines
instead, and to set one of them as a level is a fault. -/

namespace EvmScope

/-- How grave a log record is. -/
inductive LogLevel
  | notSet
  | debug
  | info
  | warning
  | error
  | critical
  deriving DecidableEq, Repr

namespace LogLevel

/-- The rank of a level, ten for each step. -/
def rank : LogLevel → Nat
  | notSet => 0
  | debug => 10
  | info => 20
  | warning => 30
  | error => 40
  | critical => 50

/-- The word for a level. -/
def name : LogLevel → String
  | notSet => "NOTSET"
  | debug => "DEBUG"
  | info => "INFO"
  | warning => "WARNING"
  | error => "ERROR"
  | critical => "CRITICAL"

/-- The levels by their names, two of which have a second one. -/
def named : List (String × LogLevel) :=
  [ ("NOTSET", notSet), ("DEBUG", debug), ("INFO", info), ("WARNING", warning), ("WARN", warning),
    ("ERROR", error), ("CRITICAL", critical), ("FATAL", critical) ]

/-- The level of a name in capital letters, plain information if there is none. -/
def ofName (name : String) : LogLevel :=
  (named.lookup name).getD info

/-- The plain layout of a line, which goes by a name of its own. -/
def plainLayout : String := "%(levelname)s:%(name)s:%(message)s"

/-- The level that a setting asks for. -/
def ofSetting (setting : String) : Except Fault LogLevel :=
  let name := toCapitals setting
  if name = "BASIC_FORMAT" then .error (.unknownLevel (Quoted.quote plainLayout))
  else if name = "_STYLES" then .error .wrongKind
  else .ok (ofName name)

end LogLevel

end EvmScope
