import EvmScope.CommandLine.Grammar
import EvmScope.Json.Writer

set_option autoImplicit false

/-! # Manuals

What people are told about the program and its commands. -/

namespace EvmScope.CommandLine

/-- The name of the program. -/
def programName : String := "gaslens"

/-- The version of the program. -/
def version : String := "0.1.0"

/-- Lines of a text, each with its line end. -/
def ofLines (lines : List String) : String := String.join (lines.map (· ++ "\n"))

/-- Words between braces, with commas between them. -/
def alternatives (words : List String) : String :=
  Json.openBrace ++ ",".intercalate words ++ Json.closeBrace

/-- The heading of options in the details, and the option that every command has. -/
def optionsHeading : List String :=
  [ "options:",
    "  -h, --help            show this help message and exit" ]

/-- What is told about the option that chooses a contract. -/
def contractOption : List String :=
  [ "  --contract CONTRACT, -c CONTRACT",
    "                        Contract name (Name or path:Name)" ]

/-- What is told about the option that chooses the format. -/
def formatOption : List String :=
  [ "  --format " ++ alternatives ["table", "json"] ++ ", -f " ++ alternatives ["table", "json"],
    "                        Output format (default: table)" ]

/-- The manual of the program. -/
def programManual : Manual where
  program := programName
  usage := ofLines
    [ "usage: gaslens [-h] [--version] [--no-banner] [--quiet]",
      "               " ++ alternatives ["analyze", "state", "config"] ++ " ..." ]
  details := ofLines
    ([ "gaslens — EVM gas hotspots and storage state",
      "",
      "positional arguments:",
      "  " ++ alternatives ["analyze", "state", "config"],
      "    analyze             Rank gas hotspots for a compiled contract",
      "    state               Reconstruct storage state from traces",
      "    config              Show current configuration",
      "" ] ++ optionsHeading ++
    [ "  --version             Print version and exit",
      "  --no-banner           Suppress the startup banner",
      "  --quiet, -q           Minimal output" ])

/-- The manual of the command that ranks hotspots. -/
def gasManual : Manual where
  program := programName ++ " analyze"
  usage := ofLines
    [ "usage: gaslens analyze [-h] --source SOURCE [--contract CONTRACT]",
      "                       [--trace TRACE] [--creation] [--format "
        ++ alternatives ["table", "json"] ++ "]",
      "                       [--min-severity "
        ++ alternatives ["optimal", "warning", "high", "critical"] ++ "]",
      "                       [--output OUTPUT]",
      "                       artifact" ]
  details := ofLines
    ([ "positional arguments:",
      "  artifact              solc standard JSON, Hardhat or Foundry artifact",
      "" ] ++ optionsHeading ++
    [ "  --source SOURCE, -s SOURCE",
      "                        Solidity source file" ] ++ contractOption ++
    [ "  --trace TRACE, -t TRACE",
      "                        debug_traceTransaction JSON to refine costs",
      "  --creation            Analyze creation code instead of runtime code" ]
    ++ formatOption ++
    [ "  --min-severity " ++ alternatives ["optimal", "warning", "high", "critical"],
      "                        Minimum severity to report",
      "  --output OUTPUT, -o OUTPUT",
      "                        Write output to file instead of stdout" ])

/-- The manual of the command that shows storage. -/
def stateManual : Manual where
  program := programName ++ " state"
  usage := ofLines
    [ "usage: gaslens state [-h] [--contract CONTRACT] [--trace TRACE]",
      "                     [--snapshot SNAPSHOT] [--format "
        ++ alternatives ["table", "json"] ++ "]",
      "                     artifact" ]
  details := ofLines
    ([ "positional arguments:",
      "  artifact              Artifact with a storage layout",
      "" ] ++ optionsHeading ++ contractOption ++
    [ "  --trace TRACE, -t TRACE",
      "                        Trace JSON to apply (repeatable, applied in order)",
      "  --snapshot SNAPSHOT   Show state as of this snapshot id" ] ++ formatOption)

/-- The manual of the command that shows the settings. -/
def configManual : Manual where
  program := programName ++ " config"
  usage := ofLines ["usage: gaslens config [-h]"]
  details := ofLines
    [ "options:",
      "  -h, --help  show this help message and exit" ]

end EvmScope.CommandLine
