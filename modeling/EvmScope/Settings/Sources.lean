import EvmScope.Settings.Basic
import EvmScope.Settings.EnvFile
import EvmScope.Text.Casing

set_option autoImplicit false

/-! # Where settings come from

A setting is taken from the first of these sources that gives it: the caller, the environment, the
environment file. Variables carry a mark in front of the name of the setting, and the case of their
letters does not matter. Other variables of the environment are ignored; another variable that the
environment file sets to some text is an unexpected field. -/

namespace EvmScope.Settings

/-- What stands in front of the name of a setting in the name of its variable. -/
def variableMark : String := "gaslens_"

/-- Variables by their names in small letters, the later ones replacing the earlier. -/
def smallNames {α : Type} (assigned : List (String × α)) : List (String × α) :=
  Table.ofPairs (assigned.map (fun (name, value) => (toSmall name, value)))

/-- The settings that variables give, in the order of the settings. -/
def givenBy (assigned : List (String × Option String)) : List (String × Json) :=
  names.filterMap (fun name =>
    ((assigned.lookup (variableMark ++ name)).bind id).map (fun text => (name, Json.str text)))

/-- Whether a variable is unexpected in an environment file. -/
def isUnexpected (name : String) : Bool :=
  !names.contains name && !(names.map (variableMark ++ ·)).contains name

/-- The fields that an environment file gives: the settings, then the unexpected variables. -/
def fileFields (assigned : List (String × Option String)) : List (String × Json) :=
  givenBy assigned ++ assigned.filterMap (fun (name, value) =>
    match value with
    | some text => if isUnexpected name && text ≠ "" then some (name, Json.str text) else none
    | none => none)

/-- The variables of the environment that can matter beside an environment file of this text: those of the
    settings, in capital or small letters, and those that the file refers to. -/
def wantedVariables (file : Option String) : List String :=
  names.flatMap (fun name => [toCapitals (variableMark ++ name), variableMark ++ name])
    ++ EnvFile.referredTo (file.getD "").toList

/-- What settings are read from. -/
structure Sources where
  /-- The fields given by the caller. -/
  given : List (String × Json)
  /-- The variables of the environment. -/
  environment : List (String × String)
  /-- The text of the environment file, if there is one. -/
  file : Option String

namespace Sources

/-- The fields of all sources, those of the caller before those of the environment before those of the
    file. -/
def fields (sources : Sources) : List (String × Json) :=
  let ofFile :=
    match sources.file with
    | some text => fileFields (smallNames (EnvFile.read sources.environment text))
    | none => []
  let ofEnvironment :=
    givenBy ((smallNames sources.environment).map (fun (name, text) => (name, some text)))
  Table.ofPairs (ofFile ++ ofEnvironment ++ sources.given)

/-- Read the settings. -/
def settings (sources : Sources) : Except (List Issue) Settings :=
  ofFields sources.fields

end Sources

end EvmScope.Settings
