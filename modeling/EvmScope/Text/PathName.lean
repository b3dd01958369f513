import EvmScope.Text.Split

set_option autoImplicit false

/-! # File paths

The text of a path is a row of components between slashes. Empty components and single dots add
nothing; the normal form leaves them out. The stem of a path is its last component without the
ending behind the last dot, unless the dot begins or ends the component. -/

namespace EvmScope.PathName

/-- The components of a path. -/
def components (path : String) : List (List Char) :=
  (splitAtChar '/' path.toList).filter (fun part => !part.isEmpty && part != ['.'])

/-- The slashes that a path begins with: none, one, or exactly two. -/
def root (path : String) : List Char :=
  match path.toList.takeWhile (· = '/') with
  | [] => []
  | ['/', '/'] => ['/', '/']
  | _ => ['/']

/-- The normal form of a path; the path of nothing is a dot. -/
def normal (path : String) : String :=
  match root path ++ ['/'].intercalate (components path) with
  | [] => "."
  | cs => String.ofList cs

/-- A file name without its ending. -/
def dropEnding (name : List Char) : List Char :=
  let ending := name.reverse.takeWhile (· ≠ '.')
  let kept := name.take (name.length - ending.length - 1)
  if !name.contains '.' || ending.isEmpty || kept.isEmpty then name else kept

/-- The last component of a path without its ending. -/
def stem (path : String) : String :=
  String.ofList (dropEnding ((components path).getLast?.getD []))

end EvmScope.PathName
