import EvmScope.Text.CaseTable

set_option autoImplicit false

/-! # Capital and small letters

`toCapitals` and `toSmall` change the case of a whole text by the tables of `CaseTable`. A letter may
become several characters, and a capital sigma becomes the final small sigma at the end of a word:
when a cased letter stands before it and none behind it, characters such as accents passed over. -/

namespace EvmScope

/-- The other-case form of one character by a table of runs and a table of longer spellings. -/
def recase (runs : List CaseRun) (spellings : List (Nat × List Nat)) (c : Char) : List Char :=
  match spellings.lookup c.toNat with
  | some codes => codes.map Char.ofNat
  | none =>
    match runs.findSome? (fun run => run.map? c.toNat) with
    | some code => [Char.ofNat code]
    | none => [c]

/-- The capital form of one character. -/
def capitalOf (c : Char) : List Char :=
  if c.toNat < 128 then [c.toUpper] else recase capitalRuns capitalSpellings c

/-- The small form of one character, wherever it stands. -/
def smallOf (c : Char) : List Char :=
  if c.toNat < 128 then [c.toLower] else recase smallRuns smallSpellings c

/-- The nearest character that is not passed over has letter case. -/
def meetsCased : List Char → Bool
  | [] => false
  | c :: rest => if caseIgnorables.contains c then meetsCased rest else casedLetters.contains c

/-- The small form of the rest of a text; `before` holds the characters already passed, nearest
    first, and `out` the small forms written so far, last first. -/
def smallFrom (before out : List Char) : List Char → List Char
  | [] => out.reverse
  | c :: rest =>
    let form :=
      if c.toNat = 0x3A3 then
        if meetsCased before && !meetsCased rest then [Char.ofNat 0x3C2] else [Char.ofNat 0x3C3]
      else smallOf c
    smallFrom (c :: before) (form.reverse ++ out) rest

/-- A text in capital letters. -/
def toCapitals (text : String) : String :=
  String.ofList (text.toList.flatMap capitalOf)

/-- A text in small letters. -/
def toSmall (text : String) : String :=
  if text.toList.all (fun c => c.toNat < 128) then
    String.ofList (text.toList.map Char.toLower)
  else String.ofList (smallFrom [] [] text.toList)

end EvmScope
