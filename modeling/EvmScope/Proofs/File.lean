import EvmScope.File

set_option autoImplicit false

/-! # What is read of a file

A file that holds the bytes of a text is read as this text, with line feeds as its only line ends. -/

namespace EvmScope

theorem fromUTF8?_toUTF8 (text : String) : String.fromUTF8? text.toUTF8 = some text := by
  rw [String.fromUTF8?, String.toUTF8_eq_toByteArray, dif_pos text.isValidUTF8]
  rfl

namespace FileState

theorem text?_content (text : String) :
    (content text.toUTF8).text? = some (unifyLineEnds text) := by
  rw [text?, fromUTF8?_toUTF8, Option.map_some]

/-- There is a file, and its content is a document that is not nested too deep to be read. -/
def Holds (file : FileState) (document : Json) (levels : Nat) : Prop :=
  ∃ bytes text, file = .content bytes ∧ file.text? = some text ∧ Json.read text levels = .ok document

theorem holds_content {text : String} {document : Json} {levels : Nat}
    (hread : Json.read (unifyLineEnds text) levels = .ok document) :
    (content text.toUTF8).Holds document levels :=
  ⟨text.toUTF8, unifyLineEnds text, rfl, text?_content text, hread⟩

theorem Holds.json {file : FileState} {document : Json} {levels : Nat} (hfile : file.Holds document levels)
    (refusal : Fault) : file.json refusal levels = .ok document := by
  obtain ⟨bytes, text, -, htext, hread⟩ := hfile
  simp only [FileState.json, htext, hread]

end FileState

end EvmScope
