import EvmScope.Text.Split

set_option autoImplicit false

/-! # Splitting is the library's splitting

Cutting a text at a separator is `List.splitOn`, so the pieces are described by the lemmas on it: none
holds the separator, and joined with the separator they give the text back. -/

namespace EvmScope

/-- A running split gives the pieces that are done, and then those of the rest behind the piece that was
    begun. -/
theorem splitFrom_eq (separator : Char) (piece : List Char) (out : List (List Char))
    (cs : List Char) : splitFrom separator piece out cs
      = out.reverse ++ List.splitOnPPrepend (· == separator) cs piece := by
  induction cs generalizing piece out with
  | nil => simp [splitFrom]
  | cons c rest ih =>
    rw [splitFrom, List.splitOnPPrepend_cons_eq_if]
    by_cases hc : c = separator
    · rw [if_pos hc, if_pos (beq_iff_eq.2 hc), ih, List.reverse_cons, List.append_assoc]
      rfl
    · rw [if_neg hc, if_neg (fun h => hc (beq_iff_eq.1 h)), ih]

theorem splitAtChar_eq_splitOn (separator : Char) (cs : List Char) :
    splitAtChar separator cs = cs.splitOn separator := by
  rw [splitAtChar, splitFrom_eq, List.splitOnPPrepend_nil_right, List.splitOn_eq_splitOnP]
  rfl

/-- A character behind a text that is no separator comes to stand behind the last piece. -/
theorem splitOn_concat {separator c : Char} (hc : c ≠ separator) (cs : List Char) :
    ∃ pieces last, cs.splitOn separator = pieces ++ [last]
      ∧ (cs ++ [c]).splitOn separator = pieces ++ [last ++ [c]] := by
  have hfrom : ∀ piece out, ∃ pieces last, splitFrom separator piece out cs = pieces ++ [last]
      ∧ splitFrom separator piece out (cs ++ [c]) = pieces ++ [last ++ [c]] := by
    induction cs with
    | nil =>
      intro piece out
      exact ⟨out.reverse, piece.reverse, by simp [splitFrom], by simp [splitFrom, hc]⟩
    | cons d rest ih =>
      intro piece out
      rw [List.cons_append, splitFrom, splitFrom]
      by_cases hd : d = separator
      · rw [if_pos hd, if_pos hd]
        exact ih _ _
      · rw [if_neg hd, if_neg hd]
        exact ih _ _
  rw [← splitAtChar_eq_splitOn, ← splitAtChar_eq_splitOn]
  exact hfrom [] []

end EvmScope
