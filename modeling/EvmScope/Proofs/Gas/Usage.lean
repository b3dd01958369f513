import EvmScope.Gas.Usage
import EvmScope.Proofs.Trace.Logs

set_option autoImplicit false

/-! # Gas usage of any document

Whatever document is given as a trace, its usage is recorded, or there is nothing to record, with one exception.
The gas figure is taken over as it stands: null and text that is no integer are no figure, and an empty list or
object counts as zero, but any other list or object is compared with the bounds of the advice, and it has no
size. Then nothing is recorded. -/

namespace EvmScope

/-- A list or an object that is not empty. Any other value counts as zero where a number is wanted, or has a
    size. -/
inductive Json.Unsized : Json → Prop
  | arr {items : List Json} (hne : items ≠ []) : Unsized (.arr items)
  | obj {fields : List (String × Json)} (hne : fields ≠ []) : Unsized (.obj fields)

namespace ParsedTrace

/-- The value in place of the gas figure of a document: the one in its result unless it is null, else the one
    under the first of two names that the document has. -/
def gasValue : Json → Json
  | .obj fields =>
    match (Json.fieldOrNull "result" fields).get "gasUsed" with
    | .null => ((fields.lookup "gasUsed").or (fields.lookup "gas")).getD .null
    | value => value
  | _ => .null

/-- A value is no gas figure: it is null or text that is no integer. -/
def NoFigure (value : Json) : Prop :=
  value = .null ∨ ∃ text, value = .str text ∧ TraceEntry.intOfText? text = none

theorem NoFigure.sized {value : Json} (hnone : NoFigure value) : ¬ value.Unsized := by
  obtain rfl | ⟨text, rfl, -⟩ := hnone
  · nofun
  · nofun

/-- What is read of a value in place of the gas figure. -/
inductive Figure : Json → Option Json → Prop
  | missing {value : Json} (hnone : NoFigure value) : Figure value none
  | spelled {text : String} {n : Int} (hread : TraceEntry.intOfText? text = some n) : Figure (.str text) (some (.int n))
  | given {value : Json} (hnull : value ≠ .null) (htext : ∀ text, value ≠ .str text) : Figure value (some value)

/-- The gas figure that is made of the value in its place. -/
def figureOf : Json → Option Json
  | .null => none
  | .str text => (TraceEntry.intOfText? text).map Json.int
  | value => some value

theorem figure_figureOf (value : Json) : Figure value (figureOf value) := by
  cases value with
  | null => exact .missing (.inl rfl)
  | str text =>
    rw [figureOf]
    cases htext : TraceEntry.intOfText? text with
    | none => exact .missing (.inr ⟨text, rfl, htext⟩)
    | some n => exact .spelled htext
  | _ => exact .given Json.noConfusion (fun _ => Json.noConfusion)

theorem gasFigure_eq (fields : List (String × Json)) : gasFigure fields = figureOf (gasValue (.obj fields)) :=
  rfl

/-- The gas figure is all that is read of this value, whether there is a list of entries or not. -/
theorem figure_gasUsed (limit : Option Int) (document : Json) :
    Figure (gasValue document) (ofJson limit document).gasUsed := by
  cases document with
  | obj fields =>
    have hgas : (ofJson limit (.obj fields)).gasUsed = gasFigure fields := by
      rw [ofJson]
      dsimp only
      split
      · rfl
      · rfl
    rw [hgas, gasFigure_eq]
    exact figure_figureOf _
  | _ => exact .missing (.inl rfl)

/-- There is no figure exactly if the value is none. -/
theorem Figure.eq_none_iff {value : Json} {figure : Option Json} (hfigure : Figure value figure) :
    figure = none ↔ NoFigure value := by
  cases hfigure with
  | missing hnone => exact iff_of_true rfl hnone
  | spelled hread =>
    refine iff_of_false (Option.some_ne_none _) ?_
    rintro (hnull | ⟨text, htext, hnone⟩)
    · cases hnull
    · cases htext
      rw [hread] at hnone
      cases hnone
  | given hnull htext =>
    refine iff_of_false (Option.some_ne_none _) ?_
    rintro (hvalue | ⟨text, hvalue, -⟩)
    · exact hnull hvalue
    · exact htext text hvalue

/-- A figure is never text, and it is unsized exactly if the value in its place is. -/
theorem Figure.unsized_iff {value : Json} {figure : Option Json} (hfigure : Figure value figure) :
    (∀ text, figure.getD .null ≠ .str text) ∧ ((figure.getD .null).Unsized ↔ value.Unsized) := by
  cases hfigure with
  | missing hnone => exact ⟨fun _ => Json.noConfusion, iff_of_false nofun hnone.sized⟩
  | spelled hread => exact ⟨fun _ => Json.noConfusion, iff_of_false nofun nofun⟩
  | given hnull htext => exact ⟨htext, Iff.rfl⟩

theorem malformed_iff (limit : Option Int) (document : Json) :
    (ofJson limit document).malformed = true ↔ document ≠ .null ∧ logs? document = none := by
  cases document with
  | null => simp [ofJson, empty]
  | obj fields =>
    rw [ofJson, logs?]
    dsimp only
    cases rawEntries fields with
    | arr items => simp [empty]
    | _ => simp
  | _ => simp [ofJson, logs?]

end ParsedTrace

/-! ## Usage -/

namespace Json

theorem unsized_arr_iff (items : List Json) : (arr items).Unsized ↔ items ≠ [] :=
  ⟨fun (.arr hne) => hne, .arr⟩

theorem unsized_obj_iff (fields : List (String × Json)) : (obj fields).Unsized ↔ fields ≠ [] :=
  ⟨fun (.obj hne) => hne, .obj⟩

/-- A value that is neither unsized nor text has a size once zero is taken for an absent one. -/
theorem isSome_exceeds?_iff {value : Json} (htext : ∀ text, value ≠ .str text) (bound : Int) :
    (GasUsage.exceeds? (value.orElse (.int 0)) bound).isSome = true ↔ ¬ value.Unsized := by
  have hzero : (GasUsage.exceeds? (.int 0) bound).isSome = true := rfl
  have hsized : ∀ {other : Json}, (GasUsage.exceeds? other bound).isSome = true →
      (GasUsage.exceeds? (other.orElse (.int 0)) bound).isSome = true := by
    intro other hother
    rw [orElse]
    split
    · exact hother
    · exact hzero
  cases value with
  | null => exact iff_of_true hzero nofun
  | bool b => exact iff_of_true (hsized rfl) nofun
  | int n => exact iff_of_true (hsized rfl) nofun
  | float x => exact iff_of_true (hsized rfl) nofun
  | str text => exact absurd rfl (htext text)
  | arr items =>
    rw [unsized_arr_iff]
    cases items with
    | nil => exact iff_of_true hzero (fun hne => hne rfl)
    | cons item rest => simp [orElse, isPresent, GasUsage.exceeds?, int?]
  | obj fields =>
    rw [unsized_obj_iff]
    cases fields with
    | nil => exact iff_of_true hzero (fun hne => hne rfl)
    | cons field rest => simp [orElse, isPresent, GasUsage.exceeds?, int?]

end Json

namespace GasUsage

/-- Advice can be given exactly if the figure has a size, and nothing else stands in its way. -/
theorem recommend_cases {value : Json} (htext : ∀ text, value ≠ .str text) (reads writes calls : Int) :
    (¬ value.Unsized ∧ ∃ advice, recommend (value.orElse (.int 0)) reads writes calls = .ok advice)
      ∨ value.Unsized ∧ recommend (value.orElse (.int 0)) reads writes calls = .error .wrongKind := by
  have hhigh := Json.isSome_exceeds?_iff htext 500000
  have hmoderate := Json.isSome_exceeds?_iff htext 100000
  unfold recommend
  by_cases hunsized : value.Unsized
  · right
    rw [iff_false_right (not_not_intro hunsized)] at hhigh
    rw [Option.not_isSome_iff_eq_none.1 hhigh]
    exact ⟨hunsized, rfl⟩
  · left
    obtain ⟨isHigh, hhigh⟩ := Option.isSome_iff_exists.1 (hhigh.2 hunsized)
    obtain ⟨isModerate, hmoderate⟩ := Option.isSome_iff_exists.1 (hmoderate.2 hunsized)
    rw [hhigh, hmoderate]
    exact ⟨hunsized, _, rfl⟩

end GasUsage

/-- How the usage of a document ends: there is none, its figure has no size, or it is made. -/
inductive UsageEnds (document : Json) : Except Fault (Option GasUsage) → Prop
  | nothing (hdocument : document ≠ .null) (hlogs : ParsedTrace.logs? document = none)
    (hfigure : ParsedTrace.NoFigure (ParsedTrace.gasValue document)) : UsageEnds document (.ok none)
  | failed (hunsized : (ParsedTrace.gasValue document).Unsized) : UsageEnds document (.error .wrongKind)
  | made {usage : GasUsage} (hsized : ¬ (ParsedTrace.gasValue document).Unsized)
    (hsome : ¬ (document ≠ .null ∧ ParsedTrace.logs? document = none
      ∧ ParsedTrace.NoFigure (ParsedTrace.gasValue document))) : UsageEnds document (.ok (some usage))

namespace GasUsage

theorem usageEnds_ofTrace (limit : Option Int) (document : Json) :
    UsageEnds document (ofTrace (ParsedTrace.ofJson limit document)) := by
  have hmalformed := ParsedTrace.malformed_iff limit document
  have hfigure := ParsedTrace.figure_gasUsed limit document
  generalize ParsedTrace.ofJson limit document = trace at hmalformed hfigure
  have hnone := hfigure.eq_none_iff
  obtain ⟨htext, hunsized⟩ := hfigure.unsized_iff
  have hmissing : (trace.malformed && trace.gasUsed.isNone) = true ↔ document ≠ .null
      ∧ ParsedTrace.logs? document = none ∧ ParsedTrace.NoFigure (ParsedTrace.gasValue document) := by
    rw [Bool.and_eq_true, hmalformed, Option.isNone_iff_eq_none, hnone, and_assoc]
  unfold ofTrace
  by_cases hnothing : (trace.malformed && trace.gasUsed.isNone) = true
  · rw [if_pos hnothing]
    obtain ⟨hdocument, hlogs, hfigure⟩ := hmissing.1 hnothing
    exact .nothing hdocument hlogs hfigure
  · rw [if_neg hnothing]
    dsimp only
    rcases recommend_cases htext (countOf trace ["SLOAD"]) (countOf trace ["SSTORE"])
        (countOf trace ["CALL", "DELEGATECALL"]) with ⟨hsized, advice, hadvice⟩ | ⟨hfails, hadvice⟩
    · rw [hadvice]
      exact .made (mt hunsized.2 hsized) (mt hmissing.2 hnothing)
    · rw [hadvice]
      exact .failed (hunsized.1 hfails)

end GasUsage

/-! ## Records -/

namespace UsageLedger

/-- What comes of recording the usage of a document: it is kept under the name of its function, there is none, or
    it cannot be made. -/
structure RecordsOrFails (ledger : UsageLedger) (document : Json) : Prop where
  /-- Recording fails exactly if a list or an object that is not empty stands in place of the gas figure. -/
  fails_iff : ∀ fault, (ledger.record (ParsedTrace.ofJson none document)).2 = .error fault
    ↔ fault = .wrongKind ∧ (ParsedTrace.gasValue document).Unsized
  /-- There is nothing to record exactly if the document is no trace, but not null, and has no gas figure. -/
  nothing_iff : (ledger.record (ParsedTrace.ofJson none document)).2 = .ok none
    ↔ document ≠ .null ∧ ParsedTrace.logs? document = none
      ∧ ParsedTrace.NoFigure (ParsedTrace.gasValue document)
  /-- A usage that is made is kept under the name of its function, and those of the others stay. -/
  kept : ∀ usage, (ledger.record (ParsedTrace.ofJson none document)).2 = .ok (some usage) →
    (ledger.record (ParsedTrace.ofJson none document)).1.lookup usage.function = some usage
      ∧ ∀ function, function ≠ usage.function →
        (ledger.record (ParsedTrace.ofJson none document)).1.lookup function = ledger.lookup function
  /-- Without a usage all stays as it is. -/
  unchanged : (∀ usage, (ledger.record (ParsedTrace.ofJson none document)).2 ≠ .ok (some usage)) →
    (ledger.record (ParsedTrace.ofJson none document)).1 = ledger

/-- The result of recording does not depend on what was recorded before. -/
theorem snd_record (ledger : UsageLedger) (trace : ParsedTrace) :
    (ledger.record trace).2 = GasUsage.ofTrace trace := by
  unfold record
  split
  · next usage hmade => exact hmade.symm
  · rfl

/-- **Recording** keeps a usage, finds none, or fails at an unsized figure. -/
theorem recordsOrFails (ledger : UsageLedger) (document : Json) : ledger.RecordsOrFails document := by
  have hends := GasUsage.usageEnds_ofTrace none document
  have hresult := ledger.snd_record (ParsedTrace.ofJson none document)
  refine ⟨fun fault => ?_, ?_, fun usage hmade => ?_, fun hnone => ?_⟩
  · rw [hresult]
    generalize GasUsage.ofTrace (ParsedTrace.ofJson none document) = made at hends
    cases hends with
    | nothing hdocument hlogs hfigure =>
      refine iff_of_false nofun ?_
      rintro ⟨-, hunsized⟩
      exact hfigure.sized hunsized
    | failed hunsized =>
      rw [Except.error.injEq, eq_comm]
      exact (and_iff_left hunsized).symm
    | made hsized hsome => exact iff_of_false nofun (fun hfails => hsized hfails.2)
  · rw [hresult]
    generalize GasUsage.ofTrace (ParsedTrace.ofJson none document) = made at hends
    cases hends with
    | nothing hdocument hlogs hfigure => exact iff_of_true rfl ⟨hdocument, hlogs, hfigure⟩
    | failed hunsized => exact iff_of_false nofun (fun hnothing => hnothing.2.2.sized hunsized)
    | made hsized hsome => exact iff_of_false nofun hsome
  · rw [hresult] at hmade
    rw [record, hmade]
    exact ⟨Table.lookup_put_self _ _ _, fun function hne => Table.lookup_put_of_ne _ _ _ _ hne⟩
  · unfold record at hnone ⊢
    split
    · next usage hmade =>
      rw [hmade] at hnone
      exact absurd rfl (hnone usage)
    · rfl

end UsageLedger

end EvmScope
