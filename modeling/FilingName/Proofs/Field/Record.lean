import FilingName.Field.Record
import Mathlib.Data.List.Forall2

/-! Rows of parts, and what is left of them without the mark for unknown ones. -/
namespace FilingName.Field

/-- The parts that could be made out, in their order. -/
def known (parts : List Text) : List Text := parts.filter (· ≠ unknown)

variable {part : Text}

@[simp] theorem known_nil : known [] = [] := rfl

@[simp] theorem known_unknown (parts : List Text) : known (unknown :: parts) = known parts := by
  simp [known]

theorem known_cons_of_ne (h : part ≠ unknown) (parts : List Text) :
    known (part :: parts) = part :: known parts := by
  simp [known, h]

@[simp] theorem known_append (parts more : List Text) :
    known (parts ++ more) = known parts ++ known more := by
  simp [known]

theorem known_cons (part : Text) (parts : List Text) :
    known (part :: parts) = known [part] ++ known parts := known_append [part] parts

/-- The items that parts consist of, one part after the other, are the given items, apart from the
mark for unknown ones: none is lost, none comes twice and none changes its place. -/
def Conserves (Consists : Text → List Text → Prop) (parts items : List Text) : Prop :=
  ∃ found, List.Forall₂ Consists parts found ∧ known found.flatten = known items

end FilingName.Field
