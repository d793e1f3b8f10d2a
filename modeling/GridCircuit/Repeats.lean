/-!
# The first repetition in a list

Operands of an operation, operations of a moment and measurement keys of a circuit must not
repeat.  All three are judged by `firstRepeat?`, which names the first entry that has occurred
before it; it finds none exactly when the list has no repetition (`firstRepeat?_eq_none_iff`).
-/

namespace GridCircuit

variable {α : Type} [DecidableEq α]

/-- The first entry that is among `seen` or among the entries before it. -/
def firstRepeatAfter? (seen : List α) : List α → Option α
  | [] => none
  | a :: rest => if a ∈ seen then some a else firstRepeatAfter? (a :: seen) rest

/-- The first entry that equals an earlier one. -/
def firstRepeat? (values : List α) : Option α :=
  firstRepeatAfter? [] values

theorem firstRepeatAfter?_eq_none_iff {seen values : List α} :
    firstRepeatAfter? seen values = none ↔ values.Nodup ∧ ∀ a ∈ values, a ∉ seen := by
  induction values generalizing seen with
  | nil => simp [firstRepeatAfter?]
  | cons a rest ih =>
    unfold firstRepeatAfter?
    split
    · rename_i member
      simp [member]
    · rename_i fresh
      rw [ih]
      simp only [List.nodup_cons, List.mem_cons, not_or]
      grind

/-- Nothing repeats exactly in a list without duplicates. -/
theorem firstRepeat?_eq_none_iff {values : List α} :
    firstRepeat? values = none ↔ values.Nodup := by
  simp [firstRepeat?, firstRepeatAfter?_eq_none_iff]

end GridCircuit
