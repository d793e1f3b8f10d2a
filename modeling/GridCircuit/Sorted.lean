/-!
# Sorted lists without repetition

Sets of sites and qubits are kept as strictly ascending lists, so that two sets are equal exactly
when their lists are (`eq_of_ascending`).  `sortDistinct` builds such a list from any list: it has
the same members (`mem_sortDistinct`) and is strictly ascending (`pairwise_sortDistinct`).
-/

namespace GridCircuit

/-- A strict order in which any two different values are comparable. -/
class StrictTotalOrder (α : Type) [LT α] : Prop where
  irrefl (a : α) : ¬ a < a
  trans {a b c : α} : a < b → b < c → a < c
  connected (a b : α) : a < b ∨ a = b ∨ b < a

variable {α : Type} [LT α] [DecidableLT α]

/-- Puts a value into its place in an ascending list; a value that is there already is not
repeated. -/
def insertDistinct (a : α) : List α → List α
  | [] => [a]
  | b :: rest =>
    if a < b then a :: b :: rest
    else if b < a then b :: insertDistinct a rest
    else b :: rest

/-- The ascending list of the members of a list. -/
def sortDistinct (values : List α) : List α :=
  values.foldr insertDistinct []

@[simp] theorem sortDistinct_nil : sortDistinct ([] : List α) = [] := rfl

@[simp] theorem sortDistinct_cons (a : α) (rest : List α) :
    sortDistinct (a :: rest) = insertDistinct a (sortDistinct rest) := rfl

variable [StrictTotalOrder α]

omit [DecidableLT α] in
/-- A strictly ascending list has no repetition. -/
theorem nodup_of_ascending {values : List α} (ascending : values.Pairwise (· < ·)) :
    values.Nodup := by
  refine ascending.imp ?_
  rintro a _ less rfl
  exact StrictTotalOrder.irrefl a less

omit [DecidableLT α] in
/-- Strictly ascending lists with the same members are equal. -/
theorem eq_of_ascending {first second : List α} (hfirst : first.Pairwise (· < ·))
    (hsecond : second.Pairwise (· < ·)) (hmem : ∀ a, a ∈ first ↔ a ∈ second) : first = second := by
  have hperm : first.Perm second := (List.perm_ext_iff_of_nodup (nodup_of_ascending hfirst)
    (nodup_of_ascending hsecond)).mpr fun a => hmem a
  refine hperm.eq_of_pairwise (fun a b _ _ hless hgreater => ?_) hfirst hsecond
  exact absurd (StrictTotalOrder.trans hless hgreater) (StrictTotalOrder.irrefl a)

theorem mem_insertDistinct {a b : α} {rest : List α} :
    b ∈ insertDistinct a rest ↔ b = a ∨ b ∈ rest := by
  induction rest with
  | nil => simp [insertDistinct]
  | cons c rest ih =>
    unfold insertDistinct
    split
    · simp
    · split
      · simp only [List.mem_cons, ih]
        grind
      · rcases StrictTotalOrder.connected a c with h | h | h
        · contradiction
        · subst h; simp
        · contradiction

/-- Sorting neither loses nor invents a member. -/
@[simp] theorem mem_sortDistinct {b : α} {values : List α} :
    b ∈ sortDistinct values ↔ b ∈ values := by
  induction values with
  | nil => simp
  | cons a rest ih => simp [mem_insertDistinct, ih]

theorem pairwise_insertDistinct {a : α} {rest : List α} (ascending : rest.Pairwise (· < ·)) :
    (insertDistinct a rest).Pairwise (· < ·) := by
  induction rest with
  | nil => simp [insertDistinct]
  | cons c rest ih =>
    obtain ⟨above, below⟩ := List.pairwise_cons.1 ascending
    unfold insertDistinct
    split
    · rename_i less
      refine List.pairwise_cons.2 ⟨?_, ascending⟩
      intro b member
      rcases List.mem_cons.1 member with rfl | member
      · exact less
      · exact StrictTotalOrder.trans less (above b member)
    · split
      · rename_i less
        refine List.pairwise_cons.2 ⟨?_, ih below⟩
        intro b member
        rcases mem_insertDistinct.1 member with rfl | member
        · exact less
        · exact above b member
      · exact ascending

/-- Sorting gives a strictly ascending list. -/
theorem pairwise_sortDistinct (values : List α) : (sortDistinct values).Pairwise (· < ·) := by
  induction values with
  | nil => simp
  | cons a rest ih => exact pairwise_insertDistinct ih

end GridCircuit
