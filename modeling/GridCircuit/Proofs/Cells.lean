import GridCircuit.Topology.Diagram
import Mathlib.Algebra.Order.Ring.Nat
import Mathlib.Data.List.DropRight
import Mathlib.Data.List.GetD

/-!
# Lines of cells

A diagram is written in cells of one width, and every line is then cut off behind its last mark.
A reader who knows the width gets the cells back: what has been cut off are spaces, and a line that
is too short is read on as spaces (`cell`, `showsCells_trimRight`).  For this the only blanks in the
cells must be spaces (`Spaced`), which also keeps line feeds out of them.

Labels can be read, too.  A whole number is found again in its sign and its digits
(`eq_of_toList_repr`), and one comma parts the two numbers of a site.  Labels end with a bracket, so
the spaces that fill them up can be told from the label itself, and different sites have different
labels (`padded_label_inj`).
-/

namespace GridCircuit

/-- The blanks of a text are spaces. -/
def Spaced (text : List Char) : Prop := ∀ c ∈ text, Text.isBlank c = true → c = ' '

instance : DecidablePred Spaced := fun text =>
  decidable_of_iff (text.all fun c => !Text.isBlank c || c == ' ') <| by
    simp [Spaced, List.all_eq_true, imp_iff_not_or]

theorem spaced_append {first second : List Char} (hfirst : Spaced first) (hsecond : Spaced second) :
    Spaced (first ++ second) := fun c hc =>
  (List.mem_append.mp hc).elim (hfirst c) (hsecond c)

theorem Spaced.newline_notMem {text : List Char} (hspaced : Spaced text) : '\n' ∉ text :=
  fun hmem => absurd (hspaced '\n' hmem (by decide)) (by decide)

namespace Text

/-- Only what stands at the end is cut off. -/
theorem exists_trimRight_append_eq {text : List Char} (hspaced : Spaced text) :
    ∃ count, trimRight text ++ Topology.spaces count = text := by
  refine ⟨(text.rtakeWhile isBlank).length, ?_⟩
  have hspaces : text.rtakeWhile isBlank =
      Topology.spaces (text.rtakeWhile isBlank).length := by
    rw [Topology.spaces, List.eq_replicate_iff]
    refine ⟨rfl, fun c hc => hspaced c ?_ (List.mem_rtakeWhile_imp hc)⟩
    exact (List.rtakeWhile_suffix isBlank text).subset hc
  rw [← hspaces]
  exact List.rdropWhile_append_rtakeWhile

theorem trimRight_append_spaces (text : List Char) (count : Nat) :
    trimRight (text ++ Topology.spaces count) = trimRight text := by
  have hblank : ∀ c ∈ (Topology.spaces count).reverse, isBlank c = true := by
    intro c hc
    rw [(List.mem_replicate.mp (List.mem_reverse.mp hc)).2]
    decide
  rw [trimRight, List.reverse_append, List.dropWhile_append_of_pos hblank, ← trimRight]

theorem getLast?_trimRight_ne (text : List Char) : (trimRight text).getLast? ≠ some ' ' := by
  intro hlast
  have hne : text.rdropWhile isBlank ≠ [] := by
    intro hnil
    have hnone : (trimRight text).getLast? = none := congrArg List.getLast? hnil
    rw [hlast] at hnone
    cases hnone
  have hspace : (text.rdropWhile isBlank).getLast hne = ' ' :=
    Option.some.inj ((List.getLast?_eq_some_getLast hne).symm.trans hlast)
  exact List.rdropWhile_last_not isBlank text hne (hspace ▸ by decide)

end Text

namespace Topology

@[simp] theorem length_spaces (count : Nat) : (spaces count).length = count := by simp [spaces]

theorem spaced_spaces (count : Nat) : Spaced (spaces count) := fun _ hc _ =>
  (List.mem_replicate.mp hc).2

theorem length_padded {width : Nat} {text : List Char} (hle : text.length ≤ width) :
    (padded width text).length = width := by
  simp [padded, hle]

theorem spaced_padded {width : Nat} {text : List Char} (hspaced : Spaced text) :
    Spaced (padded width text) :=
  spaced_append hspaced (spaced_spaces _)

/-! ## Reading cells -/

/-- What stands in a cell of a line, which goes on with spaces if it is too short. -/
def cell (width : Nat) (line : List Char) (index : Nat) : List Char :=
  padded width ((line.drop (index * width)).take width)

@[simp] theorem cell_nil (width index : Nat) : cell width [] index = spaces width := by
  simp [cell, padded]

theorem length_cell (width : Nat) (line : List Char) (index : Nat) :
    (cell width line index).length = width :=
  length_padded (by simp)

theorem cell_eq_map (width : Nat) (line : List Char) (index : Nat) :
    cell width line index =
      (List.range width).map fun place => line.getD (index * width + place) ' ' := by
  apply List.ext_getElem
  · rw [length_cell, List.length_map, List.length_range]
  · intro place hplace _
    rw [length_cell] at hplace
    simp only [cell, padded, spaces, List.getElem_append, List.getElem_take, List.getElem_drop,
      List.getElem_replicate, List.getElem_map, List.getElem_range, List.length_take,
      List.length_drop]
    split
    · rename_i hlt
      rw [List.getD_eq_getElem _ _ (by omega)]
    · rename_i hge
      rw [List.getD_eq_default _ _ (by omega)]

/-- Spaces at the end of a line do not matter to its cells. -/
theorem cell_append_spaces {width index : Nat} {line : List Char} (count : Nat) :
    cell width (line ++ spaces count) index = cell width line index := by
  have hgetD (place : Nat) : (line ++ spaces count).getD place ' ' = line.getD place ' ' := by
    rcases Nat.lt_or_ge place line.length with hlt | hge
    · rw [List.getD_append _ _ _ _ hlt]
    · rw [List.getD_append_right _ _ _ _ hge, List.getD_eq_default _ _ hge, spaces]
      simp
  simp only [cell_eq_map, hgetD]

/-- The cells that a line was put together from can be read. -/
theorem cell_flatten {width : Nat} {cells : List (List Char)}
    (hwidth : ∀ content ∈ cells, content.length = width) (index : Nat) :
    cell width cells.flatten index = cells[index]?.getD (spaces width) := by
  induction cells generalizing index with
  | nil => simp
  | cons content rest ih =>
      obtain ⟨hfirst, hrest⟩ := List.forall_mem_cons.mp hwidth
      cases index with
      | zero => simp [cell, padded, spaces, ← hfirst]
      | succ index =>
          have hdrop : (content ++ rest.flatten).drop ((index + 1) * width) =
              rest.flatten.drop (index * width) := by
            rw [Nat.succ_mul, Nat.add_comm, ← hfirst, List.drop_length_add_append]
          rw [List.flatten_cons, cell, hdrop]
          exact ih hrest index

/-- A line shows some cells and nothing else, and does not end with a space. -/
structure ShowsCells (width : Nat) (cells : List (List Char)) (line : List Char) : Prop where
  cell_eq : ∀ index, cell width line index = cells[index]?.getD (spaces width)
  trimmed : line.getLast? ≠ some ' '
  newline_notMem : '\n' ∉ line

/-- Cells that are written one after the other and cut off behind the last mark. -/
theorem showsCells_trimRight {width : Nat} {cells : List (List Char)}
    (hwidth : ∀ content ∈ cells, content.length = width)
    (hspaced : ∀ content ∈ cells, Spaced content) :
    ShowsCells width cells (Text.trimRight cells.flatten) := by
  have hall : Spaced cells.flatten := by
    intro c hc
    obtain ⟨content, hcontent, hmem⟩ := List.mem_flatten.mp hc
    exact hspaced content hcontent c hmem
  obtain ⟨count, hcount⟩ := Text.exists_trimRight_append_eq hall
  refine ⟨fun index => ?_, Text.getLast?_trimRight_ne _, fun hnewline => ?_⟩
  · rw [← cell_append_spaces count, hcount, cell_flatten hwidth]
  · apply hall.newline_notMem
    rw [← hcount]
    exact List.mem_append_left _ hnewline

end Topology

/-! ## Labels -/

/-- A whole number is written as a sign, if it has one, and the digits of its magnitude. -/
theorem toList_repr (value : Int) :
    value.repr.toList =
      (if value < 0 then ['-'] else []) ++ Nat.toDigits 10 value.natAbs := by
  rw [Int.repr_eq_if]
  by_cases hneg : value < 0
  · rw [if_neg (by omega), if_pos hneg, String.toList_append, Nat.toList_repr]
    rw [show (-value).toNat = value.natAbs by omega]
    rfl
  · rw [if_pos (by omega), if_neg hneg, Nat.toList_repr, List.nil_append]
    rw [show value.toNat = value.natAbs by omega]

theorem isDigit_of_mem_toDigits {count : Nat} {c : Char} (hc : c ∈ Nat.toDigits 10 count) :
    c.isDigit = true :=
  Nat.isDigit_of_mem_toDigits (by decide) (by decide) hc

/-- What a whole number is written with. -/
theorem isDigit_or_eq_of_mem_repr {value : Int} {c : Char} (hc : c ∈ value.repr.toList) :
    c.isDigit = true ∨ c = '-' := by
  rw [toList_repr, List.mem_append] at hc
  rcases hc with hsign | hdigit
  · split at hsign
    · exact .inr (List.mem_singleton.mp hsign)
    · simp at hsign
  · exact .inl (isDigit_of_mem_toDigits hdigit)

/-- A sign is written for negative numbers only, and it is no digit. -/
theorem minus_mem_repr_iff {value : Int} : '-' ∈ value.repr.toList ↔ value < 0 := by
  have hdigits : '-' ∉ Nat.toDigits 10 value.natAbs := fun hmem =>
    absurd (isDigit_of_mem_toDigits hmem) (by decide)
  rw [toList_repr]
  by_cases hneg : value < 0 <;> simp [hneg, hdigits]

/-- A whole number can be read from what is written. -/
theorem eq_of_toList_repr {a b : Int} (htext : a.repr.toList = b.repr.toList) : a = b := by
  have hsign : a < 0 ↔ b < 0 := by rw [← minus_mem_repr_iff, htext, minus_mem_repr_iff]
  simp only [toList_repr, hsign] at htext
  have hdigits : Nat.toDigits 10 a.natAbs = Nat.toDigits 10 b.natAbs :=
    List.append_cancel_left htext
  have hmagnitude : a.natAbs = b.natAbs := by
    calc a.natAbs
        = Nat.ofDigitChars 10 (Nat.toDigits 10 a.natAbs) 0 := Nat.ofDigitChars_ten_toDigits.symm
      _ = Nat.ofDigitChars 10 (Nat.toDigits 10 b.natAbs) 0 := by rw [hdigits]
      _ = b.natAbs := Nat.ofDigitChars_ten_toDigits
  omega

theorem isBlank_eq_false_of_isDigit {c : Char} (hdigit : c.isDigit = true) :
    Text.isBlank c = false := by
  have hrange := Char.isDigit_iff_toNat.mp hdigit
  simp only [Char.reduceToNat] at hrange
  simp only [Text.isBlank, Text.inRanges, Text.blankRanges, List.any_cons, List.any_nil,
    Bool.or_false, Bool.or_eq_false_iff, Bool.and_eq_false_imp, decide_eq_true_eq,
    decide_eq_false_iff_not, not_le]
  omega

theorem spaced_repr (value : Int) : Spaced value.repr.toList := by
  intro c hc hblank
  rcases isDigit_or_eq_of_mem_repr hc with hdigit | rfl
  · rw [isBlank_eq_false_of_isDigit hdigit] at hblank
    cases hblank
  · exact absurd hblank (by decide)

theorem notMem_repr_of {value : Int} {c : Char} (hdigit : c.isDigit = false) (hsign : c ≠ '-') :
    c ∉ value.repr.toList := by
  intro hc
  rcases isDigit_or_eq_of_mem_repr hc with htrue | hsame
  · simp [hdigit] at htrue
  · exact hsign hsame

namespace Site

theorem toList_label (site : Site) : site.label.toList =
    ['q', '('] ++ site.row.toInt.repr.toList ++ [',', ' '] ++ site.col.toInt.repr.toList ++
      [')'] := by
  simp [label, String.toList_append]
  rfl

theorem spaced_label (site : Site) : Spaced site.label.toList := by
  have hstart : Spaced ['q', '('] := by decide
  have hcomma : Spaced [',', ' '] := by decide
  have hend : Spaced [')'] := by decide
  have hrow := spaced_append hstart (spaced_repr site.row.toInt)
  have hcol := spaced_append (spaced_append hrow hcomma) (spaced_repr site.col.toInt)
  rw [toList_label]
  exact spaced_append hcol hend

theorem label_injective : Function.Injective label := by
  intro a b hlabel
  have htexts := congrArg String.toList hlabel
  simp only [toList_label, List.append_assoc, List.cons_append, List.nil_append,
    List.cons.injEq, true_and] at htexts
  -- the one comma parts the two numbers
  have hcomma (value : Int32) : ',' ∉ value.toInt.repr.toList := notMem_repr_of rfl (by decide)
  obtain ⟨hrow, -, hrest⟩ :=
    (List.append_cons_inj_of_notMem (hcomma _) (by simp [hcomma])).mp htexts
  have hcol := List.append_cancel_right (List.cons.inj hrest).2
  exact ext_toInt (eq_of_toList_repr hrow) (eq_of_toList_repr hcol)

end Site

/-- A label that is filled up with spaces can be read. -/
theorem Topology.padded_label_inj {width : Nat} {a b : Site} :
    padded width a.label.toList = padded width b.label.toList ↔ a = b := by
  have htrim (site : Site) :
      Text.trimRight (padded width site.label.toList) = site.label.toList := by
    have hbracket : Text.trimRight site.label.toList = site.label.toList := by
      rw [Site.toList_label]
      exact List.rdropWhile_concat_neg Text.isBlank _ _ (by decide)
    rw [padded, Text.trimRight_append_spaces, hbracket]
  constructor
  · intro hsame
    have hlabels := congrArg Text.trimRight hsame
    rw [htrim, htrim, String.toList_inj] at hlabels
    exact Site.label_injective hlabels
  · rintro rfl
    rfl

end GridCircuit
