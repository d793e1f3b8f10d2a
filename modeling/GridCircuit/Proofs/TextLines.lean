import GridCircuit.Text.Basic
import Mathlib.Data.List.DropRight

/-!
# Texts put together from lines

The lines of two texts with a line feed between them are those of the first, ended by the line feed,
and those of the second (`lines_append_newline`).  The line feed that ends a text may take a
carriage return from its last line, or add an empty line after it.  Up to blanks at the ends of
lines, and up to blank lines at the end, it changes nothing (`exists_lines_concat_newline`).
-/

namespace GridCircuit.Text

variable {above below text current line : List Char}

/-! ## Blanks at the end of a line -/

theorem trimRight_append_rtakeWhile (text : List Char) :
    trimRight text ++ text.rtakeWhile isBlank = text := List.rdropWhile_append_rtakeWhile

theorem dropReturn_sublist (text : List Char) : (dropReturn text).Sublist text := by
  unfold dropReturn
  split
  case isTrue => exact List.dropLast_sublist text
  case isFalse => exact List.Sublist.refl text

/-- A carriage return is a blank. -/
theorem trimRight_dropReturn (text : List Char) : trimRight (dropReturn text) = trimRight text := by
  unfold dropReturn
  split
  case isTrue hreturn =>
    obtain ⟨rest, rfl⟩ := List.getLast?_eq_some_iff.mp hreturn
    rw [List.dropLast_concat]
    exact (List.rdropWhile_concat_pos isBlank rest '\r' (by decide)).symm
  case isFalse => rfl

/-! ## Line feeds -/

theorem linesAfter_append_newline : linesAfter current (above ++ '\n' :: below) =
    linesAfter current (above ++ ['\n']) ++ lines below := by
  induction above generalizing current with
  | nil => rfl
  | cons c rest ih =>
    rw [List.cons_append, List.cons_append, linesAfter, linesAfter, ih, ih]
    split <;> rfl

/-- A line feed separates the lines before it from those after it. -/
theorem lines_append_newline (above below : List Char) :
    lines (above ++ '\n' :: below) = lines (above ++ ['\n']) ++ lines below :=
  linesAfter_append_newline

theorem isBlank_of_mem_linesAfter (hblank : ∀ c ∈ current.reverse ++ text, isBlank c = true)
    (hline : line ∈ linesAfter current text) : ∀ c ∈ line, isBlank c = true := by
  induction text generalizing current with
  | nil =>
    rw [linesAfter] at hline
    split at hline
    case isTrue => cases hline
    case isFalse =>
      obtain rfl := List.mem_singleton.mp hline
      simpa using hblank
  | cons first rest ih =>
    rw [linesAfter] at hline
    split at hline
    case isFalse => exact ih (by simpa using hblank) hline
    case isTrue =>
      obtain ⟨hcurrent, htext⟩ := List.forall_mem_append.mp hblank
      rcases List.mem_cons.mp hline with rfl | hline
      · exact fun c hc => hcurrent c ((dropReturn_sublist _).subset hc)
      · exact @ih [] (List.forall_mem_cons.mp htext).2 hline

/-- All lines of a text of blanks consist of blanks. -/
theorem isBlank_of_mem_lines (hblank : ∀ c ∈ text, isBlank c = true) (hline : line ∈ lines text) :
    ∀ c ∈ line, isBlank c = true :=
  isBlank_of_mem_linesAfter hblank hline

theorem exists_linesAfter_concat_newline : ∃ content rest,
    linesAfter current (text ++ ['\n']) = content ++ rest ∧
      content.map trimRight = (linesAfter current text).map trimRight ∧
      ∀ line ∈ rest, line = [] := by
  induction text generalizing current with
  | nil =>
    cases current with
    | nil => exact ⟨[], [[]], rfl, rfl, fun _ => List.mem_singleton.mp⟩
    | cons c before =>
      refine ⟨[dropReturn (c :: before).reverse], [], rfl, ?_, fun _ => nofun⟩
      exact congrArg (fun last => [last]) (trimRight_dropReturn _)
  | cons c text ih =>
    rw [List.cons_append, linesAfter, linesAfter]
    split
    case isFalse => exact ih
    case isTrue =>
      obtain ⟨content, rest, hlines, hcontent, hrest⟩ := @ih []
      refine ⟨dropReturn current.reverse :: content, rest, ?_, ?_, hrest⟩
      · rw [hlines, List.cons_append]
      · rw [List.map_cons, List.map_cons, hcontent]

/-- A line feed at the end of a text ends its last line or adds an empty line. -/
theorem exists_lines_concat_newline (text : List Char) : ∃ content rest,
    lines (text ++ ['\n']) = content ++ rest ∧
      content.map trimRight = (lines text).map trimRight ∧ ∀ line ∈ rest, line = [] :=
  exists_linesAfter_concat_newline

end GridCircuit.Text
