import GridCircuit.Proofs.TextLines
import GridCircuit.Topology.Layout
import Mathlib.Algebra.Order.Ring.Nat
import Mathlib.Data.List.DropRight
import Mathlib.Data.List.TakeWhile

/-!
# Sites of a drawing

`MarkedAt` says that a letter or a digit stands at a place of some lines.  It is all that a topology
takes from a drawing: the sites are the marked places, with rows counted from the first line that is
not blank (`firstDrawn`) and columns counted in characters (`mem_ofDrawing_iff`).  Since a blank is
neither a letter nor a digit, nothing is marked in the blank lines that are left out at the two
ends.

Blank lines at the ends do not count, so that a drawing can be framed by any blank texts
(`ofDrawing_framed`).  What other edits do to the sites follows from what they do to the marked
places.  Blank lines between others move what is below them down (`markedAt_insert`), and blanks at
the beginning of a line move what is in it to the right (`markedAt_indent`).
-/

namespace GridCircuit

namespace Text

/-- A blank is neither a letter nor a digit. -/
theorem isBlank_eq_false_of_isAlphanumeric {c : Char} (hmark : isAlphanumeric c = true) :
    isBlank c = false := by
  have hapart : ∀ blank ∈ blankRanges, ∀ marks ∈ alphanumericRanges,
      blank.2 < marks.1 ∨ marks.2 < blank.1 := by
    decide +kernel
  have hascii : ∀ n < 0x80, (Char.ofNat n).isAlphanum = true → isBlank (Char.ofNat n) = false := by
    decide
  unfold isAlphanumeric at hmark
  split at hmark
  case isTrue hlow =>
    have hthis := hascii c.toNat hlow
    rw [Char.ofNat_toNat] at hthis
    exact hthis hmark
  case isFalse =>
    by_contra hblank
    simp only [isBlank, Bool.not_eq_false] at hblank
    simp only [inRanges, List.any_eq_true, Bool.and_eq_true, decide_eq_true_eq] at hmark hblank
    obtain ⟨marks, hmarks, hin⟩ := hmark
    obtain ⟨blank, hblanks, hin'⟩ := hblank
    have := hapart blank hblanks marks hmarks
    omega

theorem unmarked_of_blank {text : List Char} {col : Nat} (hblank : ∀ c ∈ text, isBlank c = true) :
    ¬ ∃ c, text[col]? = some c ∧ isAlphanumeric c = true := by
  rintro ⟨c, hc, hmark⟩
  have hthis := hblank c (List.mem_of_getElem? hc)
  rw [isBlank_eq_false_of_isAlphanumeric hmark] at hthis
  cases hthis

end Text

namespace Topology

/-! ## Marked places -/

/-- A letter or a digit stands at a place of some lines. -/
def MarkedAt (lines : List (List Char)) (row col : Nat) : Prop :=
  ∃ text c, lines[row]? = some text ∧ text[col]? = some c ∧ Text.isAlphanumeric c = true

/-- The number of blank lines before the first line that is not blank. -/
def firstDrawn (lines : List (List Char)) : Nat := lines.findIdx fun line => !isBlankLine line

/-- The rows and columns of some lines are 32-bit integers. -/
def Addressable (lines : List (List Char)) : Prop :=
  lines.length < 2 ^ 31 ∧ ∀ line ∈ lines, line.length < 2 ^ 31

instance (lines : List (List Char)) : Decidable (Addressable lines) :=
  inferInstanceAs (Decidable (_ ∧ _))

variable {lines above below gap blanks : List (List Char)} {indents : Nat → List Char}
variable {row col : Nat}

@[simp] theorem not_markedAt_nil : ¬ MarkedAt [] row col := by simp [MarkedAt]

@[simp] theorem markedAt_cons_zero {text : List Char} : MarkedAt (text :: lines) 0 col ↔
    ∃ c, text[col]? = some c ∧ Text.isAlphanumeric c = true := by
  simp [MarkedAt]

@[simp] theorem markedAt_cons_succ {text : List Char} :
    MarkedAt (text :: lines) (row + 1) col ↔ MarkedAt lines row col := by
  simp [MarkedAt]

theorem MarkedAt.row_lt (hmark : MarkedAt lines row col) : row < lines.length := by
  obtain ⟨line, -, hline, -⟩ := hmark
  exact (List.getElem?_eq_some_iff.mp hline).1

theorem MarkedAt.col_lt (hsize : Addressable lines) (hmark : MarkedAt lines row col) :
    col < 2 ^ 31 := by
  obtain ⟨line, c, hline, hc, -⟩ := hmark
  exact Nat.lt_trans (List.getElem?_eq_some_iff.mp hc).1
    (hsize.2 line (List.mem_of_getElem? hline))

/-- Nothing is marked in blank lines. -/
theorem not_markedAt_of_blank (hblank : ∀ line ∈ lines, isBlankLine line = true) :
    ¬ MarkedAt lines row col := by
  rintro ⟨line, c, hline, hc, hmark⟩
  have hall := List.all_eq_true.mp (hblank line (List.mem_of_getElem? hline))
  exact Text.unmarked_of_blank hall ⟨c, hc, hmark⟩

theorem markedAt_append : MarkedAt (above ++ below) row col ↔
    if row < above.length then MarkedAt above row col
    else MarkedAt below (row - above.length) col := by
  unfold MarkedAt
  rw [List.getElem?_append]
  split <;> rfl

theorem markedAt_drop {count : Nat} :
    MarkedAt (lines.drop count) row col ↔ MarkedAt lines (count + row) col := by
  unfold MarkedAt
  rw [List.getElem?_drop]

/-- Blank lines at the end mark nothing. -/
theorem markedAt_append_blank (hblank : ∀ line ∈ blanks, isBlankLine line = true) :
    MarkedAt (lines ++ blanks) row col ↔ MarkedAt lines row col := by
  rw [markedAt_append]
  split
  case isTrue => rfl
  case isFalse hge =>
    exact iff_of_false (not_markedAt_of_blank hblank) fun hmark => hge hmark.row_lt

/-- Blank lines move the marked places below them down. -/
theorem markedAt_insert (hblank : ∀ line ∈ gap, isBlankLine line = true) :
    MarkedAt (above ++ gap ++ below) row col ↔ ∃ row', MarkedAt (above ++ below) row' col ∧
      row = row' + if row' < above.length then 0 else gap.length := by
  constructor
  · intro hmark
    rw [List.append_assoc, markedAt_append] at hmark
    split at hmark
    case isTrue hlt => exact ⟨row, markedAt_append.mpr (by rwa [if_pos hlt]), by simp [hlt]⟩
    case isFalse hge =>
      rw [markedAt_append] at hmark
      split at hmark
      case isTrue => exact absurd hmark (not_markedAt_of_blank hblank)
      case isFalse hpast =>
        have hbelow : ¬ row - gap.length < above.length := by omega
        refine ⟨row - gap.length, markedAt_append.mpr ?_, ?_⟩
        · rw [if_neg hbelow]
          rwa [Nat.sub_right_comm]
        · rw [if_neg hbelow]
          omega
  · rintro ⟨row', hmark, rfl⟩
    rw [List.append_assoc, markedAt_append]
    rw [markedAt_append] at hmark
    by_cases hlt : row' < above.length
    · simpa [hlt] using hmark
    · have hpast : ¬ row' + gap.length < above.length := by omega
      have hsub : row' + gap.length - above.length - gap.length = row' - above.length := by omega
      have hgap : ¬ row' + gap.length - above.length < gap.length := by omega
      rw [if_neg hlt] at hmark
      rw [if_neg hlt, if_neg hpast, markedAt_append, if_neg hgap, hsub]
      exact hmark

/-- Blanks at the beginning of a line move its marked places to the right. -/
theorem markedAt_indent (hblank : ∀ row, ∀ c ∈ indents row, Text.isBlank c = true) :
    MarkedAt (lines.mapIdx fun row line => indents row ++ line) row col ↔
      ∃ col', MarkedAt lines row col' ∧ col = col' + (indents row).length := by
  unfold MarkedAt
  simp only [List.getElem?_mapIdx, Option.map_eq_some_iff]
  constructor
  · rintro ⟨_, c, ⟨line, hline, rfl⟩, hc, hmark⟩
    rw [List.getElem?_append] at hc
    split at hc
    case isTrue => exact absurd ⟨c, hc, hmark⟩ (Text.unmarked_of_blank (hblank row))
    case isFalse hge =>
      exact ⟨col - (indents row).length, ⟨line, c, hline, hc, hmark⟩, by omega⟩
  · rintro ⟨col', ⟨line, c, hline, hc, hmark⟩, rfl⟩
    refine ⟨_, c, ⟨line, hline, rfl⟩, ?_, hmark⟩
    rwa [List.getElem?_append_right (Nat.le_add_left _ _), Nat.add_sub_cancel]

/-! ## The first line that is not blank -/

theorem firstDrawn_lt (hdrawn : ∃ line ∈ lines, isBlankLine line = false) :
    firstDrawn lines < lines.length :=
  List.findIdx_lt_length_of_exists (by simpa using hdrawn)

theorem firstDrawn_append (hdrawn : ∃ line ∈ above, isBlankLine line = false) :
    firstDrawn (above ++ below) = firstDrawn above :=
  List.findIdx_append.trans (if_pos (firstDrawn_lt hdrawn))

theorem isBlankLine_append {indent text : List Char}
    (hblank : ∀ c ∈ indent, Text.isBlank c = true) :
    isBlankLine (indent ++ text) = isBlankLine text := by
  rw [isBlankLine, List.all_append, List.all_eq_true.mpr hblank, Bool.true_and, isBlankLine]

/-- Blanks at the beginning of lines do not change which of them are blank. -/
theorem firstDrawn_indent (hblank : ∀ row, ∀ c ∈ indents row, Text.isBlank c = true) :
    firstDrawn (lines.mapIdx fun row line => indents row ++ line) = firstDrawn lines := by
  have hmap : ∀ lines, firstDrawn lines = (lines.map isBlankLine).findIdx not := fun lines =>
    (List.findIdx_map lines isBlankLine not).symm
  have hsame : (lines.mapIdx fun row line => indents row ++ line).map isBlankLine =
      lines.map isBlankLine := by
    refine List.ext_getElem? fun row => ?_
    simp [Function.comp_def, isBlankLine_append (hblank row)]
  rw [hmap, hsame, hmap]

/-! ## The lines that are drawn -/

variable {drawing : List Char} {before content after : List (List Char)}

theorem drawnLines_eq_rdropWhile (drawing : List Char) : drawnLines drawing =
    ((Text.lines drawing).dropWhile isBlankLine).rdropWhile isBlankLine := rfl

/-- The marked places of the lines that are drawn, counted from the first one. -/
theorem markedAt_drawnLines : MarkedAt (drawnLines drawing) row col ↔
    MarkedAt (Text.lines drawing) (firstDrawn (Text.lines drawing) + row) col := by
  have hends : ∀ line ∈ ((Text.lines drawing).dropWhile isBlankLine).rtakeWhile isBlankLine,
      isBlankLine line = true := fun _ => List.mem_rtakeWhile_imp
  rw [drawnLines_eq_rdropWhile, ← markedAt_append_blank hends, List.rdropWhile_append_rtakeWhile,
    List.dropWhile_eq_drop_findIdx_not, markedAt_drop]
  rfl

/-- The lines that are drawn do not depend on the blank lines around them. -/
theorem drawnLines_of_framed (hlines : Text.lines drawing = before ++ content ++ after)
    (hblank : ∀ line ∈ before ++ after, isBlankLine line = true) :
    drawnLines drawing = (content.dropWhile isBlankLine).rdropWhile isBlankLine := by
  obtain ⟨hbefore, hafter⟩ := List.forall_mem_append.mp hblank
  rw [drawnLines_eq_rdropWhile, hlines, List.append_assoc, List.dropWhile_append_of_pos hbefore,
    List.dropWhile_append]
  split
  case isTrue hempty =>
    rw [List.isEmpty_iff.mp hempty, List.dropWhile_eq_nil_iff.mpr hafter]
  case isFalse =>
    have hafter' : ∀ line ∈ after.reverse, isBlankLine line = true := by simpa using hafter
    unfold List.rdropWhile
    rw [List.reverse_append, List.dropWhile_append_of_pos hafter']

theorem isBlankLine_trimRight (text : List Char) :
    isBlankLine (Text.trimRight text) = isBlankLine text := by
  have hblank : (text.rtakeWhile Text.isBlank).all Text.isBlank = true :=
    List.all_eq_true.mpr fun _ => List.mem_rtakeWhile_imp
  rw [isBlankLine, isBlankLine, ← Bool.and_true ((Text.trimRight text).all Text.isBlank), ← hblank,
    ← List.all_append, Text.trimRight_append_rtakeWhile]

theorem dropBlank_map_trimRight (content : List (List Char)) :
    ((content.map Text.trimRight).dropWhile isBlankLine).rdropWhile isBlankLine =
      ((content.dropWhile isBlankLine).rdropWhile isBlankLine).map Text.trimRight := by
  have hsame : isBlankLine ∘ Text.trimRight = isBlankLine := funext isBlankLine_trimRight
  unfold List.rdropWhile
  rw [List.dropWhile_map, ← List.map_reverse, List.dropWhile_map, ← List.map_reverse, hsame]

/-! ## Sites -/

theorem mem_sitesOfLine {site : Site} {text : List Char} : site ∈ sitesOfLine row col text ↔
    ∃ k, (∃ c, text[k]? = some c ∧ Text.isAlphanumeric c = true) ∧
      site = ⟨Int32.ofNat row, Int32.ofNat (col + k)⟩ := by
  induction text generalizing col with
  | nil => simp [sitesOfLine]
  | cons c rest ih =>
    rw [← Nat.or_exists_add_one]
    by_cases hmark : Text.isAlphanumeric c = true <;>
      simp [sitesOfLine, hmark, ih, Nat.add_assoc, Nat.add_comm 1]

theorem mem_sitesOfLines {site : Site} : site ∈ sitesOfLines row lines ↔
    ∃ r c, MarkedAt lines r c ∧ site = ⟨Int32.ofNat (row + r), Int32.ofNat c⟩ := by
  induction lines generalizing row with
  | nil => simp [sitesOfLines]
  | cons line rest ih =>
    rw [← Nat.or_exists_add_one]
    simp [sitesOfLines, mem_sitesOfLine, ih, Nat.add_assoc, Nat.add_comm 1]

theorem sitesOfLine_append_blank {text blank : List Char}
    (hblank : ∀ c ∈ blank, Text.isBlank c = true) :
    sitesOfLine row col (text ++ blank) = sitesOfLine row col text := by
  induction text generalizing col with
  | nil =>
    refine List.eq_nil_iff_forall_not_mem.mpr fun site hsite => ?_
    obtain ⟨_, hmarked, -⟩ := mem_sitesOfLine.mp hsite
    exact Text.unmarked_of_blank hblank hmarked
  | cons c rest ih => rw [List.cons_append, sitesOfLine, sitesOfLine, ih]

/-- Blanks at the ends of lines do not count. -/
theorem sitesOfLines_map_trimRight :
    sitesOfLines row (lines.map Text.trimRight) = sitesOfLines row lines := by
  induction lines generalizing row with
  | nil => rfl
  | cons text rest ih =>
    have hsame : sitesOfLine row 0 (Text.trimRight text) = sitesOfLine row 0 text := by
      have hblank : ∀ c ∈ text.rtakeWhile Text.isBlank, Text.isBlank c = true :=
        fun _ => List.mem_rtakeWhile_imp
      rw [← sitesOfLine_append_blank hblank, Text.trimRight_append_rtakeWhile]
    rw [List.map_cons, sitesOfLines, sitesOfLines, hsame, ih]

variable {drawing other : String}

theorem MarkedAt.toInt_ofNat (hsize : Addressable lines)
    (hmark : MarkedAt lines (firstDrawn lines + row) col) :
    (Int32.ofNat row).toInt = row ∧ (Int32.ofNat col).toInt = col := by
  have hlt := hmark.row_lt
  have hrows := hsize.1
  exact ⟨Int32.toInt_ofNat_of_lt (by omega), Int32.toInt_ofNat_of_lt (hmark.col_lt hsize)⟩

/-- The sites of a drawing are its marked places. -/
theorem mem_ofDrawing_iff {site : Site} (hlines : Text.lines drawing.toList = lines)
    (hsize : Addressable lines) : site ∈ ofDrawing drawing ↔ ∃ row col : Nat,
      MarkedAt lines (firstDrawn lines + row) col ∧
        site.row.toInt = row ∧ site.col.toInt = col := by
  subst hlines
  rw [mem_def, ofDrawing, mem_sites_ofList, mem_sitesOfLines]
  simp only [markedAt_drawnLines, Nat.zero_add]
  refine exists₂_congr fun row col => and_congr_right fun hmark => ?_
  obtain ⟨hrow, hcol⟩ := hmark.toInt_ofNat hsize
  constructor
  · rintro rfl
    exact ⟨hrow, hcol⟩
  · rintro ⟨hrow', hcol'⟩
    exact Site.ext_toInt (hrow'.trans hrow.symm) (hcol'.trans hcol.symm)

/-- There is a site for every marked place. -/
theorem MarkedAt.exists_site (hlines : Text.lines drawing.toList = lines)
    (hsize : Addressable lines) (hmark : MarkedAt lines (firstDrawn lines + row) col) :
    ∃ site ∈ ofDrawing drawing, site.row.toInt = row ∧ site.col.toInt = col := by
  obtain ⟨hrow, hcol⟩ := hmark.toInt_ofNat hsize
  exact ⟨⟨Int32.ofNat row, Int32.ofNat col⟩,
    (mem_ofDrawing_iff hlines hsize).mpr ⟨row, col, hmark, hrow, hcol⟩, hrow, hcol⟩

/-- Blank lines around a drawing do not count, nor do blanks at the ends of lines. -/
theorem ofDrawing_eq_of_framed {before' content' after' : List (List Char)}
    (hlines : Text.lines drawing.toList = before ++ content ++ after)
    (hblank : ∀ line ∈ before ++ after, isBlankLine line = true)
    (hother : Text.lines other.toList = before' ++ content' ++ after')
    (hblank' : ∀ line ∈ before' ++ after', isBlankLine line = true)
    (hsame : content'.map Text.trimRight = content.map Text.trimRight) :
    ofDrawing other = ofDrawing drawing := by
  have hsites : ∀ content : List (List Char),
      sitesOfLines 0 ((content.dropWhile isBlankLine).rdropWhile isBlankLine) =
        sitesOfLines 0 (((content.map Text.trimRight).dropWhile isBlankLine).rdropWhile
          isBlankLine) := fun content => by
    rw [dropBlank_map_trimRight, sitesOfLines_map_trimRight]
  rw [ofDrawing, ofDrawing, drawnLines_of_framed hlines hblank, drawnLines_of_framed hother hblank',
    hsites, hsame, ← hsites]

/-- Texts of blanks before and after a drawing do not count. -/
theorem ofDrawing_framed (drawing : String) {before after : String}
    (hbefore : ∀ c ∈ before.toList, Text.isBlank c = true)
    (hafter : ∀ c ∈ after.toList, Text.isBlank c = true) :
    ofDrawing (before ++ "\n" ++ drawing ++ "\n" ++ after) = ofDrawing drawing := by
  have hblank : ∀ {text : List Char}, (∀ c ∈ text, Text.isBlank c = true) →
      ∀ line ∈ Text.lines text, isBlankLine line = true := fun htext line hline =>
    List.all_eq_true.mpr (Text.isBlank_of_mem_lines htext hline)
  obtain ⟨content, rest, hcontent, hsame, hrest⟩ :=
    Text.exists_lines_concat_newline drawing.toList
  have htext : (before ++ "\n" ++ drawing ++ "\n" ++ after).toList =
      before.toList ++ '\n' :: (drawing.toList ++ '\n' :: after.toList) := by
    simp [String.toList_append]
  have hother : Text.lines (before ++ "\n" ++ drawing ++ "\n" ++ after).toList =
      Text.lines (before.toList ++ ['\n']) ++ content ++ (rest ++ Text.lines after.toList) := by
    rw [htext, Text.lines_append_newline, Text.lines_append_newline drawing.toList, hcontent,
      List.append_assoc, List.append_assoc]
  have hlines : Text.lines drawing.toList = [] ++ Text.lines drawing.toList ++ [] := by simp
  refine ofDrawing_eq_of_framed hlines (fun _ => nofun) hother ?_ hsame
  simp only [List.forall_mem_append]
  refine ⟨hblank ?_, ?_, hblank hafter⟩
  · exact List.forall_mem_append.mpr ⟨hbefore, List.forall_mem_singleton.mpr (by decide)⟩
  · intro line hline
    rw [hrest line hline]
    rfl

/-- A drawing of blank lines shows no site. -/
theorem ofDrawing_eq_of_blank (hblank : ∀ line ∈ lines, isBlankLine line = true)
    (hlines : Text.lines drawing.toList = lines) : ofDrawing drawing = ofList [] := by
  have hframe : Text.lines drawing.toList = lines ++ [] ++ [] := by simpa using hlines
  have hnothing : Text.lines "".toList = [] ++ [] ++ [] := rfl
  calc ofDrawing drawing
      = ofDrawing "" :=
        ofDrawing_eq_of_framed hnothing (fun _ => nofun) hframe (by simpa using hblank) rfl
    _ = ofList [] := rfl

/-- Blank lines below a line that is not blank move the sites that follow down. -/
theorem mem_ofDrawing_insert_iff {site : Site} (hdrawn : ∃ line ∈ above, isBlankLine line = false)
    (hblank : ∀ line ∈ gap, isBlankLine line = true)
    (hlines : Text.lines drawing.toList = above ++ below) (hsize : Addressable (above ++ below))
    (hother : Text.lines other.toList = above ++ gap ++ below)
    (hsize' : Addressable (above ++ gap ++ below)) :
    site ∈ ofDrawing other ↔ ∃ source ∈ ofDrawing drawing, site.col = source.col ∧
      site.row.toInt = source.row.toInt +
        if firstDrawn (above ++ below) + source.row.toInt.toNat < above.length then 0
        else gap.length := by
  have hfirst : firstDrawn (above ++ gap ++ below) = firstDrawn (above ++ below) := by
    rw [List.append_assoc, firstDrawn_append hdrawn, firstDrawn_append hdrawn]
  have hlt : firstDrawn (above ++ below) < above.length := by
    rw [firstDrawn_append hdrawn]
    exact firstDrawn_lt hdrawn
  rw [mem_ofDrawing_iff hother hsize', hfirst]
  simp only [markedAt_insert hblank]
  constructor
  · rintro ⟨row, col, ⟨row', hmark, hmoved⟩, hrow, hcol⟩
    obtain ⟨offset, rfl⟩ : ∃ offset, row' = firstDrawn (above ++ below) + offset := by
      refine Nat.exists_eq_add_of_le ?_
      split at hmoved <;> omega
    obtain ⟨source, hsource, hrow', hcol'⟩ := hmark.exists_site hlines hsize
    refine ⟨source, hsource, Int32.toInt_inj.mp (hcol.trans hcol'.symm), ?_⟩
    rw [hrow, hrow', Int.toNat_natCast]
    split at hmoved <;> split <;> omega
  · rintro ⟨source, hsource, hcol, hrow⟩
    obtain ⟨row', col, hmark, hrow', hcol'⟩ := (mem_ofDrawing_iff hlines hsize).mp hsource
    rw [hrow', Int.toNat_natCast] at hrow
    refine ⟨row' + if firstDrawn (above ++ below) + row' < above.length then 0 else gap.length, col,
      ⟨_, hmark, (Nat.add_assoc _ _ _).symm⟩, ?_, by rw [hcol, hcol']⟩
    rw [hrow]
    split <;> rfl

/-- Blanks at the beginning of lines move the sites of these lines to the right. -/
theorem mem_ofDrawing_indent_iff {site : Site}
    (hblank : ∀ row, ∀ c ∈ indents row, Text.isBlank c = true)
    (hlines : Text.lines drawing.toList = lines) (hsize : Addressable lines)
    (hother : Text.lines other.toList = lines.mapIdx fun row line => indents row ++ line)
    (hsize' : Addressable (lines.mapIdx fun row line => indents row ++ line)) :
    site ∈ ofDrawing other ↔ ∃ source ∈ ofDrawing drawing, site.row = source.row ∧
      site.col.toInt = source.col.toInt +
        (indents (firstDrawn lines + source.row.toInt.toNat)).length := by
  rw [mem_ofDrawing_iff hother hsize', firstDrawn_indent hblank]
  simp only [markedAt_indent hblank]
  constructor
  · rintro ⟨row, col, ⟨col', hmark, rfl⟩, hrow, hcol⟩
    obtain ⟨source, hsource, hrow', hcol'⟩ := hmark.exists_site hlines hsize
    refine ⟨source, hsource, Int32.toInt_inj.mp (hrow.trans hrow'.symm), ?_⟩
    rw [hcol, hcol', hrow', Int.toNat_natCast, Int.natCast_add]
  · rintro ⟨source, hsource, hrow, hcol⟩
    obtain ⟨row, col', hmark, hrow', hcol'⟩ := (mem_ofDrawing_iff hlines hsize).mp hsource
    rw [hrow', hcol', Int.toNat_natCast] at hcol
    exact ⟨row, _, ⟨col', hmark, rfl⟩, by rw [hrow, hrow'], hcol⟩

/-- A drawing shows exactly its marked places, and none when all lines are blank.  Blank texts
before and after it, or other blank lines at its ends, do not count.  Blank lines between others and
blanks at the beginning of a line count. -/
theorem ofDrawing_shows_marks (hlines : Text.lines drawing.toList = lines)
    (hsize : Addressable lines) :
    (∀ site, site ∈ ofDrawing drawing ↔ 0 ≤ site.row.toInt ∧ 0 ≤ site.col.toInt ∧
      MarkedAt lines (firstDrawn lines + site.row.toInt.toNat) site.col.toInt.toNat) ∧
    ((∀ line ∈ lines, isBlankLine line = true) → ofDrawing drawing = ofList []) ∧
    (∀ before after : String, (∀ c ∈ before.toList, Text.isBlank c = true) →
      (∀ c ∈ after.toList, Text.isBlank c = true) →
      ofDrawing (before ++ "\n" ++ drawing ++ "\n" ++ after) = ofDrawing drawing) ∧
    (∀ (other : String) (before content after before' after' : List (List Char)),
      lines = before ++ content ++ after →
      (∀ line ∈ before ++ after, isBlankLine line = true) →
      Text.lines other.toList = before' ++ content ++ after' →
      (∀ line ∈ before' ++ after', isBlankLine line = true) →
      ofDrawing other = ofDrawing drawing) ∧
    (∀ (other : String) (above gap below : List (List Char)),
      (∃ line ∈ above, isBlankLine line = false) → (∀ line ∈ gap, isBlankLine line = true) →
      lines = above ++ below → Text.lines other.toList = above ++ gap ++ below →
      Addressable (above ++ gap ++ below) →
      ∀ site, site ∈ ofDrawing other ↔ ∃ source ∈ ofDrawing drawing, site.col = source.col ∧
        site.row.toInt = source.row.toInt +
          if firstDrawn lines + source.row.toInt.toNat < above.length then 0 else gap.length) ∧
    ∀ (other : String) (indents : Nat → List Char),
      (∀ row, ∀ c ∈ indents row, Text.isBlank c = true) →
      (Text.lines other.toList = lines.mapIdx fun row line => indents row ++ line) →
      Addressable (lines.mapIdx fun row line => indents row ++ line) →
      ∀ site, site ∈ ofDrawing other ↔ ∃ source ∈ ofDrawing drawing, site.row = source.row ∧
        site.col.toInt = source.col.toInt +
          (indents (firstDrawn lines + source.row.toInt.toNat)).length := by
  refine ⟨fun site => ?_, fun hblank => ?_, ?_, ?_, ?_, ?_⟩
  · rw [mem_ofDrawing_iff hlines hsize]
    constructor
    · rintro ⟨row, col, hmark, hrow, hcol⟩
      rw [hrow, hcol, Int.toNat_natCast, Int.toNat_natCast]
      exact ⟨Int.natCast_nonneg row, Int.natCast_nonneg col, hmark⟩
    · rintro ⟨hrow, hcol, hmark⟩
      exact ⟨_, _, hmark, (Int.toNat_of_nonneg hrow).symm, (Int.toNat_of_nonneg hcol).symm⟩
  · exact ofDrawing_eq_of_blank hblank hlines
  · intro before after hbefore hafter
    exact ofDrawing_framed drawing hbefore hafter
  · intro other before content after before' after' hcontent hblank hother hblank'
    exact ofDrawing_eq_of_framed (hlines.trans hcontent) hblank hother hblank' rfl
  · rintro other above gap below hdrawn hblank rfl hother hsize' site
    exact mem_ofDrawing_insert_iff hdrawn hblank hlines hsize hother hsize'
  · intro other indents hblank hother hsize' site
    exact mem_ofDrawing_indent_iff hblank hlines hsize hother hsize'

/-- Three sites in a drawing that begins with a blank line. -/
def bentDrawing : String := "\n  A-B\n  ..C\n"

theorem bentDrawing_shows_marks :
    Addressable (Text.lines bentDrawing.toList) ∧
    (∀ site, site ∈ ofDrawing bentDrawing ↔ 0 ≤ site.row.toInt ∧ 0 ≤ site.col.toInt ∧
      MarkedAt (Text.lines bentDrawing.toList) (1 + site.row.toInt.toNat) site.col.toInt.toNat) ∧
    ofDrawing " \n\n  A-B\n  ..C\n\n\t" = ofDrawing bentDrawing ∧
    ofDrawing "  A-B\r\n  ..C" = ofDrawing bentDrawing ∧
    (∀ site, site ∈ ofDrawing "\n  A-B\n \n\n  ..C" ↔ ∃ source ∈ ofDrawing bentDrawing,
      site.col = source.col ∧ site.row.toInt =
        source.row.toInt + (if 1 + source.row.toInt.toNat < 2 then 0 else 2 : Nat)) ∧
    ∀ site, site ∈ ofDrawing " \n   A-B\n   ..C" ↔ ∃ source ∈ ofDrawing bentDrawing,
      site.row = source.row ∧ site.col.toInt = source.col.toInt + 1 := by
  have hlines : Text.lines bentDrawing.toList = [[], "  A-B".toList, "  ..C".toList] := rfl
  have hsize : Addressable [[], "  A-B".toList, "  ..C".toList] := by decide
  have hspace : ∀ c ∈ [' '], Text.isBlank c = true := List.forall_mem_singleton.mpr rfl
  have htab : ∀ c ∈ ['\t'], Text.isBlank c = true := List.forall_mem_singleton.mpr rfl
  obtain ⟨hsites, -, htexts, hends, hinside, hindent⟩ := ofDrawing_shows_marks hlines hsize
  refine ⟨hsize, hsites, htexts " " "\t" hspace htab, ?_, ?_, ?_⟩
  · exact hends "  A-B\r\n  ..C" [[]] ["  A-B".toList, "  ..C".toList] [] [] [] rfl (by decide) rfl
      (by decide)
  · exact hinside "\n  A-B\n \n\n  ..C" [[], "  A-B".toList] [[' '], []] ["  ..C".toList]
      (by decide) (by decide) rfl rfl (by decide)
  · have hsize' : Addressable [[' '], "   A-B".toList, "   ..C".toList] := by decide
    exact hindent " \n   A-B\n   ..C" (fun _ => [' ']) (fun _ => hspace) rfl hsize'

end Topology

end GridCircuit
