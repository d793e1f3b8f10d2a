import GridCircuit.Json.Reader
import GridCircuit.Proofs.FiniteNumbers

/-!
# Documents that are read have finite numbers

A tree may hold any floating-point number, but not one that was read from text: all its numbers are
finite (`finite_read`).  The numbers of the text are, by the theory of numerals, and the reading
only moves them: from the words into the open lists and objects, and from there into the tree.
`Progress.Finite` says that all the reading holds is finite, `Progress.Finite.advance` that one more
word leaves it so, and the run follows by induction on the words.
-/

namespace GridCircuit.Json

open Decimal

/-- A tree whose numbers are all finite.  An integer counts as the floating-point number that it is
decoded to where one is asked for. -/
inductive Finite : Json → Prop
  | null : Finite .null
  | bool {value : Bool} : Finite (.bool value)
  | integer {value : Int} (hvalue : (Float.ofInt value).isFinite = true) : Finite (.integer value)
  | real {value : Float} (hvalue : value.isFinite = true) : Finite (.real value)
  | text {value : String} : Finite (.text value)
  | array {items : List Json} (hitems : ∀ item ∈ items, Finite item) : Finite (.array items)
  | object {fields : List (String × Json)} (hfields : ∀ field ∈ fields, Finite field.2) :
      Finite (.object fields)
  | unkept : Finite .unkept
  | unnamed {value : Json} (hvalue : Finite value) : Finite (.unnamed value)
  | fault : Finite .fault

theorem Finite.items {items : List Json} (hfinite : (Json.array items).Finite) :
    ∀ item ∈ items, item.Finite := by
  cases hfinite with
  | array hitems => exact hitems

theorem Finite.values {fields : List (String × Json)} (hfinite : (Json.object fields).Finite) :
    ∀ field ∈ fields, field.2.Finite := by
  cases hfinite with
  | object hfields => exact hfields

/-! ## Words -/

/-- A word whose value, if it has one, is finite. -/
def Token.Finite : Token → Prop
  | .value tree => Json.Finite tree
  | _ => True

theorem finite_signed {value : Float} (hvalue : value.isFinite = true) (negative : Bool) :
    (Json.real (if negative then -value else value)).Finite := by
  cases negative with
  | false => exact .real hvalue
  | true => exact .real (isFinite_neg hvalue)

/-- Digits with a point or an exponent, or too many of them, are read as a numeral. -/
theorem finite_approximate {whole fraction : List Char} {exponent : Int} (negative : Bool)
    {value : Option Float}
    (hvalue : (Numeral.ofParts whole fraction exponent).toFloat? = value) :
    (match value with
      | some value => Json.real (if negative then -value else value)
      | none => .unkept).Finite := by
  have hfits := Numeral.ofParts_fits whole fraction exponent
  cases value with
  | none => exact .unkept
  | some value => exact finite_signed (Numeral.isFinite_of_toFloat?_eq_some hfits hvalue) negative

theorem finite_wholeNumber (negative : Bool) (digits : List Char) :
    (wholeNumber negative digits).Finite := by
  have hsize : UInt64.size = 2 ^ 64 := rfl
  unfold wholeNumber
  cases negative with
  | true =>
      by_cases hrange : Nat.ofDigitChars 10 digits 0 ≠ 0 ∧
          Nat.ofDigitChars 10 digits 0 ≤ UInt64.size / 2
      · rw [if_pos rfl, if_pos hrange]
        exact .integer (isFinite_ofInt (by omega))
      · rw [if_pos rfl, if_neg hrange]
        exact finite_approximate true rfl
  | false =>
      by_cases hrange : Nat.ofDigitChars 10 digits 0 < UInt64.size
      · rw [if_neg Bool.false_ne_true, if_pos hrange]
        exact .integer (isFinite_ofInt hrange)
      · rw [if_neg Bool.false_ne_true, if_neg hrange]
        exact finite_approximate false rfl

theorem finite_numeral? {negative : Bool} {source rest : List Char} {value : Json}
    (hread : numeral? negative source = some (value, rest)) : value.Finite := by
  unfold numeral? at hread
  simp only [Option.bind_eq_bind] at hread
  -- without digits, or with a digit after a leading zero, nothing is read
  split at hread
  · simp at hread
  simp only [Option.bind_eq_some_iff] at hread
  obtain ⟨⟨fraction, afterFraction⟩, -, ⟨exponent, afterExponent⟩, -, hvalue⟩ := hread
  simp only at hvalue
  split at hvalue
  · cases hvalue
    exact finite_wholeNumber negative _
  · generalize hfloat : Numeral.toFloat? _ = approximate at hvalue
    have hfinite := finite_approximate negative hfloat
    cases approximate with
    | none =>
        cases hvalue
        exact hfinite
    | some number =>
        cases hvalue
        exact hfinite

theorem finite_map_numeral? {negative : Bool} {source rest : List Char} {token : Token}
    (hread : (numeral? negative source).map (fun (value, rest) => (Token.value value, rest)) =
      some (token, rest)) : token.Finite := by
  obtain ⟨⟨value, after⟩, hvalue, hsame⟩ := Option.map_eq_some_iff.mp hread
  cases hsame
  exact finite_numeral? hvalue

theorem finite_token? {source rest : List Char} {token : Token}
    (hread : token? source = some (token, rest)) : token.Finite := by
  unfold token? at hread
  split at hread
  -- brackets, commas and colons
  iterate 6
    cases hread
    trivial
  · obtain ⟨⟨units, after⟩, -, hsame⟩ := Option.map_eq_some_iff.mp hread
    cases hsame
    trivial
  · cases hread
    exact .bool
  · cases hread
    exact .bool
  · cases hread
    exact .null
  · exact finite_map_numeral? hread
  · exact finite_map_numeral? hread

theorem finite_tokensUpTo (count : Nat) (source : List Char) :
    ∀ token ∈ tokensUpTo count source, token.Finite := by
  induction count generalizing source with
  | zero => simp [tokensUpTo, Token.Finite]
  | succ count ih =>
      unfold tokensUpTo
      split
      · simp
      · split
        · rename_i token rest hread
          exact List.forall_mem_cons.mpr ⟨finite_token? hread, ih rest⟩
        · simp [Token.Finite]

/-! ## The reading -/

/-- What an open list or object holds. -/
def Frame.values : Frame → List Json
  | .array items => items
  | .object fields => fields.map Prod.snd
  | .field fields _ => fields.map Prod.snd

/-- A stack of open lists and objects that hold only finite trees. -/
def FiniteStack (stack : List Frame) : Prop := ∀ frame ∈ stack, ∀ value ∈ frame.values, value.Finite

/-- A reading that holds only finite trees. -/
def Progress.Finite : Progress → Prop
  | .reading stack _ => FiniteStack stack
  | .done root => root.Finite
  | .surplus root => root.Finite

variable {value : Json} {stack outer : List Frame} {items : List Json}
  {fields : List (String × Json)}

theorem finiteStack_cons {frame : Frame} : FiniteStack (frame :: outer) ↔
    (∀ value ∈ frame.values, value.Finite) ∧ FiniteStack outer :=
  List.forall_mem_cons

theorem finite_namedValue (hvalue : value.Finite) (name : Option String) :
    (namedValue name value).2.Finite := by
  cases name with
  | none => exact .unnamed hvalue
  | some name => exact hvalue

/-- Closing a list or an object gives a finite tree. -/
theorem finite_array_reverse (hitems : ∀ value ∈ (Frame.array items).values, value.Finite) :
    (Json.array items.reverse).Finite :=
  .array fun item hitem => hitems item (List.mem_reverse.mp hitem)

theorem finite_object_reverse (hfields : ∀ value ∈ (Frame.object fields).values, value.Finite) :
    (Json.object fields.reverse).Finite :=
  .object fun field hfield =>
    hfields field.2 (List.mem_map_of_mem (List.mem_reverse.mp hfield))

/-- A finite value is delivered to finite frames. -/
theorem finite_deliver (hvalue : value.Finite) (hstack : FiniteStack stack) :
    (deliver value stack).Finite := by
  cases stack with
  | nil => exact hvalue
  | cons frame outer =>
      obtain ⟨hframe, houter⟩ := finiteStack_cons.mp hstack
      cases frame with
      | array items =>
          exact finiteStack_cons.mpr ⟨List.forall_mem_cons.mpr ⟨hvalue, hframe⟩, houter⟩
      | object fields =>
          exact finiteStack_cons.mpr ⟨List.forall_mem_cons.mpr ⟨hvalue, hframe⟩, houter⟩
      | field fields name =>
          have hnamed := finite_namedValue hvalue name
          exact finiteStack_cons.mpr ⟨List.forall_mem_cons.mpr ⟨hnamed, hframe⟩, houter⟩

theorem finite_enclose (hvalue : value.Finite) (outer : List Frame) :
    (enclose outer value).Finite := by
  unfold enclose
  split
  · exact hvalue
  · exact .unkept

/-- Closing everything that is open leaves a finite tree. -/
theorem finite_collapse (hvalue : value.Finite) (hstack : FiniteStack stack) :
    (collapse value stack).Finite := by
  induction stack generalizing value with
  | nil => exact hvalue
  | cons frame outer ih =>
      obtain ⟨hframe, houter⟩ := finiteStack_cons.mp hstack
      unfold collapse
      refine ih ?_ houter
      split
      · cases frame with
        | array items => exact finite_array_reverse (List.forall_mem_cons.mpr ⟨hvalue, hframe⟩)
        | object fields => exact finite_object_reverse (List.forall_mem_cons.mpr ⟨hvalue, hframe⟩)
        | field fields name =>
            have hnamed := finite_namedValue hvalue name
            exact finite_object_reverse (List.forall_mem_cons.mpr ⟨hnamed, hframe⟩)
      · exact .fault

theorem finite_giveUp (hstack : FiniteStack stack) : (giveUp stack).Finite :=
  finite_collapse .fault hstack

/-- Where a value is wanted it is delivered, and where it is not the reading ends. -/
theorem finite_deliver_or_giveUp (hvalue : value.Finite) (hstack : FiniteStack stack)
    (wanted : Bool) :
    (if wanted = true then deliver value stack else giveUp stack).Finite := by
  split
  · exact finite_deliver hvalue hstack
  · exact finite_giveUp hstack

/-- One more word leaves everything finite. -/
theorem finite_readToken {token : Token} (expected : Expectation) (hstack : FiniteStack stack)
    (htoken : token.Finite) : (readToken stack expected token).Finite := by
  have hopen {frame : Frame} (hframe : ∀ value ∈ frame.values, value.Finite)
      (wanted : Expectation) :
      (if expected.wantsValue = true then Progress.reading (frame :: stack) wanted
        else giveUp stack).Finite := by
    split
    · exact finiteStack_cons.mpr ⟨hframe, hstack⟩
    · exact finite_giveUp hstack
  unfold readToken
  split
  -- a list or an object is opened, or a value is there
  · exact hopen (by simp [Frame.values]) _
  · exact hopen (by simp [Frame.values]) _
  · exact finite_deliver_or_giveUp htoken hstack _
  -- a name is kept aside, and the fields are as before
  iterate 4
    obtain ⟨hframe, houter⟩ := finiteStack_cons.mp hstack
    exact finiteStack_cons.mpr ⟨hframe, houter⟩
  · refine finite_deliver_or_giveUp ?_ hstack _
    split
    · exact .text
    · exact .unkept
  -- colons and commas leave the stack as it is
  · exact hstack
  · exact hstack
  · exact hstack
  -- the innermost list or object ends and becomes a value itself
  iterate 2
    obtain ⟨hframe, houter⟩ := finiteStack_cons.mp hstack
    exact finite_deliver (finite_enclose (finite_array_reverse hframe) _) houter
  iterate 2
    obtain ⟨hframe, houter⟩ := finiteStack_cons.mp hstack
    exact finite_deliver (finite_enclose (finite_object_reverse hframe) _) houter
  · exact finite_giveUp hstack

theorem Progress.Finite.advance {progress : Progress} {token : Token}
    (hprogress : progress.Finite) (htoken : token.Finite) : (progress.advance token).Finite := by
  cases progress with
  | reading stack expected => exact finite_readToken expected hprogress htoken
  | done root => exact hprogress
  | surplus root => exact hprogress

theorem Progress.Finite.foldl {progress : Progress} {tokens : List Token}
    (hprogress : progress.Finite) (htokens : ∀ token ∈ tokens, token.Finite) :
    (tokens.foldl Progress.advance progress).Finite := by
  induction tokens generalizing progress with
  | nil => exact hprogress
  | cons token rest ih =>
      obtain ⟨htoken, hrest⟩ := List.forall_mem_cons.mp htokens
      exact ih (hprogress.advance htoken) hrest

theorem Progress.Finite.finish {progress : Progress} (hprogress : progress.Finite) :
    progress.finish.root.Finite := by
  cases progress with
  | reading stack expected => exact finite_collapse .fault hprogress
  | done root => exact hprogress
  | surplus root => exact hprogress

/-- All numbers of a document are finite, also where the text stops being one. -/
theorem finite_read (source : String) : (read source).root.Finite := by
  have hstart : (Progress.reading [] .value).Finite := by
    intro frame hmem
    exact absurd hmem List.not_mem_nil
  exact (hstart.foldl (finite_tokensUpTo _ _)).finish

end GridCircuit.Json
