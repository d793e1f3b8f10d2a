import GridCircuit.Proofs.Attempt

/-!
# Translated attempts

Two runs of one program on corresponding inputs should end in corresponding ways: with corresponding
values, or for corresponding reasons.  `Attempt.translate` carries the outcome of the first run over
to the second.  The lemmas below carry translations through everything that attempts are put
together from, one after the other (`translate_bind`), one for every member of a list
(`mapM_translate`, `forM_translate`) and in loops (`foldlM_translate`).  The order in which an
attempt meets its failures is part of what is carried over.
-/

namespace GridCircuit.Attempt

variable {ε ε' ε₁ ε₁' α α' β β' σ σ' : Type} {reason : ε → ε'}

/-- The outcome with its value, or the reason for which there is none, replaced. -/
def translate (reason : ε → ε') (value : α → α') : Except ε α → Except ε' α'
  | .ok a => .ok (value a)
  | .error cause => .error (reason cause)

@[simp] theorem translate_ok (value : α → α') (a : α) :
    translate reason value (.ok a) = .ok (value a) := rfl

@[simp] theorem translate_error (value : α → α') (cause : ε) :
    translate reason value (.error cause) = .error (reason cause) := rfl

/-- An attempt after another is translated when both are; the second one only has to be on the value
that it starts from. -/
theorem translate_bind {value : α → α'} {result : β → β'} {attempt : Except ε α}
    {next : α → Except ε β} {next' : α' → Except ε' β'}
    (hnext : ∀ a, attempt = .ok a → next' (value a) = translate reason result (next a)) :
    translate reason value attempt >>= next' = translate reason result (attempt >>= next) := by
  cases attempt with
  | error cause => rfl
  | ok a => exact hnext a rfl

theorem mapM_translate {value : β → β'} {attempt : α → Except ε β} {attempt' : α → Except ε' β'}
    {members : List α} (hattempt : ∀ a ∈ members, attempt' a = translate reason value (attempt a)) :
    members.mapM attempt' = translate reason (List.map value) (members.mapM attempt) := by
  induction members with
  | nil => rfl
  | cons a rest ih =>
      obtain ⟨hfirst, hrest⟩ := List.forall_mem_cons.mp hattempt
      rw [List.mapM_cons, List.mapM_cons, hfirst]
      apply translate_bind
      intro b _
      rw [ih hrest]
      apply translate_bind
      intro bs _
      rfl

theorem forM_translate {form : α → α'} {check : α → Except ε Unit} {check' : α' → Except ε' Unit}
    {members : List α} (hcheck : ∀ a ∈ members, check' (form a) = translate reason id (check a)) :
    (members.map form).forM check' = translate reason id (members.forM check) := by
  induction members with
  | nil => rfl
  | cons a rest ih =>
      obtain ⟨hfirst, hrest⟩ := List.forall_mem_cons.mp hcheck
      rw [List.forM_eq_forM, List.forM_eq_forM] at ih ⊢
      rw [List.map_cons, List.forM_cons, List.forM_cons, hfirst]
      apply translate_bind
      intro _ _
      exact ih hrest

/-- A loop is translated when each step is, from every state with a property that the steps keep. -/
theorem foldlM_translate (P : σ → Prop) {value : σ → σ'} {form : α → α'}
    {step : σ → α → Except ε σ} {step' : σ' → α' → Except ε' σ'} {members : List α} {start : σ}
    (hstart : P start)
    (hstep : ∀ a ∈ members, ∀ state, P state →
      step' (value state) (form a) = translate reason value (step state a))
    (hkeep : ∀ a ∈ members, ∀ state, P state → ∀ next, step state a = .ok next → P next) :
    (members.map form).foldlM step' (value start) =
      translate reason value (members.foldlM step start) := by
  induction members generalizing start with
  | nil => rfl
  | cons a rest ih =>
      obtain ⟨hfirst, hrest⟩ := List.forall_mem_cons.mp hstep
      obtain ⟨hfirstKeep, hrestKeep⟩ := List.forall_mem_cons.mp hkeep
      rw [List.map_cons, List.foldlM_cons, List.foldlM_cons, hfirst start hstart]
      apply translate_bind
      intro next hnext
      exact ih (hfirstKeep start hstart next hnext) hrest hrestKeep

/-- Wrapping a reason and translating it may change places. -/
theorem mapError_translate {value : α → α'} {wrap : ε → ε₁} {wrap' : ε' → ε₁'}
    {reason₁ : ε₁ → ε₁'} (hwrap : ∀ cause, wrap' (reason cause) = reason₁ (wrap cause))
    (attempt : Except ε α) :
    (translate reason value attempt).mapError wrap' =
      translate reason₁ value (attempt.mapError wrap) := by
  cases attempt with
  | error cause => exact congrArg Except.error (hwrap cause)
  | ok a => rfl

end GridCircuit.Attempt
