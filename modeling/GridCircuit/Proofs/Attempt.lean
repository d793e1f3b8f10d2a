import Mathlib.Data.List.Forall2

/-!
# Attempts

Checks, renamings and passes are attempts in `Except`: they end with a value or with the reason why
there is none.  This file says when an attempt that is put together from smaller ones succeeds, and
with what reason it fails, so that the rest of the theory never opens a `do` block:

* `bind_eq_ok_iff` — one attempt after another;
* `forM_eq_ok_iff` and `mapM_eq_ok_iff` — one attempt for every member of a list, and
  `forM_eq_error_iff` and `mapM_eq_error_iff` for the first member at which it fails;
* `bind_eq_ok_iff_of` and `mapM_eq_ok_iff_of_forall` — the same for attempts that have only one value
  to end with;
* `foldlM_guarded_eq_ok_iff` — a loop whose steps are guarded by a check and cannot fail otherwise.
-/

namespace GridCircuit.Attempt

variable {ε ε' α β σ : Type}

/-- An attempt after another succeeds when both do. -/
theorem bind_eq_ok_iff {attempt : Except ε α} {next : α → Except ε β} {b : β} :
    attempt >>= next = .ok b ↔ ∃ a, attempt = .ok a ∧ next a = .ok b := by
  cases attempt with
  | error reason => simp [bind, Except.bind]
  | ok a => simp [bind, Except.bind]

/-- An attempt after one whose value is known when there is one. -/
theorem bind_eq_ok_iff_of {attempt : Except ε α} {next : α → Except ε β} {P : Prop} {a : α} {b : β}
    (hattempt : ∀ x, attempt = .ok x ↔ P ∧ x = a) :
    attempt >>= next = .ok b ↔ P ∧ next a = .ok b := by
  simp only [bind_eq_ok_iff, hattempt]
  constructor
  · rintro ⟨_, ⟨hP, rfl⟩, hnext⟩
    exact ⟨hP, hnext⟩
  · rintro ⟨hP, hnext⟩
    exact ⟨a, ⟨hP, rfl⟩, hnext⟩

/-- An attempt after another fails where one of the two does. -/
theorem bind_eq_error_iff {attempt : Except ε α} {next : α → Except ε β} {reason : ε} :
    attempt >>= next = .error reason ↔
      attempt = .error reason ∨ ∃ a, attempt = .ok a ∧ next a = .error reason := by
  cases attempt with
  | error other => simp [bind, Except.bind]
  | ok a => simp [bind, Except.bind]

/-- An attempt behind a check fails where the check does, or else where it does by itself. -/
theorem check_bind_eq_error_iff {check : Except ε Unit} {next : Unit → Except ε β} {reason : ε} :
    check >>= next = .error reason ↔
      check = .error reason ∨ check = .ok () ∧ next () = .error reason := by
  rw [bind_eq_error_iff]
  exact or_congr_right ⟨fun ⟨_, hcheck⟩ => hcheck, fun hcheck => ⟨(), hcheck⟩⟩

theorem exists_eq_error_iff {attempt : Except ε α} :
    (∃ reason, attempt = .error reason) ↔ ∀ a, attempt ≠ .ok a := by
  cases attempt <;> simp

theorem pure_eq_ok_iff {a b : α} : (pure a : Except ε α) = .ok b ↔ a = b := by
  simp [pure, Except.pure]

/-- A check of every member succeeds when each member passes. -/
theorem forM_eq_ok_iff {check : α → Except ε Unit} {members : List α} :
    members.forM check = .ok () ↔ ∀ a ∈ members, check a = .ok () := by
  induction members with
  | nil => simp [List.forM_nil, pure, Except.pure]
  | cons a rest ih =>
      rw [List.forM_eq_forM] at ih ⊢
      simp only [List.forM_cons, bind_eq_ok_iff, ih, List.forall_mem_cons]
      constructor
      · rintro ⟨_, hfirst, hrest⟩
        exact ⟨hfirst, hrest⟩
      · rintro ⟨hfirst, hrest⟩
        exact ⟨_, hfirst, hrest⟩

/-- An attempt on every member succeeds with the results of the members. -/
theorem mapM_eq_ok_iff {attempt : α → Except ε β} {members : List α} {results : List β} :
    members.mapM attempt = .ok results ↔
      List.Forall₂ (fun a b => attempt a = .ok b) members results := by
  induction members generalizing results with
  | nil => rw [List.mapM_nil, pure_eq_ok_iff, List.forall₂_nil_left_iff, eq_comm]
  | cons a rest ih =>
      simp only [List.mapM_cons, bind_eq_ok_iff, pure_eq_ok_iff, List.forall₂_cons_left_iff, ih]
      constructor
      · rintro ⟨b, hb, bs, hbs, rfl⟩
        exact ⟨b, bs, hb, hbs, rfl⟩
      · rintro ⟨b, bs, hb, hbs, rfl⟩
        exact ⟨b, hb, bs, hbs, rfl⟩

/-- An attempt that succeeds on every member under a condition, and then with a known result, does
so on the list when every member meets the condition. -/
theorem mapM_eq_ok_iff_of_forall {attempt : α → Except ε β} {P : α → Prop} {result : α → β}
    {members : List α} {results : List β}
    (hattempt : ∀ a ∈ members, ∀ b, attempt a = .ok b ↔ P a ∧ b = result a) :
    members.mapM attempt = .ok results ↔ (∀ a ∈ members, P a) ∧ results = members.map result := by
  rw [mapM_eq_ok_iff]
  induction members generalizing results with
  | nil => simp
  | cons a rest ih =>
      obtain ⟨hfirst, hrest⟩ := List.forall_mem_cons.mp hattempt
      simp only [List.forall₂_cons_left_iff, ih hrest, hfirst, List.forall_mem_cons, List.map_cons]
      constructor
      · rintro ⟨_, _, ⟨hfirst, rfl⟩, ⟨hrest, rfl⟩, rfl⟩
        exact ⟨⟨hfirst, hrest⟩, rfl⟩
      · rintro ⟨⟨hfirst, hrest⟩, rfl⟩
        exact ⟨_, _, ⟨hfirst, rfl⟩, ⟨hrest, rfl⟩, rfl⟩

/-- An attempt that takes back what was done to each member. -/
theorem mapM_map_eq_ok_iff_of_forall {attempt : β → Except ε α} {form : α → β} {P : α → Prop}
    {members results : List α}
    (hattempt : ∀ a ∈ members, ∀ b, attempt (form a) = .ok b ↔ P a ∧ b = a) :
    (members.map form).mapM attempt = .ok results ↔ (∀ a ∈ members, P a) ∧ results = members := by
  have hmapM : members.mapM (attempt ∘ form) = .ok results ↔
      (∀ a ∈ members, P a) ∧ results = members.map id := mapM_eq_ok_iff_of_forall hattempt
  rw [List.mapM_map, hmapM, List.map_id]

/-- An attempt whose outcome is known in advance on every member. -/
theorem mapM_eq_ok_map {attempt : α → Except ε β} {result : α → β} {members : List α}
    (hattempt : ∀ a ∈ members, attempt a = .ok (result a)) :
    members.mapM attempt = .ok (members.map result) := by
  rw [mapM_eq_ok_iff, List.forall₂_map_right_iff, List.forall₂_same]
  exact hattempt

/-- An attempt on every member succeeds when it does on each. -/
theorem exists_mapM_eq_ok_iff {attempt : α → Except ε β} {members : List α} :
    (∃ results, members.mapM attempt = .ok results) ↔ ∀ a ∈ members, ∃ b, attempt a = .ok b := by
  induction members with
  | nil => simp [List.mapM_nil, pure_eq_ok_iff]
  | cons a rest ih =>
      simp only [List.mapM_cons, bind_eq_ok_iff, pure_eq_ok_iff, List.forall_mem_cons, ← ih]
      constructor
      · rintro ⟨_, b, hb, bs, hbs, rfl⟩
        exact ⟨⟨b, hb⟩, bs, hbs⟩
      · rintro ⟨⟨b, hb⟩, bs, hbs⟩
        exact ⟨b :: bs, b, hb, bs, hbs, rfl⟩

/-- What an attempt on every member ends with comes from the members. -/
theorem exists_of_mem_of_mapM_eq_ok {attempt : α → Except ε β} {members : List α} {results : List β}
    {b : β} (hresults : members.mapM attempt = .ok results) (hb : b ∈ results) :
    ∃ a ∈ members, attempt a = .ok b := by
  rw [mapM_eq_ok_iff] at hresults
  induction hresults with
  | nil => exact absurd hb List.not_mem_nil
  | cons hfirst hrest ih =>
      rcases List.mem_cons.mp hb with rfl | hb
      · exact ⟨_, List.mem_cons_self, hfirst⟩
      · obtain ⟨a, hmem, ha⟩ := ih hb
        exact ⟨a, List.mem_cons_of_mem _ hmem, ha⟩

/-- An attempt on every member fails with the reason of the first member that fails. -/
theorem mapM_eq_error_iff {attempt : α → Except ε β} {members : List α} {reason : ε} :
    members.mapM attempt = .error reason ↔
      ∃ before a after, members = before ++ a :: after ∧
        (∀ earlier ∈ before, ∃ b, attempt earlier = .ok b) ∧ attempt a = .error reason := by
  induction members with
  | nil => simp [List.mapM_nil, pure, Except.pure]
  | cons first rest ih =>
      rw [List.mapM_cons, bind_eq_error_iff]
      constructor
      · rintro (hfirst | ⟨b, hb, hrest⟩)
        · exact ⟨[], first, rest, rfl, by simp, hfirst⟩
        · rcases bind_eq_error_iff.mp hrest with hrest | ⟨bs, -, hpure⟩
          · obtain ⟨before, a, after, rfl, hbefore, ha⟩ := ih.mp hrest
            exact ⟨first :: before, a, after, rfl,
              List.forall_mem_cons.mpr ⟨⟨b, hb⟩, hbefore⟩, ha⟩
          · simp [pure, Except.pure] at hpure
      · rintro ⟨before, a, after, hsplit, hbefore, ha⟩
        rcases List.cons_eq_append_iff.mp hsplit with ⟨rfl, hsame⟩ | ⟨init, rfl, rfl⟩
        · obtain ⟨rfl, rfl⟩ := List.cons.inj hsame
          exact .inl ha
        · obtain ⟨⟨b, hb⟩, hinit⟩ := List.forall_mem_cons.mp hbefore
          have hrest := ih.mpr ⟨init, a, after, rfl, hinit, ha⟩
          exact .inr ⟨b, hb, bind_eq_error_iff.mpr (.inl hrest)⟩

/-- Checking every member is an attempt on every member whose results are given up. -/
theorem forM_eq_map_mapM (check : α → Except ε Unit) (members : List α) :
    members.forM check = (members.mapM check).map fun _ => () := by
  induction members with
  | nil => rfl
  | cons a rest ih =>
      rw [List.forM_eq_forM] at ih ⊢
      rw [List.forM_cons, List.mapM_cons, ih]
      cases check a with
      | error reason => rfl
      | ok _ => cases rest.mapM check <;> rfl

/-- A check of every member fails with the reason of the first member that fails. -/
theorem forM_eq_error_iff {check : α → Except ε Unit} {members : List α} {reason : ε} :
    members.forM check = .error reason ↔
      ∃ before a after, members = before ++ a :: after ∧
        (∀ earlier ∈ before, check earlier = .ok ()) ∧ check a = .error reason := by
  have hmapM : members.forM check = .error reason ↔ members.mapM check = .error reason := by
    rw [forM_eq_map_mapM]
    cases members.mapM check <;> simp [Except.map]
  have hok (a : α) : (∃ result, check a = .ok result) ↔ check a = .ok () :=
    ⟨fun ⟨_, hresult⟩ => hresult, fun hresult => ⟨_, hresult⟩⟩
  rw [hmapM, mapM_eq_error_iff]
  simp only [hok]

/-- What an attempt on every member fails with is what it fails with on one of them. -/
theorem exists_of_mapM_eq_error {attempt : α → Except ε β} {members : List α} {reason : ε}
    (herror : members.mapM attempt = .error reason) : ∃ a ∈ members, attempt a = .error reason := by
  obtain ⟨before, a, after, rfl, -, ha⟩ := mapM_eq_error_iff.mp herror
  exact ⟨a, by simp, ha⟩

theorem mapError_eq_ok_iff {reason : ε → ε'} {attempt : Except ε α} {a : α} :
    attempt.mapError reason = .ok a ↔ attempt = .ok a := by
  cases attempt <;> simp [Except.mapError]

/-- A loop that checks every member before it takes its step succeeds when all members pass, and
then it is the plain loop. -/
theorem foldlM_guarded_eq_ok_iff {check : α → Except ε Unit} {step : σ → α → σ}
    {members : List α} {start finish : σ} :
    members.foldlM (fun state a => do check a; return step state a) start = .ok finish ↔
      (∀ a ∈ members, check a = .ok ()) ∧ members.foldl step start = finish := by
  induction members generalizing start with
  | nil => simp [pure_eq_ok_iff]
  | cons a rest ih =>
      simp only [List.foldlM_cons, bind_eq_ok_iff, pure_eq_ok_iff, List.forall_mem_cons,
        List.foldl_cons]
      constructor
      · rintro ⟨_, ⟨_, hcheck, rfl⟩, hrest⟩
        exact ⟨⟨hcheck, (ih.mp hrest).1⟩, (ih.mp hrest).2⟩
      · rintro ⟨⟨hcheck, hall⟩, hfinish⟩
        exact ⟨_, ⟨_, hcheck, rfl⟩, ih.mpr ⟨hall, hfinish⟩⟩

end GridCircuit.Attempt
