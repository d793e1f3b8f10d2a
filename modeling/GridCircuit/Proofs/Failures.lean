import GridCircuit.Proofs.Summaries

/-!
# What a failed run leaves

A pass may fail after much of its work is done: mapping in the middle of a moment, packing with
half of the circuit placed, verification in its second stage.  None of this shows.  A pass that
fails leaves the circuit and the properties as it found them (`Pass.workspace_run_of_failure`).

For a run of several passes this says where it stops.  `Pass.FailsAt` names the pass in which a run
fails; there is exactly one when the run fails at all, and the run leaves what the passes before
that one have made of the circuit.  In an optimization those passes do not write to the properties,
so these are as they were.
-/

namespace GridCircuit

theorem Outcome.workspace_ofResult_of_failure {workspace : Workspace}
    {result : Except CompileError Circuit} {cause : CompileError}
    (hfailure : (ofResult workspace result).failure = some cause) :
    (ofResult workspace result).workspace = workspace := by
  cases result with
  | error reason => rfl
  | ok circuit => cases hfailure

namespace Pass

variable {pass : Pass} {passes : List Pass} {workspace start : Workspace} {cause : CompileError}
  {index : Nat}

/-! ## One pass -/

/-- A pass that fails leaves its workspace alone. -/
theorem workspace_run_of_failure (hfailure : (pass.run workspace).failure = some cause) :
    (pass.run workspace).workspace = workspace := by
  cases pass with
  | mapping map => exact Outcome.workspace_ofResult_of_failure hfailure
  | dropNegligible tolerance => cases hfailure
  | requireFull strategy tolerance =>
      rw [run]
      split <;> rfl
  | dropEmptyMoments => cases hfailure
  | packing =>
      rw [run] at hfailure ⊢
      split at hfailure
      · exact Outcome.workspace_ofResult_of_failure hfailure
      · cases hfailure
  | verification =>
      rw [run] at hfailure ⊢
      split at hfailure
      · split at hfailure
        · cases hfailure
        · rfl
      · cases hfailure

/-- Passes that only look at the circuit do not change it. -/
theorem circuit_run_of_analysis (hkind : pass.kind = .analysis) :
    (pass.run workspace).workspace.circuit = workspace.circuit := by
  cases pass with
  | mapping map => cases hkind
  | dropNegligible tolerance => cases hkind
  | requireFull strategy tolerance =>
      rw [run]
      split <;> rfl
  | dropEmptyMoments => cases hkind
  | packing => cases hkind
  | verification =>
      rw [run]
      split
      · split <;> rfl
      · rfl

/-! ## The pass in which a run fails -/

/-- The run fails in the pass at an index: the passes before it come to their end, and there it has
something to do and fails. -/
structure FailsAt (passes : List Pass) (start : Workspace) (index : Nat) (cause : CompileError) :
    Prop where
  completed : (runAll (passes.take index) start).failure = none
  failed : ∃ pass, passes[index]? = some pass ∧
    pass.shouldRun (runAll (passes.take index) start).workspace.properties = true ∧
    (pass.run (runAll (passes.take index) start).workspace).failure = some cause

theorem runAll_cons_of_skipped (hskipped : pass.shouldRun start.properties = false) :
    runAll (pass :: passes) start = runAll passes start := by
  simp [runAll, hskipped]

theorem runAll_cons_of_success (hshould : pass.shouldRun start.properties = true)
    (hsuccess : (pass.run start).failure = none) :
    runAll (pass :: passes) start = runAll passes (pass.run start).workspace := by
  simp [runAll, hshould, hsuccess]

theorem runAll_cons_of_failure (hshould : pass.shouldRun start.properties = true)
    (hfailure : (pass.run start).failure = some cause) :
    runAll (pass :: passes) start = ⟨start, some cause⟩ := by
  have hrun : pass.run start = ⟨start, some cause⟩ := by
    rw [← hfailure]
    exact congrArg (Outcome.mk · _) (workspace_run_of_failure hfailure)
  simp [runAll, hshould, hrun]

/-- A run that fails in some pass stops where the passes before it have led. -/
theorem FailsAt.runAll_eq (hfails : FailsAt passes start index cause) :
    runAll passes start = ⟨(runAll (passes.take index) start).workspace, some cause⟩ := by
  obtain ⟨pass, hpass, hshould, hfailure⟩ := hfails.failed
  obtain ⟨hlt, hget⟩ := List.getElem?_eq_some_iff.mp hpass
  have hsplit : passes.take index ++ pass :: passes.drop (index + 1) = passes := by
    rw [← hget, List.getElem_cons_drop, List.take_append_drop]
  calc runAll passes start
      = runAll (passes.take index ++ pass :: passes.drop (index + 1)) start := by rw [hsplit]
    _ = runAll (pass :: passes.drop (index + 1)) (runAll (passes.take index) start).workspace := by
        rw [runAll_append, hfails.completed]
    _ = ⟨(runAll (passes.take index) start).workspace, some cause⟩ :=
        runAll_cons_of_failure hshould hfailure

theorem failsAt_zero (hshould : pass.shouldRun start.properties = true)
    (hfailure : (pass.run start).failure = some cause) :
    FailsAt (pass :: passes) start 0 cause :=
  ⟨rfl, pass, rfl, hshould, hfailure⟩

/-- A pass that does not fail moves the failure of the others to the next index. -/
theorem FailsAt.succ {reached : Workspace} (hfails : FailsAt passes reached index cause)
    (hreached : ∀ rest, runAll (pass :: rest) start = runAll rest reached) :
    FailsAt (pass :: passes) start (index + 1) cause := by
  constructor
  · rw [List.take_succ_cons, hreached]
    exact hfails.completed
  · rw [List.take_succ_cons, hreached, List.getElem?_cons_succ]
    exact hfails.failed

/-- A run that fails does so in one of its passes. -/
theorem exists_failsAt (hfailure : (runAll passes start).failure = some cause) :
    ∃ index, FailsAt passes start index cause := by
  induction passes generalizing start with
  | nil => cases hfailure
  | cons pass rest ih =>
      cases hshould : pass.shouldRun start.properties with
      | false =>
          rw [runAll_cons_of_skipped hshould] at hfailure
          obtain ⟨index, hfails⟩ := ih hfailure
          exact ⟨index + 1, hfails.succ fun _ => runAll_cons_of_skipped hshould⟩
      | true =>
          cases hresult : (pass.run start).failure with
          | none =>
              rw [runAll_cons_of_success hshould hresult] at hfailure
              obtain ⟨index, hfails⟩ := ih hfailure
              exact ⟨index + 1, hfails.succ fun _ => runAll_cons_of_success hshould hresult⟩
          | some reason =>
              rw [runAll_cons_of_failure hshould hresult] at hfailure
              exact ⟨0, failsAt_zero hshould (hresult.trans hfailure)⟩

/-- Passes that come after the failing one do not matter. -/
theorem FailsAt.take {count : Nat} (hfails : FailsAt passes start index cause)
    (hlt : index < count) : FailsAt (passes.take count) start index cause := by
  have htake : (passes.take count).take index = passes.take index := by
    rw [List.take_take, Nat.min_eq_left (Nat.le_of_lt hlt)]
  constructor
  · rw [htake]
    exact hfails.completed
  · rw [htake, List.getElem?_take_of_lt hlt]
    exact hfails.failed

/-- A run fails in one pass at most. -/
theorem FailsAt.index_le {index' : Nat} {cause' : CompileError}
    (hfails : FailsAt passes start index cause) (hfails' : FailsAt passes start index' cause') :
    index' ≤ index := by
  by_contra hlt
  -- the passes before the later index would have failed already
  have hbefore := (hfails.take (Nat.lt_of_not_le hlt)).runAll_eq
  have hcompleted := hfails'.completed
  rw [hbefore] at hcompleted
  cases hcompleted

end Pass

/-! ## Optimizations -/

/-- The passes of an optimization before the one that fails leave the properties alone. -/
theorem Pass.FailsAt.properties_eq {settings : Settings} {start : Workspace} {index : Nat}
    {cause : CompileError} (hfails : FailsAt settings.passes start index cause) :
    (runAll (settings.passes.take index) start).workspace.properties = start.properties := by
  obtain ⟨front, hpasses, hfront⟩ := settings.exists_passes_eq
  obtain ⟨pass, hpass, -⟩ := hfails.failed
  have hlt : index < (front ++ [Pass.verification]).length := by
    rw [← hpasses]
    exact (List.getElem?_eq_some_iff.mp hpass).1
  have hindex : index ≤ front.length := by simpa [Nat.lt_succ_iff] using hlt
  apply properties_runAll
  rw [hpasses, List.take_append_of_le_length hindex]
  exact fun pass hmem => hfront pass (List.mem_of_mem_take hmem)

/-- A pass that fails leaves the circuit and the properties as it found them, and passes that only
look at the circuit never change it.  An optimization that fails does so in exactly one of its
passes.  It leaves the circuit where the passes before that one have led, and the properties as they
were given. -/
theorem failed_run_stops_before_failing_pass (settings : Settings) (start : Workspace) :
    (∀ pass workspace cause, (Pass.run pass workspace).failure = some cause →
      (pass.run workspace).workspace = workspace) ∧
    (∀ pass workspace, Pass.kind pass = .analysis →
      (pass.run workspace).workspace.circuit = workspace.circuit) ∧
    (∀ cause, (Pass.runAll settings.passes start).failure = some cause →
      ∃! index, Pass.FailsAt settings.passes start index cause) ∧
    ∀ index cause, Pass.FailsAt settings.passes start index cause →
      Pass.runAll settings.passes start =
        ⟨⟨(Pass.runAll (settings.passes.take index) start).workspace.circuit, start.properties⟩,
          some cause⟩ := by
  refine ⟨fun _ _ _ => Pass.workspace_run_of_failure, fun _ _ => Pass.circuit_run_of_analysis,
    fun cause hfailure => ?_, fun index cause hfails => ?_⟩
  · obtain ⟨index, hfails⟩ := Pass.exists_failsAt hfailure
    exact ⟨index, hfails, fun other hother =>
      Nat.le_antisymm (hfails.index_le hother) (hother.index_le hfails)⟩
  · rw [hfails.runAll_eq, ← hfails.properties_eq]

/-- `linePair` on properties that already hold a summary. -/
def strayStart : Workspace := ⟨linePair, ⟨some .foxtail, some pairSummary⟩⟩

/-- Maps `linePair` onto a row that the preset device does not have. -/
def straySettings : Settings := { map := .lineOntoRow 5 }

/-- What the passes before packing make of `strayStart`. -/
def strayReached : Workspace :=
  ⟨⟨"c", [⟨[.plain (.interaction 1.0) [.grid ⟨5, 0⟩, .grid ⟨5, 1⟩]]⟩]⟩, strayStart.properties⟩

set_option maxRecDepth 20000 in
theorem runAll_take_straySettings :
    Pass.runAll (straySettings.passes.take 4) strayStart = ⟨strayReached, none⟩ := by
  rfl

theorem strayPair_stops_before_packing :
    (Pass.packing.run strayReached).failure = some (.device (.offDevice ⟨5, 0⟩)) ∧
    (Pass.packing.run strayReached).workspace = strayReached ∧
    (Pass.verification.run strayReached).workspace.circuit = strayReached.circuit ∧
    (∃! index, Pass.FailsAt straySettings.passes strayStart index
      (.device (.offDevice ⟨5, 0⟩))) ∧
    Pass.runAll straySettings.passes strayStart =
      ⟨strayReached, some (.device (.offDevice ⟨5, 0⟩))⟩ := by
  obtain ⟨hkeeps, hlooks, hunique, hstops⟩ :=
    failed_run_stops_before_failing_pass straySettings strayStart
  have hfailure : (Pass.packing.run strayReached).failure =
      some (.device (.offDevice ⟨5, 0⟩)) := rfl
  have hfails : Pass.FailsAt straySettings.passes strayStart 4
      (.device (.offDevice ⟨5, 0⟩)) := by
    refine ⟨by rw [runAll_take_straySettings], .packing, rfl, ?_, ?_⟩
    · rw [runAll_take_straySettings]
      rfl
    · rw [runAll_take_straySettings]
      exact hfailure
  have hrun := hstops 4 _ hfails
  rw [runAll_take_straySettings] at hrun
  exact ⟨hfailure, hkeeps _ _ _ hfailure, hlooks _ _ rfl,
    hunique _ (by rw [hrun]), hrun⟩

end GridCircuit
