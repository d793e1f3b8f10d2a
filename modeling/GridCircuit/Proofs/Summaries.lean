import GridCircuit.Proofs.Packing

/-!
# What a verification summary describes

An optimization that succeeds leaves a summary of its circuit in the properties that its passes
share.  The properties may be used again, for another circuit or with other settings.  So which run
does the summary speak of that is found after some runs?

The summary is written by the last pass of a run and by no other, and a pass that fails leaves the
properties as it found them.  A run therefore either stores the summary of the circuit that it
leaves or keeps what was there (`Settings.settles_runAll`).  Over runs in turn, whatever they are,
the summary is that of the latest run that succeeded (`Summarizes`, an invariant of the runs).  It
need not be that of the latest run: the last theorems have a summary of a circuit that was accepted,
found after a run that failed.
-/

namespace GridCircuit

open Attempt

/-! ## One run -/

@[simp] theorem Outcome.properties_ofResult (workspace : Workspace)
    (result : Except CompileError Circuit) :
    (ofResult workspace result).workspace.properties = workspace.properties := by
  cases result <;> rfl

namespace Pass

variable {pass : Pass} {passes rest : List Pass} {workspace : Workspace}

/-- Only verification touches the properties. -/
theorem properties_run (hpass : pass ≠ .verification) :
    (pass.run workspace).workspace.properties = workspace.properties := by
  cases pass with
  | mapping map => exact Outcome.properties_ofResult _ _
  | dropNegligible tolerance => rfl
  | requireFull strategy tolerance =>
      rw [run]
      cases workspace.circuit.operations.find? (·.isPartialInteraction tolerance) <;> rfl
  | dropEmptyMoments => rfl
  | packing =>
      rw [run]
      split
      · exact Outcome.properties_ofResult _ _
      · rfl
  | verification => exact absurd rfl hpass

/-- Running passes and then more of them: the latter only run when none of the former fails. -/
theorem runAll_append : runAll (passes ++ rest) workspace =
    match (runAll passes workspace).failure with
    | some _ => runAll passes workspace
    | none => runAll rest (runAll passes workspace).workspace := by
  induction passes generalizing workspace with
  | nil => rfl
  | cons pass passes ih =>
      simp only [List.cons_append, runAll]
      cases pass.shouldRun workspace.properties with
      | false => simpa using ih
      | true =>
          cases hfailure : (pass.run workspace).failure with
          | some cause => simp [hfailure]
          | none => simpa [hfailure] using ih

/-- Passes without a verification leave the properties as they found them. -/
theorem properties_runAll (hpasses : ∀ pass ∈ passes, pass ≠ .verification) :
    (runAll passes workspace).workspace.properties = workspace.properties := by
  induction passes generalizing workspace with
  | nil => rfl
  | cons pass passes ih =>
      obtain ⟨hpass, hrest⟩ := List.forall_mem_cons.mp hpasses
      rw [runAll]
      cases pass.shouldRun workspace.properties with
      | false => simpa using ih hrest
      | true =>
          cases hfailure : (pass.run workspace).failure with
          | some cause => simpa [hfailure] using properties_run hpass
          | none => simpa [hfailure] using (ih hrest).trans (properties_run hpass)

end Pass

/-- How a run for a device may leave the properties that it found: it succeeds and stores the
summary of the circuit that it leaves, or it fails and keeps them. -/
inductive Outcome.Settles (device : Device) (found : Properties) (outcome : Outcome) : Prop
  | stored (summary : VerificationSummary) (hsuccess : outcome.failure = none)
      (hdescribes : summary.Describes device outcome.workspace.circuit)
      (hproperties : outcome.workspace.properties = { found with summary := some summary })
  | kept (cause : CompileError) (hfailure : outcome.failure = some cause)
      (hproperties : outcome.workspace.properties = found)

namespace Settings

variable {device : Device} {found : Properties}

/-- The passes of an optimization end with the verification, which occurs only there. -/
theorem exists_passes_eq (settings : Settings) : ∃ front,
    settings.passes = front ++ [.verification] ∧ ∀ pass ∈ front, pass ≠ .verification := by
  refine ⟨[.mapping settings.map, .dropNegligible settings.tolerance] ++
    (if settings.strategy.allowsPartial then []
      else [.requireFull settings.strategy settings.tolerance]) ++
    [.dropEmptyMoments, .packing], ?_, ?_⟩
  · simp [passes]
  · split <;> simp

/-- A run stores the summary of its circuit when it succeeds, and keeps the properties when any of
its passes fails. -/
theorem settles_runAll (settings : Settings) (circuit : Circuit)
    (hdevice : found.device = some device) :
    (Pass.runAll settings.passes ⟨circuit, found⟩).Settles device found := by
  obtain ⟨front, hpasses, hfront⟩ := settings.exists_passes_eq
  have hkept : (Pass.runAll front ⟨circuit, found⟩).workspace.properties = found :=
    Pass.properties_runAll hfront
  rw [hpasses, Pass.runAll_append]
  generalize Pass.runAll front ⟨circuit, found⟩ = reached at hkept
  obtain ⟨⟨packed, properties⟩, failure⟩ := reached
  obtain rfl : properties = found := hkept
  cases failure with
  | some cause => exact .kept cause rfl rfl
  | none =>
      -- only the verification is left to be run
      cases hverified : device.verify packed with
      | error reason =>
          have hlast : Pass.runAll [.verification] ⟨packed, properties⟩ =
              ⟨⟨packed, properties⟩, some reason⟩ := by
            simp [Pass.runAll, Pass.shouldRun, Pass.run, hdevice, hverified]
          exact hlast ▸ .kept _ rfl rfl
      | ok summary =>
          have hlast : Pass.runAll [.verification] ⟨packed, properties⟩ =
              ⟨⟨packed, { properties with summary := some summary }⟩, none⟩ := by
            simp [Pass.runAll, Pass.shouldRun, Pass.run, hdevice, hverified]
          exact hlast ▸ .stored summary rfl (Device.verify_eq_ok_iff.mp hverified) rfl

end Settings

/-! ## Runs in turn -/

/-- The outcomes of optimizing circuits one after the other, each with its own settings, on
properties that they share.  The device is that of the properties, whatever the settings name. -/
def Settings.runInTurn : Properties → List (Settings × Circuit) → List Outcome
  | _, [] => []
  | properties, (settings, circuit) :: rest =>
    let outcome := Pass.runAll settings.passes ⟨circuit, properties⟩
    outcome :: runInTurn outcome.workspace.properties rest

/-- The properties that are found after some outcomes. -/
def Properties.after : Properties → List Outcome → Properties
  | properties, [] => properties
  | _, outcome :: rest => after outcome.workspace.properties rest

/-- The circuit of the latest success among some outcomes. -/
def latestSuccess? (outcomes : List Outcome) : Option Circuit :=
  outcomes.reverse.findSome? (·.result.toOption)

theorem latestSuccess?_concat (outcomes : List Outcome) (outcome : Outcome) :
    latestSuccess? (outcomes ++ [outcome]) =
      outcome.result.toOption.or (latestSuccess? outcomes) := by
  rw [latestSuccess?, List.reverse_concat, List.findSome?_cons]
  cases outcome.result.toOption <;> rfl

/-- The summary that is found after some outcomes describes the circuit of the latest success among
them, and is the initial one as long as there was none. -/
structure Summarizes (device : Device) (initial : Option VerificationSummary)
    (outcomes : List Outcome) (found : Properties) : Prop where
  device_eq : found.device = some device
  described : ∀ circuit, latestSuccess? outcomes = some circuit →
    ∃ summary, found.summary = some summary ∧ summary.Describes device circuit
  untouched : latestSuccess? outcomes = none → found.summary = initial

namespace Summarizes

variable {device : Device} {initial : Option VerificationSummary} {outcomes : List Outcome}
  {found : Properties} {outcome : Outcome}

theorem start (device : Device) (initial : Option VerificationSummary) :
    Summarizes device initial [] ⟨some device, initial⟩ :=
  ⟨rfl, by simp [latestSuccess?], fun _ => rfl⟩

/-- One more run keeps the invariant. -/
theorem step (hsummarizes : Summarizes device initial outcomes found)
    (hsettles : outcome.Settles device found) :
    Summarizes device initial (outcomes ++ [outcome]) outcome.workspace.properties := by
  cases hsettles with
  | stored summary hsuccess hdescribes hproperties =>
      have hlatest : latestSuccess? (outcomes ++ [outcome]) = some outcome.workspace.circuit := by
        simp [latestSuccess?_concat, Outcome.result, hsuccess, Except.toOption]
      rw [hproperties]
      refine ⟨hsummarizes.device_eq, fun circuit hcircuit => ?_, fun hnone => ?_⟩
      · rw [hlatest] at hcircuit
        obtain rfl := Option.some.inj hcircuit
        exact ⟨summary, rfl, hdescribes⟩
      · rw [hlatest] at hnone
        cases hnone
  | kept cause hfailure hproperties =>
      have hlatest : latestSuccess? (outcomes ++ [outcome]) = latestSuccess? outcomes := by
        simp [latestSuccess?_concat, Outcome.result, hfailure, Except.toOption]
      rw [hproperties]
      exact ⟨hsummarizes.device_eq, hlatest ▸ hsummarizes.described,
        hlatest ▸ hsummarizes.untouched⟩

/-- Before each of the runs in turn the invariant holds, and the run stores its summary or keeps
what it finds. -/
theorem of_runInTurn {runs : List (Settings × Circuit)} {before later : List Outcome}
    (hsummarizes : Summarizes device initial outcomes found)
    (hruns : Settings.runInTurn found runs = before ++ outcome :: later) :
    Summarizes device initial (outcomes ++ before) (found.after before) ∧
      outcome.Settles device (found.after before) := by
  induction before generalizing outcomes found runs with
  | nil =>
      cases runs with
      | nil => cases hruns
      | cons run rest =>
          obtain ⟨rfl, -⟩ := List.cons.inj hruns
          rw [List.append_nil]
          exact ⟨hsummarizes, run.1.settles_runAll run.2 hsummarizes.device_eq⟩
  | cons first before ih =>
      cases runs with
      | nil => cases hruns
      | cons run rest =>
          obtain ⟨rfl, hrest⟩ := List.cons.inj hruns
          have hfirst := run.1.settles_runAll run.2 hsummarizes.device_eq
          rw [List.append_cons]
          exact ih (hsummarizes.step hfirst) hrest

end Summarizes

/-- After each of the runs in turn, the summary is that of the latest success so far.  This is the
run itself if it succeeded.  If it failed, it left the properties as it found them. -/
theorem summary_of_latest_success {device : Device} {initial : Option VerificationSummary}
    {runs : List (Settings × Circuit)} {before later : List Outcome} {outcome : Outcome}
    (hruns : Settings.runInTurn ⟨some device, initial⟩ runs = before ++ outcome :: later) :
    Summarizes device initial (before ++ [outcome]) outcome.workspace.properties ∧
      (∀ circuit, outcome.result = .ok circuit →
        latestSuccess? (before ++ [outcome]) = some circuit) ∧
      ∀ cause, outcome.result = .error cause →
        outcome.workspace.properties = Properties.after ⟨some device, initial⟩ before := by
  obtain ⟨hbefore, hsettles⟩ := (Summarizes.start device initial).of_runInTurn hruns
  refine ⟨hbefore.step hsettles, fun circuit hcircuit => ?_, fun cause hcause => ?_⟩
  · simp [latestSuccess?_concat, hcircuit, Except.toOption]
  · cases hsettles with
    | stored summary hsuccess _ _ => simp [Outcome.result, hsuccess] at hcause
    | kept _ _ hproperties => exact hproperties

/-! ## A summary that outlasts a failure -/

/-- Sends the first two positions of a line to the first two sites of a row, and nothing else
anywhere. -/
def pairMap : QubitMap := fun qubit => [(.line 0, ⟨0, 0⟩), (.line 1, ⟨0, 1⟩)].lookup qubit

/-- An interaction on the first two positions of a line. -/
def linePair : Circuit := ⟨"c", [⟨[.plain (.interaction 1.0) [.line 0, .line 1]]⟩]⟩

/-- What a run for the preset device leaves of `linePair` under `pairMap`. -/
def gridPair : Circuit := ⟨"c", [⟨[.plain (.interaction 1.0) [.grid ⟨0, 0⟩, .grid ⟨0, 1⟩]]⟩]⟩

/-- The summary of `gridPair` for the preset device. -/
def pairSummary : VerificationSummary := ⟨true, 1, 1, 0, .ofNanoseconds 50⟩

/-- A run on `linePair` that succeeds. -/
def pairAccepted : Outcome := ⟨⟨gridPair, ⟨some .foxtail, some pairSummary⟩⟩, none⟩

/-- A run on what the first one left, whose sites the map sends nowhere. -/
def pairUnmapped : Outcome :=
  ⟨⟨gridPair, ⟨some .foxtail, some pairSummary⟩⟩, some (.unmappedQubit (.grid ⟨0, 0⟩))⟩

set_option maxRecDepth 20000 in
theorem runInTurn_linePair :
    Settings.runInTurn ⟨some .foxtail, none⟩
        [({ map := pairMap }, linePair), ({ map := pairMap }, gridPair)] =
      [pairAccepted, pairUnmapped] := by
  rfl

/-- The summary that is found after a run need not be one of that run: here the run has failed, and
the summary is still that of the accepted circuit. -/
theorem summary_outlasts_failure :
    ∃ first last, Settings.runInTurn ⟨some .foxtail, none⟩
        [({ map := pairMap }, linePair), ({ map := pairMap }, gridPair)] = [first, last] ∧
      last.failure = some (.unmappedQubit (.grid ⟨0, 0⟩)) ∧
      last.workspace.properties.summary = some pairSummary ∧ pairSummary.passed = true :=
  ⟨pairAccepted, pairUnmapped, runInTurn_linePair, rfl, rfl, rfl⟩

theorem pairSummary_of_latest_success :
    Settings.runInTurn ⟨some .foxtail, none⟩
        [({ map := pairMap }, linePair), ({ map := pairMap }, gridPair)] =
      [pairAccepted] ++ [pairUnmapped] ∧
    Summarizes .foxtail none ([pairAccepted] ++ [pairUnmapped])
      pairUnmapped.workspace.properties ∧
    pairUnmapped.workspace.properties = pairAccepted.workspace.properties := by
  have hruns : Settings.runInTurn ⟨some .foxtail, none⟩
      [({ map := pairMap }, linePair), ({ map := pairMap }, gridPair)] =
        [pairAccepted] ++ pairUnmapped :: [] := runInTurn_linePair
  obtain ⟨hsummarizes, -, hfailed⟩ := summary_of_latest_success hruns
  exact ⟨hruns, hsummarizes, hfailed _ rfl⟩

end GridCircuit
