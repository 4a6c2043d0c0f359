import HilRig.Protocol.DenseStates

/-!
# Exact lowering of the quantities of a script

The voltages, duty cycles and frequencies of the calls of a script are checked when the calls are
made and converted again when the compiled test is lowered, by separate code. After every script
that compiles, the conversion cannot fail, and each value it leaves is exactly the number that a
call passed, in the unit of the protocol and in its range (`lowering_exact`).
-/

set_option autoImplicit false
set_option relaxedAutoImplicit false

namespace HilRig.Protocol

open HilRig.Models HilRig.Foundations HilRig.Api

/-! ### Exact values -/

/-- A value is exactly a decimal in the unit of its quantity, and it is in range. -/
def Converts : Measure → ℚ → ℕ → Prop
  | .voltage, volts, microvolts => (microvolts : ℚ) = 10 ^ 6 * volts ∧ microvolts ≤ 20000000
  | .dutyCycle, duty, permyriad => (permyriad : ℚ) = 10 ^ 4 * duty ∧ permyriad ≤ 10000
  | .frequency, hertz, period =>
    (period : ℚ) * hertz = 10 ^ 9 ∧ 0 < period ∧ period ≤ 2 ^ 32 - 1

/-- The value of a stored quantity in the unit of the protocol. -/
def unitsOf : Measure → PyFloat → ℕ
  | .voltage => microvoltsOf
  | .dutyCycle => permyriadOf
  | .frequency => periodNsOf

theorem converts_unitsOf {measure : Measure} {decimal : ℚ} (hexact : measure.IsExact decimal) :
    Converts measure decimal (unitsOf measure (.finite decimal)) := by
  cases measure with
  | voltage => exact microvoltsOf_spec ⟨decimal, rfl, hexact⟩
  | dutyCycle => exact permyriadOf_spec ⟨decimal, rfl, hexact⟩
  | frequency => exact periodNsOf_spec ⟨decimal, rfl, hexact⟩

/-- A lowered value on a channel is exactly the number that one of the calls passed for the last
request on it, and zero when nothing was asked for. -/
def Lowered (measure : Measure) (calls : List Api.Call) (channel : Channel) (value : ℕ) :
    Option PyFloat → Prop
  | none => value = 0
  | some request => ∃ call ∈ calls, ∃ number decimal,
      measure.passed call = some (channel, number) ∧ decimalOf number = some decimal ∧
        request = .finite decimal ∧ Converts measure decimal value

/-- The value of the last request among some instructions of a sourced test. -/
theorem lowered_requestOn {test : Test} {calls : List Api.Call} (hformed : test.WellFormed)
    (hsourced : test.Sourced calls) (measure : Measure) (channel : Channel)
    {instructions : List Instruction} (hsubset : instructions ⊆ test.instructions) {value : ℕ}
    (hvalue : value = ((requestOn test.configuration channel measure.configured measure.requested
      instructions).map (unitsOf measure)).getD 0) :
    Lowered measure calls channel value (requestOn test.configuration channel measure.configured
      measure.requested instructions) := by
  cases hrequest : requestOn test.configuration channel measure.configured measure.requested
    instructions with
  | none =>
    rw [hrequest] at hvalue
    exact hvalue
  | some request =>
    rw [hrequest] at hvalue
    have hsource : ∃ call ∈ calls, measure.ComesFrom call channel request := by
      rcases requestOn_eq_some hrequest with ⟨peripheral, hfound, hstored⟩ |
        ⟨instruction, hmem, rfl, hstored⟩
      · exact hsourced.configuration _ (mem_of_forChannel hformed.nodup hfound) measure request
          hstored
      · exact hsourced.stimulus instruction (hsubset hmem) measure request hstored
    obtain ⟨call, hcall, number, decimal, hpassed, hdecimal, rfl, hexact⟩ := hsource
    refine ⟨call, hcall, number, decimal, hpassed, hdecimal, rfl, ?_⟩
    rw [hvalue]
    exact converts_unitsOf hexact

/-! ### Retained states -/

/-- The output state that the adapter retains after some of its instructions. -/
def retainedOutputs (plan : CompiledTestIR) (count : ℕ) : Except HilRigError OutputState := do
  let initial ← (configurationIndex plan.configurations).foldlM initializeOutput {}
  ((fixedInstructions plan).take count).foldlM applyInstruction initial

/-- The stimuli behind some of the instructions of the adapter. -/
def retainedStimuli (test : Test) (count : ℕ) : List Instruction :=
  (fixedStimuli test.instructions).take count

/-- The last quantity asked for on a channel by some of the instructions of the adapter. -/
def retainedRequest (test : Test) (measure : Measure) (channel : Channel) (count : ℕ) :
    Option PyFloat :=
  requestOn test.configuration channel measure.configured measure.requested
    (retainedStimuli test count)

theorem retainedStimuli_subset (test : Test) (count : ℕ) :
    retainedStimuli test count ⊆ test.instructions :=
  fun _ hmem ↦ (mem_fixedStimuli.1 (List.mem_of_mem_take hmem)).1

section Retained

variable {test : Test} (hformed : test.WellFormed) (hexact : test.Exact)

include hformed hexact

theorem retainedOutputs_plan (count : ℕ) :
    retainedOutputs test.plan count =
      .ok ((retainedStimuli test count).foldl outputsAfter
        (initialOutputs test.configuration)) := by
  rw [retainedOutputs, foldlM_initializeOutput hformed hexact, fixedInstructions_plan,
    ← List.map_take]
  exact foldlM_applyInstruction hformed hexact
    (fun instruction hinstruction ↦ List.mem_of_mem_take hinstruction) _

/-- The state of a tick is retained after the instructions up to it. -/
theorem retainedOutputs_eq_outputsAt (tick : ℕ) :
    retainedOutputs test.plan ((fixedStimuli test.instructions).countP fun instruction ↦
      instruction.timestamp ≤ tick) = .ok (outputsAt test tick) := by
  rw [retainedOutputs_plan hformed hexact, outputsAt,
    filter_le_eq_take (pairwise_fixedStimuli test.instructions), retainedStimuli]

end Retained

/-! ### Scripts -/

/-- What lowering the compilation of a script leaves: every emitted voltage is exact, every retained
voltage, duty cycle and period is exact, and every message has the values of a retained state. -/
structure LoweredExactly (calls : List Api.Call) (test : Test) (plan : CompiledTestIR)
    (upload : FixedIOUploadMessages) : Prop where
  emitted : ∀ message ∈ upload.instructions, ∀ index,
    Lowered .voltage calls (channelOf .analogueOutput index) (message.analogOutputs index)
      (voltageAt test index message.tickNumber)
  retained : ∀ count, ∃ state, retainedOutputs plan count = .ok state ∧
    (∀ index, Lowered .voltage calls (channelOf .analogueOutput index)
      (state.analogueOutputs index)
      (retainedRequest test .voltage (channelOf .analogueOutput index) count)) ∧
    (∀ index, Lowered .dutyCycle calls (channelOf .pwmOutput index)
      (state.pwmOutputs index).dutyCyclePermyriad
      (retainedRequest test .dutyCycle (channelOf .pwmOutput index) count)) ∧
    ∀ index, Lowered .frequency calls (channelOf .pwmOutput index)
      (state.pwmOutputs index).periodNanoseconds
      (retainedRequest test .frequency (channelOf .pwmOutput index) count)
  messages : ∀ message ∈ upload.instructions, ∃ count state,
    retainedOutputs plan count = .ok state ∧ message.outputs = state.outputs

theorem loweredExactly_loweredUpload {test : Test} {calls : List Api.Call}
    (hformed : test.WellFormed) (hsourced : test.Sourced calls) (attempt : UploadAttempt) :
    LoweredExactly calls test test.plan (loweredUpload test attempt) where
  emitted := by
    intro message hmessage index
    obtain ⟨tick, htick, rfl⟩ := List.mem_map.1 hmessage
    exact lowered_requestOn hformed hsourced .voltage (channelOf .analogueOutput index)
      (fun _ ↦ mem_of_mem_instructionsUpTo) (analogueOutputs_outputsAt test tick index)
  retained := by
    intro count
    have hsubset := retainedStimuli_subset test count
    refine ⟨_, retainedOutputs_plan hformed hsourced.exact count, fun index ↦ ?_, fun index ↦ ?_,
      fun index ↦ ?_⟩
    · exact lowered_requestOn hformed hsourced .voltage _ hsubset
        (analogueOutputs_foldl test.configuration _ index)
    · exact lowered_requestOn hformed hsourced .dutyCycle _ hsubset
        (dutyCyclePermyriad_foldl test.configuration _ index)
    · exact lowered_requestOn hformed hsourced .frequency _ hsubset
        (periodNanoseconds_foldl test.configuration _ index)
  messages := by
    intro message hmessage
    obtain ⟨tick, htick, rfl⟩ := List.mem_map.1 hmessage
    exact ⟨_, _, retainedOutputs_eq_outputsAt hformed hsourced.exact tick, rfl⟩

/-- After every script that compiles, lowering the compilation for an attempt of it does not fail,
and every lowered value is exact and in range. -/
theorem lowering_exact (testId : Fin (2 ^ 128)) (name : Passed String) (created : Test)
    (hcreated : Test.create testId name = .ok created) (calls : List Api.Call)
    (plan : CompiledTestIR) (after : Test)
    (hcompiled : compile (created.after calls) = .ok plan after) (attempt : UploadAttempt)
    (hattempt : attempt.definitionTestId = plan.testId) (draws : List (Fin (2 ^ 128))) :
    ∃ upload, buildUpload plan (some attempt) draws = .ok upload ∧
      LoweredExactly calls (created.after calls) plan upload := by
  have hreachable : (created.after calls).Reachable :=
    ⟨testId, name, created, calls, hcreated, rfl⟩
  have hformed := wellFormed_of_reachable hreachable
  have hsourced := Test.Sourced.after hcreated calls
  obtain rfl := plan_of_compile hreachable hcompiled
  exact ⟨_, buildUpload_plan hformed hsourced.exact hattempt draws,
    loweredExactly_loweredUpload hformed hsourced attempt⟩

/-- An attempt to upload the fan test. -/
def fanAttempt : UploadAttempt :=
  ⟨5, 9, by decide, by decide⟩

theorem definitionTestId_fanAttempt : fanAttempt.definitionTestId = fanTest.plan.testId := by
  decide +kernel

theorem lowering_exact_fanTest :
    (tickInstruction fanTest fanAttempt 5).analogOutputs 2 = 12000000 ∧
    ∃ upload, buildUpload fanTest.plan (some fanAttempt) [] = .ok upload ∧
      LoweredExactly fanScript fanTest fanTest.plan upload :=
  ⟨by decide +kernel,
    lowering_exact 5 (.value "fan") blankTest create_blankTest fanScript fanTest.plan _
      compile_fanTest fanAttempt definitionTestId_fanAttempt []⟩

end HilRig.Protocol
