import HilRig.Api.Effects

/-!
# Failed calls, identifiers and freezing

A call that raises leaves the test as it was; in every reachable test the identifiers of the
instructions and of the assertions count up from zero; and a compiled test never changes again
(`integrity_of_reachable`). `Test.after_invariant` is the induction over the calls of a script that
later modules reuse.
-/

set_option autoImplicit false
set_option relaxedAutoImplicit false

namespace HilRig.Api

open HilRig.Models HilRig.Foundations

/-! ### Inductions over scripts -/

section Scripts

variable {test : Test}

/-- A call that raises changes nothing. -/
theorem eq_of_raised {call : Call} {error : HilRigError} {after : Test}
    (hraised : execute call test = .error error after) : after = test :=
  (perform_atomically test call.request).of_error hraised

/-- A call that returns has one of its effects. -/
theorem yields_of_returned {call : Call} {after : Test}
    (hreturned : execute call test = .ok () after) :
    ∃ effect, call.request.Yields test effect ∧ after = effect.apply test :=
  (perform_atomically test call.request).of_ok hreturned

/-- A call changes nothing or has one of its effects. -/
theorem called_cases (test : Test) (call : Call) :
    test.called call = test ∨
      ∃ effect, call.request.Yields test effect ∧ test.called call = effect.apply test := by
  unfold Test.called
  cases hrun : execute call test with
  | ok value after => exact .inr (yields_of_returned hrun)
  | error error after => exact .inl (eq_of_raised hrun)

/-- What every effect of every call keeps holds after any list of calls. -/
theorem Test.after_invariant {Invariant : Test → Prop} (hinitial : Invariant test)
    (hstep : ∀ (current : Test) (call : Call) (effect : Effect), Invariant current →
      call.request.Yields current effect → Invariant (effect.apply current))
    (calls : List Call) : Invariant (test.after calls) := by
  induction calls generalizing test with
  | nil => exact hinitial
  | cons call calls ih =>
    refine ih ?_
    rcases called_cases test call with hsame | ⟨effect, hyields, hafter⟩
    · rwa [hsame]
    · rw [hafter]
      exact hstep test call effect hinitial hyields

/-- A new test has nothing configured, scheduled or asserted, and is not compiled. -/
theorem create_eq_ok {testId : Fin (2 ^ 128)} {name : Passed String} {created : Test}
    (hcreated : Test.create testId name = .ok created) :
    ∃ text, created = { testId := testId, name := text } := by
  cases name with
  | mistyped => cases hcreated
  | value text => exact ⟨text, (Except.ok.inj (ite_error_eq_ok.1 hcreated).2).symm⟩

/-- What holds of new tests and is kept by every effect holds of every reachable test. -/
theorem Test.Reachable.invariant {Invariant : Test → Prop} (hreachable : test.Reachable)
    (hinitial : ∀ testId text, Invariant { testId := testId, name := text })
    (hstep : ∀ (current : Test) (call : Call) (effect : Effect), Invariant current →
      call.request.Yields current effect → Invariant (effect.apply current)) :
    Invariant test := by
  obtain ⟨testId, name, created, calls, hcreated, rfl⟩ := hreachable
  obtain ⟨text, rfl⟩ := create_eq_ok hcreated
  exact Test.after_invariant (hinitial testId text) hstep calls

/-- Further calls leave a reachable test. -/
theorem Test.Reachable.after (hreachable : test.Reachable) (calls : List Call) :
    (test.after calls).Reachable := by
  obtain ⟨testId, name, created, past, hcreated, rfl⟩ := hreachable
  exact ⟨testId, name, created, past ++ calls, hcreated, List.foldl_append.symm⟩

end Scripts

/-! ### Sequential identifiers -/

/-- The identifiers of the instructions and of the assertions are their positions, and the next
identifiers are the numbers of both. -/
structure Test.Sequential (test : Test) : Prop where
  instructions : test.instructions.map Instruction.instructionId =
    List.range test.instructions.length
  assertions : test.assertions.map Assertion.assertionId = List.range test.assertions.length
  nextInstruction : test.nextInstructionId = test.instructions.length
  nextAssertion : test.nextAssertionId = test.assertions.length

/-- The identifiers of the instructions ascend strictly. -/
theorem Test.Sequential.pairwise_instructionId {test : Test} (hsequential : test.Sequential) :
    test.instructions.Pairwise fun first second ↦ first.instructionId < second.instructionId := by
  rw [← List.pairwise_map, hsequential.instructions]
  exact List.pairwise_lt_range

/-- Every effect keeps the identifiers sequential. -/
theorem Test.Sequential.apply {test : Test} (hsequential : test.Sequential) (effect : Effect) :
    (effect.apply test).Sequential := by
  obtain ⟨hinstructions, hassertions, hnextInstruction, hnextAssertion⟩ := hsequential
  cases effect with
  | scheduled channel tick stimulus =>
    refine ⟨?_, hassertions, ?_, hnextAssertion⟩
    · simp only [Effect.apply, List.map_append, List.map_cons, List.map_nil, List.length_append,
        List.length_singleton, List.range_succ]
      rw [hinstructions, hnextInstruction]
    · simp only [Effect.apply, List.length_append, List.length_singleton]
      rw [hnextInstruction]
  | asserted channel expectation =>
    refine ⟨hinstructions, ?_, hnextInstruction, ?_⟩
    · simp only [Effect.apply, List.map_append, List.map_cons, List.map_nil, List.length_append,
        List.length_singleton, List.range_succ]
      rw [hassertions, hnextAssertion]
    · simp only [Effect.apply, List.length_append, List.length_singleton]
      rw [hnextAssertion]
  | _ => exact ⟨hinstructions, hassertions, hnextInstruction, hnextAssertion⟩

/-- The identifiers of every reachable test are sequential. -/
theorem sequential_of_reachable {test : Test} (hreachable : test.Reachable) : test.Sequential :=
  hreachable.invariant (fun _ _ ↦ ⟨rfl, rfl, rfl, rfl⟩)
    fun _ _ effect hsequential _ ↦ hsequential.apply effect

/-! ### Freezing -/

/-- A compiled test does not change. -/
theorem apply_of_frozen {test : Test} {plan : CompiledTestIR}
    (hfrozen : test.compiledPlan = some plan) {request : Request} {effect : Effect}
    (hyields : request.Yields test effect) : effect.apply test = test := by
  cases hyields with
  | found => rfl
  | recompiled => rfl
  | _ => simp_all

/-- No list of calls changes a compiled test. -/
theorem after_of_frozen {test : Test} {plan : CompiledTestIR}
    (hfrozen : test.compiledPlan = some plan) (calls : List Call) : test.after calls = test := by
  refine @Test.after_invariant test (fun current ↦ current = test) rfl ?_ calls
  rintro current call effect rfl hyields
  exact apply_of_frozen hfrozen hyields

/-- A call that raises leaves a reachable test unchanged, its identifiers are sequential, and after
a successful compilation no later calls change anything. -/
theorem integrity_of_reachable (test : Test) (hreachable : test.Reachable) :
    (∀ call error after, execute call test = .error error after → after = test) ∧
      test.Sequential ∧
        ∀ plan after, compile test = .ok plan after →
          after.compiledPlan = some plan ∧ ∀ calls, after.after calls = after := by
  refine ⟨fun _ _ _ hraised ↦ eq_of_raised hraised, sequential_of_reachable hreachable, ?_⟩
  intro plan after hcompiled
  have hplan := ((compile_atomically test).of_ok hcompiled).2
  exact ⟨hplan, after_of_frozen hplan⟩

/-! ### A fan test -/

/-- A quarter, as a float. -/
def quarter : Number :=
  .float (.finite (1 / 4)) ⟨25, -2, by decide, by decide, by decide, by norm_num⟩

/-- A script that runs a fan from a PWM output with its supply on an analogue output and its enable
line on a digital one, and expects a tachometer input to stay high. -/
def fanScript : List Call :=
  [.configure (.value .hz1k) (.value .hostCommand),
    .pwmOutput (.value 0),
    .pwmOutputConfigure (0 : Fin 2) (.value .v3_3) (.value (.int 20000)) (.value quarter)
      (.value true),
    .analogueOutputConfigure (2 : Fin 6) (.value (.int 5)),
    .digitalOutputConfigure (1 : Fin 10) (.value .v3_3) (.value .low),
    .digitalInputConfigure (0 : Fin 10) (.value .v3_3),
    .digitalOutputHigh (1 : Fin 10) { atMs := some (.value (.number (.int 5))) },
    .pwmOutputSetDutyCycle (0 : Fin 2) (.value (.int 1)) { atTick := some (.value 7) },
    .analogueOutputSetVoltage (2 : Fin 6) (.value (.int 12)) { atTick := some (.value 5) },
    .expectRemainHigh (0 : Fin 10)
      { fromTick := some (.value 10), untilTick := some (.value 40) }]

/-- The test before the script. -/
def blankTest : Test :=
  { testId := 5, name := "fan" }

theorem create_blankTest : Test.create 5 (.value "fan") = .ok blankTest := by
  decide +kernel

/-- The test the script leaves. -/
def fanTest : Test :=
  blankTest.after fanScript

theorem reachable_fanTest : fanTest.Reachable :=
  ⟨5, .value "fan", blankTest, fanScript, create_blankTest, rfl⟩

theorem integrity_of_reachable_fanTest :
    fanTest.instructions.length = 3 ∧
    (∀ call error after, execute call fanTest = .error error after → after = fanTest) ∧
      fanTest.Sequential ∧
        ∀ plan after, compile fanTest = .ok plan after →
          after.compiledPlan = some plan ∧ ∀ calls, after.after calls = after :=
  ⟨by decide +kernel, integrity_of_reachable fanTest reachable_fanTest⟩

end HilRig.Api
