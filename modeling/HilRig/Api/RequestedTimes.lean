import HilRig.Api.Compilation
import HilRig.ShortTimes

/-!
# The times a script requests

A time is converted under the frequency mode of its call, and the mode is fixed with the first
stimulus or assertion that is stored. So what is stored at a tick was requested for that tick under
the mode of the compiled snapshot (`Test.Timed.after`), and a call whose time is no tick of that
mode has stored nothing (`refused_of_misaligned`).
-/

set_option autoImplicit false
set_option relaxedAutoImplicit false

namespace HilRig.Api

open HilRig.Models HilRig.Foundations

/-! ### The times of a call -/

/-- The time of the stimulus of a request. -/
def Request.stimulusTime : Request → Option TimeOptions
  | .stimulate _ _ time => some time
  | _ => none

/-- The first and the last time of the assertion of a request. -/
def Request.assertionTimes : Request → Option (TimeOptions × TimeOptions)
  | .assertAt _ _ time => some (time, time)
  | .assertOver _ _ range => range.toOption >>= RangeOptions.ends
  | _ => none

/-- The times of a request. -/
def Request.times (request : Request) : List TimeOptions :=
  request.stimulusTime.toList ++ request.assertionTimes.toList.flatMap fun times ↦
    [times.1, times.2]

/-- A time is negative or no whole number of ticks of a period. -/
def Misaligned (period : ℕ) (time : TimeOptions) : Prop :=
  ∃ nanoseconds, time.nanoseconds period = some nanoseconds ∧
    ∀ tick : ℕ, nanoseconds ≠ tick * period

/-- All checks of a request but that of its time pass. -/
def Request.OtherwiseAccepted (test : Test) : Request → Prop
  | .stimulate channel validated _ => test.compiledPlan = none ∧
      (∃ stimulus, validated test.configuration = .ok stimulus) ∧
        isConfigured test.configuration channel = true
  | .assertAt channel validated _ => test.compiledPlan = none ∧
      (∃ expectation, validated = .ok expectation) ∧
        isConfigured test.configuration channel = true
  | .assertOver channel validated range => test.compiledPlan = none ∧
      (∃ expectation, validated = .ok expectation) ∧ (∃ options, range = .ok options) ∧
        isConfigured test.configuration channel = true
  | _ => False

/-! ### The calls that return -/

/-- The calls of a script that return. -/
def Test.returned (test : Test) : List Call → List Call
  | [] => []
  | call :: calls =>
    match execute call test with
    | .ok _ _ => call :: (test.called call).returned calls
    | .error _ _ => (test.called call).returned calls

/-- A stimulus is at the tick its time resolves to. -/
def TimedInstruction (frequencyMode : FrequencyMode) (time : TimeOptions)
    (instruction : Instruction) : Prop :=
  Builtin.value <$> resolveTimestamp frequencyMode time = .ok instruction.timestamp

/-- An assertion is about the ticks its times resolve to. -/
def TimedAssertion (frequencyMode : FrequencyMode) (times : TimeOptions × TimeOptions)
    (assertion : Assertion) : Prop :=
  resolveTimestamp frequencyMode times.1 = .ok assertion.expectation.bounds.1 ∧
    resolveTimestamp frequencyMode times.2 = .ok assertion.expectation.bounds.2

/-- What was stored was requested for its ticks, under the frequency mode of the test. -/
structure Test.Timed (test : Test) (stimulusTimes : List TimeOptions)
    (assertionTimes : List (TimeOptions × TimeOptions)) : Prop where
  instructions : List.Forall₂ (TimedInstruction test.configuration.frequencyMode) stimulusTimes
    test.instructions
  assertions : List.Forall₂ (TimedAssertion test.configuration.frequencyMode) assertionTimes
    test.assertions

section Timed

variable {test : Test} {request : Request} {effect : Effect}

theorem forall₂_concat {α β : Type} {related : α → β → Prop} {first : List α} {second : List β}
    (hrelated : List.Forall₂ related first second) {value : α} {image : β}
    (hlast : related value image) : List.Forall₂ related (first ++ [value]) (second ++ [image]) :=
  List.rel_append hrelated (.cons hlast .nil)

/-- A request that returns stores what it requests at the ticks it requests. -/
theorem Test.Timed.apply {stimulusTimes : List TimeOptions}
    {assertionTimes : List (TimeOptions × TimeOptions)}
    (htimed : test.Timed stimulusTimes assertionTimes) (htyped : request.Typed)
    (hyields : request.Yields test effect) :
    (effect.apply test).Timed (stimulusTimes ++ request.stimulusTime.toList)
      (assertionTimes ++ request.assertionTimes.toList) := by
  obtain ⟨hinstructions, hassertions⟩ := htimed
  have hsameInstructions := hinstructions
  have hsameAssertions := hassertions
  rw [← List.append_nil stimulusTimes] at hsameInstructions
  rw [← List.append_nil assertionTimes] at hsameAssertions
  cases hyields with
  | configured hmutable hunset hnoInstructions hnoAssertions =>
    -- The mode changes, but nothing is stored yet.
    rw [hnoInstructions, List.forall₂_nil_right_iff] at hinstructions
    rw [hnoAssertions, List.forall₂_nil_right_iff] at hassertions
    refine ⟨?_, ?_⟩
    · rw [hinstructions]
      show List.Forall₂ _ [] test.instructions
      rw [hnoInstructions]
      exact .nil
    · rw [hassertions]
      show List.Forall₂ _ [] test.assertions
      rw [hnoAssertions]
      exact .nil
  | scheduled hmutable hvalidated htick hconfigured =>
    exact ⟨forall₂_concat hinstructions (map_eq_ok.2 ⟨_, htick, rfl⟩), hsameAssertions⟩
  | assertedAt hmutable hvalidated htick hconfigured =>
    refine ⟨hsameInstructions, forall₂_concat hassertions ?_⟩
    obtain ⟨-, hticks⟩ := htyped _ hvalidated _
    rw [TimedAssertion, hticks]
    exact ⟨htick, htick⟩
  | @assertedOver channel validated range expectation options bounds hmutable hvalidated hrange
      hbounds hconfigured =>
    refine ⟨hsameInstructions, ?_⟩
    obtain ⟨first, second, hends, hfirst, hsecond⟩ := ends_of_resolveTimeRange hbounds
    obtain ⟨-, hticks⟩ := htyped _ hvalidated _ _
    have htimes : Request.assertionTimes (.assertOver channel validated range) =
        some (first, second) := by
      rw [Request.assertionTimes, hrange]
      exact hends
    rw [htimes]
    refine forall₂_concat hassertions ?_
    rw [TimedAssertion, hticks]
    exact ⟨hfirst, hsecond⟩
  | _ => exact ⟨hsameInstructions, hsameAssertions⟩

/-- What the calls of a script that return request is what is stored. -/
theorem Test.Timed.after {stimulusTimes : List TimeOptions}
    {assertionTimes : List (TimeOptions × TimeOptions)}
    (htimed : test.Timed stimulusTimes assertionTimes) (calls : List Call) :
    (test.after calls).Timed
      (stimulusTimes ++ (test.returned calls).filterMap fun call ↦ call.request.stimulusTime)
      (assertionTimes ++
        (test.returned calls).filterMap fun call ↦ call.request.assertionTimes) := by
  induction calls generalizing test stimulusTimes assertionTimes with
  | nil => simpa [Test.returned, Test.after] using htimed
  | cons call calls ih =>
    show ((test.called call).after calls).Timed _ _
    cases hrun : execute call test with
    | error error after =>
      have hsame : test.called call = test := by
        rw [Test.called, hrun]
        exact eq_of_raised hrun
      rw [Test.returned, hrun, hsame]
      exact ih htimed
    | ok value after =>
      obtain ⟨effect, hyields, hafter⟩ := yields_of_returned hrun
      have hcalled : test.called call = effect.apply test := by rw [Test.called, hrun, hafter]
      have hlater := ih (htimed.apply call.typed hyields)
      rw [Test.returned, hrun, hcalled]
      rw [List.append_assoc, List.append_assoc] at hlater
      convert hlater using 2
      · cases hcall : call.request.stimulusTime <;> simp [hcall]
      · cases hcall : call.request.assertionTimes <;> simp [hcall]

end Timed

/-! ### The mode is fixed -/

/-- After a stimulus or an assertion, the frequency mode does not change. -/
theorem frequencyMode_after {test : Test} {calls : List Call}
    (hstored : test.instructions ≠ [] ∨ test.assertions ≠ []) :
    (test.after calls).configuration.frequencyMode = test.configuration.frequencyMode := by
  have hkept := @Test.after_invariant test (fun current ↦
    current.configuration.frequencyMode = test.configuration.frequencyMode ∧
      (current.instructions ≠ [] ∨ current.assertions ≠ [])) ⟨rfl, hstored⟩ ?_ calls
  · exact hkept.1
  rintro current call effect ⟨hmode, hcurrent⟩ hyields
  generalize call.request = request at hyields
  cases hyields with
  | configured hmutable hunset hinstructions hassertions =>
    rcases hcurrent with hcurrent | hcurrent
    · exact absurd hinstructions hcurrent
    · exact absurd hassertions hcurrent
  | scheduled => exact ⟨hmode, .inl (List.append_ne_nil_of_right_ne_nil _ (List.cons_ne_nil _ _))⟩
  | assertedAt => exact ⟨hmode, .inr (List.append_ne_nil_of_right_ne_nil _ (List.cons_ne_nil _ _))⟩
  | assertedOver =>
    exact ⟨hmode, .inr (List.append_ne_nil_of_right_ne_nil _ (List.cons_ne_nil _ _))⟩
  | _ => exact ⟨hmode, hcurrent⟩

/-! ### Refused times -/

section Refused

variable {test : Test} {request : Request} {effect : Effect}

/-- The times of a request that returns are ticks of the test's mode, and something is stored. -/
theorem aligned_of_yields (hshort : ∀ time ∈ request.times, time.Short)
    (hyields : request.Yields test effect) {time : TimeOptions} (htime : time ∈ request.times) :
    (∃ tick : ℕ, time.nanoseconds (periodNs test.configuration.frequencyMode) =
      some (tick * periodNs test.configuration.frequencyMode : ℚ)) ∧
    ((effect.apply test).instructions ≠ [] ∨ (effect.apply test).assertions ≠ []) ∧
      (effect.apply test).configuration.frequencyMode = test.configuration.frequencyMode := by
  have haligned {tick : Builtin ℕ}
      (htick : resolveTimestamp test.configuration.frequencyMode time = .ok tick) :
      ∃ tick : ℕ, time.nanoseconds (periodNs test.configuration.frequencyMode) =
        some (tick * periodNs test.configuration.frequencyMode : ℚ) :=
    ⟨tick.value, ((resolves_of_short (hshort time htime)).exact _).1 (map_eq_ok.2 ⟨_, htick, rfl⟩)⟩
  cases hyields with
  | scheduled hmutable hvalidated htick hconfigured =>
    simp only [Request.times, Request.stimulusTime, Request.assertionTimes, Option.toList_some,
      Option.toList_none, List.flatMap_nil, List.append_nil, List.mem_singleton] at htime
    subst htime
    exact ⟨haligned htick, .inl (List.append_ne_nil_of_right_ne_nil _ (List.cons_ne_nil _ _)), rfl⟩
  | assertedAt hmutable hvalidated htick hconfigured =>
    simp only [Request.times, Request.stimulusTime, Request.assertionTimes, Option.toList_some,
      Option.toList_none, List.flatMap_cons, List.flatMap_nil, List.nil_append, List.append_nil,
      List.mem_cons, List.not_mem_nil, or_false, or_self] at htime
    subst htime
    exact ⟨haligned htick, .inr (List.append_ne_nil_of_right_ne_nil _ (List.cons_ne_nil _ _)), rfl⟩
  | assertedOver hmutable hvalidated hrange hbounds hconfigured =>
    obtain ⟨first, second, hends, hfirst, hsecond⟩ := ends_of_resolveTimeRange hbounds
    subst hrange
    simp only [Request.times, Request.stimulusTime, Request.assertionTimes, Except.toOption,
      Option.bind_eq_bind, Option.bind_some, hends, Option.toList_some, Option.toList_none,
      List.flatMap_cons, List.flatMap_nil, List.nil_append, List.append_nil, List.mem_cons,
      List.not_mem_nil, or_false] at htime
    refine ⟨?_, .inr (List.append_ne_nil_of_right_ne_nil _ (List.cons_ne_nil _ _)), rfl⟩
    rcases htime with rfl | rfl
    · exact haligned hfirst
    · exact haligned hsecond
  | _ => exact absurd htime List.not_mem_nil

/-- A request whose other checks pass is refused for its time only, with a `TimingError`. -/
theorem timing_of_otherwiseAccepted (hshort : ∀ time ∈ request.times, time.Short)
    (haccepted : request.OtherwiseAccepted test) {error : HilRigError} {after : Test}
    (hraised : perform request test = .error error after) : ∃ message, error = .timing message := by
  cases request with
  | stimulate channel validated time =>
    obtain ⟨hmutable, ⟨stimulus, hvalidated⟩, hconfigured⟩ := haccepted
    rw [perform_stimulate_of_accepted hmutable hvalidated hconfigured] at hraised
    split at hraised
    · cases hraised
    · rename_i failure hresolved
      cases hraised
      exact (resolves_of_short (hshort time List.mem_cons_self)).rejected _ hresolved
  | assertAt channel validated time =>
    obtain ⟨hmutable, ⟨expectation, hvalidated⟩, hconfigured⟩ := haccepted
    rw [perform_assertAt_of_accepted hmutable hvalidated hconfigured] at hraised
    split at hraised
    · cases hraised
    · rename_i failure hresolved
      cases hraised
      exact (resolves_of_short (hshort time List.mem_cons_self)).rejected _ hresolved
  | assertOver channel validated range =>
    obtain ⟨hmutable, ⟨expectation, hvalidated⟩, ⟨options, rfl⟩, hconfigured⟩ := haccepted
    rw [perform_assertOver_of_accepted hmutable hvalidated hconfigured] at hraised
    split at hraised
    · cases hraised
    · rename_i failure hresolved
      cases hraised
      refine timing_of_resolveTimeRange (fun first second hends ↦ ?_) hresolved
      have hends' : Request.assertionTimes (.assertOver channel validated (.ok options)) =
          some (first, second) := hends
      rw [Request.times, hends'] at hshort
      exact ⟨hshort first List.mem_cons_self,
        hshort second (List.mem_cons_of_mem _ List.mem_cons_self)⟩
  | _ => exact haccepted.elim

end Refused

/-! ### Compiled times -/

/-- The ticks of a compiled assertion. -/
def compiledTicks (assertion : CompiledAssertion) : Option (ℤ × ℤ) :=
  match assertion.arguments.lookup "tick", assertion.arguments.lookup "from_tick",
    assertion.arguments.lookup "until_tick" with
  | some (.int tick), none, none => some (tick, tick)
  | none, some (.int fromTick), some (.int untilTick) => some (fromTick, untilTick)
  | _, _, _ => none

theorem compiledTicks_compiledAssertion {assertion : Assertion}
    (hfirst : assertion.expectation.bounds.1.isPlain = true)
    (hsecond : assertion.expectation.bounds.2.isPlain = true) :
    compiledTicks (compiledAssertion assertion) =
      some ((assertion.expectation.ticks.1 : ℤ), (assertion.expectation.ticks.2 : ℤ)) := by
  obtain ⟨firstTick, hfirst⟩ : ∃ tick, assertion.expectation.bounds.1 = .plain tick :=
    ⟨_, Builtin.isPlain_iff.1 hfirst⟩
  obtain ⟨secondTick, hsecond⟩ : ∃ tick, assertion.expectation.bounds.2 = .plain tick :=
    ⟨_, Builtin.isPlain_iff.1 hsecond⟩
  obtain ⟨assertionId, channel, expectation⟩ := assertion
  cases expectation <;> cases hfirst <;> cases hsecond <;> rfl

/-- Everything compiled is at exactly the times that the calls of a script have requested, the
identifiers counting the calls that returned; of an assertion the compiled ticks are these unless a
tick of its call was passed as a member of an enumeration. A call with a negative time or one that
is no whole number of ticks has raised and stored nothing, with a `TimingError` if its other checks
passed. -/
structure RequestedExactly (created : Test) (calls : List Call) (plan : CompiledTestIR) :
    Prop where
  instructions : ∀ instruction ∈ plan.instructions, ∃ time,
    ((created.returned calls).filterMap fun call ↦
      call.request.stimulusTime)[instruction.instructionId]? = some time ∧
    time.nanoseconds plan.tickPeriodNs = some (instruction.tick * plan.tickPeriodNs : ℚ)
  assertions : ∀ assertion ∈ plan.assertions, ∃ (times : TimeOptions × TimeOptions)
    (fromTick untilTick : ℤ), ((created.returned calls).filterMap fun call ↦
      call.request.assertionTimes)[assertion.assertionId]? = some times ∧ fromTick ≤ untilTick ∧
    times.1.nanoseconds plan.tickPeriodNs = some (fromTick * plan.tickPeriodNs : ℚ) ∧
    times.2.nanoseconds plan.tickPeriodNs = some (untilTick * plan.tickPeriodNs : ℚ) ∧
    (times.1.isPlain = true → times.2.isPlain = true →
      compiledTicks assertion = some (fromTick, untilTick))
  refused : ∀ before call later, calls = before ++ call :: later →
    (∃ time ∈ call.request.times, Misaligned plan.tickPeriodNs time) →
      ∃ error, execute call (created.after before) = .error error (created.after before) ∧
        (call.request.OtherwiseAccepted (created.after before) → ∃ message,
          error = .timing message)

section Compiled

variable {created : Test} {calls : List Call}

/-- The calls that return are calls of the script. -/
theorem returned_subset (test : Test) (calls : List Call) : test.returned calls ⊆ calls := by
  induction calls generalizing test with
  | nil => exact List.Subset.refl _
  | cons call calls ih =>
    unfold Test.returned
    split
    · exact List.cons_subset_cons call (ih _)
    · exact List.subset_cons_of_subset call (ih _)

/-- A call with a misaligned time has raised. -/
theorem refused_of_misaligned {before later : List Call} {call : Call}
    (hshort : ∀ time ∈ call.request.times, time.Short)
    (hmisaligned : ∃ time ∈ call.request.times, Misaligned (periodNs
      (created.after (before ++ call :: later)).configuration.frequencyMode) time) :
    ∃ error, execute call (created.after before) = .error error (created.after before) := by
  have hfinal : created.after (before ++ call :: later) =
      ((created.after before).called call).after later := by
    rw [Test.after, List.foldl_append, List.foldl_cons]
    rfl
  cases hrun : execute call (created.after before) with
  | error error after =>
    rw [eq_of_raised hrun]
    exact ⟨error, rfl⟩
  | ok value after =>
    obtain ⟨effect, hyields, hafter⟩ := yields_of_returned hrun
    obtain ⟨time, htime, nanoseconds, hnanoseconds, hnone⟩ := hmisaligned
    obtain ⟨⟨tick, htick⟩, hstored, hmode⟩ := aligned_of_yields hshort hyields htime
    have hcalled : (created.after before).called call = effect.apply (created.after before) := by
      rw [Test.called, hrun, hafter]
    rw [hfinal, hcalled, frequencyMode_after hstored, hmode] at hnanoseconds hnone
    exact absurd (Option.some.inj (hnanoseconds.symm.trans htick)) (hnone tick)

/-- A record with sequential identifiers is related to the member at its identifier. -/
theorem exists_of_sequential {α Record : Type} {related : α → Record → Prop} {sources : List α}
    {records : List Record} {identifier : Record → ℕ}
    (hrelated : List.Forall₂ related sources records)
    (hsequential : records.map identifier = List.range records.length) {record : Record}
    (hrecord : record ∈ records) :
    ∃ source, sources[identifier record]? = some source ∧ related source record := by
  obtain ⟨position, hposition, rfl⟩ := List.getElem_of_mem hrecord
  have hidentifier : identifier records[position] = position := by
    have hsame := congrArg (fun identifiers ↦ identifiers[position]?) hsequential
    simpa [hposition] using hsame
  rw [List.forall₂_iff_get] at hrelated
  have hlength : position < sources.length := by
    rw [hrelated.1]
    exact hposition
  refine ⟨sources[position], ?_, hrelated.2 position hlength hposition⟩
  rw [hidentifier]
  exact List.getElem?_eq_getElem hlength

/-- The compiled snapshot of every script of short times holds everything at exactly the requested
times. -/
theorem requestedExactly_of_compile (testId : Fin (2 ^ 128)) (name : Passed String)
    (hcreated : Test.create testId name = .ok created)
    (hshort : ∀ call ∈ calls, ∀ time ∈ call.request.times, time.Short) (plan : CompiledTestIR)
    (after : Test) (hcompiled : compile (created.after calls) = .ok plan after) :
    RequestedExactly created calls plan := by
  have hreachable : (created.after calls).Reachable := ⟨testId, name, created, calls, hcreated, rfl⟩
  have hplan := plan_of_compile hreachable hcompiled
  have hsequential := sequential_of_reachable hreachable
  have hperiod : plan.tickPeriodNs =
      periodNs (created.after calls).configuration.frequencyMode := by rw [hplan]; rfl
  obtain ⟨hinstructions, hassertions⟩ : (created.after calls).Timed
      ((created.returned calls).filterMap fun call ↦ call.request.stimulusTime)
      ((created.returned calls).filterMap fun call ↦ call.request.assertionTimes) := by
    have hblank : created.Timed [] [] := by
      obtain ⟨text, rfl⟩ := create_eq_ok hcreated
      exact ⟨.nil, .nil⟩
    simpa using hblank.after calls
  refine ⟨fun instruction hinstruction ↦ ?_, fun assertion hassertion ↦ ?_,
    fun before call later hcalls hmisaligned ↦ ?_⟩
  · rw [hplan] at hinstruction
    obtain ⟨stored, hstored, rfl⟩ := List.mem_map.1 hinstruction
    rw [sortedInstructions, List.mem_insertionSort] at hstored
    obtain ⟨time, htime, hresolved⟩ :=
      exists_of_sequential hinstructions hsequential.instructions hstored
    refine ⟨time, htime, ?_⟩
    obtain ⟨call, hcall, hstimulus⟩ := List.mem_filterMap.1 (List.mem_of_getElem? htime)
    have hmem : time ∈ call.request.times := by
      rw [Request.times, hstimulus]
      exact List.mem_cons_self
    rw [hperiod]
    exact ((resolves_of_short (hshort call (returned_subset _ _ hcall) time hmem)).exact _).1
      hresolved
  · rw [hplan] at hassertion
    obtain ⟨stored, hstored, rfl⟩ := List.mem_map.1 hassertion
    obtain ⟨times, htimes, hfirst, hsecond⟩ :=
      exists_of_sequential hassertions hsequential.assertions hstored
    have hordered := ((wellFormed_of_reachable hreachable).assertion stored hstored).2.2
    refine ⟨times, stored.expectation.ticks.1, stored.expectation.ticks.2, htimes,
      by exact_mod_cast hordered, ?_⟩
    obtain ⟨call, hcall, hasserted⟩ := List.mem_filterMap.1 (List.mem_of_getElem? htimes)
    have hmem : times.1 ∈ call.request.times ∧ times.2 ∈ call.request.times := by
      rw [Request.times, hasserted]
      exact ⟨List.mem_append_right _ List.mem_cons_self,
        List.mem_append_right _ (List.mem_cons_of_mem _ List.mem_cons_self)⟩
    have hcall := hshort call (returned_subset _ _ hcall)
    rw [hperiod, Int.cast_natCast, Int.cast_natCast]
    exact ⟨((resolves_of_short (hcall _ hmem.1)).exact _).1 (map_eq_ok.2 ⟨_, hfirst, rfl⟩),
      ((resolves_of_short (hcall _ hmem.2)).exact _).1 (map_eq_ok.2 ⟨_, hsecond, rfl⟩),
      fun hfirstPlain hsecondPlain ↦ compiledTicks_compiledAssertion
        (isPlain_of_resolveTimestamp hfirstPlain hfirst)
        (isPlain_of_resolveTimestamp hsecondPlain hsecond)⟩
  · subst hcalls
    have hcall := hshort call (List.mem_append_right _ List.mem_cons_self)
    rw [hperiod] at hmisaligned
    obtain ⟨error, hraised⟩ := refused_of_misaligned hcall hmisaligned
    exact ⟨error, hraised, fun haccepted ↦ timing_of_otherwiseAccepted hcall haccepted hraised⟩

end Compiled

/-! ### Two scripts -/

theorem requestedExactly_fanScript : compile fanTest =
      .ok fanTest.plan { fanTest with compiledPlan := some fanTest.plan } ∧
    RequestedExactly blankTest fanScript fanTest.plan := by
  refine ⟨compile_fanTest, requestedExactly_of_compile 5 (.value "fan") create_blankTest ?_ _ _
    compile_fanTest⟩
  have hfive : ShortQuantity (.number (.int 5)) := by
    refine ⟨show |(5 : ℤ)| < 10 ^ 4300 from ?_, fun value hvalue ↦ ⟨5, 0, by norm_num, by norm_num,
      by norm_num, ?_⟩⟩
    · calc |(5 : ℤ)| < 10 ^ 1 := by norm_num
        _ ≤ 10 ^ 4300 := pow_le_pow_right₀ (by norm_num) (by norm_num)
    · rw [← Option.some.inj hvalue]
      norm_num
  intro call hcall time htime quantity hquantity
  have hquantities : (fanScript.flatMap fun call ↦ call.request.times.flatMap
      TimeOptions.quantities) = [.number (.int 5)] := rfl
  have hmem : quantity ∈ fanScript.flatMap fun call ↦ call.request.times.flatMap
      TimeOptions.quantities :=
    List.mem_flatMap.2 ⟨call, hcall, List.mem_flatMap.2 ⟨time, htime, hquantity⟩⟩
  rw [hquantities, List.mem_singleton] at hmem
  rw [hmem]
  exact hfive

/-- A script with one call of two faults: a period of zero, at half a tick. -/
def twoFaultScript : List Call :=
  [.pwmInputConfigure (0 : Fin 2) (.value .v3_3),
    .expectPeriodNear (0 : Fin 2) (.value 0) (.value 10)
      { atMs := some (.value (.decimal 5 (-1))) }]

/-- The call of two faults does not raise a `TimingError`. -/
theorem raised_other_twoFaultScript : ∃ plan after,
    compile (blankTest.after twoFaultScript) = .ok plan after ∧
      ¬∀ before call later, twoFaultScript = before ++ call :: later →
        (∃ time ∈ call.request.times, Misaligned plan.tickPeriodNs time) →
          ∃ message, execute call (blankTest.after before) =
            .error (.timing message) (blankTest.after before) := by
  have hreachable : (blankTest.after twoFaultScript).Reachable :=
    ⟨5, .value "fan", blankTest, twoFaultScript, create_blankTest, rfl⟩
  obtain ⟨plan, after, hcompiled⟩ := (compile_of_reachable _ hreachable).1.2 (by decide +kernel)
  refine ⟨plan, after, hcompiled, fun hall ↦ ?_⟩
  have hperiod : plan.tickPeriodNs = 1000000 := by
    rw [plan_of_compile hreachable hcompiled]
    decide +kernel
  obtain ⟨message, hraised⟩ := hall [twoFaultScript[0]] twoFaultScript[1] [] rfl (by
    refine ⟨{ atMs := some (.value (.decimal 5 (-1))) }, List.mem_cons_self, 500000, ?_, ?_⟩
    · show some _ = _
      norm_num
    · intro tick htick
      rw [hperiod] at htick
      have hdouble : (1 : ℚ) = 2 * tick := by
        push_cast at htick
        linarith
      have : 1 = 2 * tick := by exact_mod_cast hdouble
      omega)
  have hother : execute twoFaultScript[1] (blankTest.after [twoFaultScript[0]]) =
      .error (.value "period_ns must be a positive integer")
        (blankTest.after [twoFaultScript[0]]) := rfl
  cases hother.symm.trans hraised

end HilRig.Api
