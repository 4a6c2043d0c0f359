import HilRig.Evaluation.Verdicts
import HilRig.Protocol.ResultSequence
import HilRig.Results.TickEvidence

/-!
# A session and its capture

The connection hands the results of the rig to a builder, and the builder's writer makes a capture
of them. A `CapturedSession` is a run of both: a run of a connection that uploads a compiled test,
and a run of a builder up to the return of its finalization, which agree on the results they share.
When the connection's results are complete, so is the capture, and every tick of it reads what the
rig reported for that tick (`complete_of_resultsComplete`).
-/

set_option autoImplicit false
set_option relaxedAutoImplicit false

namespace HilRig

open HilRig.Models HilRig.Protocol HilRig.Results HilRig.Evaluation HilRig.Foundations Relation

variable {Wire : Type} {protocol : NativeProtocol Wire}

/-! ### Stored results -/

/-- The result that a moment stores in a builder. -/
def storedResult (builder : BuilderHandle) (moment : Moment Wire) : Option TickResult :=
  match moment.interaction with
  | .tickStored other result => if other == builder then some result else none
  | _ => none

/-- The results stored in a builder, oldest first. -/
def storedResults (builder : BuilderHandle) (history : List (Moment Wire)) : List TickResult :=
  (history.filterMap (storedResult builder)).reverse

theorem storedResult_eq_some {builder : BuilderHandle} {moment : Moment Wire}
    {result : TickResult} (hresult : storedResult builder moment = some result) :
    moment.interaction = .tickStored builder result := by
  obtain ⟨before, interaction⟩ := moment
  cases interaction with
  | tickStored other stored =>
    have hselected : (if other == builder then some stored else none) = some result := hresult
    by_cases hsame : other = builder
    · rw [if_pos (beq_iff_eq.2 hsame)] at hselected
      rw [hsame, Option.some.inj hselected]
    · rw [if_neg (mt beq_iff_eq.1 hsame)] at hselected
      cases hselected
  | _ => cases hresult

/-- The ticks of the stored results are the stored ticks. -/
theorem map_tick_storedResults (builder : BuilderHandle) (history : List (Moment Wire)) :
    (storedResults builder history).map TickResult.tick = storedTicks (· == builder) history := by
  unfold storedResults storedTicks
  rw [List.map_reverse, List.map_filterMap]
  congr 1
  apply List.filterMap_congr
  intro moment _
  obtain ⟨before, interaction⟩ := moment
  cases interaction with
  | tickStored other stored =>
    show Option.map TickResult.tick (if other == builder then some stored else none) =
      if other == builder then some stored.tick else none
    by_cases hsame : (other == builder) = true
    · rw [if_pos hsame, if_pos hsame]
      rfl
    · rw [if_neg hsame, if_neg hsame]
      rfl
  | _ => rfl

/-! ### What is stored was received -/

/-- A moment that stores nothing. -/
def StoresNothing (moment : Moment Wire) : Prop :=
  ∀ builder result, moment.interaction ≠ .tickStored builder result

/-- Every stored result is the captured form of a message that was received. -/
def Translated (history : List (Moment Wire)) : Prop :=
  ∀ moment ∈ history, ∀ builder result, moment.interaction = .tickStored builder result →
    ∃ before message submission, ⟨before, .message (.testResult message)⟩ ∈ history ∧
      ingestApplicationMessage builder message submission = .ok result

theorem Translated.append {history notes : List (Moment Wire)} (htranslated : Translated history)
    (hnotes : ∀ moment ∈ notes, StoresNothing moment) : Translated (notes ++ history) := by
  intro moment hmoment builder result hstored
  rcases List.mem_append.1 hmoment with hnote | hold
  · exact absurd hstored (hnotes moment hnote builder result)
  · obtain ⟨before, message, submission, hmem, hingested⟩ :=
      htranslated moment hold builder result hstored
    exact ⟨before, message, submission, List.mem_append_right notes hmem, hingested⟩

theorem Translated.cons {history : List (Moment Wire)} {moment : Moment Wire}
    (htranslated : Translated history) (hmoment : StoresNothing moment) :
    Translated (moment :: history) :=
  @Translated.append _ _ [moment] htranslated (by simpa using hmoment)

section Steps

variable {before after : Ledger Wire}

theorem Translated.finishes (htranslated : Translated before.history)
    (hfinishes : Finishes protocol before after) : Translated after.history := by
  cases hfinishes with
  | continued operation next rest hpending hready herror hkind hqueue =>
    exact htranslated.cons fun _ _ h ↦ by cases h
  | uploaded operation deadline hpending hready herror hkind hqueue =>
    exact htranslated.cons fun _ _ h ↦ by cases h
  | startsImmediately operation upload encoded hpending hready herror hkind hactive himmediate
      hencoded => exact htranslated.cons fun _ _ h ↦ by cases h
  | _ => exact htranslated

theorem Translated.move (htranslated : Translated before.history)
    (hmove : Move protocol before after) : Translated after.history := by
  cases hmove with
  | serial incoming output offset => exact htranslated
  | timedOut operation deadline hpending hresponse hdeadline => exact htranslated
  | bound builder hfree hid => exact htranslated
  | ignored interaction hignored =>
    exact htranslated.cons fun _ _ h ↦ by cases hignored <;> cases h
  | failed interaction hfails =>
    exact htranslated.cons fun _ _ h ↦ by cases hfails <;> cases h
  | starting upload encoded hactive haccepted hstate hpending hdelivery hencoded htrigger =>
    exact (htranslated.cons fun _ _ h ↦ by cases h).cons fun _ _ h ↦ by cases h
  | aborting upload encoded hactive hpending hdelivery hencoded =>
    exact (htranslated.cons fun _ _ h ↦ by cases h).cons fun _ _ h ↦ by cases h
  | resetting encoded hconfirmed hpending hdelivery hencoded =>
    exact (htranslated.cons fun _ _ h ↦ by cases h).cons fun _ _ h ↦ by cases h
  | handled middle after hhandles hfinishes =>
    refine Translated.finishes ?_ hfinishes
    cases hhandles <;> exact htranslated.cons fun _ _ h ↦ by cases h
  | counted message hexpected hid hunbound =>
    exact (htranslated.cons fun _ _ h ↦ by cases h).cons fun _ _ h ↦ by cases h
  | stored message builder submission result hexpected hid hbound hingested =>
    -- the result is stored right after its message
    have hreceived : Translated (⟨before.connection, .message (.testResult message)⟩ ::
        before.history) := htranslated.cons fun _ _ h ↦ by cases h
    refine Translated.cons ?_ fun _ _ h ↦ by cases h
    intro moment hmoment other stored hstored
    rcases List.mem_cons.1 hmoment with rfl | hmoment
    · cases hstored
      exact ⟨_, message, submission, List.mem_cons_of_mem _ List.mem_cons_self, hingested⟩
    · obtain ⟨earlier, received, answer, hmem, hof⟩ := hreceived moment hmoment other stored hstored
      exact ⟨earlier, received, answer, List.mem_cons_of_mem _ hmem, hof⟩
  | _ => exact htranslated.cons fun _ _ h ↦ by cases h

theorem translated_of_path (hpath : ReflTransGen (Step protocol) before after)
    (hbefore : Translated before.history) : Translated after.history := by
  induction hpath with
  | refl => exact hbefore
  | tail _ hstep ih =>
    cases hstep with
    | moved after hopen hmove => exact ih.move hmove
    | closing answer hopen => exact ih.cons fun _ _ h ↦ by cases h

end Steps

/-! ### What a stored result says -/

theorem getElem?_of_exactLength {Value : Type} {values : List Value} {count : ℕ} {name : String}
    {byChannel : Fin count → Value} (hvalues : exactLength values count name = .ok byChannel)
    (channel : Fin count) : values[channel.val]? = some (byChannel channel) := by
  unfold exactLength at hvalues
  by_cases hlength : values.length = count
  · rw [dif_pos hlength] at hvalues
    rw [← Except.ok.inj hvalues]
    exact List.getElem?_eq_getElem (hlength ▸ channel.isLt)
  · rw [dif_neg hlength] at hvalues
    cases hvalues

/-- A measurement is of the values that it was made from. -/
theorem eq_of_createMeasurement {periodNs dutyPermyriad : ℕ} {measurement : PWMMeasurement}
    (hcreated : PWMMeasurement.create periodNs dutyPermyriad = .ok measurement) :
    measurement.periodNs = periodNs ∧ measurement.dutyPermyriad = dutyPermyriad := by
  unfold PWMMeasurement.create at hcreated
  by_cases hduty : dutyPermyriad ≤ 10000
  · rw [dif_pos hduty] at hcreated
    rw [← Except.ok.inj hcreated]
    exact ⟨rfl, rfl⟩
  · rw [dif_neg hduty] at hcreated
    cases hcreated

/-- Whatever the adapter makes of a message says what the message reported. -/
theorem reports_of_tickResultOf {message : TestResult} {result : TickResult}
    (hresult : tickResultOf message = .ok result) : Reports message result.captured := by
  obtain ⟨condition, hcondition, hresult⟩ := bind_eq_ok.1 hresult
  by_cases hproblem : condition = .executionProblem
  · rw [if_pos hproblem] at hresult
    rw [hproblem] at hcondition
    rw [← pure_eq_ok.1 hresult]
    exact ⟨rfl, hcondition, rfl, fun h ↦ absurd rfl h, fun h ↦ absurd rfl h,
      fun h ↦ absurd rfl h, fun _ ↦ ⟨fun _ ↦ rfl, fun _ ↦ rfl, fun _ ↦ rfl⟩⟩
  · rw [if_neg hproblem] at hresult
    obtain ⟨measurements, hmeasurements, hresult⟩ := bind_eq_ok.1 hresult
    obtain ⟨digital, hdigital, hresult⟩ := bind_eq_ok.1 hresult
    obtain ⟨analogue, hanalogue, hresult⟩ := bind_eq_ok.1 hresult
    obtain ⟨pwm, hpwm, hresult⟩ := bind_eq_ok.1 hresult
    rw [dif_neg hproblem] at hresult
    rw [← pure_eq_ok.1 hresult]
    refine ⟨rfl, hcondition, rfl,
      fun _ channel ↦ ⟨_, getElem?_of_exactLength hdigital channel, rfl⟩,
      fun _ channel ↦ ⟨_, getElem?_of_exactLength hanalogue channel, rfl⟩, fun _ channel ↦ ?_,
      fun h ↦ absurd h hproblem⟩
    have hmeasurement := getElem?_of_exactLength hpwm channel
    obtain ⟨hmeasured, hget⟩ := List.getElem?_eq_some_iff.1 hmeasurement
    obtain ⟨hlength, hcreated⟩ := List.forall₂_iff_get.1 (mapM_eq_ok.1 hmeasurements)
    have hvalue : channel.val < message.pwmInputs.length := hlength ▸ hmeasured
    have hsame := eq_of_createMeasurement (hcreated channel.val hvalue hmeasured)
    rw [List.get_eq_getElem, hget] at hsame
    exact ⟨_, _, List.getElem?_eq_getElem hvalue, rfl, hsame.1, hsame.2⟩

/-- What a builder was handed is what the adapter makes of a message with its identifier. -/
theorem of_ingestApplicationMessage {builder : BuilderHandle} {message : TestResult}
    {submission : Except HilRigError Unit} {result : TickResult}
    (hingested : ingestApplicationMessage builder message submission = .ok result) :
    applicationTestIdFromBytes message.testId.bytes = .ok builder.applicationTestId ∧
      tickResultOf message = .ok result := by
  obtain ⟨_, hrequired, hingested⟩ := bind_eq_ok.1 hingested
  obtain ⟨translated, htranslated, hingested⟩ := bind_eq_ok.1 hingested
  obtain ⟨_, -, hingested⟩ := bind_eq_ok.1 hingested
  obtain ⟨_, -, hingested⟩ := bind_eq_ok.1 hingested
  obtain ⟨id, hid, hrequired⟩ := bind_eq_ok.1 hrequired
  obtain ⟨hsame, -⟩ := ite_error_eq_ok.1 hrequired
  rw [← pure_eq_ok.1 hingested, hid, not_not.1 hsame]
  exact ⟨rfl, htranslated⟩

/-! ### Sessions -/

/-- A run of a new connection. -/
structure ConnectionRun (Wire : Type) where
  responseTimeout : ℕ
  clock : ℕ → ℕ
  initial : Option BuilderHandle
  calls : List (Protocol.Call Wire)

/-- The host after a run. -/
def ConnectionRun.host (connectionRun : ConnectionRun Wire) (protocol : NativeProtocol Wire) :
    Host Wire :=
  Protocol.run protocol
    (Host.create connectionRun.responseTimeout connectionRun.clock connectionRun.initial)
      connectionRun.calls

/-- A run of a connection that uploads a compiled test, and a run of a builder of that test up to
the return of its finalization: the fixed results that were added before the finalization was
invoked are those that the connection has stored in its builder. -/
structure CapturedSession (protocol : NativeProtocol Wire) (plan : CompiledTestIR) extends
    ConnectionRun Wire where
  bound : BoundBeforeResults (toConnectionRun.host protocol).history
  upload : FixedIOUploadMessages
  encoded : List Wire
  queued : Queued (toConnectionRun.host protocol).history plan upload encoded
  active : (toConnectionRun.host protocol).connection.activeUpload = some upload
  builder : BuilderHandle
  adapter : (toConnectionRun.host protocol).connection.resultAdapter = some builder
  capture : BuiltCapture plan
  requested : capture.requested = none
  agree : ticksOf (recordsAdded capture.earlier) =
    storedResults builder (toConnectionRun.host protocol).history

/-- Nothing can follow values that exhaust a range without repetition. -/
theorem eq_of_prefix_of_range {α : Type} {number : α → ℕ} {first values : List α} {count : ℕ}
    (hfront : first <+: values) (hfirst : first.map number = List.range count)
    (hnodup : (values.map number).Nodup) (hbelow : ∀ value ∈ values, number value < count) :
    values = first := by
  obtain ⟨rest, rfl⟩ := hfront
  cases rest with
  | nil => exact List.append_nil first
  | cons value rest =>
    have hvalue : number value ∈ first.map number := by
      rw [hfirst]
      exact List.mem_range.2 (hbelow value (List.mem_append_right first List.mem_cons_self))
    rw [List.map_append, List.map_cons] at hnodup
    exact absurd List.mem_cons_self ((List.disjoint_of_nodup_append hnodup) hvalue)

namespace CapturedSession

variable {plan : CompiledTestIR} (session : CapturedSession protocol plan)

/-- The host after the session. -/
def after : Host Wire :=
  session.host protocol

/-- The results that the connection has stored. -/
def results : List TickResult :=
  storedResults session.builder session.after.history

theorem path : ReflTransGen (Step protocol)
    (Host.create session.responseTimeout session.clock session.initial : Host Wire).toLedger
    session.after.toLedger :=
  run_path _ session.calls

/-- Complete results are one of each tick, in order. -/
theorem ticks_results (hcomplete : session.after.connection.workflowState = .resultsComplete) :
    session.results.map TickResult.tick = List.range plan.expectedTickCount ∧
      session.builder.applicationTestId = session.upload.id := by
  have hidentified := (Supervised.of_path session.path).identified
  obtain ⟨upload, builder, hactive, hadapter, hmade, hstored⟩ :=
    (sequenced_of_path session.path session.bound).complete hidentified hcomplete
  obtain rfl : upload = session.upload := Option.some.inj (hactive.symm.trans session.active)
  obtain rfl : builder = session.builder := Option.some.inj (hadapter.symm.trans session.adapter)
  obtain ⟨⟨attempt, draws, hbuilt⟩, -⟩ := hidentified.registered _ _ _ session.queued
  rw [results, map_tick_storedResults, hstored, expectedTickCount_of_buildUpload hbuilt]
  exact ⟨rfl, (hmade.matches hidentified).1⟩

/-- Every stored result is what the adapter makes of a received message. -/
theorem exists_message {result : TickResult} (hresult : result ∈ session.results) :
    ∃ before message, ⟨before, .message (.testResult message)⟩ ∈ session.after.history ∧
      applicationTestIdFromBytes message.testId.bytes = .ok session.builder.applicationTestId ∧
        tickResultOf message = .ok result := by
  have htranslated : Translated session.after.history := by
    refine translated_of_path session.path fun moment hmoment ↦ ?_
    cases hmoment
  obtain ⟨moment, hmoment, hstored⟩ := List.mem_filterMap.1 (List.mem_reverse.1 hresult)
  obtain ⟨before, message, submission, hmem, hingested⟩ :=
    htranslated moment hmoment _ _ (storedResult_eq_some hstored)
  exact ⟨before, message, hmem, of_ingestApplicationMessage hingested⟩

/-- The messages that the results were made of, in the order of the results. -/
theorem exists_messages : ∃ messages : List TestResult,
    List.Forall₂ (fun (message : TestResult) (result : TickResult) ↦
      Reports message result.captured) messages session.results ∧
    ∀ message ∈ messages,
      (∃ before, ⟨before, .message (.testResult message)⟩ ∈ session.after.history) ∧
        applicationTestIdFromBytes message.testId.bytes =
          .ok session.builder.applicationTestId := by
  have hall := fun result hresult ↦ @exists_message _ _ _ session result hresult
  generalize session.results = results at hall
  induction results with
  | nil => exact ⟨[], .nil, fun message hmessage ↦ absurd hmessage List.not_mem_nil⟩
  | cons result results ih =>
    obtain ⟨before, message, hmem, hid, hmade⟩ := hall result List.mem_cons_self
    obtain ⟨messages, hreports, hreceived⟩ :=
      ih fun other hother ↦ hall other (List.mem_cons_of_mem result hother)
    refine ⟨message :: messages, .cons (reports_of_tickResultOf hmade) hreports, ?_⟩
    exact List.forall_mem_cons.2 ⟨⟨⟨before, hmem⟩, hid⟩, hreceived⟩

end CapturedSession

/-- The records of a complete session hold exactly the results that the connection has stored. -/
theorem CapturedSession.exists_records {plan : CompiledTestIR}
    (session : CapturedSession protocol plan)
    (hcomplete : session.after.connection.workflowState = .resultsComplete) :
    ∃ records, session.capture.database.Holds records ∧
      session.capture.database.Finalized session.capture.settings none ∧
      (∀ record ∈ records, record.InRun session.capture.settings) ∧
      ticksOf records = session.results := by
  obtain ⟨hticks, -⟩ := session.ticks_results hcomplete
  obtain ⟨records, hearlier, -, hholds, hfinalized, hinRun⟩ := session.capture.exists_stored
  refine ⟨records, hholds, session.requested ▸ hfinalized, hinRun, ?_⟩
  refine eq_of_prefix_of_range ?_ hticks (stores_run hholds hfinalized).nodup
    fun result hresult ↦ ?_
  · have hfront := hearlier.filterMap Record.tickResult
    rw [← ticksOf, session.agree] at hfront
    exact hfront
  · obtain ⟨record, hrecord, hresult⟩ := List.mem_filterMap.1 hresult
    have htick : record.tickNumber = some result.tick := by
      cases record <;> cases hresult
      rfl
    have hbelow := hinRun record hrecord result.tick htick
    rwa [session.capture.expected] at hbelow

/-- Evaluating the capture of a complete session: there is a report when every assertion can be
evaluated, and it is what the stored results say about the demands of the assertions. -/
theorem CapturedSession.verdict_session {plan : CompiledTestIR}
    (session : CapturedSession protocol plan)
    (hcomplete : session.after.connection.workflowState = .resultsComplete)
    (hstatus : session.capture.database.status = .complete) {test compiled : Api.Test}
    (hreachable : test.Reachable) (hcompiled : Api.compile test = .ok plan compiled) :
    ((∃ report, evaluateAssertions session.capture.run = .ok report) ↔
      ∀ assertion ∈ test.assertions, Evaluable assertion.expectation) ∧
    ∀ report, evaluateAssertions session.capture.run = .ok report →
      (report.verdict = .fail ↔ ∃ assertion ∈ test.assertions,
        (demandOf session.results assertion.channel.index assertion.expectation).Violated) ∧
      (report.verdict = .pass ↔ test.assertions ≠ [] ∧
        (∀ error ∈ session.capture.run.applicationErrors, error.recoverable = true) ∧
        ∀ assertion ∈ test.assertions,
          (demandOf session.results assertion.channel.index assertion.expectation).Proved) := by
  obtain ⟨records, hholds, hfinal, -, hrecords⟩ := session.exists_records hcomplete
  have hfinalized : session.capture.database.Finalized session.capture.settings
      session.capture.requested := session.requested ▸ hfinal
  refine ⟨exists_report_iff hreachable hcompiled hholds hfinalized, fun report hreport ↦ ?_⟩
  obtain ⟨hfail, hpass⟩ := verdict_run hreachable hcompiled hholds hfinalized hreport
  rw [hrecords] at hfail hpass
  refine ⟨hfail, hpass.trans ?_⟩
  rw [List.countP_eq_zero]
  simp [hstatus]

/-- In every session whose results are complete, the capture that the finalization leaves without a
requested status is complete, and shows in every view exactly what the rig reported: one message of
the upload for each tick, received in this session. If the test was compiled by the public calls,
then evaluating the capture returns a report exactly when each assertion can be evaluated, which
fails exactly when the reported samples violate what some assertion demands, and passes exactly when
there is an assertion, every stored error is recoverable and the reported samples prove what every
assertion demands. -/
theorem complete_of_resultsComplete {plan : CompiledTestIR}
    (session : CapturedSession protocol plan)
    (hcomplete : session.after.connection.workflowState = .resultsComplete) :
    session.capture.database.status = .complete ∧
    (∃ messages : List TestResult,
      messages.map TestResult.tickNumber = List.range plan.expectedTickCount ∧
      (∀ message ∈ messages,
        (∃ before, ⟨before, .message (.testResult message)⟩ ∈ session.after.history) ∧
          applicationTestIdFromBytes message.testId.bytes = .ok session.upload.id) ∧
      List.Forall₂ (fun (message : TestResult) (result : TickResult) ↦
        Reports message result.captured) messages session.results ∧
      session.capture.run.Reproduces messages) ∧
    ∀ test compiled, test.Reachable → Api.compile test = .ok plan compiled →
      ((∃ report, evaluateAssertions session.capture.run = .ok report) ↔
        ∀ assertion ∈ test.assertions, Evaluable assertion.expectation) ∧
      ∀ report, evaluateAssertions session.capture.run = .ok report →
        (report.verdict = .fail ↔ ∃ assertion ∈ test.assertions,
          (demandOf session.results assertion.channel.index assertion.expectation).Violated) ∧
        (report.verdict = .pass ↔ test.assertions ≠ [] ∧
          (∀ error ∈ session.capture.run.applicationErrors, error.recoverable = true) ∧
          ∀ assertion ∈ test.assertions,
            (demandOf session.results assertion.channel.index assertion.expectation).Proved) := by
  obtain ⟨hticks, hid⟩ := session.ticks_results hcomplete
  obtain ⟨records, hholds, hfinalized, hinRun, hrecords⟩ := session.exists_records hcomplete
  have hstatus : session.capture.database.status = .complete := by
    refine (status_eq_complete_iff hholds hfinalized hinRun).2 fun tick htick ↦ ?_
    have hmem : tick ∈ session.results.map TickResult.tick := by
      rw [hticks]
      exact List.mem_range.2 htick
    rw [hrecords]
    exact List.mem_map.1 hmem
  refine ⟨hstatus, ?_, fun test compiled hreachable hcompiled ↦ ?_⟩
  · obtain ⟨messages, hreports, hreceived⟩ := session.exists_messages
    have hnumbers : messages.map TestResult.tickNumber = List.range plan.expectedTickCount := by
      rw [← ticks_of_reports hreports, hticks]
    refine ⟨messages, hnumbers, hid ▸ hreceived, hreports, ?_⟩
    have hrows := hholds.ticks
    rw [hrecords] at hrows
    exact reproduces_of_rows hreports hrows
      (fun result hresult ↦
        fitsInteger_tick_of_fits (fits_of_rows hfinalized.consistent hrows result hresult))
      (hnumbers ▸ List.nodup_range)
  · exact session.verdict_session hcomplete hstatus hreachable hcompiled

/-! ### A session of a latch -/

/-- A test that starts by itself and expects a digital input to be low at its first tick. -/
def latchScript : List Api.Call :=
  [.configure (.value .hz100) (.value .immediate),
    .digitalInputConfigure (0 : Fin 10) (.value .v3_3),
    .expectLow (0 : Fin 10) { atTick := some (.value 0) }]

def latchTest : Api.Test :=
  scriptTest latchScript

/-- A builder of that test. -/
def latchBuilder : BuilderHandle :=
  ⟨0, 5, 7, 101⟩

def latchSettings : BuilderSettings :=
  ⟨101, Nat.succ_pos 100, 1, Nat.one_pos, 2, Nat.two_pos⟩

/-- The calls that upload the test, start it and receive the result of each tick. -/
def latchCalls : List (Protocol.Call (OutboundMessage ⊕ InboundMessage)) :=
  startedCalls.set 2 (.queueUpload latchTest.plan none [7] .established) ++
    [resultsCall (List.range 101)]

def latchConnection : ConnectionRun (OutboundMessage ⊕ InboundMessage) :=
  ⟨5, id, some latchBuilder, latchCalls⟩

theorem host_latchConnection : latchConnection.host directCodec =
    run directCodec (Host.create 5 id (some latchBuilder)) latchCalls :=
  rfl

/-- What the builder is handed for a result of that run. -/
def lowResult (tick : ℕ) : TickResult :=
  (tickResultOf (resultMessage tick)).toOption.getD (.executionProblem tick none)

/-- Whether a moment queues no upload but one of a given test. -/
def queuesOnly (plan : CompiledTestIR) (moment : Moment Wire) : Bool :=
  match moment.interaction with
  | .uploadQueued compiledTest _ _ => compiledTest == plan
  | _ => true

theorem exists_latchSession :
    ∃ session : CapturedSession directCodec latchTest.plan,
      session.toConnectionRun = latchConnection ∧
        session.results = (List.range 101).map lowResult ∧
        recordsAdded session.capture.older = ((List.range 101).map lowResult).map .tick := by
  obtain ⟨capture, hrequested, hearlier, holder⟩ :=
    @exists_capture_of_results latchTest.plan latchSettings ((List.range 101).map lowResult)
      (by decide +kernel) (by decide +kernel) (by decide +kernel)
  have hbound : BoundBeforeResults (latchConnection.host directCodec).history := by
    rw [host_latchConnection]
    exact boundBeforeResults_of_boundTo latchBuilder (by decide +kernel)
  have hactive : (latchConnection.host directCodec).connection.activeUpload.isSome = true := by
    decide +kernel
  have hqueues : ∀ moment ∈ (latchConnection.host directCodec).history,
      queuesOnly latchTest.plan moment = true := by decide +kernel
  have hstored : storedResults latchBuilder (latchConnection.host directCodec).history =
      (List.range 101).map lowResult := by decide +kernel
  obtain ⟨upload, hactive⟩ := Option.isSome_iff_exists.1 hactive
  have hsupervised : Supervised directCodec (latchConnection.host directCodec).toLedger := by
    rw [host_latchConnection]
    exact supervised_run 5 id _ latchCalls
  obtain ⟨compiledTest, encoded, before, hmem⟩ := hsupervised.identified.known upload hactive
  obtain rfl : compiledTest = latchTest.plan := eq_of_beq (hqueues _ hmem)
  refine ⟨⟨latchConnection, hbound, upload, encoded, ⟨before, hmem⟩, hactive, latchBuilder,
    by decide +kernel, capture, hrequested, ?_⟩, rfl, hstored, holder⟩
  rw [hearlier, hstored, ticksOf_map_tick]

/-- Every tick is read back as it was reported, and the test passes. -/
theorem complete_of_resultsComplete_latchSession :
    ∃ (session : CapturedSession directCodec latchTest.plan) (messages : List TestResult)
      (report : EvaluationReport), session.capture.database.status = .complete ∧
        messages.map TestResult.tickNumber = List.range 101 ∧
        session.capture.run.Reproduces messages ∧
        evaluateAssertions session.capture.run = .ok report ∧ report.verdict = .pass := by
  obtain ⟨session, hsession, hresults, holder⟩ := exists_latchSession
  obtain ⟨after, hcompiled⟩ := @compile_scriptTest latchScript (by decide +kernel)
  have hcomplete : session.after.connection.workflowState = .resultsComplete := by
    have hstate : (latchConnection.host directCodec).connection.workflowState =
        .resultsComplete := by decide +kernel
    rw [← hstate, ← hsession]
    rfl
  obtain ⟨hstatus, ⟨messages, hticks, -, -, hreproduces⟩, hevaluated⟩ :=
    complete_of_resultsComplete session hcomplete
  obtain ⟨hexists, hverdicts⟩ := hevaluated latchTest after (reachable_scriptTest _) hcompiled
  obtain ⟨report, hreport⟩ := hexists.2 (by decide +kernel)
  refine ⟨session, messages, report, hstatus, ?_, hreproduces, hreport,
    (hverdicts report hreport).2.2 ⟨by decide +kernel, ?_, ?_⟩⟩
  · rw [hticks]
    exact congrArg List.range (by decide +kernel)
  · obtain ⟨records, -, hstored, hholds, -⟩ := session.capture.exists_stored
    have hnone := hstored.filterMap Record.applicationError
    rw [holder, ← errorsOf, ← errorsOf, errorsOf_map_tick, List.prefix_nil] at hnone
    have hzero := (nonRecoverable_eq_zero_iff hholds).2 fun error herror ↦ by
      rw [hnone] at herror
      cases herror
    simpa using List.countP_eq_zero.1 hzero
  · intro assertion hassertion
    have hlow : latchTest.assertions.map (fun assertion ↦
        (assertion.channel.index, assertion.expectation)) = [(0, .digitalPoint 0 .low)] := by
      decide +kernel
    have hdemanded := List.mem_map_of_mem
      (f := fun assertion : Assertion ↦ (assertion.channel.index, assertion.expectation)) hassertion
    rw [hlow] at hdemanded
    obtain ⟨hindex, hexpectation⟩ := Prod.mk.inj (List.mem_singleton.1 hdemanded)
    rw [hresults, hindex, hexpectation]
    intro tick _ huntil
    obtain rfl := Nat.le_zero.1 huntil
    decide +kernel

end HilRig
