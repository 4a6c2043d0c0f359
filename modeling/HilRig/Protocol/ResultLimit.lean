import HilRig.Protocol.ResultSequence

/-!
# How many results an upload accepts

The sequence check compares a result's tick with the next one and not with the number of expected
results, so the result after the last one passes it. `Connection.overruns` is that case. In the runs
without it an upload accepts at most as many results as it expects, and every other result outside
the sequence fails the workflow, in every run.
-/

set_option autoImplicit false
set_option relaxedAutoImplicit false

namespace HilRig.Protocol

open HilRig.Models HilRig.Results HilRig.Foundations Relation

variable {Wire : Type} {protocol : NativeProtocol Wire}

/-! ### The sequence of results -/

/-- A result is the next one that the active upload expects. -/
def Connection.Expects (connection : Connection Wire) (message : TestResult) : Prop :=
  ∃ upload, connection.activeUpload = some upload ∧ connection.executionStarted = true ∧
    applicationTestIdFromBytes message.testId.bytes = .ok upload.id ∧
    message.tickNumber = connection.nextResultTick ∧
    connection.nextResultTick < upload.configuration.expectedTickCount

/-- A result passes the sequence check although every expected result was accepted. -/
def Connection.overruns (connection : Connection Wire) (message : TestResult) : Bool :=
  !connection.refusesResult message &&
    connection.activeUpload.any fun upload ↦
      upload.configuration.expectedTickCount ≤ connection.nextResultTick

/-- Whether a moment is such a result. -/
def Moment.overruns (moment : Moment Wire) : Bool :=
  match moment.interaction with
  | .message (.testResult message) => moment.before.overruns message
  | _ => false

/-- A result is refused: its handling raises a `ProtocolSessionError`, and all it did is to record
the message and to fail the workflow. -/
def RefusesResult (protocol : NativeProtocol Wire) (host : Host Wire) (message : TestResult)
    (submission : Except HilRigError Unit) : Prop :=
  ∃ text, handleMessage protocol (.testResult message) submission host =
    .error (.session text)
      ((host.note (.message (.testResult message))).change Connection.failWorkflow)

/-- The number of results that were accepted since the last upload was queued. -/
def acceptedResults : List (Moment Wire) → ℕ
  | [] => 0
  | moment :: older =>
    match moment.interaction with
    | .uploadQueued _ _ _ => 0
    | .resultCounted _ => acceptedResults older + 1
    | _ => acceptedResults older

/-- Interactions that the number of accepted results depends on. -/
def Interaction.tallies : Interaction Wire → Bool
  | .uploadQueued _ _ _ | .resultCounted _ => true
  | _ => false

theorem acceptedResults_cons {moment : Moment Wire} (hplain : moment.interaction.tallies = false)
    (older : List (Moment Wire)) : acceptedResults (moment :: older) = acceptedResults older := by
  cases moment with
  | mk before interaction =>
    cases interaction with
    | uploadQueued compiledTest upload encoded => cases hplain
    | resultCounted message => cases hplain
    | _ => rfl

/-! ### Results outside the sequence -/

section Refusals

variable {host : Host Wire} {message : TestResult} {submission : Except HilRigError Unit}

/-- The check raises a session error for every result it refuses. -/
theorem validateResultSequence_of_refuses {id : ℕ}
    (hid : applicationTestIdFromBytes message.testId.bytes = .ok id)
    (hrefused : host.connection.refusesResult message = true) :
    ∃ text, validateResultSequence message host =
      .error (.session text) (host.change Connection.failWorkflow) := by
  unfold validateResultSequence
  rw [run_current_bind]
  unfold Connection.refusesResult at hrefused
  cases hactive : host.connection.activeUpload with
  | none => exact ⟨_, rfl⟩
  | some upload =>
    cases hstarted : host.connection.executionStarted with
    | false => exact ⟨_, rfl⟩
    | true =>
      simp only [hactive, hstarted, hid, Bool.or_eq_true, bne_iff_ne] at hrefused
      simp only [hid, obtainResult, pure_bind]
      by_cases hother : id ≠ upload.uploadAttempt.applicationTestId
      · rw [if_pos hother]
        exact ⟨_, rfl⟩
      · rw [if_neg hother, if_pos (hrefused.resolve_left hother)]
        exact ⟨_, rfl⟩

theorem refusesResult_of_refuses {id : ℕ}
    (hid : applicationTestIdFromBytes message.testId.bytes = .ok id)
    (hrefused : host.connection.refusesResult message = true) :
    RefusesResult protocol host message submission := by
  obtain ⟨text, hrun⟩ := @validateResultSequence_of_refuses _
    (host.note (.message (.testResult message))) message id hid hrefused
  refine ⟨text, ?_⟩
  simp only [handleMessage, handleTestResult, observe, bind, EStateM.bind, hrun]

/-- A result that the sequence check lets pass is not refused. -/
theorem not_refusesResult {id : ℕ}
    (hid : applicationTestIdFromBytes message.testId.bytes = .ok id)
    (hpasses : host.connection.refusesResult message = false) :
    ¬RefusesResult protocol host message submission := by
  rintro ⟨text, hrun⟩
  obtain ⟨upload, -, hstarted, -, -⟩ := Sequenced.of_refusesResult hpasses ⟨id, hid⟩
  have hpath : (finalState (handleTestResult message submission)
      (host.note (.message (.testResult message)))).connection.executionStarted = false := by
    have hfinal : finalState (handleMessage protocol (.testResult message) submission) host =
        (host.note (.message (.testResult message))).change Connection.failWorkflow := by
      simp only [finalState, hrun]
    unfold handleMessage at hfinal
    rw [finalState_observe_bind] at hfinal
    have hthen : finalState (handleTestResult message submission >>= fun stored ↦
        (pure { applicationMessages := [.testResult message],
                storedTickResults := stored.toList } : Action Wire Drained))
        (host.note (.message (.testResult message))) =
        finalState (handleTestResult message submission)
          (host.note (.message (.testResult message))) := by
      simp only [finalState, bind, EStateM.bind]
      cases handleTestResult message submission (host.note (.message (.testResult message))) <;> rfl
    rw [hthen] at hfinal
    rw [hfinal]
    rfl
  rcases validateResultSequence_cases message (host.note (.message (.testResult message))) with
    ⟨hrefused, -⟩ | ⟨-, -, hvalid⟩ | ⟨error, hinvalid⟩
  · rw [Host.note_connection, hpasses] at hrefused
    cases hrefused
  · unfold handleTestResult at hpath
    rw [finalState_bind_of_ok hvalid, finalState_current_bind] at hpath
    split at hpath
    · rw [finalState_observe_bind, finalState_update_bind] at hpath
      exact absurd hstarted (Bool.eq_false_iff.1 hpath)
    · rw [finalState_obtainResult_bind] at hpath
      split at hpath
      · rw [finalState_observe_bind, finalState_observe_bind, finalState_update_bind] at hpath
        exact absurd hstarted (Bool.eq_false_iff.1 hpath)
      · exact absurd hstarted (Bool.eq_false_iff.1 hpath)
  · unfold handleTestResult at hpath
    rw [finalState_bind_of_error hinvalid] at hpath
    exact absurd hstarted (Bool.eq_false_iff.1 hpath)

/-- A result outside the sequence is refused unless it overruns it. -/
theorem refusesResult_iff {id : ℕ}
    (hid : applicationTestIdFromBytes message.testId.bytes = .ok id)
    (houtside : ¬host.connection.Expects message) :
    RefusesResult protocol host message submission ↔ host.connection.overruns message = false := by
  cases hrefused : host.connection.refusesResult message with
  | true =>
    simp only [Connection.overruns, hrefused, Bool.not_true, Bool.false_and, iff_true]
    exact refusesResult_of_refuses hid hrefused
  | false =>
    obtain ⟨upload, hactive, hstarted, hsame, htick⟩ :=
      Sequenced.of_refusesResult hrefused ⟨id, hid⟩
    have hover : host.connection.overruns message = true := by
      simp only [Connection.overruns, hrefused, hactive, Option.any_some, Bool.not_false,
        Bool.true_and, decide_eq_true_eq]
      by_contra hless
      exact houtside ⟨upload, hactive, hstarted, hsame, htick, Nat.lt_of_not_le hless⟩
    simp only [hover, reduceCtorEq, iff_false]
    exact not_refusesResult hid hrefused

end Refusals

/-! ### The number of accepted results -/

/-- An active upload has accepted as many results as the connection counts, and at most as many as
it expects. -/
def Limited (ledger : Ledger Wire) : Prop :=
  ∀ upload, ledger.connection.activeUpload = some upload →
    acceptedResults ledger.history = ledger.connection.nextResultTick ∧
      ledger.connection.nextResultTick ≤ upload.configuration.expectedTickCount

namespace Limited

variable {before after : Ledger Wire}

/-- A step that accepts no result. -/
theorem of_keeps (hlimited : Limited before)
    (hkeeps : before.connection.Keeps after.connection)
    (haccepted : acceptedResults after.history = acceptedResults before.history) :
    Limited after := by
  intro upload hupload
  rcases hkeeps with ⟨hactive, -, hnext, -⟩ | ⟨hnone, -⟩
  · rw [haccepted, hnext]
    exact hlimited upload (hactive ▸ hupload)
  · rw [hnone] at hupload
    cases hupload

theorem of_same (hlimited : Limited before)
    (hactive : after.connection.activeUpload = before.connection.activeUpload)
    (hnext : after.connection.nextResultTick = before.connection.nextResultTick)
    (haccepted : acceptedResults after.history = acceptedResults before.history) :
    Limited after := by
  intro upload hupload
  rw [haccepted, hnext]
  exact hlimited upload (hactive ▸ hupload)

theorem finishes (hlimited : Limited before) (hfinishes : Finishes protocol before after) :
    Limited after := by
  cases hfinishes with
  | waiting hwaiting => exact hlimited
  | refused operation hpending hready herror =>
    exact hlimited.of_keeps (Sequenced.keeps_handleNegativeResponse hpending) rfl
  | completed operation hpending hready herror hkind =>
    exact hlimited.of_keeps Sequenced.keeps_complete rfl
  | continued operation next rest hpending hready herror hkind hqueue =>
    exact hlimited.of_same rfl rfl rfl
  | uploaded operation deadline hpending hready herror hkind hqueue =>
    exact hlimited.of_same rfl rfl rfl
  | startsImmediately operation upload encoded hpending hready herror hkind hactive himmediate
      hencoded =>
    refine hlimited.of_same ?_ ?_ rfl
    · simp only [Ledger.activate_connection, Ledger.become_connection, Connection.complete, hkind]
      rfl
    · simp only [Ledger.activate_connection, Ledger.become_connection, Connection.complete, hkind]
      rfl

/-- A result that does not overrun is counted. -/
theorem count (hlimited : Limited before) {message : TestResult}
    (hexpected : before.connection.refusesResult message = false)
    (hwithin : before.connection.overruns message = false)
    (hconnection : after.connection = before.connection.countResult)
    (haccepted : acceptedResults after.history = acceptedResults before.history + 1) :
    Limited after := by
  intro upload hupload
  rw [hconnection] at hupload
  have hactive : before.connection.activeUpload = some upload := hupload
  obtain ⟨hcounted, -⟩ := hlimited upload hactive
  rw [hconnection, haccepted, hcounted]
  have hless : before.connection.nextResultTick < upload.configuration.expectedTickCount := by
    simpa [Connection.overruns, hexpected, hactive] using hwithin
  exact ⟨rfl, hless⟩

/-- One move keeps the limit, unless a result overruns it. -/
theorem move (hlimited : Limited before) (hmove : Move protocol before after)
    (hwithin : ∀ moment ∈ after.history, moment.overruns = false) : Limited after := by
  cases hmove with
  | serial incoming output offset => exact hlimited.of_same rfl rfl rfl
  | ignored interaction hignored =>
    refine hlimited.of_same rfl rfl (acceptedResults_cons ?_ _)
    cases hignored <;> rfl
  | failed interaction hfails =>
    refine hlimited.of_same rfl rfl (acceptedResults_cons ?_ _)
    cases hfails <;> rfl
  | timedOut operation deadline hpending hresponse hdeadline => exact hlimited.of_same rfl rfl rfl
  | bound builder hfree hid => exact hlimited.of_same rfl rfl rfl
  | queued compiledTest attempt draws upload encoded hactive hqueue hpending hupload hfresh
      hbuilder hencoded =>
    intro active hactive
    exact ⟨rfl, Nat.zero_le _⟩
  | handled middle after hhandles hfinishes =>
    have hmiddle : Limited middle := by
      cases hhandles <;> exact hlimited.of_same rfl rfl rfl
    exact hmiddle.finishes hfinishes
  | counted message hexpected hid hunbound =>
    exact hlimited.count hexpected
      (hwithin ⟨before.connection, .message (.testResult message)⟩
        (List.mem_cons_of_mem _ List.mem_cons_self)) rfl rfl
  | stored message builder submission result hexpected hid hbound hingested =>
    exact hlimited.count hexpected
      (hwithin ⟨before.connection, .message (.testResult message)⟩
        (List.mem_cons_of_mem _ (List.mem_cons_of_mem _ List.mem_cons_self))) rfl rfl
  | _ => exact hlimited.of_same rfl rfl rfl

theorem step (hlimited : Limited before) (hstep : Step protocol before after)
    (hwithin : ∀ moment ∈ after.history, moment.overruns = false) : Limited after := by
  cases hstep with
  | moved after hopen hmove => exact hlimited.move hmove hwithin
  | closing answer hopen => exact hlimited.of_same rfl rfl rfl

end Limited

/-- In every run in which no result overruns the sequence, an active upload accepts at most as many
results as it expects. -/
theorem limited_run {timeout : ℕ} {clock : ℕ → ℕ} {builder : Option BuilderHandle}
    {calls : List (Call Wire)}
    (hwithin : ∀ moment ∈ (run protocol (Host.create timeout clock builder) calls).history,
      moment.overruns = false) :
    Limited (run protocol (Host.create timeout clock builder) calls).toLedger := by
  refine @run_preserves _ protocol (fun ledger ↦
    (∀ moment ∈ ledger.history, moment.overruns = false) → Limited ledger) _
    (fun before after hbefore hstep hafter ↦ ?_) (fun _ upload hupload ↦ by cases hupload) calls
    hwithin
  exact (hbefore fun moment hmoment ↦ hafter moment (hstep.suffix.mem hmoment)).step hstep hafter

/-- In every run in which no result overruns the sequence, an active upload accepts at most as many
results as it expects. In every state, between calls or within one, a result outside the sequence is
refused exactly when it does not overrun. -/
theorem resultsLimited_run (timeout : ℕ) (clock : ℕ → ℕ) (builder : Option BuilderHandle)
    (calls : List (Call Wire)) :
    ((∀ moment ∈ (run protocol (Host.create timeout clock builder) calls).history,
        moment.overruns = false) →
      ∀ upload, (run protocol (Host.create timeout clock builder) calls).connection.activeUpload =
        some upload →
      acceptedResults (run protocol (Host.create timeout clock builder) calls).history ≤
        upload.configuration.expectedTickCount) ∧
    ∀ (host : Host Wire) message submission id,
      applicationTestIdFromBytes message.testId.bytes = .ok id →
      ¬host.connection.Expects message →
      (RefusesResult protocol host message submission ↔
        host.connection.overruns message = false) := by
  constructor
  · intro hwithin upload hactive
    obtain ⟨hcounted, hlimit⟩ := limited_run hwithin upload hactive
    rw [hcounted]
    exact hlimit
  · intro host message submission id hid houtside
    exact refusesResult_iff hid houtside

/-- Both results of a two-tick test are within its sequence. -/
theorem resultsLimited_run_undisturbedCalls : ∃ upload,
    (run directCodec (Host.create 5 id none) undisturbedCalls).connection.activeUpload =
      some upload ∧
      acceptedResults (run directCodec (Host.create 5 id none) undisturbedCalls).history ≤
        upload.configuration.expectedTickCount := by
  have hactive : ((run directCodec (Host.create 5 id none)
      undisturbedCalls).connection.activeUpload).isSome = true := by decide +kernel
  obtain ⟨upload, hupload⟩ := Option.isSome_iff_exists.1 hactive
  exact ⟨upload, hupload,
    (resultsLimited_run 5 id none undisturbedCalls).1 (by decide +kernel) upload hupload⟩

/-- The results of a two-tick test, and then one more. -/
def overrunCalls : List (Call (OutboundMessage ⊕ InboundMessage)) :=
  undisturbedCalls ++ [resultsCall [2]]

/-- Without a builder the third result of a two-tick test is accepted, and with one it does not fail
the workflow. -/
theorem not_limited_overrunCalls :
    acceptedResults (run directCodec (Host.create 5 id none) overrunCalls).history = 3 ∧
      ((run directCodec (Host.create 5 id none) overrunCalls).connection.activeUpload.map
        fun upload ↦ upload.configuration.expectedTickCount) = some 2 ∧
      (run directCodec (Host.create 5 id (some digitalInputBuilder))
        overrunCalls).connection.workflowState = .resultsComplete := by
  decide +kernel

end HilRig.Protocol
