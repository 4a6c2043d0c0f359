import HilRig.Protocol.Paths

/-!
# The builder of an active upload

`queueUpload` compares both identifiers of the bound builder with those of its upload, and
`bindResultBuilder` only the Application Test ID. So the Application Test IDs agree in every state
(`identifiersAgree_of_reached`). `BuilderMatches` is the agreement of both, and `builderMatches_run`
says exactly which calls break it: those that `bindsOther` selects.
-/

set_option autoImplicit false
set_option relaxedAutoImplicit false

namespace HilRig.Protocol

open HilRig.Models HilRig.Results HilRig.Foundations Relation

variable {Wire : Type} {protocol : NativeProtocol Wire}

/-- A builder made for an attempt: for its Application Test ID and for its definition. -/
def MadeFor (builder : BuilderHandle) (attempt : UploadAttempt) : Prop :=
  builder.applicationTestId = attempt.applicationTestId ∧
    builder.testId = attempt.definitionTestId

/-- The bound builder is one of the active upload. -/
def Connection.BuilderMatches (connection : Connection Wire) : Prop :=
  ∀ upload builder, connection.activeUpload = some upload →
    connection.resultAdapter = some builder → MadeFor builder upload.uploadAttempt

/-- The bound builder has the Application Test ID of the active upload. -/
def Connection.IdentifiersAgree (connection : Connection Wire) : Prop :=
  ∀ upload builder, connection.activeUpload = some upload →
    connection.resultAdapter = some builder →
      builder.applicationTestId = upload.uploadAttempt.applicationTestId

/-- A builder of another definition is bound while an upload is active: no builder is bound yet, and
the Application Test IDs agree. -/
def Call.bindsOther (call : Call Wire) (connection : Connection Wire) : Bool :=
  match call, connection.activeUpload with
  | .bindResultBuilder builder _, some upload =>
    !connection.closed && connection.resultAdapter.isNone &&
      builder.applicationTestId == upload.uploadAttempt.applicationTestId &&
      builder.testId != upload.uploadAttempt.definitionTestId
  | _, _ => false

/-! ### The active upload along moves -/

theorem definitionTestId_of_buildUpload {compiledTest : CompiledTestIR}
    {attempt : Option UploadAttempt} {draws : List (Fin (2 ^ 128))}
    {upload : FixedIOUploadMessages}
    (hupload : buildUpload compiledTest attempt draws = .ok upload) :
    upload.uploadAttempt.definitionTestId = compiledTest.testId := by
  obtain ⟨chosen, -, hupload⟩ := bind_eq_ok.1 hupload
  obtain ⟨hdefinition, hupload⟩ := ite_error_eq_ok.1 hupload
  obtain ⟨configuration, -, hupload⟩ := bind_eq_ok.1 hupload
  obtain ⟨instructions, -, hupload⟩ := bind_eq_ok.1 hupload
  rw [← pure_eq_ok.1 hupload]
  exact not_not.1 hdefinition

section Moves

variable {before after : Ledger Wire}

/-- Finishing an operation keeps the active upload or drops it. -/
theorem activeUpload_of_finishes (hfinishes : Finishes protocol before after) :
    after.connection.activeUpload = before.connection.activeUpload ∨
      after.connection.activeUpload = none := by
  cases hfinishes with
  | refused operation hpending hready herror =>
    simp only [Ledger.become_connection, Connection.handleNegativeResponse]
    cases operation.kind with
    | configuration => exact .inr rfl
    | tick => exact .inr rfl
    | completeTest => exact .inr rfl
    | discovery => exact .inl rfl
    | _ =>
      simp only
      split
      · exact .inl rfl
      · exact .inl rfl
  | completed operation hpending hready herror hkind =>
    simp only [Ledger.become_connection, Connection.complete]
    cases operation.kind with
    | abort => exact .inr rfl
    | reset => exact .inr rfl
    | _ => exact .inl rfl
  | startsImmediately operation upload encoded hpending hready herror hkind hactive himmediate
      hencoded =>
    left
    simp only [Ledger.activate_connection, Ledger.become_connection, Connection.complete, hkind]
    rfl
  | _ => exact .inl rfl

/-- A move keeps the active upload, drops it, or queues one that fits the bound builder. -/
theorem activeUpload_of_move (hmove : Move protocol before after) :
    after.connection.activeUpload = before.connection.activeUpload ∨
      after.connection.activeUpload = none ∨
      ∃ upload, after.connection.activeUpload = some upload ∧
        ∀ builder, before.connection.resultAdapter = some builder →
          MadeFor builder upload.uploadAttempt := by
  cases hmove with
  | queued compiledTest attempt draws upload encoded hactive hqueue hpending hupload hfresh
      hbuilder hencoded =>
    refine .inr (.inr ⟨upload, rfl, fun builder hbound ↦ ?_⟩)
    obtain ⟨hid, htest⟩ := hbuilder builder hbound
    exact ⟨hid, htest.trans (definitionTestId_of_buildUpload hupload).symm⟩
  | handled middle after hhandles hfinishes =>
    have hmiddle : middle.connection.activeUpload = before.connection.activeUpload := by
      cases hhandles <;> rfl
    rw [← hmiddle]
    exact (activeUpload_of_finishes hfinishes).imp_right .inl
  | _ => exact .inl rfl

/-- A move binds a builder with the identifier of the active upload, or keeps the bound one. -/
theorem adapter_of_move (hmove : Move protocol before after) :
    (after.connection.activeUpload = before.connection.activeUpload ∧
      ∃ builder, after.connection.resultAdapter = some builder ∧
        ∀ upload, before.connection.activeUpload = some upload →
          builder.applicationTestId = upload.uploadAttempt.applicationTestId) ∨
      after.connection.resultAdapter = before.connection.resultAdapter := by
  cases hmove with
  | bound builder hfree hid => exact .inl ⟨rfl, builder, rfl, hid⟩
  | handled middle after hhandles hfinishes =>
    exact .inr (Unbinding.of_handled hhandles hfinishes).adapter
  | _ => exact .inr rfl

/-- A step keeps the Application Test IDs of the bound builder and the active upload equal. -/
theorem Connection.IdentifiersAgree.step (hagree : before.connection.IdentifiersAgree)
    (hstep : Step protocol before after) : after.connection.IdentifiersAgree := by
  intro upload builder hactive hbound
  cases hstep with
  | closing answer hopen => exact hagree upload builder hactive hbound
  | moved after hopen hmove =>
    rcases adapter_of_move hmove with ⟨hsame, bound, hafter, hid⟩ | hsame
    · rw [hafter] at hbound
      rw [← Option.some.inj hbound]
      exact hid upload (hsame ▸ hactive)
    · rw [hsame] at hbound
      rcases activeUpload_of_move hmove with hkept | hnone | ⟨queued, hqueued, hfits⟩
      · exact hagree upload builder (hkept ▸ hactive) hbound
      · rw [hnone] at hactive
        cases hactive
      · rw [hqueued] at hactive
        rw [← Option.some.inj hactive]
        exact (hfits builder hbound).1

/-- Only binding a builder can break the agreement of both identifiers. -/
theorem Connection.BuilderMatches.unbinding (hmatches : before.connection.BuilderMatches)
    (hmove : Unbinding protocol before after) : after.connection.BuilderMatches := by
  intro upload builder hactive hbound
  rw [hmove.adapter] at hbound
  rcases activeUpload_of_move hmove.move with hsame | hnone | ⟨queued, hqueued, hfits⟩
  · exact hmatches upload builder (hsame ▸ hactive) hbound
  · rw [hnone] at hactive
    cases hactive
  · rw [hqueued] at hactive
    rw [← Option.some.inj hactive]
    exact hfits builder hbound

end Moves

/-! ### Calls -/

section Calls

variable {host : Host Wire}

/-- A call that neither binds a builder nor closes the connection makes only moves that bind none.
-/
theorem Call.serves (call : Call Wire)
    (hbind : ∀ builder replace, call ≠ .bindResultBuilder builder replace)
    (hclose : ∀ answer, call ≠ .close answer) :
    ReflTransGen (Unbinding protocol) host.toLedger (call.after protocol host).toLedger := by
  cases call with
  | bindResultBuilder builder replace => exact absurd rfl (hbind builder replace)
  | queueUpload compiledTest uploadAttempt draws session =>
    exact Serves.queueUpload compiledTest uploadAttempt draws session host
  | start => exact Serves.start host
  | abort => exact Serves.abort host
  | resetApplication => exact Serves.resetApplication host
  | service pass => exact Serves.service pass host
  | close answer => exact absurd rfl (hclose answer)

/-- Closing keeps the bound builder and the active upload. -/
theorem after_close (answer : Except HilRigError Unit) :
    ((Call.close answer).after protocol host).connection.activeUpload =
        host.connection.activeUpload ∧
      ((Call.close answer).after protocol host).connection.resultAdapter =
        host.connection.resultAdapter := by
  rw [Call.after, Protocol.close, finalState_current_bind]
  split
  · exact ⟨rfl, rfl⟩
  · rw [finalState_observe_bind, finalState_update_bind, finalState_obtainResult_bind]
    cases answer <;> exact ⟨rfl, rfl⟩

/-- Binding a builder refuses and changes nothing, or it binds a builder that has the Application
Test ID of the active upload. -/
theorem after_bindResultBuilder (builder : BuilderHandle) (replace : Bool) :
    (Call.bindResultBuilder builder replace).after protocol host = host ∨
      host.connection.closed = false ∧
      (host.connection.resultAdapter = none ∨ host.connection.activeUpload = none) ∧
      (∀ upload, host.connection.activeUpload = some upload →
        builder.applicationTestId = upload.uploadAttempt.applicationTestId) ∧
      (Call.bindResultBuilder builder replace).after protocol host =
        host.change fun connection ↦ { connection with resultAdapter := some builder } := by
  rw [Call.after, Protocol.bindResultBuilder, finalState_requireOpen_bind]
  by_cases hclosed : host.connection.closed = true
  · exact .inl (if_pos hclosed)
  rw [if_neg hclosed, finalState_current_bind]
  split
  · exact .inl rfl
  · split
    · exact .inl rfl
    · rename_i hfree
      split
      · exact .inl rfl
      · rename_i hid
        rw [not_and_or, Option.not_isSome_iff_eq_none, Option.not_isSome_iff_eq_none] at hfree
        refine .inr ⟨Bool.not_eq_true _ ▸ hclosed, hfree, fun upload hactive ↦ ?_, rfl⟩
        rw [not_and_or, not_not, Connection.activeId, hactive] at hid
        simpa using hid

/-- A call keeps the agreement unless it binds a builder of another definition. -/
theorem Connection.BuilderMatches.after (hmatches : host.connection.BuilderMatches)
    (call : Call Wire) (hcall : call.bindsOther host.connection = false) :
    (call.after protocol host).connection.BuilderMatches := by
  by_cases hclose : ∃ answer, call = .close answer
  · obtain ⟨answer, rfl⟩ := hclose
    obtain ⟨hactive, hbound⟩ := @after_close _ protocol host answer
    rw [Connection.BuilderMatches, hactive, hbound]
    exact hmatches
  by_cases hbind : ∃ builder replace, call = .bindResultBuilder builder replace
  · obtain ⟨builder, replace, rfl⟩ := hbind
    rcases @after_bindResultBuilder _ protocol host builder replace with
      hsame | ⟨hopen, hfree, hid, hafter⟩
    · rw [hsame]
      exact hmatches
    · rw [hafter]
      intro upload bound hactive hbound
      have hupload : host.connection.activeUpload = some upload := hactive
      obtain rfl := Option.some.inj hbound
      have hnone : host.connection.resultAdapter = none := by
        rw [hupload] at hfree
        simpa using hfree
      refine ⟨hid upload hupload, ?_⟩
      simpa [Call.bindsOther, hupload, hopen, hnone, hid upload hupload] using hcall
  · push Not at hclose hbind
    exact @preserved_of_reflTransGen _ (Unbinding protocol)
      (fun ledger : Ledger Wire ↦ ledger.connection.BuilderMatches)
      (fun _ _ hbefore hmove ↦ hbefore.unbinding hmove) _ _ (call.serves hbind hclose) hmatches

/-- A call that binds a builder of another definition breaks the agreement. -/
theorem not_builderMatches_of_bindsOther (call : Call Wire)
    (hcall : call.bindsOther host.connection = true) :
    ¬(call.after protocol host).connection.BuilderMatches := by
  unfold Call.bindsOther at hcall
  split at hcall
  · rename_i builder replace upload hactive
    simp only [Bool.and_eq_true, Bool.not_eq_true', Option.isNone_iff_eq_none, beq_iff_eq,
      bne_iff_ne] at hcall
    obtain ⟨⟨⟨hopen, hnone⟩, hid⟩, hother⟩ := hcall
    have hafter : (Call.bindResultBuilder builder replace).after protocol host =
        host.change fun connection ↦ { connection with resultAdapter := some builder } := by
      rw [Call.after, Protocol.bindResultBuilder, finalState_requireOpen_bind, hopen,
        finalState_current_bind]
      simp [hnone, Connection.activeId, hactive, hid]
    intro hmatches
    rw [hafter] at hmatches
    exact hother (hmatches upload builder hactive rfl).2
  · cases hcall

end Calls

/-! ### Runs -/

/-- In every state of a connection the Application Test IDs agree. -/
theorem identifiersAgree_of_reached {timeout : ℕ} {clock : ℕ → ℕ} {builder : Option BuilderHandle}
    {ledger : Ledger Wire}
    (hreached : ReflTransGen (Step protocol) (Host.create timeout clock builder).toLedger ledger) :
    ledger.connection.IdentifiersAgree := by
  refine @preserved_of_reflTransGen _ (Step protocol)
    (fun ledger : Ledger Wire ↦ ledger.connection.IdentifiersAgree)
    (fun _ _ hagree hstep ↦ hagree.step hstep) _ _ hreached ?_
  intro upload bound hactive
  cases hactive

/-- The bound builder is one of the active upload in every state of a run exactly when no call of
the run binds a builder of another definition while an upload is active. -/
theorem builderMatches_run (timeout : ℕ) (clock : ℕ → ℕ) (builder : Option BuilderHandle)
    (calls : List (Call Wire)) :
    (∀ older, older <+: calls →
      (run protocol (Host.create timeout clock builder) older).connection.BuilderMatches) ↔
    ∀ older call, older ++ [call] <+: calls →
      call.bindsOther (run protocol (Host.create timeout clock builder) older).connection =
        false := by
  constructor
  · intro hmatches older call hcall
    by_contra hbinds
    rw [Bool.not_eq_false] at hbinds
    apply not_builderMatches_of_bindsOther call hbinds
    have hafter := hmatches (older ++ [call]) hcall
    rw [run_append] at hafter
    exact hafter
  · intro hcalls older
    induction older using List.reverseRecOn with
    | nil =>
      intro _ upload bound hactive
      cases hactive
    | append_singleton older call ih =>
      intro hprefix
      rw [run_append]
      exact (ih ((List.prefix_append _ _).trans hprefix)).after call (hcalls older call hprefix)

/-- An upload is queued, and then a builder made for another definition is bound, which has the
upload's Application Test ID. -/
def otherBuilderCalls : List (Call (OutboundMessage ⊕ InboundMessage)) :=
  [.queueUpload (digitalInputTest .hostCommand) none [7] .other,
    .bindResultBuilder ⟨0, 2, 7, 2⟩ false]

/-- The builder that is bound last was made for the definition 2, and the upload for the definition
1. -/
theorem not_builderMatches_otherBuilderCalls :
    ¬(run directCodec (Host.create 5 id none) otherBuilderCalls).connection.BuilderMatches := by
  intro hmatches
  have hstate : (run directCodec (Host.create 5 id none) otherBuilderCalls).connection.resultAdapter
      = some ⟨0, 2, 7, 2⟩ ∧ ∃ upload,
      (run directCodec (Host.create 5 id none) otherBuilderCalls).connection.activeUpload =
        some upload ∧ upload.uploadAttempt.definitionTestId = 1 :=
    ⟨by decide, _, rfl, by decide⟩
  obtain ⟨hbound, upload, hactive, hdefinition⟩ := hstate
  have hother := (hmatches upload _ hactive hbound).2
  rw [hdefinition] at hother
  cases hother

end HilRig.Protocol
