import HilRig.Protocol.SerialBuffers

/-!
# Service passes with a log of the serial port

`serviceLogged` is `service` with a log of what it exchanges byte by byte: the data read from the
port, each offer of received bytes with its answer, each frame the Transport offers, each write with
what the port reports of it, and each commit. The log changes nothing (`erases_service`): a run of
`runLogged` leaves the host that `run` leaves (`state_runLogged`). `KeptByExchanges` says what an
invariant of the log and of a part of the serial buffers has to survive, and `maintains_service` and
`runLogged_maintains` carry it through passes and runs.
-/

set_option autoImplicit false
set_option relaxedAutoImplicit false

namespace HilRig.Protocol

open HilRig.Models HilRig.Results HilRig.Foundations

/-! ### The log -/

/-- One exchange of bytes with the port or of frames with the Transport. -/
inductive SerialEvent
  | read (data : List UInt8)
  | offered (data : List UInt8) (result : ReceiveResult)
  | peeked (frame : Option (List UInt8))
  | wrote (data : List UInt8) (answer : Except HilRigError ℤ)
  | committed (frame : List UInt8)

namespace SerialEvent

/-- The bytes an event read from the port. -/
def bytesRead : SerialEvent → List UInt8
  | read data => data
  | _ => []

/-- The prefix of an offer that the Transport consumed. -/
def bytesConsumed : SerialEvent → List UInt8
  | offered data result => data.take result.bytesConsumed
  | _ => []

/-- The bytes of a write that the port reported as accepted. -/
def bytesAccepted : SerialEvent → List UInt8
  | wrote data (.ok accepted) =>
    if 0 ≤ accepted ∧ accepted ≤ data.length then data.take accepted.toNat else []
  | _ => []

/-- The frame an event obtained from the Transport. -/
def framePeeked : SerialEvent → Option (List UInt8)
  | peeked frame => frame
  | _ => none

def frameCommitted : SerialEvent → Option (List UInt8)
  | committed frame => some frame
  | _ => none

end SerialEvent

def readBytes (log : List SerialEvent) : List UInt8 := log.flatMap SerialEvent.bytesRead

def consumedBytes (log : List SerialEvent) : List UInt8 := log.flatMap SerialEvent.bytesConsumed

def acceptedBytes (log : List SerialEvent) : List UInt8 := log.flatMap SerialEvent.bytesAccepted

def peekedFrames (log : List SerialEvent) : List (List UInt8) :=
  log.filterMap SerialEvent.framePeeked

def committedFrames (log : List SerialEvent) : List (List UInt8) :=
  log.filterMap SerialEvent.frameCommitted

section Views

variable (log : List SerialEvent) (event : SerialEvent)

@[simp] theorem readBytes_concat :
    readBytes (log ++ [event]) = readBytes log ++ event.bytesRead := by
  simp [readBytes]

@[simp] theorem consumedBytes_concat :
    consumedBytes (log ++ [event]) = consumedBytes log ++ event.bytesConsumed := by
  simp [consumedBytes]

@[simp] theorem acceptedBytes_concat :
    acceptedBytes (log ++ [event]) = acceptedBytes log ++ event.bytesAccepted := by
  simp [acceptedBytes]

@[simp] theorem peekedFrames_concat :
    peekedFrames (log ++ [event]) = peekedFrames log ++ event.framePeeked.toList := by
  cases hframe : event.framePeeked <;> simp [peekedFrames, hframe]

@[simp] theorem committedFrames_concat :
    committedFrames (log ++ [event]) = committedFrames log ++ event.frameCommitted.toList := by
  cases hframe : event.frameCommitted <;> simp [committedFrames, hframe]

end Views

/-! ### Passes with their log -/

/-- A host with the log of its serial port. -/
abbrev World (Wire : Type) : Type := Logged (Host Wire) SerialEvent

/-- A computation of the host that appends to the log. -/
abbrev LoggedAction (Wire : Type) (α : Type) : Type := EStateM HilRigError (World Wire) α

section Service

variable {Wire : Type}

def readSerialLogged (inWaiting : Except HilRigError ℤ)
    (received : Except HilRigError (List UInt8)) : LoggedAction Wire ℕ := do
  let waiting ← lift (obtainResult inWaiting)
  if waiting < 0 then throw (.session "Serial in_waiting returned an invalid byte count")
  else if waiting = 0 then return 0
  else
    match received with
    | .error _ => throw (.session "Could not read from the HIL-RIG serial port")
    | .ok data =>
      record (.read data)
      lift (update fun connection ↦ { connection with incoming := connection.incoming ++ data })
      return data.length

def offerReceivedLogged : List (Except HilRigError ReceiveResult) → LoggedAction Wire Unit
  | [] => throw .stalled
  | answer :: answers => do
    let result ← lift (obtainResult answer)
    let connection ← lift current
    record (.offered connection.incoming result)
    lift (update fun connection ↦
      { connection with incoming := connection.incoming.drop result.bytesConsumed })
    match result.status with
    | .notReady => return ()
    | .capacityExhausted => return ()
    | .ok => if (← lift current).incoming = [] then return () else offerReceivedLogged answers
    | status =>
      throw (.session s!"Transport receive returned unexpected status {status.name}")

def peekOutputLogged (output : Except HilRigError (Option (List UInt8))) :
    LoggedAction Wire Unit := do
  if (← lift current).pendingOutput.isNone then
    let frame ← lift (obtainResult output)
    record (.peeked frame)
    lift (update fun connection ↦
      { connection with pendingOutput := frame, pendingOutputOffset := 0 })
  else return ()

def serviceOutputLogged (output : Except HilRigError (Option (List UInt8)))
    (written : Except HilRigError ℤ) (commitStatus : Except HilRigError TransportStatus) :
    LoggedAction Wire ℕ := do
  peekOutputLogged output
  let connection ← lift current
  match connection.pendingOutput with
  | none => return 0
  | some frame =>
    record (.wrote (frame.drop connection.pendingOutputOffset) written)
    match written with
    | .error _ => throw (.session "Could not write to the HIL-RIG serial port")
    | .ok accepted =>
      if accepted < 0 ∨ frame.length - connection.pendingOutputOffset < accepted then
        throw (.session "Serial write accepted an invalid byte count")
      else
        lift (update fun connection ↦
          { connection with
            pendingOutputOffset := connection.pendingOutputOffset + accepted.toNat })
        if connection.pendingOutputOffset + accepted.toNat = frame.length then
          record (.committed frame)
          lift clearPendingOutput
          let status ← lift (obtainResult commitStatus)
          if status ≠ .ok ∧ status ≠ .notReady then
            throw (.session s!"Transport output commit returned {status.name}")
          else return accepted.toNat
        else return accepted.toNat

section Codec

variable (protocol : NativeProtocol Wire)

def completePassLogged (pass : ServicePass Wire) (bytesRead : ℕ) (drained : Drained)
    (submitted : Bool) : LoggedAction Wire ProtocolServiceReport := do
  let bytesWritten ← serviceOutputLogged pass.output pass.written pass.commitStatus
  let more ← lift (drain protocol pass.secondDrain)
  lift (advanceWorkflow protocol pass.secondSession)
  lift checkResponseTimeout
  let connection ← lift current
  return {
    events := drained.events ++ more.events
    applicationMessages := drained.applicationMessages ++ more.applicationMessages
    storedTickResults := drained.storedTickResults ++ more.storedTickResults
    storedApplicationErrors := drained.storedApplicationErrors ++ more.storedApplicationErrors
    serialBytesRead := bytesRead
    serialBytesWritten := bytesWritten
    applicationMessageSubmitted := submitted
    workflowState := connection.workflowState }

def serviceLogged (pass : ServicePass Wire) : LoggedAction Wire ProtocolServiceReport := do
  lift requireOpen
  let bytesRead ← readSerialLogged pass.inWaiting pass.received
  offerReceivedLogged pass.offers
  let mode := pass.operatingMode.getD (← lift current).defaultOperatingMode
  lift (processTransport mode pass.firstProcess)
  let drained ← lift (drain protocol pass.firstDrain)
  lift (advanceWorkflow protocol pass.firstSession)
  lift checkResponseTimeout
  let submitted ← lift (submitNextApplicationMessage pass.submitSession pass.submitStatus)
  if submitted then
    lift (processTransport mode pass.secondProcess)
    completePassLogged protocol pass bytesRead drained submitted
  else completePassLogged protocol pass bytesRead drained submitted

/-- The world after one call: only a service pass exchanges bytes. -/
def Call.afterLogged (call : Call Wire) (world : World Wire) : World Wire :=
  match call with
  | .service pass => finalState (serviceLogged protocol pass) world
  | call => { world with state := call.after protocol world.state }

def runLogged (world : World Wire) (calls : List (Call Wire)) : World Wire :=
  calls.foldl (fun world call ↦ call.afterLogged protocol world) world

/-! ### The log changes nothing -/

/-- Reading the connection for the log only. -/
theorem erases_current_bind {α : Type} {rest : Connection Wire → LoggedAction Wire α}
    {plain : Action Wire α} (hrest : ∀ connection, Erases (rest connection) plain) :
    Erases (lift current >>= rest) plain :=
  fun world ↦ hrest world.state.connection world

theorem erases_readSerial (inWaiting : Except HilRigError ℤ)
    (received : Except HilRigError (List UInt8)) :
    Erases (readSerialLogged inWaiting received : LoggedAction Wire ℕ)
      (readSerial inWaiting received) := by
  refine (Erases.lift _).bind fun waiting ↦ ?_
  refine (Erases.throw _).ite ((Erases.pure _).ite ?_)
  cases received with
  | error error => exact Erases.throw _
  | ok data => exact Erases.record_bind ((Erases.lift _).bind fun _ ↦ Erases.pure _)

theorem erases_offerReceived (answers : List (Except HilRigError ReceiveResult)) :
    Erases (offerReceivedLogged answers : LoggedAction Wire Unit) (offerReceived answers) := by
  induction answers with
  | nil => exact Erases.throw _
  | cons answer answers ih =>
    refine (Erases.lift _).bind fun result ↦ erases_current_bind fun connection ↦ ?_
    refine Erases.record_bind ((Erases.lift _).bind fun _ ↦ ?_)
    cases result.status with
    | ok => exact (Erases.lift _).bind fun connection ↦ (Erases.pure _).ite ih
    | notReady => exact Erases.pure _
    | capacityExhausted => exact Erases.pure _
    | _ => exact Erases.throw _

theorem erases_peekOutput (output : Except HilRigError (Option (List UInt8))) :
    Erases (peekOutputLogged output : LoggedAction Wire Unit) (peekOutput output) := by
  refine (Erases.lift _).bind fun connection ↦ Erases.ite ?_ (Erases.pure _)
  exact (Erases.lift _).bind fun frame ↦ Erases.record_bind (Erases.lift _)

theorem erases_serviceOutput (output : Except HilRigError (Option (List UInt8)))
    (written : Except HilRigError ℤ) (commitStatus : Except HilRigError TransportStatus) :
    Erases (serviceOutputLogged output written commitStatus : LoggedAction Wire ℕ)
      (serviceOutput output written commitStatus) := by
  refine (erases_peekOutput output).bind fun _ ↦ (Erases.lift _).bind fun connection ↦ ?_
  cases connection.pendingOutput with
  | none => exact Erases.pure _
  | some frame =>
    refine Erases.record_bind ?_
    cases written with
    | error error => exact Erases.throw _
    | ok accepted =>
      refine (Erases.throw _).ite ((Erases.lift _).bind fun _ ↦ Erases.ite ?_ (Erases.pure _))
      refine Erases.record_bind ((Erases.lift _).bind fun _ ↦ (Erases.lift _).bind fun status ↦ ?_)
      exact (Erases.throw _).ite (Erases.pure _)

theorem erases_completePass (pass : ServicePass Wire) (bytesRead : ℕ) (drained : Drained)
    (submitted : Bool) :
    Erases (completePassLogged protocol pass bytesRead drained submitted)
      (completePass protocol pass bytesRead drained submitted) := by
  refine (erases_serviceOutput _ _ _).bind fun bytesWritten ↦ (Erases.lift _).bind fun more ↦ ?_
  exact (Erases.lift _).bind fun _ ↦ (Erases.lift _).bind fun _ ↦ (Erases.lift _).bind fun _ ↦
    Erases.pure _

theorem erases_service (pass : ServicePass Wire) :
    Erases (serviceLogged protocol pass) (service protocol pass) := by
  refine (Erases.lift _).bind fun _ ↦ (erases_readSerial _ _).bind fun bytesRead ↦ ?_
  refine (erases_offerReceived _).bind fun _ ↦ (Erases.lift _).bind fun connection ↦ ?_
  refine (Erases.lift _).bind fun _ ↦ (Erases.lift _).bind fun drained ↦ ?_
  refine (Erases.lift _).bind fun _ ↦ (Erases.lift _).bind fun _ ↦ ?_
  refine (Erases.lift _).bind fun submitted ↦ Erases.ite ?_ (erases_completePass protocol _ _ _ _)
  exact (Erases.lift _).bind fun _ ↦ erases_completePass protocol _ _ _ _

theorem state_afterLogged (call : Call Wire) (world : World Wire) :
    (call.afterLogged protocol world).state = call.after protocol world.state := by
  cases call with
  | service pass => exact (erases_service protocol pass).finalState_state world
  | _ => rfl

theorem state_runLogged (world : World Wire) (calls : List (Call Wire)) :
    (runLogged protocol world calls).state = run protocol world.state calls := by
  induction calls generalizing world with
  | nil => rfl
  | cons call calls ih =>
    rw [show runLogged protocol world (call :: calls) =
      runLogged protocol (call.afterLogged protocol world) calls from rfl, ih,
      state_afterLogged]
    rfl

theorem finalState_lift_current_bind {α : Type} (rest : Connection Wire → LoggedAction Wire α)
    (world : World Wire) :
    finalState (lift current >>= rest) world = finalState (rest world.state.connection) world :=
  rfl

theorem finalState_lift_update_bind {α : Type} (change : Connection Wire → Connection Wire)
    (rest : Unit → LoggedAction Wire α) (world : World Wire) :
    finalState (lift (update change) >>= rest) world =
      finalState (rest ()) { world with state := world.state.change change } :=
  rfl

/-! ### Invariants of the log and of a part of the buffers -/

/-- The count a port may report for the rest of a frame. -/
def ValidCount (frame : List UInt8) (offset : ℕ) (written : Except HilRigError ℤ) : Prop :=
  ∃ accepted, written = .ok accepted ∧ 0 ≤ accepted ∧ accepted ≤ frame.length - offset

section Invariants

variable {Seen : Type} {part : SerialBuffers → Seen}
  {invariant : Seen → List SerialEvent → Prop}

/-- An invariant of the log and of a part of the buffers, as a property of worlds. -/
def World.Keeps (part : SerialBuffers → Seen) (invariant : Seen → List SerialEvent → Prop)
    (world : World Wire) : Prop :=
  invariant (part world.state.serial) world.log

theorem maintains_lift {α : Type} {action : Action Wire α}
    (haction : Unchanged (fun host : Host Wire ↦ part host.serial) action) :
    Maintains (World.Keeps part invariant) (lift action) :=
  Maintains.lift_of_unchanged haction

theorem maintains_lift_of_serial {α : Type} {action : Action Wire α}
    (haction : Unchanged Host.serial action) :
    Maintains (World.Keeps part invariant) (lift action) :=
  maintains_lift (haction.comp part)

/-- The exchanges of a pass keep an invariant: reading a chunk, an offer, a frame obtained while
none is pending, a write that is refused, one that leaves a rest, and one that is followed by the
commit of its frame. -/
structure KeptByExchanges (part : SerialBuffers → Seen)
    (invariant : Seen → List SerialEvent → Prop) : Prop where
  read : ∀ serial log data, invariant (part serial) log →
    invariant (part { serial with incoming := serial.incoming ++ data }) (log ++ [.read data])
  offered : ∀ serial log result, invariant (part serial) log →
    invariant (part { serial with incoming := serial.incoming.drop result.bytesConsumed })
      (log ++ [.offered serial.incoming result])
  peeked : ∀ serial log frame, serial.pendingOutput = none → invariant (part serial) log →
    invariant (part { serial with pendingOutput := frame, pendingOutputOffset := 0 })
      (log ++ [.peeked frame])
  refused : ∀ serial log frame answer, serial.pendingOutput = some frame →
    ¬ValidCount frame serial.pendingOutputOffset answer → invariant (part serial) log →
      invariant (part serial) (log ++ [.wrote (frame.drop serial.pendingOutputOffset) answer])
  accepted : ∀ serial log frame accepted, serial.pendingOutput = some frame →
    0 ≤ accepted ∧ accepted ≤ (frame.length : ℤ) - serial.pendingOutputOffset →
      serial.pendingOutputOffset + accepted.toNat ≠ frame.length → invariant (part serial) log →
        invariant
          (part { serial with pendingOutputOffset := serial.pendingOutputOffset + accepted.toNat })
          (log ++ [.wrote (frame.drop serial.pendingOutputOffset) (.ok accepted)])
  completed : ∀ serial log frame accepted, serial.pendingOutput = some frame →
    0 ≤ accepted ∧ accepted ≤ (frame.length : ℤ) - serial.pendingOutputOffset →
      serial.pendingOutputOffset + accepted.toNat = frame.length → invariant (part serial) log →
        invariant (part { serial with pendingOutput := none, pendingOutputOffset := 0 })
          (log ++ [.wrote (frame.drop serial.pendingOutputOffset) (.ok accepted)] ++
            [.committed frame])

namespace KeptByExchanges

variable (hkept : KeptByExchanges part invariant)
include hkept

theorem maintains_readSerial (inWaiting : Except HilRigError ℤ)
    (received : Except HilRigError (List UInt8)) :
    Maintains (World.Keeps part invariant)
      (readSerialLogged inWaiting received : LoggedAction Wire ℕ) := by
  refine (maintains_lift_of_serial (unchanged_obtainResult _)).bind fun waiting ↦ ?_
  refine Maintains.ite (Maintains.throw _) (Maintains.ite (Maintains.pure _) ?_)
  cases received with
  | error error => exact Maintains.throw _
  | ok data => exact fun world hworld ↦ hkept.read world.state.serial world.log data hworld

theorem maintains_offerReceived (answers : List (Except HilRigError ReceiveResult)) :
    Maintains (World.Keeps part invariant)
      (offerReceivedLogged answers : LoggedAction Wire Unit) := by
  induction answers with
  | nil => exact Maintains.throw _
  | cons answer answers ih =>
    refine (maintains_lift_of_serial (unchanged_obtainResult _)).bind fun result ↦ ?_
    intro world hworld
    rw [finalState_lift_current_bind, finalState_record_bind, finalState_lift_update_bind]
    have hoffered := hkept.offered world.state.serial world.log result hworld
    cases result.status with
    | ok =>
      exact Maintains.bind (fun _ hlater ↦ hlater) (fun _ ↦ (Maintains.pure _).ite ih) _ hoffered
    | _ => exact hoffered

theorem maintains_peekOutput (output : Except HilRigError (Option (List UInt8))) :
    Maintains (World.Keeps part invariant)
      (peekOutputLogged output : LoggedAction Wire Unit) := by
  intro world hworld
  unfold peekOutputLogged
  rw [finalState_lift_current_bind]
  by_cases hnone : world.state.connection.pendingOutput.isNone
  · rw [if_pos hnone]
    cases output with
    | error error => exact hworld
    | ok frame =>
      exact hkept.peeked world.state.serial world.log frame (Option.isNone_iff_eq_none.1 hnone)
        hworld
  · rw [if_neg hnone]
    exact hworld

theorem maintains_serviceOutput (output : Except HilRigError (Option (List UInt8)))
    (written : Except HilRigError ℤ) (commitStatus : Except HilRigError TransportStatus) :
    Maintains (World.Keeps part invariant)
      (serviceOutputLogged output written commitStatus : LoggedAction Wire ℕ) := by
  refine (hkept.maintains_peekOutput output).bind fun _ ↦ ?_
  intro world hworld
  rw [finalState_lift_current_bind]
  cases hframe : world.state.connection.pendingOutput with
  | none => exact hworld
  | some frame =>
    simp only
    rw [finalState_record_bind]
    cases written with
    | error error =>
      exact hkept.refused world.state.serial world.log frame _ hframe (by simp [ValidCount]) hworld
    | ok accepted =>
      simp only
      by_cases hinvalid : accepted < 0 ∨
          (frame.length : ℤ) - world.state.connection.pendingOutputOffset < accepted
      · rw [if_pos hinvalid]
        refine hkept.refused world.state.serial world.log frame _ hframe ?_ hworld
        rintro ⟨count, hcount, hvalid⟩
        obtain rfl : accepted = count := Except.ok.inj hcount
        exact hinvalid.elim hvalid.1.not_gt hvalid.2.not_gt
      · rw [if_neg hinvalid, finalState_lift_update_bind]
        rw [not_or, not_lt, not_lt] at hinvalid
        by_cases hlast : world.state.connection.pendingOutputOffset + accepted.toNat = frame.length
        · rw [if_pos hlast, finalState_record_bind]
          unfold clearPendingOutput
          rw [finalState_lift_update_bind]
          -- The status of the commit is only reported.
          refine Maintains.bind (maintains_lift_of_serial (unchanged_obtainResult commitStatus))
            (fun status ↦ Maintains.ite (Maintains.throw _) (Maintains.pure _)) _ ?_
          exact hkept.completed world.state.serial world.log frame accepted hframe hinvalid hlast
            hworld
        · rw [if_neg hlast]
          exact hkept.accepted world.state.serial world.log frame accepted hframe hinvalid hlast
            hworld

/-- So does a pass whose drains leave the part of the buffers alone. -/
theorem maintains_service {pass : ServicePass Wire}
    (hfirst : Unchanged (fun host : Host Wire ↦ part host.serial) (drain protocol pass.firstDrain))
    (hsecond : Unchanged (fun host : Host Wire ↦ part host.serial)
      (drain protocol pass.secondDrain)) :
    Maintains (World.Keeps part invariant) (serviceLogged protocol pass) := by
  have hcurrent : Maintains (World.Keeps part invariant)
      (lift current : LoggedAction Wire (Connection Wire)) := fun _ hworld ↦ hworld
  have hprocess : ∀ mode answer, Maintains (World.Keeps part invariant)
      (lift (processTransport mode answer) : LoggedAction Wire Unit) := fun _ _ ↦
    maintains_lift_of_serial (unchanged_processTransport _ _)
  have hadvance : ∀ session, Maintains (World.Keeps part invariant)
      (lift (advanceWorkflow protocol session)) := fun _ ↦
    maintains_lift_of_serial (unchanged_advanceWorkflow protocol _)
  have htimeout : Maintains (World.Keeps part invariant)
      (lift checkResponseTimeout : LoggedAction Wire Unit) :=
    maintains_lift_of_serial unchanged_checkResponseTimeout
  have hcomplete : ∀ bytesRead drained submitted, Maintains (World.Keeps part invariant)
      (completePassLogged protocol pass bytesRead drained submitted) := fun _ _ _ ↦
    (hkept.maintains_serviceOutput _ _ _).bind fun _ ↦ (maintains_lift hsecond).bind fun _ ↦
      (hadvance _).bind fun _ ↦ htimeout.bind fun _ ↦ hcurrent.bind fun _ ↦ Maintains.pure _
  refine (maintains_lift_of_serial unchanged_requireOpen).bind fun _ ↦ ?_
  refine (hkept.maintains_readSerial _ _).bind fun _ ↦ ?_
  refine (hkept.maintains_offerReceived _).bind fun _ ↦ hcurrent.bind fun _ ↦ ?_
  refine (hprocess _ _).bind fun _ ↦ (maintains_lift hfirst).bind fun _ ↦ ?_
  refine (hadvance _).bind fun _ ↦ htimeout.bind fun _ ↦ ?_
  refine (maintains_lift_of_serial (unchanged_submitNextApplicationMessage _ _)).bind fun _ ↦ ?_
  exact Maintains.ite ((hprocess _ _).bind fun _ ↦ hcomplete _ _ _) (hcomplete _ _ _)

end KeptByExchanges

/-- A request of the caller exchanges no byte and leaves the buffers alone. -/
theorem keeps_of_request {call : Call Wire} (hservice : ∀ pass, call ≠ .service pass)
    (hclose : ∀ answer, call ≠ .close answer) {world : World Wire}
    (hworld : world.Keeps part invariant) :
    (call.afterLogged protocol world).Keeps part invariant := by
  have hserial : (call.after protocol world.state).serial = world.state.serial := by
    cases call with
    | bindResultBuilder builder replace => exact unchanged_bindResultBuilder _ _ _
    | queueUpload compiledTest uploadAttempt draws session =>
      exact unchanged_queueUpload protocol _ _ _ _ _
    | start => exact unchanged_start protocol _
    | abort => exact unchanged_abort protocol _
    | resetApplication => exact unchanged_resetApplication protocol _
    | service pass => exact absurd rfl (hservice pass)
    | close answer => exact absurd rfl (hclose answer)
  have hafter : call.afterLogged protocol world =
      { world with state := call.after protocol world.state } := by
    cases call with
    | service pass => exact absurd rfl (hservice pass)
    | _ => rfl
  rw [hafter]
  show invariant (part (call.after protocol world.state).serial) world.log
  rwa [hserial]

end Invariants

/-- What every call of a run keeps holds after the run. -/
theorem runLogged_maintains {invariant : World Wire → Prop} {calls : List (Call Wire)}
    (hcalls : ∀ call ∈ calls, ∀ world, invariant world →
      invariant (call.afterLogged protocol world))
    {world : World Wire} (hworld : invariant world) :
    invariant (runLogged protocol world calls) := by
  induction calls generalizing world with
  | nil => exact hworld
  | cons call calls ih =>
    rw [List.forall_mem_cons] at hcalls
    exact ih hcalls.2 (hcalls.1 world hworld)

end Codec

end Service

end HilRig.Protocol
