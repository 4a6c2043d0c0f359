import HilRig.Protocol.SerialPort

/-!
# The output stream

A frame the Transport offers is written in as many pieces as the port accepts, over as many passes
as that takes, and is committed when its last byte was accepted. `OutputAccounted` says where the
stream stands: the accepted bytes are the committed frames followed by the first
`pendingOutputOffset` bytes of the pending one, and the frames obtained from the Transport are the
committed ones and the pending one. Every exchange of a pass keeps it (`keptByExchanges_output`), so
it holds in every run without a session reset (`output_of_run`). A write that raises or reports an
invalid count leaves the pending frame and its offset alone
(`finalState_serviceOutput_of_refused`).
-/

set_option autoImplicit false
set_option relaxedAutoImplicit false

namespace HilRig.Protocol

open HilRig.Models HilRig.Results HilRig.Foundations

/-! ### The state of the stream -/

/-- A commit happens only when the accepted bytes end with the last byte of its frame. -/
def CommitsAccepted (before : List SerialEvent) (event : SerialEvent) : Prop :=
  ∀ frame, event = .committed frame →
    acceptedBytes before = (committedFrames before).flatten ++ frame

/-- The Transport offers the head of the frames that no commit has popped. -/
def OffersHead (frames : List (List UInt8)) (before : List SerialEvent) (event : SerialEvent) :
    Prop :=
  ∀ frame, event = .peeked (some frame) → frames[(committedFrames before).length]? = some frame

/-- Where the output stream stands. -/
structure OutputAccounted (serial : SerialBuffers) (log : List SerialEvent) : Prop where
  accepted : acceptedBytes log = (committedFrames log).flatten ++
    (serial.pendingOutput.getD []).take serial.pendingOutputOffset
  offset_le : serial.pendingOutputOffset ≤ (serial.pendingOutput.getD []).length
  unfinished : ∀ frame, serial.pendingOutput = some frame → frame ≠ [] →
    serial.pendingOutputOffset < frame.length
  peeked : peekedFrames log = committedFrames log ++ serial.pendingOutput.toList
  commits : EachMoment CommitsAccepted log
  ordered : ∀ frames, EachMoment (OffersHead frames) log →
    committedFrames log ++ serial.pendingOutput.toList <+: frames

theorem prefix_concat {α : Type} {first frames : List α} {next : α} (hfirst : first <+: frames)
    (hnext : frames[first.length]? = some next) : first ++ [next] <+: frames := by
  obtain ⟨hlength, hget⟩ := List.getElem?_eq_some_iff.1 hnext
  rw [← hget]
  exact List.concat_get_prefix hfirst hlength

namespace OutputAccounted

variable {serial : SerialBuffers} {log : List SerialEvent}

theorem new : OutputAccounted {} [] where
  accepted := rfl
  offset_le := le_rfl
  unfinished _ hframe := by cases hframe
  peeked := rfl
  commits := eachMoment_nil
  ordered _ _ := List.nil_prefix

/-- Events that are no part of the output change nothing. -/
theorem concat {event : SerialEvent} (hserial : OutputAccounted serial log)
    (haccepted : event.bytesAccepted = []) (hpeeked : event.framePeeked = none)
    (hcommitted : event.frameCommitted = none) : OutputAccounted serial (log ++ [event]) where
  accepted := by simpa [haccepted, hcommitted] using hserial.accepted
  offset_le := hserial.offset_le
  unfinished := hserial.unfinished
  peeked := by simpa [hpeeked, hcommitted] using hserial.peeked
  commits := by
    refine eachMoment_concat.2 ⟨hserial.commits, ?_⟩
    rintro frame rfl
    cases hcommitted
  ordered frames hframes := by
    simpa [hcommitted] using hserial.ordered frames (eachMoment_concat.1 hframes).1

/-- Only the output buffers matter. -/
theorem of_output {other : SerialBuffers} (hserial : OutputAccounted serial log)
    (houtput : other.pendingOutput = serial.pendingOutput)
    (hoffset : other.pendingOutputOffset = serial.pendingOutputOffset) :
    OutputAccounted other log := by
  obtain ⟨incoming, pendingOutput, pendingOutputOffset⟩ := other
  obtain rfl : pendingOutput = _ := houtput
  obtain rfl : pendingOutputOffset = _ := hoffset
  exact ⟨hserial.accepted, hserial.offset_le, hserial.unfinished, hserial.peeked,
    hserial.commits, hserial.ordered⟩

/-- A frame is obtained from the Transport while none is pending. -/
theorem peek (hserial : OutputAccounted serial log) (hnone : serial.pendingOutput = none)
    (frame : Option (List UInt8)) :
    OutputAccounted { serial with pendingOutput := frame, pendingOutputOffset := 0 }
      (log ++ [.peeked frame]) where
  accepted := by
    simpa [hnone, SerialEvent.bytesAccepted, SerialEvent.frameCommitted] using hserial.accepted
  offset_le := Nat.zero_le _
  unfinished frame _ hframe := List.length_pos_of_ne_nil hframe
  peeked := by
    simpa [hnone, SerialEvent.framePeeked, SerialEvent.frameCommitted] using hserial.peeked
  commits := by
    refine eachMoment_concat.2 ⟨hserial.commits, ?_⟩
    intro frame hframe
    cases hframe
  ordered frames hframes := by
    obtain ⟨hbefore, hhead⟩ := eachMoment_concat.1 hframes
    have hprefix := hserial.ordered frames hbefore
    simp only [hnone, Option.toList_none, List.append_nil] at hprefix
    cases frame with
    | none => simpa [SerialEvent.frameCommitted] using hprefix
    | some frame =>
      simpa [SerialEvent.frameCommitted] using prefix_concat hprefix (hhead frame rfl)

variable {frame : List UInt8} {accepted : ℤ}

/-- What a write reports as accepted, when the count is valid. -/
theorem bytesAccepted_write (hserial : OutputAccounted serial log)
    (hframe : serial.pendingOutput = some frame)
    (hvalid : 0 ≤ accepted ∧ accepted ≤ (frame.length : ℤ) - serial.pendingOutputOffset) :
    (SerialEvent.wrote (frame.drop serial.pendingOutputOffset) (.ok accepted)).bytesAccepted =
      (frame.drop serial.pendingOutputOffset).take accepted.toNat := by
  have hoffset : serial.pendingOutputOffset ≤ frame.length := by
    simpa [hframe] using hserial.offset_le
  refine if_pos ⟨hvalid.1, hvalid.2.trans ?_⟩
  rw [List.length_drop, Nat.cast_sub hoffset]

/-- A write that raises or reports an invalid count accepts nothing. -/
theorem bytesAccepted_refused {answer : Except HilRigError ℤ} (hserial : OutputAccounted serial log)
    (hframe : serial.pendingOutput = some frame)
    (hrefused : ¬ValidCount frame serial.pendingOutputOffset answer) :
    (SerialEvent.wrote (frame.drop serial.pendingOutputOffset) answer).bytesAccepted = [] := by
  have hoffset : serial.pendingOutputOffset ≤ frame.length := by
    simpa [hframe] using hserial.offset_le
  cases answer with
  | error error => rfl
  | ok accepted =>
    refine if_neg fun hvalid ↦ hrefused ⟨accepted, rfl, hvalid.1, hvalid.2.trans_eq ?_⟩
    rw [List.length_drop, Nat.cast_sub hoffset]

/-- A write commits nothing. -/
theorem committedFrames_wrote (log : List SerialEvent) (data : List UInt8)
    (answer : Except HilRigError ℤ) :
    committedFrames (log ++ [.wrote data answer]) = committedFrames log := by
  simp [SerialEvent.frameCommitted]

/-- The accepted bytes after a valid write. -/
theorem accepted_write (hserial : OutputAccounted serial log)
    (hframe : serial.pendingOutput = some frame)
    (hvalid : 0 ≤ accepted ∧ accepted ≤ (frame.length : ℤ) - serial.pendingOutputOffset) :
    acceptedBytes (log ++ [.wrote (frame.drop serial.pendingOutputOffset) (.ok accepted)]) =
      (committedFrames log).flatten ++
        frame.take (serial.pendingOutputOffset + accepted.toNat) := by
  rw [acceptedBytes_concat, hserial.bytesAccepted_write hframe hvalid, hserial.accepted, hframe,
    Option.getD_some, List.append_assoc, List.take_add]

/-- A write that leaves a rest of the frame. -/
theorem write_part (hserial : OutputAccounted serial log)
    (hframe : serial.pendingOutput = some frame)
    (hvalid : 0 ≤ accepted ∧ accepted ≤ (frame.length : ℤ) - serial.pendingOutputOffset)
    (hrest : serial.pendingOutputOffset + accepted.toNat ≠ frame.length) :
    OutputAccounted
      { serial with pendingOutputOffset := serial.pendingOutputOffset + accepted.toNat }
      (log ++ [.wrote (frame.drop serial.pendingOutputOffset) (.ok accepted)]) where
  accepted := by
    rw [hserial.accepted_write hframe hvalid]
    simp [hframe, SerialEvent.frameCommitted]
  offset_le := by
    simp only [hframe, Option.getD_some]
    omega
  unfinished other hother _ := by
    obtain rfl : frame = other := by simpa [hframe] using hother
    show serial.pendingOutputOffset + accepted.toNat < frame.length
    omega
  peeked := by
    simpa [SerialEvent.framePeeked, SerialEvent.frameCommitted] using hserial.peeked
  commits := by
    refine eachMoment_concat.2 ⟨hserial.commits, ?_⟩
    intro frame hcommitted
    cases hcommitted
  ordered frames hframes := by
    simpa [SerialEvent.frameCommitted] using hserial.ordered frames (eachMoment_concat.1 hframes).1

/-- A write that completes the frame is followed by its commit. -/
theorem write_last (hserial : OutputAccounted serial log)
    (hframe : serial.pendingOutput = some frame)
    (hvalid : 0 ≤ accepted ∧ accepted ≤ (frame.length : ℤ) - serial.pendingOutputOffset)
    (hlast : serial.pendingOutputOffset + accepted.toNat = frame.length) :
    OutputAccounted { serial with pendingOutput := none, pendingOutputOffset := 0 }
      (log ++ [.wrote (frame.drop serial.pendingOutputOffset) (.ok accepted)] ++
        [.committed frame]) := by
  have haccepted := hserial.accepted_write hframe hvalid
  have hbefore := committedFrames_wrote log (frame.drop serial.pendingOutputOffset) (.ok accepted)
  rw [hlast, List.take_length] at haccepted
  exact {
    accepted := by
      rw [acceptedBytes_concat, haccepted, committedFrames_concat, hbefore]
      simp [SerialEvent.bytesAccepted, SerialEvent.frameCommitted]
    offset_le := le_rfl
    unfinished := fun other hother ↦ by cases hother
    peeked := by
      rw [peekedFrames_concat, peekedFrames_concat, committedFrames_concat, hbefore, hserial.peeked,
        hframe]
      simp [SerialEvent.framePeeked, SerialEvent.frameCommitted]
    commits := by
      refine eachMoment_concat.2 ⟨eachMoment_concat.2 ⟨hserial.commits, ?_⟩, ?_⟩
      · intro other hother
        cases hother
      · intro other hother
        obtain rfl : frame = other := by simpa using hother
        rw [haccepted, hbefore]
    ordered := fun frames hframes ↦ by
      have hprefix := hserial.ordered frames
        (eachMoment_concat.1 (eachMoment_concat.1 hframes).1).1
      rw [committedFrames_concat, hbefore]
      simpa [hframe, SerialEvent.frameCommitted] using hprefix }

end OutputAccounted

/-- Every exchange of a pass keeps the account of the output. -/
theorem keptByExchanges_output : KeptByExchanges id OutputAccounted where
  read _ _ _ hserial := .of_output (.concat hserial rfl rfl rfl) rfl rfl
  offered _ _ _ hserial := .of_output (.concat hserial rfl rfl rfl) rfl rfl
  peeked _ _ frame hnone hserial := hserial.peek hnone frame
  refused _ _ _ _ hframe hrefused hserial :=
    hserial.concat (hserial.bytesAccepted_refused hframe hrefused) rfl rfl
  accepted _ _ _ _ hframe hvalid hrest hserial := hserial.write_part hframe hvalid hrest
  completed _ _ _ _ hframe hvalid hlast hserial := hserial.write_last hframe hvalid hlast

section Runs

variable {Wire : Type}

/-! ### A refused write -/

/-- A write that raises or reports an invalid count changes nothing. -/
theorem finalState_serviceOutput_of_refused {output : Except HilRigError (Option (List UInt8))}
    {written : Except HilRigError ℤ} {commitStatus : Except HilRigError TransportStatus}
    {host : Host Wire} {frame : List UInt8}
    (hframe : (finalState (peekOutput output) host).connection.pendingOutput = some frame)
    (hrefused : ¬ValidCount frame
      (finalState (peekOutput output) host).connection.pendingOutputOffset written) :
    finalState (serviceOutput output written commitStatus) host =
      finalState (peekOutput output) host := by
  unfold serviceOutput
  cases hpeek : peekOutput output host with
  | error error after =>
    rw [finalState_bind_of_error hpeek]
    simp only [finalState, hpeek]
  | ok value after =>
    have hafter : finalState (peekOutput output) host = after := by simp only [finalState, hpeek]
    rw [hafter] at hframe hrefused ⊢
    rw [finalState_bind_of_ok hpeek, finalState_current_bind, hframe]
    simp only
    cases written with
    | error error => rfl
    | ok accepted =>
      simp only
      rw [if_pos]
      · rfl
      · by_contra hvalid
        rw [not_or, not_lt, not_lt] at hvalid
        exact hrefused ⟨accepted, rfl, hvalid⟩

/-! ### Every run -/

variable (protocol : NativeProtocol Wire)

/-- A call that is not a close and in whose drains no session reset is found. -/
def Call.KeepsSession : Call Wire → Prop
  | .service pass =>
    EventType.sessionReset ∉ pass.firstDrain.events ∧
      EventType.sessionReset ∉ pass.secondDrain.events
  | .close _ => False
  | _ => True

theorem accounted_call {call : Call Wire} (hcall : call.KeepsSession) {world : World Wire}
    (hworld : world.Keeps id OutputAccounted) :
    (call.afterLogged protocol world).Keeps id OutputAccounted := by
  by_cases hservice : ∃ pass, call = .service pass
  · obtain ⟨pass, rfl⟩ := hservice
    exact keptByExchanges_output.maintains_service protocol (drain_unchanged protocol hcall.1)
      (drain_unchanged protocol hcall.2) world hworld
  · refine keeps_of_request protocol (by simpa using hservice) ?_ hworld
    rintro answer rfl
    exact hcall

/-- Where the output stream stands after any run without a session reset, whatever the port and the
Transport answered. The accepted bytes are the committed frames and the first `pendingOutputOffset`
bytes of the pending frame. Each frame obtained from the Transport is committed once, in order, or
is the pending one; a commit happens only when the accepted bytes end with the last byte of its
frame; and a frame whose bytes were all accepted is no longer pending. When the Transport offers
the head of `frames` until a commit pops it, the committed frames and the pending one are the first
of `frames`. And from any host, a write that raises or reports an invalid count changes neither the
frame it wrote from nor its offset. -/
theorem output_of_run (timeout : ℕ) (clock : ℕ → ℕ) (builder : Option BuilderHandle)
    (calls : List (Call Wire)) (hcalls : ∀ call ∈ calls, call.KeepsSession) :
    let connection := (run protocol (Host.create timeout clock builder) calls).connection
    let world := runLogged protocol ⟨Host.create timeout clock builder, []⟩ calls
    world.state.connection = connection ∧
      acceptedBytes world.log = (committedFrames world.log).flatten ++
        (connection.pendingOutput.getD []).take connection.pendingOutputOffset ∧
      peekedFrames world.log = committedFrames world.log ++ connection.pendingOutput.toList ∧
      EachMoment CommitsAccepted world.log ∧
      (∀ frame, connection.pendingOutput = some frame → frame ≠ [] →
        connection.pendingOutputOffset < frame.length) ∧
      (∀ frames, EachMoment (OffersHead frames) world.log →
        committedFrames world.log ++ connection.pendingOutput.toList <+: frames) ∧
      ∀ (host : Host Wire) output written commitStatus frame,
        (finalState (peekOutput output) host).connection.pendingOutput = some frame →
          ¬ValidCount frame (finalState (peekOutput output) host).connection.pendingOutputOffset
            written →
            finalState (serviceOutput output written commitStatus) host =
              finalState (peekOutput output) host := by
  intro connection world
  have hstate : world.state.connection = connection :=
    congrArg (fun host : Host Wire ↦ host.connection)
      (state_runLogged protocol ⟨Host.create timeout clock builder, []⟩ calls)
  have hrun : world.Keeps id OutputAccounted :=
    runLogged_maintains protocol
      (fun call hcall _ hworld ↦ accounted_call protocol (hcalls call hcall) hworld)
      OutputAccounted.new
  have hserial : OutputAccounted connection.serial world.log := hstate ▸ hrun
  exact ⟨hstate, hserial.accepted, hserial.peeked, hserial.commits, hserial.unfinished,
    hserial.ordered, fun _ _ _ _ _ ↦ finalState_serviceOutput_of_refused⟩

end Runs

/-- Two frames. The first is accepted in two parts with a failed write between them; of the second
nothing is accepted yet. -/
def partialWrites : List (Call (OutboundMessage ⊕ InboundMessage)) :=
  [.service { output := .ok (some [1, 2, 3]), written := .ok 2 },
    .service { written := .error (.session "busy") },
    .service { written := .ok 1 },
    .service { output := .ok (some [4, 5]), written := .ok 0 }]

theorem output_of_partialWrites :
    acceptedBytes (runLogged directCodec ⟨Host.create 5 id none, []⟩ partialWrites).log =
        [1, 2, 3] ∧
      committedFrames (runLogged directCodec ⟨Host.create 5 id none, []⟩ partialWrites).log =
        [[1, 2, 3]] ∧
      (run directCodec (Host.create 5 id none) partialWrites).connection.pendingOutput =
        some [4, 5] := by
  have houtput := output_of_run directCodec 5 id none partialWrites
    (by simp [partialWrites, Call.KeepsSession])
  refine ⟨houtput.2.1.trans ?_, ?_, ?_⟩
  · decide +kernel
  · decide +kernel
  · decide +kernel

end HilRig.Protocol
