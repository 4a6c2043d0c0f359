import HilRig.Protocol.SerialPort

/-!
# No received byte is lost

The bytes of the serial port reach the Transport through `incoming`: a pass appends what it reads,
and drops from the front what the Transport consumes of each offer. Over every run the consumed
prefixes followed by the bytes still held are the bytes read, in order
(`InputConserved`, `input_of_run`), wherever a pass stops and whatever it raises. The offers of one
pass come to an end when the Transport keeps its contract: each one that goes on has consumed a
byte, so as many answers as there are bytes are enough (`offerReceived_append`).
-/

set_option autoImplicit false
set_option relaxedAutoImplicit false

namespace HilRig.Protocol

open HilRig.Models HilRig.Results HilRig.Foundations

/-! ### The offers come to an end -/

/-- The contract of `receive_bytes` along the offers of one pass: no more is consumed than was
offered, and an OK status on a non-empty offer consumes at least one byte. It binds the answers that
are asked for, which end with the buffer or with another status. -/
def KeepsContract : List UInt8 → List (Except HilRigError ReceiveResult) → Prop
  | _, [] => True
  | _, .error _ :: _ => True
  | buffer, .ok result :: answers =>
    result.bytesConsumed ≤ buffer.length ∧
      (result.status = .ok → buffer ≠ [] → 0 < result.bytesConsumed) ∧
        (result.status = .ok → buffer.drop result.bytesConsumed ≠ [] →
          KeepsContract (buffer.drop result.bytesConsumed) answers)

section Offers

variable {Wire : Type}

/-- The host after one offer was answered. -/
def Host.consume (host : Host Wire) (result : ReceiveResult) : Host Wire :=
  host.change fun connection ↦
    { connection with incoming := connection.incoming.drop result.bytesConsumed }

theorem offerReceived_cons (result : ReceiveResult)
    (answers : List (Except HilRigError ReceiveResult)) (host : Host Wire) :
    offerReceived (.ok result :: answers) host =
      match result.status with
      | .notReady => .ok () (host.consume result)
      | .capacityExhausted => .ok () (host.consume result)
      | .ok =>
        if (host.consume result).connection.incoming = [] then .ok () (host.consume result)
        else offerReceived answers (host.consume result)
      | status =>
        .error (.session s!"Transport receive returned unexpected status {status.name}")
          (host.consume result) := by
  obtain ⟨consumed, status⟩ := result
  cases status with
  | ok =>
    show (if (host.consume ⟨consumed, .ok⟩).connection.incoming = [] then pure ()
      else offerReceived answers : Action Wire Unit) (host.consume ⟨consumed, .ok⟩) =
        if (host.consume ⟨consumed, .ok⟩).connection.incoming = [] then _ else _
    by_cases hempty : (host.consume ⟨consumed, .ok⟩).connection.incoming = []
    · rw [if_pos hempty, if_pos hempty]
      rfl
    · rw [if_neg hempty, if_neg hempty]
  | _ => rfl

/-- Answers beyond the number of bytes held are never asked for; on an empty buffer there is one
offer. -/
theorem offerReceived_append {answers : List (Except HilRigError ReceiveResult)} {host : Host Wire}
    (hcontract : KeepsContract host.connection.incoming answers)
    (hlength : max 1 host.connection.incoming.length ≤ answers.length)
    (more : List (Except HilRigError ReceiveResult)) :
    offerReceived (answers ++ more) host = offerReceived answers host := by
  induction answers generalizing host with
  | nil => exact absurd hlength (by simp)
  | cons answer answers ih =>
    rw [List.cons_append]
    cases answer with
    | error error => rfl
    | ok result =>
      obtain ⟨hconsumed, hprogress, hlater⟩ := hcontract
      rw [offerReceived_cons, offerReceived_cons]
      cases hstatus : result.status with
      | ok =>
        simp only
        by_cases hempty : (host.consume result).connection.incoming = []
        · rw [if_pos hempty, if_pos hempty]
        · rw [if_neg hempty, if_neg hempty]
          refine ih (hlater hstatus hempty) ?_
          -- Something is left, so something was held, and a byte of it was consumed.
          have hheld : host.connection.incoming ≠ [] := by
            intro hnil
            exact hempty (by rw [show (host.consume result).connection.incoming =
              host.connection.incoming.drop result.bytesConsumed from rfl, hnil, List.drop_nil])
          have hbyte := hprogress hstatus hheld
          have hleft : (host.consume result).connection.incoming.length =
              host.connection.incoming.length - result.bytesConsumed := List.length_drop ..
          have hsome := List.length_pos_of_ne_nil hempty
          simp only [List.length_cons] at hlength
          omega
      | _ => rfl

end Offers

/-! ### Conservation -/

section Conservation

variable {Wire : Type}

/-- What was consumed and what is still held is what was read. -/
def InputConserved (incoming : List UInt8) (log : List SerialEvent) : Prop :=
  consumedBytes log ++ incoming = readBytes log

/-- An event of the output has nothing to do with the input. -/
theorem InputConserved.concat {incoming : List UInt8} {log : List SerialEvent}
    {event : SerialEvent} (hlog : InputConserved incoming log) (hread : event.bytesRead = [])
    (hconsumed : event.bytesConsumed = []) : InputConserved incoming (log ++ [event]) := by
  simpa [InputConserved, hread, hconsumed] using hlog

theorem InputConserved.read {incoming : List UInt8} {log : List SerialEvent}
    (hlog : InputConserved incoming log) (data : List UInt8) :
    InputConserved (incoming ++ data) (log ++ [.read data]) := by
  simpa [InputConserved, SerialEvent.bytesRead, SerialEvent.bytesConsumed, ← List.append_assoc]
    using congrArg (· ++ data) hlog

theorem InputConserved.offered {incoming : List UInt8} {log : List SerialEvent}
    (hlog : InputConserved incoming log) (result : ReceiveResult) :
    InputConserved (incoming.drop result.bytesConsumed) (log ++ [.offered incoming result]) := by
  simpa [InputConserved, SerialEvent.bytesRead, SerialEvent.bytesConsumed] using hlog

/-- Every exchange of a pass conserves the input. -/
theorem keptByExchanges_input : KeptByExchanges SerialBuffers.incoming InputConserved where
  read _ _ data hlog := hlog.read data
  offered _ _ result hlog := hlog.offered result
  peeked _ _ _ _ hlog := hlog.concat rfl rfl
  refused _ _ _ _ _ _ hlog := hlog.concat rfl rfl
  accepted _ _ _ _ _ _ _ hlog := hlog.concat rfl rfl
  completed _ _ _ _ _ _ _ hlog := (hlog.concat rfl rfl).concat rfl rfl

variable (protocol : NativeProtocol Wire)

theorem conserves_call {call : Call Wire} (hclose : ∀ answer, call ≠ .close answer)
    {world : World Wire} (hworld : world.Keeps SerialBuffers.incoming InputConserved) :
    (call.afterLogged protocol world).Keeps SerialBuffers.incoming InputConserved := by
  by_cases hservice : ∃ pass, call = .service pass
  · obtain ⟨pass, rfl⟩ := hservice
    exact keptByExchanges_input.maintains_service protocol (drain_keeps_incoming protocol _)
      (drain_keeps_incoming protocol _) world hworld
  · exact keeps_of_request protocol (by simpa using hservice) hclose hworld

/-! ### Every run -/

/-- Reading, offering and raising lose no byte. In every run that does not close the connection, of
passes with any chunking of the input and any answers of the Transport, what was consumed followed
by what is still held is what was read. And the offers of a pass come to an end: from any host,
answers that keep the contract of `receive_bytes` and are as many as the bytes held, or one when
none is held, decide the outcome, so that further ones are never asked for. -/
theorem input_of_run (timeout : ℕ) (clock : ℕ → ℕ) (builder : Option BuilderHandle)
    (calls : List (Call Wire)) (hcalls : ∀ answer, Call.close answer ∉ calls) :
    (runLogged protocol ⟨Host.create timeout clock builder, []⟩ calls).state =
        run protocol (Host.create timeout clock builder) calls ∧
      consumedBytes (runLogged protocol ⟨Host.create timeout clock builder, []⟩ calls).log ++
          (run protocol (Host.create timeout clock builder) calls).connection.incoming =
        readBytes (runLogged protocol ⟨Host.create timeout clock builder, []⟩ calls).log ∧
      ∀ (host : Host Wire) (answers : List (Except HilRigError ReceiveResult)),
        KeepsContract host.connection.incoming answers →
          max 1 host.connection.incoming.length ≤ answers.length →
            ∀ more, offerReceived (answers ++ more) host = offerReceived answers host := by
  have hstate := state_runLogged protocol ⟨Host.create timeout clock builder, []⟩ calls
  refine ⟨hstate, ?_, fun host answers hcontract hlength ↦
    offerReceived_append hcontract hlength⟩
  have hrun : World.Keeps SerialBuffers.incoming InputConserved
      (runLogged protocol ⟨Host.create timeout clock builder, []⟩ calls) := by
    refine runLogged_maintains protocol (fun call hcall world hworld ↦ ?_) rfl
    exact conserves_call protocol (fun answer heq ↦ hcalls answer (heq ▸ hcall)) hworld
  rw [← hstate]
  exact hrun

end Conservation

/-- Two chunks. The first pass stops with a byte left when the Transport is not ready, and the
second one raises on an unexpected status after one more byte. -/
def chunkedInput : List (Call (OutboundMessage ⊕ InboundMessage)) :=
  [.service { inWaiting := .ok 3, received := .ok [1, 2, 3],
              offers := [.ok ⟨2, .ok⟩, .ok ⟨0, .notReady⟩] },
    .service { inWaiting := .ok 1, received := .ok [4],
               offers := [.ok ⟨1, .messageTooLarge⟩] }]

theorem input_of_chunkedInput :
    consumedBytes (runLogged directCodec ⟨Host.create 5 id none, []⟩ chunkedInput).log ++
        (run directCodec (Host.create 5 id none) chunkedInput).connection.incoming =
      [1, 2, 3, 4] ∧
    (run directCodec (Host.create 5 id none) chunkedInput).connection.incoming = [4] := by
  have hinput := input_of_run directCodec 5 id none chunkedInput
    (by intro answer hclose; simp [chunkedInput] at hclose)
  refine ⟨hinput.2.1.trans ?_, ?_⟩
  · decide +kernel
  · decide +kernel

end HilRig.Protocol
