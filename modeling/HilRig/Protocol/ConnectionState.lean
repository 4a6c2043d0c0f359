import HilRig.Foundations.EffectReachability
import HilRig.Protocol.Application
import HilRig.Results.Adapter
import Mathlib.Data.Finset.Basic

/-!
# The state of one host Application session

`Connection` holds every field the connection object keeps between two calls. One
`ApplicationOperation` is pending at a time: it is submitted to the Transport message by message,
and it is finished when its last message was delivered and its response received.

A `Ledger` is a connection with its history: each `Moment` of it is something that reached the
connection or that it did, with the connection as it was right before. The history is newest first,
it is never read by the code, and it is what the properties of whole runs are stated about.
-/

set_option autoImplicit false
set_option relaxedAutoImplicit false

namespace HilRig.Protocol

open HilRig.Models HilRig.Results HilRig.Foundations

/-! ### Operations -/

/-- Kinds of response-gated operation. -/
inductive OperationKind
  | discovery
  | configuration
  | tick
  | completeTest
  | start
  | abort
  | reset
  deriving DecidableEq, Repr

def OperationKind.name : OperationKind → String
  | .discovery => "discovery"
  | .configuration => "configuration"
  | .tick => "tick"
  | .completeTest => "complete_test"
  | .start => "start"
  | .abort => "abort"
  | .reset => "reset"

/-- Host-visible state of the Application transaction. -/
inductive WorkflowState
  | connecting
  | discovering
  | ready
  | configuring
  | uploading
  | validating
  | readyToStart
  | starting
  | running
  | aborting
  | resetting
  | resultsComplete
  | aborted
  | failed
  deriving DecidableEq, Repr

/-- The workflow state while an operation of a kind is pending. -/
def OperationKind.activeState : OperationKind → WorkflowState
  | .discovery => .discovering
  | .configuration => .configuring
  | .tick => .uploading
  | .completeTest => .validating
  | .start => .starting
  | .abort => .aborting
  | .reset => .resetting

/-- The scope of the response an operation waits for; discovery has a response of its own type. -/
def OperationKind.expectedScope : OperationKind → Option ResponseScope
  | .discovery => none
  | .configuration => some .testConfiguration
  | .tick => some .tick
  | .completeTest => some .completeTest
  | .start => some .executionControl
  | .abort => some .executionControl
  | .reset => some .globalControl

/-- The outcome that reports the success of an operation. -/
def OperationKind.successfulOutcome : OperationKind → ResponseOutcome
  | .start | .abort | .reset => .completed
  | _ => .accepted

/-- Whether the messages of an operation are counted as delivered upload messages. -/
def OperationKind.isUpload : OperationKind → Bool
  | .configuration | .tick => true
  | _ => false

/-- One response-gated operation, containing one or more Transport messages. -/
structure ApplicationOperation (Wire : Type) where
  kind : OperationKind
  encodedMessages : List Wire
  applicationTestId : Option ℕ := none
  tick : Option ℕ := none
  controlCommand : Option ControlCommand := none
  globalControlCommand : Option GlobalControlCommand := none
  nextMessageIndex : ℕ := 0
  responseReceived : Bool := false
  responseDeadline : Option ℕ := none
  responseError : Option String := none
  responseOutcome : Option ResponseOutcome := none
  previousWorkflowState : Option WorkflowState := none
  deriving DecidableEq, Repr

def ApplicationOperation.everyMessageSubmitted {Wire : Type}
    (operation : ApplicationOperation Wire) : Bool :=
  operation.nextMessageIndex == operation.encodedMessages.length

/-! ### Connection -/

/-- Version and diagnostic information confirmed for one Transport session. -/
structure RigSystemInfo where
  protocolVersion : String
  firmwareVersion : String
  diagnosticData : List UInt8
  firmwareGitHash : List UInt8
  deriving DecidableEq, Repr

/-- The fields of a connection; times are readings of a monotonic clock in its own unit. -/
structure Connection (Wire : Type) where
  resultAdapter : Option BuilderHandle := none
  applicationResponseTimeout : ℕ
  incoming : List UInt8 := []
  pendingOutput : Option (List UInt8) := none
  pendingOutputOffset : ℕ := 0
  uploadOperations : List (ApplicationOperation Wire) := []
  pendingOperation : Option (ApplicationOperation Wire) := none
  transportDeliveryPending : Bool := false
  activeUpload : Option FixedIOUploadMessages := none
  uploadMessageCount : ℕ := 0
  uploadMessagesDelivered : ℕ := 0
  uploadAccepted : Bool := false
  executionStarted : Bool := false
  nextResultTick : ℕ := 0
  sessionConfirmed : Bool := false
  sessionInfo : Option RigSystemInfo := none
  lastApplicationResponse : Option ApplicationResponse := none
  retiredApplicationTestIds : Finset ℕ := ∅
  workflowState : WorkflowState := .connecting
  closed : Bool := false

namespace Connection

variable {Wire : Type} (connection : Connection Wire)

/-- Whether every sparse upload message was confirmed by the peer's Transport. -/
def uploadDeliveryComplete : Bool :=
  connection.activeUpload.isSome && decide (0 < connection.uploadMessageCount) &&
    connection.uploadMessagesDelivered == connection.uploadMessageCount

def resultsComplete : Bool :=
  connection.workflowState = .resultsComplete

/-- The Application Test ID of the active upload. -/
def activeId : Option ℕ :=
  connection.activeUpload.map fun upload ↦ upload.uploadAttempt.applicationTestId

def clearActiveTransaction : Connection Wire :=
  { connection with
    uploadOperations := []
    activeUpload := none
    uploadMessageCount := 0
    uploadMessagesDelivered := 0
    uploadAccepted := false
    executionStarted := false
    nextResultTick := 0 }

/-- The identifiers that may not be used again, with the active upload's. -/
def retiredIds : Finset ℕ :=
  match connection.activeId with
  | some id => insert id connection.retiredApplicationTestIds
  | none => connection.retiredApplicationTestIds

def retireActiveUpload : Connection Wire :=
  { connection.clearActiveTransaction with retiredApplicationTestIds := connection.retiredIds }

def failWorkflow : Connection Wire :=
  { connection with
    uploadOperations := []
    pendingOperation := none
    transportDeliveryPending := false
    uploadAccepted := false
    executionStarted := false
    workflowState := .failed }

def invalidateSession : Connection Wire :=
  failWorkflow { connection with
    sessionConfirmed := false
    sessionInfo := none
    pendingOutput := none
    pendingOutputOffset := 0 }

/-- An operation becomes the pending one. -/
def activate (operation : ApplicationOperation Wire) : Connection Wire :=
  { connection with
    pendingOperation := some operation
    workflowState := operation.kind.activeState }

end Connection

/-! ### History -/

/-- Something that reaches a connection or that it does. -/
inductive Interaction (Wire : Type)
  | uploadQueued (compiledTest : CompiledTestIR) (upload : FixedIOUploadMessages)
      (encoded : List Wire)
  | startRequested
  | abortRequested
  | resetRequested
  | closing (answer : Except HilRigError Unit)
  | activated (operation : ApplicationOperation Wire)
  | submitted (message : Wire) (status : TransportStatus)
  | processed (mode : OperatingMode) (status : TransportStatus)
  | event (type : EventType)
  | message (message : InboundMessage)
  | tickStored (builder : BuilderHandle) (result : TickResult)
  | errorStored (builder : BuilderHandle) (record : ApplicationErrorRecord)
  | resultCounted (message : TestResult)

/-- An interaction with the connection right before it. -/
structure Moment (Wire : Type) where
  before : Connection Wire
  interaction : Interaction Wire

/-- A connection with its history, newest moment first. -/
structure Ledger (Wire : Type) where
  connection : Connection Wire
  history : List (Moment Wire) := []

namespace Ledger

variable {Wire : Type} (ledger : Ledger Wire)

/-- Replace the connection. -/
def become (connection : Connection Wire) : Ledger Wire :=
  { ledger with connection := connection }

/-- Record an interaction at the present connection. -/
def note (interaction : Interaction Wire) : Ledger Wire :=
  { ledger with history := ⟨ledger.connection, interaction⟩ :: ledger.history }

/-- An operation becomes the pending one, and its activation is recorded. -/
def activate (operation : ApplicationOperation Wire) : Ledger Wire :=
  (ledger.note (.activated operation)).become (ledger.connection.activate operation)

@[simp] theorem become_connection (connection : Connection Wire) :
    (ledger.become connection).connection = connection :=
  rfl

@[simp] theorem become_history (connection : Connection Wire) :
    (ledger.become connection).history = ledger.history :=
  rfl

@[simp] theorem note_connection (interaction : Interaction Wire) :
    (ledger.note interaction).connection = ledger.connection :=
  rfl

@[simp] theorem note_history (interaction : Interaction Wire) :
    (ledger.note interaction).history = ⟨ledger.connection, interaction⟩ :: ledger.history :=
  rfl

@[simp] theorem activate_connection (operation : ApplicationOperation Wire) :
    (ledger.activate operation).connection = ledger.connection.activate operation :=
  rfl

@[simp] theorem activate_history (operation : ApplicationOperation Wire) :
    (ledger.activate operation).history =
      ⟨ledger.connection, .activated operation⟩ :: ledger.history :=
  rfl

end Ledger

/-- A ledger with the readings of the host's monotonic clock. -/
structure Host (Wire : Type) extends Ledger Wire where
  clock : ℕ → ℕ
  readings : ℕ := 0

namespace Host

variable {Wire : Type} (host : Host Wire)

def change (change : Connection Wire → Connection Wire) : Host Wire :=
  { host with connection := change host.connection }

def note (interaction : Interaction Wire) : Host Wire :=
  { host with history := ⟨host.connection, interaction⟩ :: host.history }

def read : Host Wire :=
  { host with readings := host.readings + 1 }

@[simp] theorem change_toLedger (change : Connection Wire → Connection Wire) :
    (host.change change).toLedger = host.toLedger.become (change host.connection) :=
  rfl

@[simp] theorem note_toLedger (interaction : Interaction Wire) :
    (host.note interaction).toLedger = host.toLedger.note interaction :=
  rfl

@[simp] theorem read_toLedger : host.read.toLedger = host.toLedger :=
  rfl

@[simp] theorem change_connection (change : Connection Wire → Connection Wire) :
    (host.change change).connection = change host.connection :=
  rfl

@[simp] theorem note_connection (interaction : Interaction Wire) :
    (host.note interaction).connection = host.connection :=
  rfl

@[simp] theorem read_connection : host.read.connection = host.connection :=
  rfl

end Host

/-! ### Effects -/

/-- A computation of the host, which may raise. -/
abbrev Action (Wire : Type) (α : Type) : Type := EStateM HilRigError (Host Wire) α

section Effects

variable {Wire : Type} {α : Type}

/-- The connection as it is now. -/
def current : Action Wire (Connection Wire) :=
  fun host ↦ .ok host.connection host

/-- Assign to fields of the connection. -/
def update (change : Connection Wire → Connection Wire) : Action Wire Unit :=
  fun host ↦ .ok () (host.change change)

/-- Record an interaction. -/
def observe (interaction : Interaction Wire) : Action Wire Unit :=
  fun host ↦ .ok () (host.note interaction)

/-- Read the monotonic clock. -/
def monotonic : Action Wire ℕ :=
  fun host ↦ .ok (host.clock host.readings) host.read

/-- The value of a fallible computation, or its exception. -/
def obtainResult (result : Except HilRigError α) : Action Wire α :=
  match result with
  | .ok value => pure value
  | .error error => throw error

variable {β : Type} (host : Host Wire)

theorem run_current_bind (rest : Connection Wire → Action Wire β) :
    (current >>= rest) host = rest host.connection host :=
  rfl

@[simp] theorem finalState_current_bind (rest : Connection Wire → Action Wire β) :
    finalState (current >>= rest) host = finalState (rest host.connection) host :=
  rfl

@[simp] theorem finalState_update (change : Connection Wire → Connection Wire) :
    finalState (update change) host = host.change change :=
  rfl

@[simp] theorem finalState_update_bind (change : Connection Wire → Connection Wire)
    (rest : Unit → Action Wire β) :
    finalState (update change >>= rest) host = finalState (rest ()) (host.change change) :=
  rfl

@[simp] theorem finalState_observe_bind (interaction : Interaction Wire)
    (rest : Unit → Action Wire β) :
    finalState (observe interaction >>= rest) host =
      finalState (rest ()) (host.note interaction) :=
  rfl

@[simp] theorem finalState_monotonic_bind (rest : ℕ → Action Wire β) :
    finalState (monotonic >>= rest) host =
      finalState (rest (host.clock host.readings)) host.read :=
  rfl

/-- A fallible computation leaves the host unchanged, and what follows it runs on its value. -/
theorem finalState_obtainResult_bind (result : Except HilRigError α)
    (rest : α → Action Wire β) :
    finalState (obtainResult result >>= rest) host =
      match result with
      | .ok value => finalState (rest value) host
      | .error _ => host := by
  cases result <;> rfl

end Effects

end HilRig.Protocol
