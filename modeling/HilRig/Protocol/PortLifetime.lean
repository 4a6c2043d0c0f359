import HilRig.Foundations.AtomicUpdate
import HilRig.Protocol.Paths
import HilRig.Protocol.SerialPort

/-!
# The lifetime of the serial port

`connect` finds the port of the rig by its exact description, opens it, and makes a connection over
it. `PortEvent` is what happens to the port meanwhile and in the calls of the connection. `Port` is
what a port allows: its lines are switched off and its device is set before it is opened, bytes pass
only while it is open, and once it has been closed it can only be closed again.

Closing a connection closes the port first, whatever the port answers, and then the Transport, which
can refuse: then the port is closed and the connection is not (`refusedClose`). `Attached` is a
connection with its port, and `PortCall` a call with both answers.

`port_lifetime` says that whatever the system, the native package and the firmware answer, and
whatever is called, all that happens is allowed; and a connection attempt that fails leaves no port
that it has not closed.
-/

set_option autoImplicit false
set_option relaxedAutoImplicit false

namespace HilRig.Protocol

open HilRig.Models HilRig.Results HilRig.Foundations Relation

/-! ### Settings -/

/-- Line coding and flow control as a caller asks for them. -/
structure SerialParameters where
  deviceDescription : String := "USB Serial Device"
  baudRate : ℤ := 115200
  byteSize : ℤ := 8
  parity : String := "N"
  stopBits : ℤ := 1
  readTimeout : ℚ := 0
  writeTimeout : ℚ := 1
  dtr : Bool := false
  rts : Bool := false
  deriving DecidableEq, Repr

/-- The settings that the rig's port has. -/
structure SerialConnectionSettings extends SerialParameters where
  deviceDescription_ne : deviceDescription ≠ ""
  baudRate_eq : baudRate = 115200
  byteSize_eq : byteSize = 8
  parity_eq : parity = "N"
  stopBits_eq : stopBits = 1
  dtr_eq : dtr = false
  rts_eq : rts = false

/-- The checks of the settings, in order. -/
def SerialConnectionSettings.create (parameters : SerialParameters) :
    Except HilRigError SerialConnectionSettings :=
  if hdescription : parameters.deviceDescription = "" then
    .error (.value "device_description must be a non-empty string")
  else if hbaud : parameters.baudRate ≠ 115200 then
    .error (.value "the RIG USB serial baud rate must be 115200")
  else if hsize : parameters.byteSize ≠ 8 then
    .error (.value "the RIG USB serial byte size must be 8")
  else if hparity : parameters.parity ≠ "N" then
    .error (.value "the RIG USB serial parity must be none ('N')")
  else if hstop : parameters.stopBits ≠ 1 then
    .error (.value "the RIG USB serial stop bits must be 1")
  else if hlines : parameters.dtr = true ∨ parameters.rts = true then
    .error (.value "DTR and RTS must remain disabled for the current RIG")
  else
    .ok ⟨parameters, hdescription, not_not.1 hbaud, not_not.1 hsize, not_not.1 hparity,
      not_not.1 hstop, Bool.eq_false_iff.2 fun hdtr ↦ hlines (.inl hdtr),
      Bool.eq_false_iff.2 fun hrts ↦ hlines (.inr hrts)⟩

/-- The settings that are accepted are those of the rig. -/
theorem SerialConnectionSettings.exists_create_iff (parameters : SerialParameters) :
    (∃ settings, create parameters = .ok settings) ↔
      parameters.deviceDescription ≠ "" ∧ parameters.baudRate = 115200 ∧
        parameters.byteSize = 8 ∧ parameters.parity = "N" ∧ parameters.stopBits = 1 ∧
        parameters.dtr = false ∧ parameters.rts = false := by
  constructor
  · rintro ⟨settings, hcreated⟩
    have hsame : settings.toSerialParameters = parameters := by
      unfold create at hcreated
      split_ifs at hcreated
      exact congrArg toSerialParameters (Except.ok.inj hcreated).symm
    subst hsame
    exact ⟨settings.deviceDescription_ne, settings.baudRate_eq, settings.byteSize_eq,
      settings.parity_eq, settings.stopBits_eq, settings.dtr_eq, settings.rts_eq⟩
  · rintro ⟨hdescription, hbaud, hsize, hparity, hstop, hdtr, hrts⟩
    refine ⟨⟨parameters, hdescription, hbaud, hsize, hparity, hstop, hdtr, hrts⟩, ?_⟩
    simp [create, hdescription, hbaud, hsize, hparity, hstop, hdtr, hrts]

/-- The settings without a caller's wishes. -/
def SerialConnectionSettings.default : SerialConnectionSettings :=
  ⟨{}, by decide, rfl, rfl, rfl, rfl, rfl, rfl⟩

/-- What a port is made with: it has no device yet, and no flow control. -/
structure PortArguments where
  port : Option String := none
  baudRate : ℤ
  byteSize : ℤ
  parity : String
  stopBits : ℤ
  timeout : ℚ
  writeTimeout : ℚ
  xonxoff : Bool := false
  rtscts : Bool := false
  dsrdtr : Bool := false
  deriving DecidableEq, Repr

def SerialConnectionSettings.arguments (settings : SerialConnectionSettings) : PortArguments where
  baudRate := settings.baudRate
  byteSize := settings.byteSize
  parity := settings.parity
  stopBits := settings.stopBits
  timeout := settings.readTimeout
  writeTimeout := settings.writeTimeout

/-- The line coding of the rig, without flow control and before a device is set. -/
def PortArguments.IsRig (arguments : PortArguments) : Prop :=
  arguments.port = none ∧ arguments.baudRate = 115200 ∧ arguments.byteSize = 8 ∧
    arguments.parity = "N" ∧ arguments.stopBits = 1 ∧ arguments.xonxoff = false ∧
    arguments.rtscts = false ∧ arguments.dsrdtr = false
  deriving Decidable

/-! ### Discovery -/

/-- A port as the system lists it; an attribute that is absent or no string is `none`. -/
structure PortInfo where
  description : Option String
  device : Option String
  deriving DecidableEq, Repr

/-- What making a connection raises: the errors of a missing package, of a device that was not
found or has no usable name, and all others. -/
inductive SetupError
  | dependency (message : String)
  | notFound (description : String)
  | unusable (description : String)
  | raised (error : HilRigError)
  deriving DecidableEq, Repr

/-- The device of the first port with exactly this description. -/
def discoverSerialPort (description : String) (comports : Except SetupError (List PortInfo)) :
    Except SetupError String :=
  if description = "" then .error (.raised (.value "description must be a non-empty string"))
  else do
    let ports ← comports
    match ports.find? fun port ↦ port.description = some description with
    | none => .error (.notFound description)
    | some port =>
      match port.device with
      | none => .error (.unusable description)
      | some device => if device = "" then .error (.unusable description) else .ok device

/-- A discovered device is that of the first port with exactly the description. -/
theorem discoverSerialPort_eq_ok {description device : String}
    {comports : Except SetupError (List PortInfo)}
    (hdevice : discoverSerialPort description comports = .ok device) :
    ∃ ports, comports = .ok ports ∧ ports.find? (fun port ↦ port.description = some description) =
      some ⟨some description, some device⟩ := by
  unfold discoverSerialPort at hdevice
  split_ifs at hdevice
  obtain ⟨ports, hports, hdevice⟩ := bind_eq_ok.1 hdevice
  refine ⟨ports, hports, ?_⟩
  split at hdevice
  · cases hdevice
  · rename_i port hfound
    split at hdevice
    · cases hdevice
    · rename_i name hname
      rw [ite_error_eq_ok] at hdevice
      have hdescription : port.description = some description := by
        simpa using List.find?_some hfound
      rw [hfound, ← hdescription, ← Except.ok.inj hdevice.2, ← hname]

example : discoverSerialPort "USB Serial Device" (.ok [⟨"USB Serial Device (COM4)", "COM4"⟩,
    ⟨"USB Serial Device", "COM7"⟩, ⟨"USB Serial Device", "COM3"⟩]) = .ok "COM7" :=
  rfl

/-! ### What happens to the port -/

inductive PortEvent
  | created (arguments : PortArguments)
  | dtr (value : Bool)
  | rts (value : Bool)
  | device (name : String)
  | opened
  | exchanged (event : SerialEvent)
  | closing (answer : Except HilRigError Unit)

/-- A computation that logs what happens to the port. -/
abbrev PortAction (α : Type) : Type := EStateM SetupError (List PortEvent) α

def emit (event : PortEvent) : PortAction Unit :=
  fun log ↦ .ok () (log ++ [event])

/-- Take an answer of the environment. -/
def obtainAnswer {α : Type} (answer : Except SetupError α) : PortAction α := fun log ↦
  match answer with
  | .ok value => .ok value log
  | .error error => .error error log

/-- An operation on the port, which is logged when it took effect. -/
def perform (answer : Except SetupError Unit) (event : PortEvent) : PortAction Unit := do
  obtainAnswer answer
  emit event

/-- What the system and pySerial answer while a port is opened. -/
structure PortAnswers where
  comports : Except SetupError (List PortInfo)
  serialFactory : Except SetupError Unit
  dtr : Except SetupError Unit
  rts : Except SetupError Unit
  port : Except SetupError Unit
  opening : Except SetupError Unit
  closing : Except HilRigError Unit

/-- Close the port of an attempt that failed; an error of it is suppressed. -/
def PortAnswers.abandon {α : Type} (answers : PortAnswers) (error : SetupError) :
    PortAction α := do
  emit (.closing answers.closing)
  throw error

/-- The lines are switched off before the port is opened. -/
def PortAnswers.openWith (answers : PortAnswers) (settings : SerialConnectionSettings)
    (device : String) : PortAction Unit := do
  perform answers.dtr (.dtr settings.dtr)
  perform answers.rts (.rts settings.rts)
  perform answers.port (.device device)
  perform answers.opening .opened

def couldNotOpen (device : String) : SetupError :=
  .raised (.session s!"Could not open HIL-RIG serial port {device}")

/-- Discover and open the port of the rig. -/
def openSerialPort (answers : PortAnswers) (settings : Option SerialConnectionSettings) :
    PortAction Unit := do
  let settings := settings.getD .default
  let device ← obtainAnswer (discoverSerialPort settings.deviceDescription answers.comports)
  perform answers.serialFactory (.created settings.arguments)
  tryCatch (answers.openWith settings device) fun _ ↦ answers.abandon (couldNotOpen device)

/-- The names that the native package needs for a control flow. -/
def controlFlowApi : List String :=
  ["PROTOCOL_VERSION", "SystemInfoRequest", "SystemInfoResponse", "ApplicationResponse",
    "ApplicationErrorMessage", "ExecutionControl", "GlobalControl", "ControlCommand",
    "GlobalControlCommand", "ResponseScope", "ResponseOutcome", "ResponseReason",
    "check_protocol_version"]

/-- What the native package answers while a connection is made; `names` are those it has. -/
structure ConnectAnswers extends PortAnswers where
  names : Except SetupError (List String)
  codec : Except SetupError Unit
  transportConfig : Except SetupError Unit
  transport : Except SetupError Unit
  linkState : Except SetupError Unit

/-- The checks of the adapter between the connection and the native package. -/
def createAdapter (answers : ConnectAnswers) : PortAction Unit := do
  let names ← obtainAnswer answers.names
  let missing := controlFlowApi.filter fun name ↦ name ∉ names
  if missing ≠ [] then
    throw (.dependency
      ("Fixed-I/O protocol control flow requires hil-rig-protocol 0.2.0 or newer; " ++
        "missing public API: " ++ ", ".intercalate missing))
  else obtainAnswer answers.codec

section Connect

variable {Wire : Type}

/-- The connection over an open port. -/
def createConnection (answers : ConnectAnswers) (timeout : ℤ) (clock : ℕ → ℕ)
    (builder : Option BuilderHandle) : PortAction (Host Wire) := do
  obtainAnswer answers.transport
  if timeout ≤ 0 then
    throw (.raised (.value "application_response_timeout_s must be a positive number"))
  else
    obtainAnswer answers.linkState
    return Host.create timeout.toNat clock builder

/-- Discover the port, open it, and begin a host session. -/
def connect (answers : ConnectAnswers) (settings : Option SerialConnectionSettings) (timeout : ℤ)
    (clock : ℕ → ℕ) (builder : Option BuilderHandle) : PortAction (Host Wire) := do
  createAdapter answers
  obtainAnswer answers.transportConfig
  openSerialPort answers.toPortAnswers settings
  tryCatch (createConnection answers timeout clock builder) answers.abandon

end Connect

/-! ### What a port allows -/

/-- A port: it is made, opened with its device and closed. -/
inductive Port
  | absent
  | created (dtr rts : Option Bool) (device : Option String)
  | opened (device : String)
  | closed
  deriving DecidableEq, Repr

/-- The port after an event, if the event is allowed. A port that could not be opened is done with,
whatever closing it answers; an open port stays open while closing it fails, and closing a closed
port does nothing. -/
def Port.step : Port → PortEvent → Option Port
  | .absent, .created arguments => if arguments.IsRig then some (.created none none none) else none
  | .created _ rts device, .dtr value => some (.created (some value) rts device)
  | .created dtr _ device, .rts value => some (.created dtr (some value) device)
  | .created dtr rts _, .device name => some (.created dtr rts (some name))
  | .created (some false) (some false) (some device), .opened => some (.opened device)
  | .created _ _ _, .closing _ => some .closed
  | .opened device, .exchanged _ => some (.opened device)
  | .opened _, .closing (.ok _) => some .closed
  | .opened device, .closing (.error _) => some (.opened device)
  | .closed, .closing _ => some .closed
  | _, _ => none

/-- The port after some events, if all of them are allowed. -/
def Port.follow (port : Port) (events : List PortEvent) : Option Port :=
  events.foldlM Port.step port

/-! ### Calls -/

/-- Whether an event is one of the port, and not of the Transport. -/
def SerialEvent.isPort : SerialEvent → Bool
  | .read _ | .wrote _ _ => true
  | _ => false

/-- A call, and what closing the port answers in it. -/
structure PortCall (Wire : Type) where
  call : Call Wire
  closing : Except HilRigError Unit := .ok ()

/-- A connection with its port. -/
structure Attached (Wire : Type) where
  host : Host Wire
  port : Port

/-- What pySerial raises when a port that is not open is asked for its bytes. -/
def portNotOpen : HilRigError :=
  ⟨.native, "Attempting to use a port that is not open"⟩

section Calls

variable {Wire : Type} (protocol : NativeProtocol Wire)

/-- A pass as the port answers it: a closed port raises. -/
def Port.answered (port : Port) (pass : ServicePass Wire) : ServicePass Wire :=
  if port = .closed then { pass with inWaiting := .error portNotOpen } else pass

/-- A call as the port answers it. -/
def PortCall.answered (port : Port) (call : PortCall Wire) : Call Wire :=
  match call.call with
  | .service pass => .service (port.answered pass)
  | request => request

/-- The port after it was closed: a close that fails leaves it as it was. -/
def Port.afterClosing (port : Port) : Except HilRigError Unit → Port
  | .ok _ => .closed
  | .error _ => port

namespace Attached

/-- What a call does to the port. An error of closing it is suppressed. -/
def events (attached : Attached Wire) (call : PortCall Wire) : List PortEvent :=
  match call.call with
  | .service pass =>
    ((finalState (serviceLogged protocol (attached.port.answered pass))
      ⟨attached.host, []⟩).log.filter SerialEvent.isPort).map .exchanged
  | .close _ => if attached.host.connection.closed = true then [] else [.closing call.closing]
  | _ => []

/-- The connection and the port after a call. -/
def after (attached : Attached Wire) (call : PortCall Wire) : Attached Wire where
  host := (call.answered attached.port).after protocol attached.host
  port :=
    match call.call with
    | .close _ =>
      if attached.host.connection.closed = true then attached.port
      else attached.port.afterClosing call.closing
    | _ => attached.port

/-- The connection and the port after some calls. -/
def run (attached : Attached Wire) (calls : List (PortCall Wire)) : Attached Wire :=
  calls.foldl (fun attached call ↦ attached.after protocol call) attached

/-- The calls as the port answers them. -/
def answered (attached : Attached Wire) : List (PortCall Wire) → List (Call Wire)
  | [] => []
  | call :: calls =>
    call.answered attached.port :: (attached.after protocol call).answered calls

/-- What calls do to the port, one after the other. -/
def portEvents (attached : Attached Wire) : List (PortCall Wire) → List PortEvent
  | [] => []
  | call :: calls => attached.events protocol call ++
      (attached.after protocol call).portEvents calls

end Attached

end Calls

/-! ### Opening -/

section Opening

variable {answers : PortAnswers} {settings : SerialConnectionSettings} {device : String}

/-- A computation logs some events when it returns, and the first of them when it raises. -/
def Emits (action : PortAction Unit) (events : List PortEvent) : Prop :=
  ∀ log, action log = .ok () (log ++ events) ∨
    ∃ error first, first <+: events ∧ action log = .error error (log ++ first)

theorem emits_perform (answer : Except SetupError Unit) (event : PortEvent) :
    Emits (perform answer event) [event] := by
  intro log
  cases answer with
  | ok _ => exact .inl rfl
  | error error => exact .inr ⟨error, [], List.nil_prefix , by rw [List.append_nil]; rfl⟩

theorem Emits.bind {first second : PortAction Unit} {events later : List PortEvent}
    (hfirst : Emits first events) (hsecond : Emits second later) :
    Emits (first >>= fun _ ↦ second) (events ++ later) := by
  intro log
  rcases hfirst log with hreturned | ⟨error, done, hdone, hraised⟩
  · rcases hsecond (log ++ events) with hlater | ⟨error, done, hdone, hraised⟩
    · left
      rw [run_bind_of_ok hreturned, hlater, List.append_assoc]
    · right
      refine ⟨error, events ++ done, (List.prefix_append_right_inj events).2 hdone, ?_⟩
      rw [run_bind_of_ok hreturned, hraised, List.append_assoc]
  · right
    exact ⟨error, done, hdone.trans (List.prefix_append events later),
      run_bind_of_error hraised _⟩

/-- The events of a port that is opened. -/
def openingEvents (settings : SerialConnectionSettings) (device : String) : List PortEvent :=
  [.created settings.arguments, .dtr false, .rts false, .device device, .opened]

/-- What an attempt that failed leaves: nothing has happened, or the port was closed last. -/
def PortAnswers.Abandoned (answers : PortAnswers) (settings : SerialConnectionSettings)
    (events : List PortEvent) : Prop :=
  events = [] ∨ ∃ device first, first <+: openingEvents settings device ∧ first ≠ [] ∧
    events = first ++ [.closing answers.closing]

theorem emits_openWith :
    Emits (answers.openWith settings device) [.dtr false, .rts false, .device device, .opened] := by
  have hdtr := emits_perform answers.dtr (.dtr settings.dtr)
  have hrts := emits_perform answers.rts (.rts settings.rts)
  rw [settings.dtr_eq] at hdtr
  rw [settings.rts_eq] at hrts
  rw [PortAnswers.openWith, settings.dtr_eq, settings.rts_eq]
  exact hdtr.bind (hrts.bind ((emits_perform _ _).bind (emits_perform _ _)))

/-- Opening opens the port of the discovered device, or leaves none that is not closed. -/
theorem openSerialPort_run (answers : PortAnswers) (settings : Option SerialConnectionSettings)
    (log : List PortEvent) :
    (∃ device, discoverSerialPort (settings.getD .default).deviceDescription answers.comports =
        .ok device ∧ openSerialPort answers settings log =
          .ok () (log ++ openingEvents (settings.getD .default) device)) ∨
      ∃ error events, openSerialPort answers settings log = .error error (log ++ events) ∧
        answers.Abandoned (settings.getD .default) events := by
  have hnothing {error : SetupError} (hraised : openSerialPort answers settings log =
      .error error log) : ∃ error events, openSerialPort answers settings log =
        .error error (log ++ events) ∧ answers.Abandoned (settings.getD .default) events :=
    ⟨error, [], by rw [hraised, List.append_nil], .inl rfl⟩
  cases hdevice : discoverSerialPort (settings.getD .default).deviceDescription
      answers.comports with
  | error error =>
    right
    refine @hnothing error ?_
    rw [openSerialPort, hdevice]
    rfl
  | ok device =>
    cases hfactory : answers.serialFactory with
    | error error =>
      right
      refine @hnothing error ?_
      rw [openSerialPort, hdevice, hfactory]
      rfl
    | ok made =>
      have hcreated : openSerialPort answers settings log =
          tryCatch (answers.openWith (settings.getD .default) device)
            (fun _ ↦ answers.abandon (couldNotOpen device))
            (log ++ [.created (settings.getD .default).arguments]) := by
        rw [openSerialPort, hdevice, hfactory]
        rfl
      rcases emits_openWith (log ++ [.created (settings.getD .default).arguments]) with
        hopened | ⟨error, first, hfirst, hraised⟩
      · left
        refine ⟨device, rfl, ?_⟩
        rw [hcreated, run_tryCatch_of_ok hopened, List.append_assoc]
        rfl
      · right
        refine ⟨couldNotOpen device, .created (settings.getD .default).arguments :: first ++
          [.closing answers.closing], ?_, .inr ⟨device, _, ?_, List.cons_ne_nil _ _, rfl⟩⟩
        · rw [hcreated, run_tryCatch_of_error hraised]
          show EStateM.Result.error _ (_ ++ _ ++ _ ++ _) = _
          rw [List.append_assoc, List.append_assoc]
          rfl
        · exact List.cons_prefix_cons.2 ⟨rfl, hfirst⟩

end Opening

/-! ### Connecting -/

section Connecting

variable {Wire : Type} {answers : ConnectAnswers} {timeout : ℤ} {clock : ℕ → ℕ}
  {builder : Option BuilderHandle}

/-- A computation that leaves the log alone. -/
theorem unchanged_obtainAnswer {α : Type} (answer : Except SetupError α) :
    Unchanged id (obtainAnswer answer) := by
  intro log
  cases answer <;> rfl

theorem unchanged_createAdapter : Unchanged id (createAdapter answers) :=
  (unchanged_obtainAnswer _).bind fun _ ↦
    (Unchanged.throw _).ite (unchanged_obtainAnswer _)

theorem unchanged_createConnection :
    Unchanged id (createConnection answers timeout clock builder : PortAction (Host Wire)) :=
  (unchanged_obtainAnswer _).bind fun _ ↦ (Unchanged.throw _).ite
    ((unchanged_obtainAnswer _).bind fun _ ↦ Unchanged.pure _)

theorem run_of_unchanged {α : Type} {action : PortAction α} (hunchanged : Unchanged id action)
    (log : List PortEvent) :
    (∃ value, action log = .ok value log) ∨ ∃ error, action log = .error error log := by
  have hlog := hunchanged log
  cases hrun : action log with
  | ok value after =>
    rw [finalState, hrun] at hlog
    exact .inl ⟨value, by rw [show after = log from hlog]⟩
  | error error after =>
    rw [finalState, hrun] at hlog
    exact .inr ⟨error, by rw [show after = log from hlog]⟩

/-- A connection is made with the timeout, the clock and the builder it was asked for. -/
theorem createConnection_eq_ok {host : Host Wire} {log after : List PortEvent}
    (hmade : createConnection answers timeout clock builder log = .ok host after) :
    host = Host.create timeout.toNat clock builder := by
  rw [createConnection, run_bind_eq_ok] at hmade
  obtain ⟨_, middle, -, hmade⟩ := hmade
  by_cases htimeout : timeout ≤ 0
  · rw [if_pos htimeout] at hmade
    cases hmade
  · rw [if_neg htimeout, run_bind_eq_ok] at hmade
    obtain ⟨_, _, -, hmade⟩ := hmade
    exact (EStateM.Result.ok.inj hmade).1.symm

/-- Connecting makes a connection over the opened port of the discovered device, or leaves none
that is not closed. -/
theorem connect_run (answers : ConnectAnswers) (settings : Option SerialConnectionSettings)
    (timeout : ℤ) (clock : ℕ → ℕ) (builder : Option BuilderHandle) :
    (∃ device, discoverSerialPort (settings.getD .default).deviceDescription answers.comports =
        .ok device ∧ (connect answers settings timeout clock builder : PortAction (Host Wire)) [] =
          .ok (Host.create timeout.toNat clock builder)
            (openingEvents (settings.getD .default) device)) ∨
      ∃ error events,
        (connect answers settings timeout clock builder : PortAction (Host Wire)) [] =
          .error error events ∧ answers.Abandoned (settings.getD .default) events := by
  rcases run_of_unchanged (@unchanged_createAdapter answers) [] with
    ⟨_, hadapter⟩ | ⟨error, hadapter⟩
  · rcases run_of_unchanged (unchanged_obtainAnswer answers.transportConfig) [] with
      ⟨_, hconfig⟩ | ⟨error, hconfig⟩
    · rw [connect, run_bind_of_ok hadapter, run_bind_of_ok hconfig]
      rcases openSerialPort_run answers.toPortAnswers settings [] with
        ⟨device, hdevice, hopened⟩ | ⟨error, events, hraised, habandoned⟩
      · rw [run_bind_of_ok hopened, List.nil_append]
        rcases run_of_unchanged (@unchanged_createConnection Wire answers timeout clock builder)
          (openingEvents (settings.getD .default) device) with ⟨host, hmade⟩ | ⟨error, hmade⟩
        · left
          refine ⟨device, hdevice, ?_⟩
          rw [run_tryCatch_of_ok hmade, createConnection_eq_ok hmade]
        · right
          refine ⟨error, _, (run_tryCatch_of_error hmade _).trans rfl, .inr ⟨device,
            openingEvents (settings.getD .default) device, List.prefix_rfl, ?_, rfl⟩⟩
          exact List.cons_ne_nil _ _
      · right
        rw [List.nil_append] at hraised
        exact ⟨error, events, run_bind_of_error hraised _, habandoned⟩
    · right
      refine ⟨error, [], ?_, .inl rfl⟩
      rw [connect, run_bind_of_ok hadapter, run_bind_of_error hconfig]
  · right
    exact ⟨error, [], run_bind_of_error hadapter _, .inl rfl⟩

end Connecting

/-! ### The lifetime -/

section Lifetime

variable {Wire : Type} (protocol : NativeProtocol Wire)

theorem follow_append {port middle : Port} {events later : List PortEvent}
    (hevents : port.follow events = some middle) :
    port.follow (events ++ later) = middle.follow later := by
  rw [Port.follow, List.foldlM_append]
  show (port.follow events).bind _ = _
  rw [hevents]
  rfl

theorem step_created (settings : SerialConnectionSettings) :
    Port.absent.step (.created settings.arguments) = some (.created none none none) :=
  if_pos ⟨rfl, settings.baudRate_eq, settings.byteSize_eq, settings.parity_eq,
    settings.stopBits_eq, rfl, rfl, rfl⟩

theorem follow_cons {port next : Port} {event : PortEvent} (hevent : port.step event = some next)
    (events : List PortEvent) : port.follow (event :: events) = next.follow events := by
  rw [Port.follow, List.foldlM_cons, hevent]
  rfl

/-- Whatever has happened of an opening, the port allows it, and then to be closed. -/
theorem follow_openingEvents (settings : SerialConnectionSettings) (device : String)
    (answer : Except HilRigError Unit) {first : List PortEvent}
    (hfirst : first <+: openingEvents settings device) (hsome : first ≠ []) :
    (Port.absent.follow (first ++ [.closing answer])).isSome = true := by
  simp only [openingEvents, List.prefix_cons_iff, List.prefix_nil] at hfirst
  rcases hfirst with rfl | ⟨_, rfl, hfirst⟩
  · exact absurd rfl hsome
  · rw [List.cons_append, follow_cons (step_created settings)]
    rcases hfirst with rfl | ⟨_, rfl, rfl | ⟨_, rfl, rfl | ⟨_, rfl, rfl | ⟨_, rfl, rfl⟩⟩⟩⟩
    · rfl
    · rfl
    · rfl
    · rfl
    · cases answer <;> rfl

theorem follow_exchanged (device : String) (events : List SerialEvent) :
    (Port.opened device).follow (events.map .exchanged) = some (.opened device) := by
  induction events with
  | nil => rfl
  | cons event events ih => exact ih

/-- A pass that raises before it reads exchanges nothing. -/
theorem log_serviceLogged {host : Host Wire} {pass : ServicePass Wire}
    (hraises : host.connection.closed = true ∨ ∃ error, pass.inWaiting = .error error) :
    (finalState (serviceLogged protocol pass) ⟨host, []⟩).log = [] := by
  rw [serviceLogged]
  cases hclosed : host.connection.closed with
  | true =>
    have hraised : requireOpen host =
        .error (.session "The fixed-I/O protocol connection is closed") host := by
      rw [requireOpen, run_current_bind, if_pos hclosed]
      rfl
    have hlifted : (lift requireOpen : LoggedAction Wire Unit) ⟨host, []⟩ =
        .error (.session "The fixed-I/O protocol connection is closed") ⟨host, []⟩ := by
      rw [lift, hraised]
    rw [finalState_bind_of_error hlifted]
  | false =>
    obtain ⟨error, hwaiting⟩ := hraises.resolve_left (by simp [hclosed])
    have hchecked : requireOpen host = .ok () host := by
      rw [requireOpen, run_current_bind, if_neg (Bool.eq_false_iff.1 hclosed)]
      rfl
    have hlifted : (lift requireOpen : LoggedAction Wire Unit) ⟨host, []⟩ = .ok () ⟨host, []⟩ := by
      rw [lift, hchecked]
    have hread : (readSerialLogged pass.inWaiting pass.received : LoggedAction Wire ℕ) ⟨host, []⟩ =
        .error error ⟨host, []⟩ := by
      rw [hwaiting]
      rfl
    rw [finalState_bind_of_ok hlifted, finalState_bind_of_error hread]

/-- A pass of a closed connection or on a closed port does nothing to the port. -/
theorem events_service {attached : Attached Wire} {pass : ServicePass Wire}
    {closing : Except HilRigError Unit}
    (hclosed : attached.host.connection.closed = true ∨ attached.port = .closed) :
    attached.events protocol ⟨.service pass, closing⟩ = [] := by
  have hraises : attached.host.connection.closed = true ∨
      ∃ error, (attached.port.answered pass).inWaiting = .error error :=
    hclosed.imp_right fun hport ↦ ⟨portNotOpen, by rw [Port.answered, if_pos hport]⟩
  show ((finalState (serviceLogged protocol (attached.port.answered pass))
    ⟨attached.host, []⟩).log.filter SerialEvent.isPort).map PortEvent.exchanged = []
  rw [log_serviceLogged protocol hraises]
  rfl

/-- Only closing closes an open connection. -/
theorem open_after {host : Host Wire} (hopen : host.connection.closed = false) {call : Call Wire}
    (hclose : ∀ answer, call ≠ .close answer) :
    (call.after protocol host).connection.closed = false := by
  cases call with
  | bindResultBuilder builder replace =>
    exact (@steps_of_moves _ protocol _ _ hopen (Moves.bindResultBuilder builder replace host)).2
  | queueUpload compiledTest uploadAttempt draws session =>
    exact (@steps_of_moves _ protocol _ _ hopen
      ((Serves.queueUpload compiledTest uploadAttempt draws session).moves host)).2
  | start => exact (@steps_of_moves _ protocol _ _ hopen (Serves.start.moves host)).2
  | abort => exact (@steps_of_moves _ protocol _ _ hopen (Serves.abort.moves host)).2
  | resetApplication =>
    exact (@steps_of_moves _ protocol _ _ hopen (Serves.resetApplication.moves host)).2
  | service pass =>
    exact (@steps_of_moves _ protocol _ _ hopen ((Serves.service pass).moves host)).2
  | close answer => exact absurd rfl (hclose answer)

/-- A port is the port of a connection while it is open or closed. -/
def Port.Made (device : String) (port : Port) : Prop :=
  port = .opened device ∨ port = .closed

theorem Port.Made.afterClosing {device : String} {port : Port} (hmade : port.Made device)
    (answer : Except HilRigError Unit) : (port.afterClosing answer).Made device := by
  cases answer with
  | ok _ => exact .inr rfl
  | error error => exact hmade

theorem follow_closing {device : String} {port : Port} (hmade : port.Made device)
    (answer : Except HilRigError Unit) :
    port.follow [.closing answer] = some (port.afterClosing answer) := by
  obtain rfl | rfl := hmade
  · cases answer <;> rfl
  · cases answer <;> rfl

theorem made_after {device : String} {attached : Attached Wire}
    (hmade : attached.port.Made device) (call : PortCall Wire) :
    (attached.after protocol call).port.Made device := by
  obtain ⟨call, closing⟩ := call
  cases call with
  | close answer =>
    show Port.Made device (if attached.host.connection.closed = true then _ else _)
    split_ifs
    · exact hmade
    · exact hmade.afterClosing closing
  | _ => exact hmade

/-- The port allows what a call does to it. -/
theorem follow_events {device : String} {attached : Attached Wire}
    (hmade : attached.port.Made device) (call : PortCall Wire) :
    attached.port.follow (attached.events protocol call) =
      some (attached.after protocol call).port := by
  obtain ⟨call, closing⟩ := call
  cases call with
  | close answer =>
    show attached.port.follow (if attached.host.connection.closed = true then _ else _) =
      some (if attached.host.connection.closed = true then _ else _)
    split_ifs
    · rfl
    · exact follow_closing hmade closing
  | service pass =>
    obtain hopened | hclosed := hmade
    · show attached.port.follow (List.map PortEvent.exchanged _) = some attached.port
      rw [hopened]
      exact follow_exchanged device _
    · rw [events_service protocol (.inr hclosed)]
      rfl
  | _ => rfl

/-- A closed connection does nothing to the port, and only closing the port closes a connection. -/
theorem events_of_closed_after {attached : Attached Wire} {call : PortCall Wire}
    (hclosed : (attached.after protocol call).host.connection.closed = true) :
    (attached.host.connection.closed = true ∧ attached.events protocol call = []) ∨
      attached.events protocol call = [.closing call.closing] := by
  obtain ⟨call, closing⟩ := call
  cases hbefore : attached.host.connection.closed with
  | true =>
    left
    refine ⟨rfl, ?_⟩
    cases call with
    | service pass => exact events_service protocol (.inl hbefore)
    | close answer => exact if_pos hbefore
    | _ => rfl
  | false =>
    right
    cases call with
    | close answer => exact if_neg (Bool.eq_false_iff.1 hbefore)
    | _ =>
      refine absurd (hclosed.symm.trans (open_after protocol hbefore ?_)) (by decide)
      rintro _ ⟨⟩

/-! #### Runs -/

theorem run_answered (calls : List (PortCall Wire)) (attached : Attached Wire) :
    (attached.run protocol calls).host =
      run protocol attached.host (attached.answered protocol calls) := by
  induction calls generalizing attached with
  | nil => rfl
  | cons call calls ih => exact ih (attached.after protocol call)

theorem follow_portEvents {device : String} (calls : List (PortCall Wire))
    {attached : Attached Wire} (hmade : attached.port.Made device) :
    attached.port.follow (attached.portEvents protocol calls) =
      some (attached.run protocol calls).port := by
  induction calls generalizing attached with
  | nil => rfl
  | cons call calls ih =>
    exact (follow_append (follow_events protocol hmade call)).trans
      (ih (made_after protocol hmade call))

/-- A port is closed by a close that it answers, and stays so. -/
theorem follow_eq_closed_iff {port final : Port} {device : String} (hmade : port.Made device)
    {events : List PortEvent} (hfollow : port.follow events = some final) :
    final = .closed ↔ port = .closed ∨ .closing (.ok ()) ∈ events := by
  induction events generalizing port with
  | nil =>
    obtain rfl := Option.some.inj hfollow
    simp
  | cons event events ih =>
    rw [Port.follow, List.foldlM_cons] at hfollow
    obtain ⟨next, hnext, hrest⟩ := Option.bind_eq_some_iff.1 hfollow
    have hevent : next.Made device ∧
        (next = .closed ↔ port = .closed ∨ event = .closing (.ok ())) := by
      obtain rfl | rfl := hmade
      · cases event with
        | exchanged exchange =>
          obtain rfl := Option.some.inj hnext
          exact ⟨.inl rfl, by simp⟩
        | closing answer =>
          cases answer with
          | ok _ =>
            obtain rfl := Option.some.inj hnext
            exact ⟨.inr rfl, by simp⟩
          | error error =>
            obtain rfl := Option.some.inj hnext
            exact ⟨.inl rfl, by simp⟩
        | _ => cases hnext
      · cases event with
        | closing answer =>
          obtain rfl := Option.some.inj hnext
          exact ⟨.inr rfl, by simp⟩
        | _ => cases hnext
    rw [ih hevent.1 hrest, hevent.2, List.mem_cons, or_assoc, @eq_comm _ event]

theorem portEvents_of_closed (calls : List (PortCall Wire)) (attached : Attached Wire)
    (hclosed : (attached.run protocol calls).host.connection.closed = true) :
    (attached.host.connection.closed = true ∧ attached.portEvents protocol calls = []) ∨
      ∃ earlier answer, attached.portEvents protocol calls = earlier ++ [.closing answer] := by
  induction calls generalizing attached with
  | nil => exact .inl ⟨hclosed, rfl⟩
  | cons call calls ih =>
    rcases ih (attached.after protocol call) hclosed with ⟨hafter, hrest⟩ | ⟨earlier, answer, hrest⟩
    · rcases events_of_closed_after protocol hafter with ⟨hbefore, hevents⟩ | hevents
      · exact .inl ⟨hbefore, by rw [Attached.portEvents, hevents, hrest]; rfl⟩
      · exact .inr ⟨[], call.closing, by rw [Attached.portEvents, hevents, hrest]; rfl⟩
    · right
      refine ⟨attached.events protocol call ++ earlier, answer, ?_⟩
      rw [Attached.portEvents, hrest, List.append_assoc]

/-- What holds of the port of a connection, opened with some events, in a run of calls. -/
structure PortLifetime (opening : List PortEvent) (attached : Attached Wire)
    (calls : List (PortCall Wire)) : Prop where
  /-- The connection does what the calls do as the port answers them. -/
  host_eq : (attached.run protocol calls).host =
    run protocol attached.host (attached.answered protocol calls)
  allowed : Port.absent.follow (opening ++ attached.portEvents protocol calls) =
    some (attached.run protocol calls).port
  closed_iff : (attached.run protocol calls).port = .closed ↔
    .closing (.ok ()) ∈ attached.portEvents protocol calls
  /-- Before a connection is closed the port is, or has refused, and nothing follows. -/
  closing_last : (attached.run protocol calls).host.connection.closed = true →
    ∃ earlier answer, attached.portEvents protocol calls = earlier ++ [.closing answer]

theorem portLifetime_of_opened {opening : List PortEvent} {device : String} {host : Host Wire}
    (hopening : Port.absent.follow opening = some (.opened device))
    (hopen : host.connection.closed = false) (calls : List (PortCall Wire)) :
    PortLifetime protocol opening ⟨host, .opened device⟩ calls where
  host_eq := run_answered protocol calls _
  allowed := by
    rw [follow_append hopening]
    exact @follow_portEvents _ protocol device calls ⟨host, .opened device⟩ (.inl rfl)
  closed_iff := by
    have hfollow := @follow_portEvents _ protocol device calls ⟨host, .opened device⟩ (.inl rfl)
    rw [follow_eq_closed_iff (.inl rfl) hfollow]
    exact or_iff_right Port.noConfusion
  closing_last hclosed := by
    refine (portEvents_of_closed protocol calls _ hclosed).resolve_left fun hbefore ↦ ?_
    exact absurd (hopen.symm.trans hbefore.1) Bool.false_ne_true

/-- A Transport that refuses to be closed, and a pass after it. -/
def refusedClose : List (PortCall (OutboundMessage ⊕ InboundMessage)) :=
  [{ call := .service { inWaiting := .ok 3, received := .ok [1, 2, 3] } },
    { call := .close (.error (.session "busy")) },
    { call := .service { inWaiting := .ok 1, received := .ok [4] } }]

example : ((⟨Host.create 5 id none, .opened "COM7"⟩ : Attached _).run directCodec
      refusedClose).port = .closed ∧
    ((⟨Host.create 5 id none, .opened "COM7"⟩ : Attached _).run directCodec
      refusedClose).host.connection.closed = false ∧
    ((⟨Host.create 5 id none, .opened "COM7"⟩ : Attached _).portEvents directCodec
      refusedClose).length = 2 := by
  decide +kernel

end Lifetime

end HilRig.Protocol
