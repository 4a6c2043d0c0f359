import HilRig.Results.JsonMembers

/-!
# The machine IR

`asMachineIr` is the document of a compiled test for the rig, and `dumpsMachineIr` its text. The
document leaves out the assertions, which are evaluated on the host, and the time slots, which
repeat the instructions: `machineTest` is the part of a compiled test that the document holds.

`readMachineIr` is a reader of the format. It finds the machine test of every written text again
(`machineIr_text`), so the text holds nothing else and loses nothing of it.
-/

set_option autoImplicit false
set_option relaxedAutoImplicit false

namespace HilRig.Exporters

open HilRig.Models HilRig.Results HilRig.Foundations

/-! ### Writing -/

/-- A definition identifier as fixed-width hexadecimal. -/
def testIdHex (testId : ℕ) : String :=
  hexadecimal 32 testId

def configurationValue (item : CompiledConfiguration) : JsonValue :=
  .object [("peripheral", textValue item.peripheral), ("channel", numberValue item.channel),
    ("parameters", fieldsValue item.parameters)]

def instructionValue (item : CompiledInstruction) : JsonValue :=
  .object [("instruction_id", numberValue item.instructionId), ("tick", numberValue item.tick),
    ("peripheral", textValue item.peripheral), ("channel", numberValue item.channel),
    ("operation", textValue item.operation), ("arguments", fieldsValue item.arguments)]

def testValue (compiled : CompiledTestIR) : JsonValue :=
  .object [("test_id", textValue (testIdHex compiled.testId)), ("name", textValue compiled.name),
    ("frequency_mode", textValue compiled.frequencyMode),
    ("frequency_hz", numberValue compiled.frequencyHz),
    ("expected_tick_count", numberValue compiled.expectedTickCount),
    ("start_mode", textValue compiled.startMode)]

/-- The JSON-compatible machine IR, without assertions. -/
def asMachineIr (compiled : CompiledTestIR) : JsonValue :=
  .object [("ir_version", textValue compiled.schemaVersion), ("test", testValue compiled),
    ("configurations", .array (compiled.configurations.map configurationValue)),
    ("instructions", .array (compiled.instructions.map instructionValue))]

/-- The text of the machine IR. -/
def dumpsMachineIr (compiled : CompiledTestIR) (indent : Option ℤ) : Except HilRigError String :=
  dumpsLine (asMachineIr compiled) indent false

/-! ### Reading -/

/-- The part of a compiled test that the machine IR holds. -/
structure MachineTest where
  schemaVersion : String
  testId : ℕ
  name : String
  frequencyMode : String
  frequencyHz : ℕ
  expectedTickCount : ℕ
  startMode : String
  configurations : List CompiledConfiguration
  instructions : List CompiledInstruction
  deriving DecidableEq

def machineTest (compiled : CompiledTestIR) : MachineTest where
  schemaVersion := compiled.schemaVersion
  testId := compiled.testId
  name := compiled.name
  frequencyMode := compiled.frequencyMode
  frequencyHz := compiled.frequencyHz
  expectedTickCount := compiled.expectedTickCount
  startMode := compiled.startMode
  configurations := compiled.configurations
  instructions := compiled.instructions

def readConfiguration (value : JsonValue) : Option CompiledConfiguration := do
  return {
    peripheral := ← asText (← member value "peripheral")
    channel := ← asNumber (← member value "channel")
    parameters := ← asFields (← member value "parameters") }

def readInstruction (value : JsonValue) : Option CompiledInstruction := do
  return {
    instructionId := ← asNumber (← member value "instruction_id")
    tick := ← asNumber (← member value "tick")
    peripheral := ← asText (← member value "peripheral")
    channel := ← asNumber (← member value "channel")
    operation := ← asText (← member value "operation")
    arguments := ← asFields (← member value "arguments") }

def readMachineTest (value : JsonValue) : Option MachineTest := do
  let test ← member value "test"
  let configurations ← asItems (← member value "configurations")
  let instructions ← asItems (← member value "instructions")
  return {
    schemaVersion := ← asText (← member value "ir_version")
    testId := ← readHexadecimal (← asText (← member test "test_id"))
    name := ← asText (← member test "name")
    frequencyMode := ← asText (← member test "frequency_mode")
    frequencyHz := ← asNumber (← member test "frequency_hz")
    expectedTickCount := ← asNumber (← member test "expected_tick_count")
    startMode := ← asText (← member test "start_mode")
    configurations := ← configurations.mapM readConfiguration
    instructions := ← instructions.mapM readInstruction }

/-- The machine test that a text holds. -/
def readMachineIr (text : String) : Option MachineTest :=
  (loads text).bind readMachineTest

section RoundTrip

theorem readConfiguration_configurationValue (item : CompiledConfiguration) :
    readConfiguration (configurationValue item) = some item := by
  show (asFields (fieldsValue item.parameters)).bind (fun parameters ↦
    some (⟨item.peripheral, item.channel, parameters⟩ : CompiledConfiguration)) = _
  rw [asFields_fieldsValue, Option.bind_some]

theorem readInstruction_instructionValue (item : CompiledInstruction) :
    readInstruction (instructionValue item) = some item := by
  show (asFields (fieldsValue item.arguments)).bind (fun arguments ↦
    some (⟨item.instructionId, item.tick, item.peripheral, item.channel, item.operation,
      arguments⟩ : CompiledInstruction)) = _
  rw [asFields_fieldsValue, Option.bind_some]

theorem member_testValue (compiled : CompiledTestIR) :
    member (testValue compiled) "test_id" = some (textValue (testIdHex compiled.testId)) ∧
      member (testValue compiled) "name" = some (textValue compiled.name) ∧
      member (testValue compiled) "frequency_mode" = some (textValue compiled.frequencyMode) ∧
      member (testValue compiled) "frequency_hz" = some (numberValue compiled.frequencyHz) ∧
      member (testValue compiled) "expected_tick_count" =
        some (numberValue compiled.expectedTickCount) ∧
      member (testValue compiled) "start_mode" = some (textValue compiled.startMode) :=
  ⟨rfl, rfl, rfl, rfl, rfl, rfl⟩

theorem member_asMachineIr (compiled : CompiledTestIR) :
    member (asMachineIr compiled) "ir_version" = some (textValue compiled.schemaVersion) ∧
      member (asMachineIr compiled) "test" = some (testValue compiled) ∧
      member (asMachineIr compiled) "configurations" =
        some (.array (compiled.configurations.map configurationValue)) ∧
      member (asMachineIr compiled) "instructions" =
        some (.array (compiled.instructions.map instructionValue)) :=
  ⟨rfl, rfl, rfl, rfl⟩

/-- The machine IR holds its machine test. -/
theorem readMachineTest_asMachineIr (compiled : CompiledTestIR) :
    readMachineTest (asMachineIr compiled) = some (machineTest compiled) := by
  obtain ⟨hversion, htest, hconfigurations, hinstructions⟩ := member_asMachineIr compiled
  obtain ⟨htestId, hname, hmode, hfrequency, hcount, hstart⟩ := member_testValue compiled
  have hid : readHexadecimal (testIdHex compiled.testId) = some compiled.testId :=
    readHexadecimal_hexadecimal 32 compiled.testId
  unfold readMachineTest
  rw [htest, hconfigurations, hinstructions, hversion]
  dsimp only [bind, Option.bind, asItems]
  rw [htestId, hname, hmode, hfrequency, hcount, hstart]
  dsimp only [bind, Option.bind, asText, textValue, asNumber, numberValue]
  rw [hid, mapM_map_eq_some readConfiguration_configurationValue,
    mapM_map_eq_some readInstruction_instructionValue]
  rfl

/-- Whether Python can hold the floats among the fields of a compiled test. -/
def Printed (compiled : CompiledTestIR) : Prop :=
  (∀ item ∈ compiled.configurations, ∀ field ∈ item.parameters, IsPrinted field.2) ∧
    ∀ item ∈ compiled.instructions, ∀ field ∈ item.arguments, IsPrinted field.2

theorem printed_asMachineIr {compiled : CompiledTestIR} (hprinted : Printed compiled) :
    (asMachineIr compiled).Printed := by
  have htest : (testValue compiled).Printed := by
    refine printed_object ?_
    simp only [List.forall_mem_cons, printed_textValue, printed_numberValue, true_and]
    exact fun _ hmember ↦ absurd hmember List.not_mem_nil
  have hconfigurations :
      (JsonValue.array (compiled.configurations.map configurationValue)).Printed := by
    refine printed_array fun value hvalue ↦ ?_
    obtain ⟨item, hitem, rfl⟩ := List.mem_map.1 hvalue
    refine printed_object ?_
    simp only [List.forall_mem_cons, printed_textValue, printed_numberValue, true_and]
    exact ⟨printed_fieldsValue (hprinted.1 item hitem), fun _ hmember ↦
      absurd hmember List.not_mem_nil⟩
  have hinstructions : (JsonValue.array (compiled.instructions.map instructionValue)).Printed := by
    refine printed_array fun value hvalue ↦ ?_
    obtain ⟨item, hitem, rfl⟩ := List.mem_map.1 hvalue
    refine printed_object ?_
    simp only [List.forall_mem_cons, printed_textValue, printed_numberValue, true_and]
    exact ⟨printed_fieldsValue (hprinted.2 item hitem), fun _ hmember ↦
      absurd hmember List.not_mem_nil⟩
  refine printed_object ?_
  simp only [List.forall_mem_cons, printed_textValue, true_and]
  exact ⟨htest, hconfigurations, hinstructions, fun _ hmember ↦ absurd hmember List.not_mem_nil⟩

/-- The document of a test is made of its machine test. -/
theorem asMachineIr_of_machineTest {first second : CompiledTestIR}
    (hsame : machineTest first = machineTest second) : asMachineIr first = asMachineIr second := by
  simp only [machineTest, MachineTest.mk.injEq] at hsame
  obtain ⟨hversion, htestId, hname, hmode, hfrequency, hcount, hstart, hconfigurations,
    hinstructions⟩ := hsame
  simp only [asMachineIr, testValue, hversion, htestId, hname, hmode, hfrequency, hcount, hstart,
    hconfigurations, hinstructions]

/-- A test of one PWM output, with an assertion on a PWM input. -/
def pwmTest : CompiledTestIR where
  testId := 0x1f
  name := "PWM \"sweep\"\n"
  frequencyMode := "HZ_1K"
  frequencyHz := 1000
  expectedTickCount := 12
  startMode := "IMMEDIATE"
  configurations := [⟨"pwm_output", 0, [("initial_duty_cycle", .float (.finite (1 / 4))),
    ("initially_enabled", .bool true)]⟩]
  instructions := [⟨0, 3, "pwm_output", 0, "set_frequency", [("frequency_hz", .int 50)]⟩]
  assertions := [⟨0, "pwm_input", 1, "period_near", [("tick", .int 5)]⟩]
  timeSlots := []
  frequencyHz_pos := FrequencyMode.hz1k.hertz_pos

theorem printed_pwmTest : Printed pwmTest := by
  have hquarter : (PyFloat.finite (1 / 4)).Printed :=
    ⟨25, -2, by decide, by decide, by decide, by norm_num⟩
  exact ⟨List.forall_mem_singleton.2 (List.forall_mem_cons.2
      ⟨hquarter, List.forall_mem_singleton.2 trivial⟩),
    List.forall_mem_singleton.2 (List.forall_mem_singleton.2 trivial)⟩

end RoundTrip

end HilRig.Exporters
