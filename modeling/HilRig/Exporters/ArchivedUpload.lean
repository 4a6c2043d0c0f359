import HilRig.Exporters.JsonIr
import HilRig.Protocol.DenseStates
import HilRig.Protocol.ExactLowering

/-!
# Uploads of archived tests

An exported machine IR leaves out the assertions and the time slots of its test. What the rig is
told does not depend on them: the upload that is built from the text alone is that of the compiled
test, for every attempt and with every error (`uploadOfText_of_machineIr`), and for a test of exact
quantities it is the lowered one, whose outputs are those the test requests.
-/

set_option autoImplicit false
set_option relaxedAutoImplicit false

namespace HilRig.Exporters

open HilRig.Models HilRig.Results HilRig.Foundations HilRig.Protocol

/-- The compiled test of a machine test, without assertions and time slots. -/
def MachineTest.compiled (machine : MachineTest) (hfrequency : 0 < machine.frequencyHz) :
    CompiledTestIR where
  testId := machine.testId
  name := machine.name
  frequencyMode := machine.frequencyMode
  frequencyHz := machine.frequencyHz
  expectedTickCount := machine.expectedTickCount
  startMode := machine.startMode
  configurations := machine.configurations
  instructions := machine.instructions
  assertions := []
  timeSlots := []
  schemaVersion := machine.schemaVersion
  frequencyHz_pos := hfrequency

/-- The upload that is built from a text. -/
def uploadOfText (text : String) (uploadAttempt : Option UploadAttempt)
    (draws : List (Fin (2 ^ 128))) : Option (Except HilRigError FixedIOUploadMessages) := do
  let machine ← readMachineIr text
  if hfrequency : 0 < machine.frequencyHz then
    return buildUpload (machine.compiled hfrequency) uploadAttempt draws
  else none

/-- An upload is made of the machine test. -/
theorem buildUpload_of_machineTest {first second : CompiledTestIR}
    (hsame : machineTest first = machineTest second) (uploadAttempt : Option UploadAttempt)
    (draws : List (Fin (2 ^ 128))) :
    buildUpload first uploadAttempt draws = buildUpload second uploadAttempt draws := by
  cases first
  cases second
  simp only [machineTest, MachineTest.mk.injEq] at hsame
  obtain ⟨rfl, rfl, rfl, rfl, rfl, rfl, rfl, rfl, rfl⟩ := hsame
  rfl

theorem machineTest_compiled (machine : MachineTest) (hfrequency : 0 < machine.frequencyHz) :
    machineTest (machine.compiled hfrequency) = machine :=
  rfl

/-- The upload that is built from the text of a machine IR is that of the compiled test. -/
theorem uploadOfText_eq {compiled : CompiledTestIR} {text : String}
    (hread : readMachineIr text = some (machineTest compiled))
    (uploadAttempt : Option UploadAttempt) (draws : List (Fin (2 ^ 128))) :
    uploadOfText text uploadAttempt draws = some (buildUpload compiled uploadAttempt draws) := by
  have hfrequency : 0 < (machineTest compiled).frequencyHz := compiled.frequencyHz_pos
  unfold uploadOfText
  rw [hread]
  show (if hfrequency : 0 < (machineTest compiled).frequencyHz then _ else _) = _
  rw [dif_pos hfrequency]
  exact congrArg some (buildUpload_of_machineTest (machineTest_compiled _ hfrequency) _ _)

/-! ### The numbers of a compiled test -/

section Numbers

variable {measure : Api.Measure}

/-- Exact quantities are small. -/
theorem abs_le_of_isExact {decimal : ℚ} (hexact : measure.IsExact decimal) :
    |decimal| ≤ 10 ^ 9 := by
  cases measure with
  | voltage =>
    obtain ⟨microvolts, hvolts, hle⟩ := hexact
    have hle : (microvolts : ℚ) ≤ 20000000 := by exact_mod_cast hle
    rw [abs_of_nonneg (by linarith [microvolts.cast_nonneg (α := ℚ)])]
    linarith
  | dutyCycle =>
    obtain ⟨permyriad, hduty, hle⟩ := hexact
    have hle : (permyriad : ℚ) ≤ 10000 := by exact_mod_cast hle
    rw [abs_of_nonneg (by linarith [permyriad.cast_nonneg (α := ℚ)])]
    linarith
  | frequency =>
    obtain ⟨period, hfrequency, hpositive, -⟩ := hexact
    have hpositive : (1 : ℚ) ≤ period := by exact_mod_cast hpositive
    have hdecimal : 0 ≤ decimal := by
      by_contra hnegative
      nlinarith
    rw [abs_of_nonneg hdecimal]
    nlinarith

/-- Python can hold a quantity that comes from a call: the call passed a float, or a small
integer. -/
theorem printed_of_comesFrom {call : Api.Call} {channel : Channel} {value : PyFloat}
    (hsource : measure.ComesFrom call channel value) : value.Printed := by
  obtain ⟨number, decimal, -, hdecimal, rfl, hexact⟩ := hsource
  cases number with
  | mistyped => cases hdecimal
  | value number =>
    cases number with
    | float passed hprinted =>
      cases passed with
      | finite _ =>
        cases hdecimal
        exact hprinted
      | infinite _ => cases hdecimal
      | nan => cases hdecimal
    | int passed =>
      cases hdecimal
      have hsmall := abs_le_of_isExact hexact
      refine ⟨passed, 0, ?_, by decide, by decide, by simp⟩
      have hsmall : |passed| ≤ 10 ^ 9 := by exact_mod_cast hsmall
      exact hsmall.trans_lt (by norm_num)

/-- The scalars of fields are printed when their floats are. -/
theorem printed_scalars {fields : List (String × FieldValue)}
    (hfloats : ∀ field ∈ fields, ∀ value, field.2 = .float value → value.Printed) :
    ∀ field ∈ scalars fields, IsPrinted field.2 := by
  intro scalar hscalar
  obtain ⟨field, hfield, rfl⟩ := List.mem_map.1 hscalar
  have hfloat := hfloats field hfield
  show IsPrinted field.2.scalar
  cases hvalue : field.2 with
  | float value => exact hfloat value hvalue
  | int value =>
    cases value with
    | plain value => trivial
    | member name value => cases name <;> trivial
  | bytes data =>
    cases data with
    | plain data => trivial
    | member name data => cases name <;> trivial
  | _ => trivial

/-- The only floats of a configuration are its quantities. -/
theorem exists_configured {peripheral : PeripheralConfiguration} {field : String × FieldValue}
    (hfield : field ∈ peripheralFields peripheral) {value : PyFloat}
    (hvalue : field.2 = .float value) :
    ∃ measure, Api.Measure.configured measure peripheral = some value := by
  cases peripheral with
  | analogueOutput volts =>
    obtain rfl := List.mem_singleton.1 hfield
    cases hvalue
    exact ⟨.voltage, rfl⟩
  | pwmOutput voltage hertz duty enabled =>
    simp only [peripheralFields, List.mem_cons, List.not_mem_nil, or_false] at hfield
    obtain rfl | rfl | rfl | rfl := hfield
    · cases hvalue
    · cases hvalue
      exact ⟨.frequency, rfl⟩
    · cases hvalue
      exact ⟨.dutyCycle, rfl⟩
    · cases hvalue
  | analogueInput => cases hfield
  | i2c role speed logicVoltage pullup ownAddress =>
    cases ownAddress <;> simp [peripheralFields, FieldValue.natural] at hfield <;> aesop
  | _ =>
    simp only [peripheralFields, FieldValue.natural, List.mem_cons, List.not_mem_nil, or_false]
      at hfield
    aesop

/-- The only floats of a stimulus are its quantities. -/
theorem exists_requested {stimulus : Stimulus} {field : String × FieldValue}
    (hfield : field ∈ stimulusFields stimulus) {value : PyFloat}
    (hvalue : field.2 = .float value) :
    ∃ measure, Api.Measure.requested measure stimulus = some value := by
  cases stimulus with
  | analogueOutput volts =>
    obtain rfl := List.mem_singleton.1 hfield
    cases hvalue
    exact ⟨.voltage, rfl⟩
  | pwmSet hertz duty =>
    simp only [stimulusFields, List.mem_cons, List.not_mem_nil, or_false] at hfield
    obtain rfl | rfl := hfield
    · cases hvalue
      exact ⟨.frequency, rfl⟩
    · cases hvalue
      exact ⟨.dutyCycle, rfl⟩
  | pwmSetFrequency hertz =>
    obtain rfl := List.mem_singleton.1 hfield
    cases hvalue
    exact ⟨.frequency, rfl⟩
  | pwmSetDutyCycle duty =>
    obtain rfl := List.mem_singleton.1 hfield
    cases hvalue
    exact ⟨.dutyCycle, rfl⟩
  | _ =>
    simp only [stimulusFields, FieldValue.natural, List.mem_cons, List.not_mem_nil, or_false]
      at hfield
    aesop

/-- Python can hold all numbers of the machine IR of a test. -/
theorem printed_plan {test : Api.Test} (hreachable : test.Reachable) : Printed test.plan := by
  obtain ⟨testId, name, created, calls, hcreated, rfl⟩ := hreachable
  have hsourced := Api.Test.Sourced.after hcreated calls
  constructor
  · intro item hitem
    obtain ⟨entry, hentry, rfl⟩ := List.mem_map.1 hitem
    refine printed_scalars fun field hfield value hvalue ↦ ?_
    obtain ⟨measure, hmeasure⟩ := exists_configured hfield hvalue
    obtain ⟨call, -, hsource⟩ := hsourced.configuration entry
      ((sortedConfigurations_perm _).mem_iff.1 hentry) measure value hmeasure
    exact printed_of_comesFrom hsource
  · intro item hitem
    obtain ⟨instruction, hinstruction, rfl⟩ := List.mem_map.1 hitem
    refine printed_scalars fun field hfield value hvalue ↦ ?_
    obtain ⟨measure, hmeasure⟩ := exists_requested hfield hvalue
    obtain ⟨call, -, hsource⟩ := hsourced.stimulus instruction
      (List.mem_insertionSort _ |>.1 hinstruction) measure value hmeasure
    exact printed_of_comesFrom hsource

end Numbers

section Archive

variable {test after : Api.Test} {plan : CompiledTestIR}

/-- For every compiled test whose machine IR was written: the upload that is built from the text
alone is the upload of the test, for every attempt, all draws and with every error; and for each
attempt of its definition there is one, which keeps the outputs of the rig at every tick at the
values the test requests. -/
theorem uploadOfText_of_machineIr (hreachable : test.Reachable)
    (hcompiled : Api.compile test = .ok plan after) {indent : Option ℤ} {text : String}
    (htext : dumpsMachineIr plan indent = .ok text) :
    (∀ (uploadAttempt : Option UploadAttempt) (draws : List (Fin (2 ^ 128))),
        uploadOfText text uploadAttempt draws = some (buildUpload plan uploadAttempt draws)) ∧
      ∀ (attempt : UploadAttempt) (draws : List (Fin (2 ^ 128))),
        attempt.definitionTestId = plan.testId →
          ∃ upload, uploadOfText text (some attempt) draws = some (.ok upload) ∧
            upload.uploadAttempt = attempt ∧
            ∀ tick, Represents test tick (upload.inForce tick) := by
  have hformed := Api.wellFormed_of_reachable hreachable
  have hexact := Api.exact_of_reachable hreachable
  obtain rfl := Api.plan_of_compile hreachable hcompiled
  have hread : readMachineIr text = some (machineTest test.plan) := by
    rw [readMachineIr, loads_dumpsLine (printed_asMachineIr (printed_plan hreachable)) htext,
      Option.bind_some, readMachineTest_asMachineIr]
  refine ⟨uploadOfText_eq hread, fun attempt draws hattempt ↦ ?_⟩
  refine ⟨loweredUpload test attempt, ?_, rfl, fun tick ↦ ?_⟩
  · rw [uploadOfText_eq hread, buildUpload_plan hformed hexact hattempt]
  · rw [inForce_loweredUpload hformed.nodup]
    exact represents_outputsAt hformed hexact tick

theorem uploadOfText_of_machineIr_fanTest : ∃ text upload,
    dumpsMachineIr Api.fanTest.plan none = .ok text ∧
      uploadOfText text (some fanAttempt) [] = some (.ok upload) ∧
      upload.uploadAttempt = fanAttempt ∧
      ∀ tick, Represents Api.fanTest tick (upload.inForce tick) := by
  have hscalars : (asMachineIr Api.fanTest.plan).scalars.all hasText = true := by
    unfold asMachineIr
    decide +kernel
  have htext := dumpsLine_of_hasText hscalars none false
  obtain ⟨-, hupload⟩ := uploadOfText_of_machineIr Api.reachable_fanTest Api.compile_fanTest htext
  obtain ⟨upload, hbuilt, hattempt, hrepresents⟩ :=
    hupload fanAttempt [] definitionTestId_fanAttempt
  exact ⟨_, upload, htext, hbuilt, hattempt, hrepresents⟩

end Archive

end HilRig.Exporters
