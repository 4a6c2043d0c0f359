import HilRig.Results.Adapter
import HilRig.Results.Batching
import HilRig.Results.TickColumns

/-!
# From result messages to captured evidence

A result message passes the adapter, a batch, nineteen columns and a view before its values are
compared with anything. `reproduces_of_messages` says that none of these changes them: every view of
a capture shows for each tick what the message of this tick reported, and no value where it reported
an execution problem.
-/

set_option autoImplicit false
set_option relaxedAutoImplicit false

namespace HilRig.Results

open HilRig.Models HilRig.Protocol HilRig.Foundations Relation

/-! ### Validity -/

/-- Whether the fixed measurements of a tick are usable. -/
def CapturedTickResult.valid (result : CapturedTickResult) : Bool :=
  result.condition ≠ .executionProblem

def InputSample.valid {Value : Type} (sample : InputSample Value) : Bool :=
  sample.value.isSome

/-! ### Messages -/

/-- A message for a builder's run, with a value for every channel unless it reports a problem. Its
integers fit the columns. -/
structure Reportable (builder : BuilderHandle) (message : TestResult) : Prop where
  testId : applicationTestIdFromBytes message.testId.bytes = .ok builder.applicationTestId
  supported : ∃ condition, tickCondition message.condition = .ok condition
  inRun : message.tickNumber < builder.expectedTickCount
  tick : message.tickNumber < 2 ^ 63
  detail : message.problemDetail < 2 ^ 63
  lengths : message.condition ≠ .executionProblem → message.digitalInputs.length = 10 ∧
    message.analogInputs.length = 2 ∧ message.pwmInputs.length = 2
  analogue : message.condition ≠ .executionProblem → ∀ microvolts ∈ message.analogInputs,
    -2 ^ 63 ≤ microvolts ∧ microvolts < 2 ^ 63
  pwm : message.condition ≠ .executionProblem → ∀ value ∈ message.pwmInputs,
    value.periodNanoseconds < 2 ^ 63 ∧ value.dutyCyclePermyriad ≤ 10000

/-- A captured result says what a message reported. -/
structure Reports (message : TestResult) (result : CapturedTickResult) : Prop where
  tick : result.tick = message.tickNumber
  condition : tickCondition message.condition = .ok result.condition
  problemDetail : result.problemDetail = some message.problemDetail
  digital : result.condition ≠ .executionProblem → ∀ channel : Fin 10, ∃ high,
    message.digitalInputs[channel.val]? = some high ∧ result.digitalInputs channel = some high
  analogue : result.condition ≠ .executionProblem → ∀ channel : Fin 2, ∃ microvolts,
    message.analogInputs[channel.val]? = some microvolts ∧
      result.analogueInputsUv channel = some microvolts
  pwm : result.condition ≠ .executionProblem → ∀ channel : Fin 2, ∃ value measurement,
    message.pwmInputs[channel.val]? = some value ∧ result.pwmInputs channel = some measurement ∧
      measurement.periodNs = value.periodNanoseconds ∧
        measurement.dutyPermyriad = value.dutyCyclePermyriad
  absent : result.condition = .executionProblem →
    (∀ channel, result.digitalInputs channel = none) ∧
      (∀ channel, result.analogueInputsUv channel = none) ∧
        ∀ channel, result.pwmInputs channel = none

section Mapping

variable {builder : BuilderHandle} {message : TestResult}

theorem exactLength_of_length {Value : Type} {values : List Value} {count : ℕ} {name : String}
    (hlength : values.length = count) :
    ∃ byChannel, exactLength values count name = .ok byChannel ∧
      ∀ channel : Fin count, values[channel.val]? = some (byChannel channel) := by
  refine ⟨fun channel ↦ values.get (channel.cast hlength.symm), dif_pos hlength, fun channel ↦ ?_⟩
  exact List.getElem?_eq_getElem (hlength ▸ channel.isLt)

/-- The measurements of a message whose duties are in range. -/
theorem exists_measurements {values : List PWMInputValue}
    (hduty : ∀ value ∈ values, value.dutyCyclePermyriad ≤ 10000) :
    ∃ measurements, values.mapM (fun value ↦
        PWMMeasurement.create value.periodNanoseconds value.dutyCyclePermyriad) =
          .ok measurements ∧
      List.Forall₂ (fun (value : PWMInputValue) (measurement : PWMMeasurement) ↦
        measurement.periodNs = value.periodNanoseconds ∧
          measurement.dutyPermyriad = value.dutyCyclePermyriad) values measurements := by
  induction values with
  | nil => exact ⟨[], rfl, .nil⟩
  | cons value values ih =>
    obtain ⟨measurements, hmeasurements, hvalues⟩ :=
      ih fun later hlater ↦ hduty later (List.mem_cons_of_mem _ hlater)
    have hvalue := hduty value List.mem_cons_self
    refine ⟨⟨value.periodNanoseconds, value.dutyCyclePermyriad, hvalue⟩ :: measurements,
      mapM_eq_ok.2 (.cons (dif_pos hvalue) (mapM_eq_ok.1 hmeasurements)), .cons ⟨rfl, rfl⟩ hvalues⟩

/-- The adapter maps a message of the run to a result that says what it reported. -/
theorem exists_tickResultOf (hmessage : Reportable builder message) :
    ∃ result, tickResultOf message = .ok result ∧ Reports message result.captured := by
  obtain ⟨condition, hcondition⟩ := hmessage.supported
  by_cases hproblem : condition = .executionProblem
  · refine ⟨.executionProblem message.tickNumber (some message.problemDetail), ?_, ?_⟩
    · unfold tickResultOf
      rw [hcondition]
      exact if_pos hproblem
    · rw [hproblem] at hcondition
      exact ⟨rfl, hcondition, rfl, fun h ↦ absurd rfl h, fun h ↦ absurd rfl h,
        fun h ↦ absurd rfl h, fun _ ↦ ⟨fun _ ↦ rfl, fun _ ↦ rfl, fun _ ↦ rfl⟩⟩
  · have hmeasured : message.condition ≠ .executionProblem := by
      intro heq
      rw [heq] at hcondition
      exact hproblem (Except.ok.inj hcondition).symm
    obtain ⟨hdigital, hanalogue, hpwm⟩ := hmessage.lengths hmeasured
    obtain ⟨measurements, hmeasurements, hvalues⟩ :=
      exists_measurements fun value hvalue ↦ (hmessage.pwm hmeasured value hvalue).2
    obtain ⟨digital, hdigital, hhigh⟩ :=
      @exactLength_of_length _ message.digitalInputs 10 "digital_inputs" hdigital
    obtain ⟨analogue, hanalogue, hmicrovolts⟩ :=
      @exactLength_of_length _ message.analogInputs 2 "analogue_inputs_uv" hanalogue
    obtain ⟨pwm, hcreated, hmeasurement⟩ :=
      @exactLength_of_length _ measurements 2 "pwm_inputs" (hvalues.length_eq ▸ hpwm)
    refine ⟨⟨message.tickNumber, fun channel ↦ some (digital channel),
      fun channel ↦ some (analogue channel), fun channel ↦ some (pwm channel), condition,
      some message.problemDetail, fun _ ↦ ⟨fun _ ↦ rfl, fun _ ↦ rfl, fun _ ↦ rfl⟩,
      fun h ↦ absurd h hproblem⟩, ?_, ?_⟩
    · unfold tickResultOf TickResult.create
      rw [hcondition]
      show (if condition = .executionProblem then _ else _) = _
      rw [if_neg hproblem, hmeasurements]
      show (exactLength _ _ _ >>= fun _ ↦ exactLength _ _ _ >>= fun _ ↦
        exactLength _ _ _ >>= _) = _
      rw [hdigital, hanalogue, hcreated]
      exact dif_neg hproblem
    · refine ⟨rfl, hcondition, rfl, fun _ channel ↦ ⟨_, hhigh channel, rfl⟩,
        fun _ channel ↦ ⟨_, hmicrovolts channel, rfl⟩, fun _ channel ↦ ?_,
        fun h ↦ absurd h hproblem⟩
      have hchannel : channel.val < message.pwmInputs.length := by rw [hpwm]; exact channel.isLt
      have hrelated := List.forall₂_iff_get.1 hvalues
      have hsame := hrelated.2 channel.val hchannel (hrelated.1 ▸ hchannel)
      have hget : measurements.get ⟨channel.val, hrelated.1 ▸ hchannel⟩ = pwm channel := by
        have := hmeasurement channel
        rw [List.getElem?_eq_getElem (hrelated.1 ▸ hchannel)] at this
        exact Option.some.inj this
      rw [hget] at hsame
      exact ⟨_, _, List.getElem?_eq_getElem hchannel, rfl, hsame.1, hsame.2⟩

/-- The columns hold the integers of a result that says what a message of the run reported. -/
theorem fits_of_reports {result : TickResult} (hmessage : Reportable builder message)
    (hreports : Reports message result.captured) : (tickParameters result).fits = true := by
  have htick : fitsInteger (tickParameters result).tick = true :=
    fitsInteger_natCast.2 (hreports.tick.trans_lt hmessage.tick)
  have hdetail : fitsColumn ((tickParameters result).problemDetail.map Nat.cast) = true := by
    refine fitsColumn_natCast.2 fun detail hdetail ↦ fitsInteger_natCast.2 ?_
    rw [Option.some.inj (hdetail.symm.trans hreports.problemDetail)]
    exact hmessage.detail
  have hdigital (channel : Fin 10) :
      fitsColumn (((tickParameters result).digitalInputs channel).map Nat.cast) = true := by
    show fitsColumn (((result.digitalInputs channel).map Bool.toNat).map Nat.cast) = true
    cases result.digitalInputs channel with
    | none => rfl
    | some high => cases high <;> rfl
  have hfixed (channel : Fin 2) : (fitsColumn ((tickParameters result).analogueInputsUv channel) &&
      fitsColumn (((tickParameters result).pwmPeriodsNs channel).map Nat.cast) &&
        fitsColumn (((tickParameters result).pwmDutiesPermyriad channel).map Nat.cast)) = true := by
    show (fitsColumn (result.analogueInputsUv channel) &&
      fitsColumn (((result.pwmInputs channel).map PWMMeasurement.periodNs).map Nat.cast) &&
        fitsColumn (((result.pwmInputs channel).map PWMMeasurement.dutyPermyriad).map Nat.cast)) =
          true
    by_cases hproblem : result.condition = .executionProblem
    · rw [(result.absent hproblem).2.1, (result.absent hproblem).2.2]
      rfl
    have hmeasured : message.condition ≠ .executionProblem := by
      intro heq
      have hcondition := hreports.condition
      rw [heq] at hcondition
      exact hproblem (Except.ok.inj hcondition).symm
    obtain ⟨microvolts, hreported, hmicrovolts⟩ := hreports.analogue hproblem channel
    obtain ⟨value, measurement, hvalue, hmeasurement, hperiod, hduty⟩ :=
      hreports.pwm hproblem channel
    obtain ⟨hperiodFits, hdutyFits⟩ := hmessage.pwm hmeasured value (List.mem_of_getElem? hvalue)
    change result.analogueInputsUv channel = _ at hmicrovolts
    change result.pwmInputs channel = _ at hmeasurement
    rw [hmicrovolts, hmeasurement]
    simp only [Option.map_some, fitsColumn, Option.all_some, Bool.and_eq_true, fitsInteger_iff]
    have hanalogue := hmessage.analogue hmeasured microvolts (List.mem_of_getElem? hreported)
    exact ⟨⟨hanalogue, by omega⟩, by omega⟩
  simp only [TickRow.fits, htick, hdetail, Bool.true_and, Bool.and_eq_true, List.all_eq_true]
  refine ⟨fun channel _ ↦ hdigital channel, fun channel _ ↦ ?_⟩
  simpa only [Bool.and_eq_true] using hfixed channel

/-- The adapter hands over the result of a message of the run. -/
theorem exists_ingested (hmessage : Reportable builder message) :
    ∃ result, ingestApplicationMessage builder message (.ok ()) = .ok result ∧
      Reports message result.captured := by
  obtain ⟨result, hresult, hreports⟩ := exists_tickResultOf hmessage
  refine ⟨result, ?_, hreports⟩
  have hvalid : builder.validateTickInRun result.tick = .ok () := by
    have hinRun := hmessage.inRun
    rw [← hreports.tick] at hinRun
    exact if_neg (not_le.2 hinRun)
  unfold ingestApplicationMessage requireBuilderTestId
  rw [hmessage.testId, hresult]
  show (if builder.applicationTestId ≠ builder.applicationTestId then _ else _) >>= _ = _
  rw [if_neg (not_not.2 rfl)]
  show (builder.validateTickInRun result.tick >>= _) = _
  rw [hvalid]
  rfl

/-- The results of messages of the run, in the order of the messages. -/
theorem exists_ingested_all {messages : List TestResult}
    (hmessages : ∀ message ∈ messages, Reportable builder message) :
    ∃ results, messages.mapM (fun message ↦
        ingestApplicationMessage builder message (.ok ())) = .ok results ∧
      List.Forall₂ (fun (message : TestResult) (result : TickResult) ↦
        Reports message result.captured) messages results := by
  induction messages with
  | nil => exact ⟨[], rfl, .nil⟩
  | cons message messages ih =>
    obtain ⟨results, hresults, hreports⟩ :=
      ih fun later hlater ↦ hmessages later (List.mem_cons_of_mem _ hlater)
    obtain ⟨result, hresult, hreport⟩ := exists_ingested (hmessages message List.mem_cons_self)
    exact ⟨result :: results, mapM_eq_ok.2 (.cons hresult (mapM_eq_ok.1 hresults)),
      .cons hreport hreports⟩

theorem fits_of_all_reports {messages : List TestResult} {results : List TickResult}
    (hmessages : ∀ message ∈ messages, Reportable builder message)
    (hreports : List.Forall₂ (fun (message : TestResult) (result : TickResult) ↦
      Reports message result.captured) messages results) :
    ∀ result ∈ results, (tickParameters result).fits = true := by
  intro result hresult
  obtain ⟨message, hmessage, hreport⟩ := exists_related hreports.flip hresult
  exact fits_of_reports (hmessages message hmessage) hreport

end Mapping

/-! ### Views -/

/-- The sample of a channel in a result. -/
def channelSample {Value : Type} (run : CapturedRunIR)
    (value : CapturedTickResult → Option Value) (result : CapturedTickResult) :
    InputSample Value where
  tick := result.tick
  timeNs := result.tick * run.file.tickPeriodNs
  value := value result
  condition := result.condition
  problemDetail := result.problemDetail

/-- A series shows the values of a channel in the results that the run itself shows, at a tick and
over a range, and a sample is valid when its result is. -/
structure Shows {Value : Type} (run : CapturedRunIR) (series : InputSeries Value)
    (value : CapturedTickResult → Option Value) : Prop where
  atTick : ∀ tick, series.sampleAt tick =
    Option.map (channelSample run value) <$> run.tickAt tick
  overRange : ∀ fromTick untilTick, series.iterSamples fromTick untilTick =
    Iteration.map (channelSample run value) <$> run.iterTicks fromTick untilTick
  valid : ∀ tick result, run.tickAt tick = .ok (some result) →
    (channelSample run value result).valid = result.valid

/-- All views of a run show what some messages reported: one tick, a range in ascending order, and
each of the fourteen channels. A query binds its ticks as integers of the database. -/
structure CapturedRunIR.Reproduces (run : CapturedRunIR) (messages : List TestResult) :
    Prop where
  columns : ∀ row ∈ run.file.database.tickResults, capturedColumns row.columns = capturedTick row
  reported : ∀ message ∈ messages, ∃ result,
    run.tickAt message.tickNumber = .ok (some result) ∧ Reports message result
  missing : ∀ tick : ℕ, tick < 2 ^ 63 → (∀ message ∈ messages, message.tickNumber ≠ tick) →
    run.tickAt tick = .ok none
  ranges : ∀ (fromTick : ℕ) (untilTick : Option ℕ), fromTick < 2 ^ 63 →
    (∀ last ∈ untilTick, fromTick ≤ last ∧ last < 2 ^ 63) → ∃ results : List CapturedTickResult,
      run.iterTicks fromTick (untilTick.map Nat.cast) = .ok (.ofList results) ∧
        results.Pairwise (fun first second ↦ first.tick < second.tick) ∧
          ∀ result, result ∈ results ↔ fromTick ≤ result.tick ∧
            (∀ last ∈ untilTick, result.tick ≤ last) ∧
              run.tickAt result.tick = .ok (some result)
  digital : ∀ channel : Fin 10, ∃ series, run.digitalInput channel.val = .ok series ∧
    Shows run series fun result ↦ result.digitalInputs channel
  analogue : ∀ channel : Fin 2, ∃ series, run.analogueInput channel.val = .ok series ∧
    Shows run series fun result ↦ result.analogueInputsUv channel
  pwm : ∀ channel : Fin 2, ∃ series, run.pwmInput channel.val = .ok series ∧
    Shows run series fun result ↦ result.pwmInputs channel

section Views

variable {run : CapturedRunIR} {results : List TickResult} {messages : List TestResult}

theorem tickAt_eq (hrows : run.file.database.tickResults = results.map tickParameters)
    {tick : ℕ} (hfits : fitsInteger tick = true) : run.tickAt tick =
      .ok ((results.find? fun result ↦ result.tick = tick).map TickResult.captured) := by
  rw [CapturedRunIR.tickAt, nonNegativeTick_natCast, ok_bind, readTick_eq hrows hfits]

/-- A result that a tick reads is the captured form of a stored one. -/
theorem exists_of_tickAt (hrows : run.file.database.tickResults = results.map tickParameters)
    {tick : ℤ} {found : CapturedTickResult} (hfound : run.tickAt tick = .ok (some found)) :
    ∃ result ∈ results, result.captured = found := by
  obtain ⟨natural, -, hread⟩ := bind_eq_ok.1 hfound
  have hfits : fitsInteger natural = true := not_not.1 (ite_error_eq_ok.1 hread).1
  rw [readTick_eq hrows hfits] at hread
  obtain ⟨result, hresult, hcaptured⟩ := Option.map_eq_some_iff.1 (Except.ok.inj hread)
  exact ⟨result, List.mem_of_find?_eq_some hresult, hcaptured⟩

/-- With distinct ticks each stored result is what its tick reads. -/
theorem tickAt_of_mem (hrows : run.file.database.tickResults = results.map tickParameters)
    (hnodup : (results.map TickResult.tick).Nodup) {result : TickResult}
    (hresult : result ∈ results) (hfits : fitsInteger result.tick = true) :
    run.tickAt result.tick = .ok (some result.captured) := by
  have hfound : results.find? (fun other ↦ other.tick = result.tick) = some result := by
    refine find?_of_unique hresult (decide_eq_true rfl) fun other hother hsame ↦ ?_
    exact List.inj_on_of_nodup_map hnodup hother hresult (of_decide_eq_true hsame)
  rw [tickAt_eq hrows hfits, hfound]
  rfl

/-- A range without an end is one up to any tick that no row exceeds. -/
theorem readTicks_none {database : CaptureDatabase} {bound : ℕ}
    (hbound : ∀ row ∈ database.tickResults, row.tick ≤ bound) (hfits : fitsInteger bound = true)
    (fromTick : ℕ) :
    readTicks database fromTick none = readTicks database fromTick (some bound) := by
  unfold readTicks
  have hfilter : database.tickResults.filter (fun row ↦
      fromTick ≤ row.tick ∧ Option.all (fun last ↦ row.tick ≤ last) none) =
        database.tickResults.filter fun row ↦
          fromTick ≤ row.tick ∧ (some bound).all fun last ↦ row.tick ≤ last := by
    refine List.filter_congr fun row hrow ↦ decide_eq_decide.2 (and_congr Iff.rfl ?_)
    simpa using hbound row hrow
  have hcolumn : fitsColumn ((some bound).map Nat.cast) = true := by
    rw [Option.map_some, fitsColumn, Option.all_some, hfits]
  rw [hfilter, hcolumn]
  rfl

theorem validateRange_natCast {fromTick : ℕ} {untilTick : Option ℕ}
    (hordered : ∀ last ∈ untilTick, fromTick ≤ last) :
    validateRange fromTick (untilTick.map Nat.cast) = .ok (fromTick, untilTick) := by
  unfold validateRange
  rw [nonNegativeTick_natCast]
  cases untilTick with
  | none => rfl
  | some last =>
    show (nonNegativeTick (last : ℤ) "until_tick" >>= fun last ↦
      if last < fromTick then Except.error _ else pure (fromTick, some last)) = _
    rw [nonNegativeTick_natCast]
    exact if_neg (not_lt.2 (hordered last rfl))

/-- The results of a range that may have no end. -/
theorem exists_resultsWithin
    (hrows : run.file.database.tickResults = results.map tickParameters)
    (hticks : ∀ result ∈ results, fitsInteger result.tick = true) {fromTick : ℕ}
    (hfrom : fitsInteger fromTick = true) {untilTick : Option ℕ}
    (hbounds : ∀ last ∈ untilTick, fromTick ≤ last ∧ fitsInteger last = true) :
    ∃ limit, run.iterTicks fromTick (untilTick.map Nat.cast) =
        .ok (.ofList ((resultsWithin results fromTick limit).map TickResult.captured)) ∧
      ∀ result ∈ results, result.tick ≤ limit ↔ ∀ last ∈ untilTick, result.tick ≤ last := by
  have hranged := validateRange_natCast fun last hlast ↦ (hbounds last hlast).1
  unfold CapturedRunIR.iterTicks
  rw [hranged, ok_bind]
  cases untilTick with
  | some last =>
    refine ⟨last, congrArg Except.ok (readTicks_eq hrows hfrom (hbounds last rfl).2),
      fun result _ ↦ ?_⟩
    simp
  | none =>
    obtain ⟨limit, hfits, hlimit⟩ : ∃ limit : ℕ, fitsInteger limit = true ∧
        ∀ result ∈ results, result.tick ≤ limit := by
      refine ⟨(results.map TickResult.tick).max?.getD 0, ?_, fun result hresult ↦
        List.le_max?_getD_of_mem (List.mem_map_of_mem hresult)⟩
      cases hmax : (results.map TickResult.tick).max? with
      | none => rfl
      | some limit =>
        obtain ⟨result, hresult, rfl⟩ := List.mem_map.1 (List.max?_mem hmax)
        exact hticks result hresult
    have hbound : ∀ row ∈ run.file.database.tickResults, row.tick ≤ limit := by
      rw [hrows]
      intro row hrow
      obtain ⟨result, hresult, rfl⟩ := List.mem_map.1 hrow
      exact hlimit result hresult
    refine ⟨limit, ?_, fun result hresult ↦ by simpa using hlimit result hresult⟩
    exact congrArg Except.ok ((readTicks_none hbound hfits fromTick).trans
      (readTicks_eq hrows hfrom hfits))

/-- A channel has a value in the usable results and in no other. -/
theorem shows_of_rows {Value : Type} {value : CapturedTickResult → Option Value}
    (hrows : run.file.database.tickResults = results.map tickParameters)
    (hvalue : ∀ result : TickResult,
      (value result.captured).isSome ↔ result.condition ≠ .executionProblem) :
    Shows run ⟨run, value⟩ value where
  atTick tick := by
    unfold InputSeries.sampleAt
    cases run.tickAt tick <;> rfl
  overRange fromTick untilTick := by
    unfold InputSeries.iterSamples
    cases run.iterTicks fromTick untilTick <;> rfl
  valid tick found hfound := by
    obtain ⟨result, -, rfl⟩ := exists_of_tickAt hrows hfound
    exact Bool.eq_iff_iff.2 ((hvalue result).trans decide_eq_true_iff.symm)

/-- A result has all values when it is usable, and none otherwise. -/
theorem isSome_iff_usable {Value : Type} {values : Option Value} {result : TickResult}
    (hmeasured : result.condition ≠ .executionProblem → values.isSome)
    (habsent : result.condition = .executionProblem → values = none) :
    values.isSome ↔ result.condition ≠ .executionProblem := by
  constructor
  · intro hsome hproblem
    rw [habsent hproblem] at hsome
    exact absurd hsome Bool.false_ne_true
  · exact hmeasured

section Related

variable (hreports : List.Forall₂ (fun (message : TestResult) (result : TickResult) ↦
  Reports message result.captured) messages results)

include hreports

theorem ticks_of_reports :
    results.map TickResult.tick = messages.map TestResult.tickNumber := by
  induction hreports with
  | nil => rfl
  | cons hreport _ ih => rw [List.map_cons, List.map_cons, ih, ← hreport.tick]; rfl

theorem exists_reports {message : TestResult} (hmessage : message ∈ messages) :
    ∃ result ∈ results, Reports message result.captured := by
  induction hreports with
  | nil => exact absurd hmessage List.not_mem_nil
  | cons hreport _ ih =>
    rcases List.mem_cons.1 hmessage with rfl | hmessage
    · exact ⟨_, List.mem_cons_self, hreport⟩
    · obtain ⟨result, hresult, hreport⟩ := ih hmessage
      exact ⟨result, List.mem_cons_of_mem _ hresult, hreport⟩

/-- A capture with the rows of the results of some messages shows what they reported. -/
theorem reproduces_of_rows (hrows : run.file.database.tickResults = results.map tickParameters)
    (hticksFit : ∀ result ∈ results, fitsInteger result.tick = true)
    (hdistinct : (messages.map TestResult.tickNumber).Nodup) : run.Reproduces messages := by
  have hticks := ticks_of_reports hreports
  have hnodup : (results.map TickResult.tick).Nodup := hticks ▸ hdistinct
  constructor
  · exact fun row _ ↦ capturedColumns_columns row
  · intro message hmessage
    obtain ⟨result, hresult, hreport⟩ := exists_reports hreports hmessage
    refine ⟨result.captured, ?_, hreport⟩
    rw [← hreport.tick]
    exact tickAt_of_mem hrows hnodup hresult (hticksFit result hresult)
  · intro tick hfits hother
    rw [tickAt_eq hrows (fitsInteger_natCast.2 hfits),
      List.find?_eq_none.2 fun result hresult ↦ ?_, Option.map_none]
    have hmem : result.tick ∈ messages.map TestResult.tickNumber :=
      hticks ▸ List.mem_map_of_mem hresult
    obtain ⟨message, hmessage, hsame⟩ := List.mem_map.1 hmem
    simpa [← hsame] using hother message hmessage
  · intro fromTick untilTick hfrom hbounds
    obtain ⟨limit, hrange, hlimit⟩ := exists_resultsWithin hrows hticksFit
      (fitsInteger_natCast.2 hfrom) fun last hlast ↦
        ⟨(hbounds last hlast).1, fitsInteger_natCast.2 (hbounds last hlast).2⟩
    refine ⟨_, hrange, List.pairwise_map.2 (pairwise_resultsWithin hnodup fromTick limit), ?_⟩
    intro found
    constructor
    · intro hfound
      obtain ⟨result, hresult, rfl⟩ := List.mem_map.1 hfound
      obtain ⟨hmem, hfrom, huntil⟩ := mem_resultsWithin.1 hresult
      exact ⟨hfrom, (hlimit result hmem).1 huntil,
        tickAt_of_mem hrows hnodup hmem (hticksFit result hmem)⟩
    · rintro ⟨hfrom, huntil, hread⟩
      obtain ⟨result, hmem, rfl⟩ := exists_of_tickAt hrows hread
      exact List.mem_map_of_mem (mem_resultsWithin.2 ⟨hmem, hfrom, (hlimit result hmem).2 huntil⟩)
  · intro channel
    refine ⟨_, ?_, shows_of_rows hrows fun result ↦ isSome_iff_usable
      (fun h ↦ (result.measured h).1 channel) fun h ↦ (result.absent h).1 channel⟩
    unfold CapturedRunIR.digitalInput
    rw [inputChannel_natCast channel.isLt]
    rfl
  · intro channel
    refine ⟨_, ?_, shows_of_rows hrows fun result ↦ isSome_iff_usable
      (fun h ↦ (result.measured h).2.1 channel) fun h ↦ (result.absent h).2.1 channel⟩
    unfold CapturedRunIR.analogueInput
    rw [inputChannel_natCast channel.isLt]
    rfl
  · intro channel
    refine ⟨_, ?_, shows_of_rows hrows fun result ↦ isSome_iff_usable
      (fun h ↦ (result.measured h).2.2 channel) fun h ↦ (result.absent h).2.2 channel⟩
    unfold CapturedRunIR.pwmInput
    rw [inputChannel_natCast channel.isLt]
    rfl

end Related

end Views

/-! ### Storage -/

theorem insertable_map_tick {results : List TickResult}
    (hnodup : (results.map TickResult.tick).Nodup)
    (hfits : ∀ result ∈ results, (tickParameters result).fits = true) :
    Insertable (results.map .tick) := by
  have hcommunications : (results.map Record.tick).filterMap Record.communicationResult = [] := by
    rw [List.filterMap_map]
    exact List.filterMap_eq_nil_iff.2 fun _ _ ↦ rfl
  have herrors : errorsOf (results.map Record.tick) = [] := by
    rw [errorsOf, List.filterMap_map]
    exact List.filterMap_eq_nil_iff.2 fun _ _ ↦ rfl
  refine ⟨by rwa [ticksOf_map_tick], ?_, ?_⟩
  · rw [communicationsOf, hcommunications]
    exact List.nodup_nil
  · rw [communicationsOf, hcommunications, ticksOf_map_tick, herrors]
    exact ⟨hfits, fits_nil.communications, fits_nil.errors⟩

/-- Result messages of a builder's run with distinct ticks are reproduced by every capture that
stored what the adapter made of them, wherever its batches end and whatever else a builder stored
in between. -/
theorem reproduces_of_messages {builder : BuilderHandle} {messages : List TestResult}
    (hmessages : ∀ message ∈ messages, Reportable builder message)
    (hdistinct : (messages.map TestResult.tickNumber).Nodup)
    (hexpected : 0 < builder.expectedTickCount) :
    ∃ results, messages.mapM (fun message ↦
        ingestApplicationMessage builder message (.ok ())) = .ok results ∧
      (∀ batches : List (List Record), batches.flatten = results.map .tick →
        ∃ database, outcome (writeBatches (fun _ ↦ none) (fun _ ↦ 0) batches
            ⟨initializeCaptureDatabase builder.expectedTickCount hexpected, none, 0⟩) =
              some database ∧
          ∀ run : CapturedRunIR, run.file.database = database →
            database.tickResults.map TickRow.columns = results.map tickColumns ∧
              run.Reproduces messages) ∧
      ∀ settings faults state,
        ReflTransGen (BuilderStep settings faults) (.initial settings) state →
        state.phase = .finalized → ticksOf (recordsOf state.trace.processed) = results →
          ∀ run : CapturedRunIR, run.file.database = state.session.committed →
            run.file.database.tickResults.map TickRow.columns = results.map tickColumns ∧
              run.Reproduces messages := by
  obtain ⟨results, hresults, hreports⟩ := exists_ingested_all hmessages
  have hcolumns {database : CaptureDatabase}
      (hrows : database.tickResults = results.map tickParameters) :
      database.tickResults.map TickRow.columns = results.map tickColumns := by
    rw [hrows, List.map_map]
    exact List.map_congr_left fun result _ ↦ columns_tickParameters result
  have hfits : ∀ result ∈ results, (tickParameters result).fits = true :=
    fits_of_all_reports hmessages hreports
  have hticksFit (result : TickResult) (hresult : result ∈ results) :
      fitsInteger result.tick = true :=
    fitsInteger_tick_of_fits (hfits result hresult)
  refine ⟨results, hresults, fun batches hbatches ↦ ?_, ?_⟩
  · have hnodup : (results.map TickResult.tick).Nodup := by rwa [ticks_of_reports hreports]
    obtain ⟨database, hholds, -, hwritten⟩ :=
      exists_outcome_writeBatches (insertable_map_tick hnodup hfits) hexpected
    have hrows := hholds.ticks
    rw [ticksOf_map_tick] at hrows
    refine ⟨database, hwritten batches hbatches, fun run hrun ↦ ⟨hcolumns hrows, ?_⟩⟩
    exact reproduces_of_rows hreports (hrun ▸ hrows) hticksFit hdistinct
  · intro settings faults state hrun hphase hprocessed run hdatabase
    have hrows := ((recording_run hrun).holds_of_finalized hphase).ticks
    rw [hprocessed, ← hdatabase] at hrows
    exact ⟨hcolumns hrows, reproduces_of_rows hreports hrows hticksFit hdistinct⟩

/-- A run of three ticks. -/
def threeTicks : BuilderHandle :=
  ⟨0, 7, 1, 3⟩

/-- The last tick arrives first and the middle one not at all; the first tick reports a problem,
with placeholders that are no measurements. -/
def twoMessages : List TestResult :=
  [⟨⟨List.replicate 15 0 ++ [1]⟩, 2, List.replicate 10 true, [-5, 3300000],
      [⟨1000, 2500⟩, ⟨0, 10000⟩], .partialResult, 4⟩,
    ⟨⟨List.replicate 15 0 ++ [1]⟩, 0, [], [0], [⟨0, 20000⟩], .executionProblem, 9⟩]

theorem reproduces_twoMessages :
    ∃ results, twoMessages.mapM (fun message ↦
        ingestApplicationMessage threeTicks message (.ok ())) = .ok results ∧
      ∀ batches : List (List Record), batches.flatten = results.map .tick →
        ∃ database, outcome (writeBatches (fun _ ↦ none) (fun _ ↦ 0) batches
            ⟨initializeCaptureDatabase 3 (by decide), none, 0⟩) = some database ∧
          ∀ run : CapturedRunIR, run.file.database = database →
            database.tickResults.map TickRow.columns = results.map tickColumns ∧
              run.Reproduces twoMessages := by
  have hmessages : ∀ message ∈ twoMessages, Reportable threeTicks message := by
    intro message hmessage
    simp only [twoMessages, List.mem_cons, List.not_mem_nil, or_false] at hmessage
    rcases hmessage with rfl | rfl
    · exact ⟨by decide, ⟨_, rfl⟩, by decide, by decide, by decide, fun _ ↦ by decide,
        fun _ ↦ by decide, fun _ ↦ by decide⟩
    · exact ⟨by decide, ⟨_, rfl⟩, by decide, by decide, by decide, fun h ↦ absurd rfl h,
        fun h ↦ absurd rfl h, fun h ↦ absurd rfl h⟩
  obtain ⟨results, hresults, hstored, -⟩ :=
    reproduces_of_messages hmessages (by decide) (by decide)
  exact ⟨results, hresults, hstored⟩

end HilRig.Results
