import HilRig.Foundations.OrderedQueries
import HilRig.Results.Ordinals
import HilRig.Results.TickEvidence

/-!
# Queries of communications

`CapturedRunIR.iterCommunications` yields the stored communications that match its filters, by tick
and then in the order in which they were stored. In every state of a builder the rows that its
writer has committed are read back so (`communications_of_run`): each stored communication once,
with its payload and its ordinal, within a tick in the order of the arrivals, and every narrower
query is the widest one with the other captures left out.
-/

set_option autoImplicit false
set_option relaxedAutoImplicit false

namespace HilRig.Results

open HilRig.Foundations Relation

/-- The raw communication captures that match the supplied filters. -/
def CapturedRunIR.iterCommunications (run : CapturedRunIR)
    (peripheral : Option CommunicationPeripheral) (channel : Option ℤ) (fromTick : ℤ)
    (untilTick : Option ℤ) :
    Except HilRigError (Iteration HilRigError CommunicationCapture) := do
  let channel ← match channel with
    | none => pure none
    | some channel => some <$> nonNegativeTick channel "channel"
  let bounds ← validateRange fromTick untilTick
  return readCommunications run.file.database run.metadata.tickPeriodNs
    ⟨peripheral, channel, bounds.1, bounds.2⟩

/-! ### Captures of stored communications -/

/-- The capture that a stored communication is read back as; the rows are numbered from one. -/
def storedCommunication (tickPeriodNs : ℕ) (entry : CommunicationResult × ℕ) :
    CommunicationCapture where
  captureId := entry.2 + 1
  tick := entry.1.tick
  timeNs := entry.1.tick * tickPeriodNs
  ordinal := entry.1.ordinal.getD 0
  peripheral := entry.1.peripheral
  channel := entry.1.channel
  payload := entry.1.payload

namespace CommunicationFilter

variable (filter : CommunicationFilter)

/-- Whether a capture matches the filters. -/
def keeps (capture : CommunicationCapture) : Bool :=
  filter.fromTick ≤ capture.tick ∧ (filter.untilTick.all fun last ↦ capture.tick ≤ last) ∧
    (filter.peripheral.all fun peripheral ↦ capture.peripheral = peripheral) ∧
      filter.channel.all fun channel ↦ capture.channel = channel

/-- The filters are a range that the database can bind. -/
structure Valid : Prop where
  ordered : ∀ last ∈ filter.untilTick, filter.fromTick ≤ last
  first : filter.fromTick < 2 ^ 63
  last : ∀ last ∈ filter.untilTick, last < 2 ^ 63
  channel : ∀ channel ∈ filter.channel, channel < 2 ^ 63

end CommunicationFilter

section Queries

variable {run : CapturedRunIR} {database : CaptureDatabase} {items : List CommunicationResult}
  {tickPeriodNs : ℕ}

theorem CommunicationPeripheral.ofValue_value (peripheral : CommunicationPeripheral) :
    CommunicationPeripheral.ofValue peripheral.value = .ok peripheral := by
  cases peripheral <;> decide

/-- The row of a communication is read back as its capture. -/
theorem capturedCommunication_eq (entry : CommunicationResult × ℕ) :
    capturedCommunication tickPeriodNs (Prod.map communicationParameters id entry) =
      .ok (storedCommunication tickPeriodNs entry) := by
  show (CommunicationPeripheral.ofValue entry.1.peripheral.value >>= _) = _
  rw [CommunicationPeripheral.ofValue_value]
  rfl

/-- The filters admit the row of a communication exactly when they keep its capture. -/
theorem admits_communicationParameters (filter : CommunicationFilter)
    (entry : CommunicationResult × ℕ) :
    filter.admits (communicationParameters entry.1) =
      filter.keeps (storedCommunication tickPeriodNs entry) := by
  have hperipheral : (fun peripheral : CommunicationPeripheral ↦
      decide (entry.1.peripheral.value = peripheral.value)) =
        fun peripheral ↦ decide (entry.1.peripheral = peripheral) :=
    funext fun _ ↦ decide_eq_decide.2 CommunicationPeripheral.value_injective.eq_iff
  refine decide_eq_decide.2 (and_congr Iff.rfl (and_congr Iff.rfl (and_congr ?_ Iff.rfl)))
  show filter.peripheral.all (fun peripheral ↦ entry.1.peripheral.value = peripheral.value) =
    true ↔ _
  rw [hperipheral]
  rfl

/-- The captures of all stored communications, in the order of a query. -/
def allCaptures (tickPeriodNs : ℕ) (items : List CommunicationResult) :
    List CommunicationCapture :=
  (select CommunicationResult.tick (fun _ ↦ true) items).map (storedCommunication tickPeriodNs)

/-- The integers of valid filters can be bound. -/
theorem CommunicationFilter.Valid.fits {filter : CommunicationFilter} (hvalid : filter.Valid) :
    filter.fits = true := by
  have hlast := fitsColumn_natCast.2 fun last hlast ↦
    fitsInteger_natCast.2 (hvalid.last last hlast)
  have hchannel := fitsColumn_natCast.2 fun channel hchannel ↦
    fitsInteger_natCast.2 (hvalid.channel channel hchannel)
  rw [CommunicationFilter.fits, fitsInteger_natCast.2 hvalid.first, hlast, hchannel,
    Bool.and_self, Bool.and_self]

/-- A query yields the captures that its filters keep. -/
theorem readCommunications_eq
    (hrows : database.communicationResults = items.map communicationParameters)
    {filter : CommunicationFilter} (hvalid : filter.Valid) :
    readCommunications database tickPeriodNs filter =
      .ofList ((allCaptures tickPeriodNs items).filter filter.keeps) := by
  have hquery : readCommunications database tickPeriodNs filter =
      .translate (capturedCommunication tickPeriodNs)
        (select CommunicationRow.tick filter.admits database.communicationResults) :=
    if_neg (not_not.2 hvalid.fits)
  have hselect : select CommunicationRow.tick filter.admits
      (items.map communicationParameters) =
        ((select CommunicationResult.tick (fun _ ↦ true) items).filter fun entry ↦
          filter.keeps (storedCommunication tickPeriodNs entry)).map
            (Prod.map communicationParameters id) := by
    rw [select_map, select_eq_filter]
    refine congrArg (List.map _) (List.filter_congr fun entry _ ↦ ?_)
    exact admits_communicationParameters filter entry
  rw [hquery, hrows, hselect, Iteration.translate_map capturedCommunication_eq, allCaptures,
    List.filter_map]
  rfl

/-- A query with valid filters is that of the database. -/
theorem iterCommunications_eq {filter : CommunicationFilter} (hvalid : filter.Valid) :
    run.iterCommunications filter.peripheral (filter.channel.map Nat.cast) filter.fromTick
        (filter.untilTick.map Nat.cast) =
      .ok (readCommunications run.file.database run.file.tickPeriodNs filter) := by
  unfold CapturedRunIR.iterCommunications
  rw [validateRange_natCast hvalid.ordered]
  obtain ⟨peripheral, channel, fromTick, untilTick⟩ := filter
  cases channel with
  | none => rfl
  | some channel =>
    show ((some <$> nonNegativeTick (channel : ℤ) "channel") >>= _) = _
    rw [nonNegativeTick_natCast]
    rfl

theorem valid_wide : CommunicationFilter.Valid ⟨none, none, 0, none⟩ where
  ordered _ hlast := absurd hlast (Option.not_mem_none _)
  first := by decide
  last _ hlast := absurd hlast (Option.not_mem_none _)
  channel _ hchannel := absurd hchannel (Option.not_mem_none _)

theorem keeps_of_wide (capture : CommunicationCapture) :
    CommunicationFilter.keeps ⟨none, none, 0, none⟩ capture = true :=
  decide_eq_true ⟨Nat.zero_le _, rfl, rfl, rfl⟩

/-- The captures of one tick are its communications, in the order of their rows. -/
theorem filter_allCaptures (tick : ℕ) :
    (allCaptures tickPeriodNs items).filter (fun capture ↦ capture.tick = tick) =
      (items.zipIdx.filter fun entry ↦ entry.1.tick = tick).map
        (storedCommunication tickPeriodNs) := by
  have htick : select CommunicationResult.tick (fun item ↦ item.tick = tick) items =
      items.zipIdx.filter fun entry ↦ entry.1.tick = tick :=
    select_of_rank fun item _ hitem ↦ of_decide_eq_true hitem
  rw [select_eq_filter] at htick
  rw [allCaptures, List.filter_map, ← htick]
  rfl

/-- A capture comes strictly before another: by tick, and then by its number. -/
def CommunicationCapture.Precedes (first second : CommunicationCapture) : Prop :=
  first.tick < second.tick ∨ first.tick = second.tick ∧ first.captureId < second.captureId

theorem pairwise_allCaptures :
    (allCaptures tickPeriodNs items).Pairwise CommunicationCapture.Precedes := by
  refine List.pairwise_map.2 (pairwise_select.imp fun {first second} hlt ↦ ?_)
  exact hlt.imp_right fun hsame ↦ ⟨hsame.1, Nat.succ_lt_succ hsame.2⟩

theorem perm_allCaptures : (allCaptures tickPeriodNs items).Perm
    (items.zipIdx.map (storedCommunication tickPeriodNs)) := by
  have hall : (select CommunicationResult.tick (fun _ ↦ true) items).Perm items.zipIdx := by
    simpa using (perm_select : (select CommunicationResult.tick (fun _ ↦ true) items).Perm _)
  exact hall.map _

end Queries

/-! ### Every state of a builder -/

section Runs

variable {settings : BuilderSettings} {faults : ℕ → Option HilRigError} {state : BuilderState}
  {run : CapturedRunIR}

/-- In every state of every run of a builder, a view of its capture yields the communications that
are stored: each once, in strict order, with what was recorded, and within a tick in the order of
their arrival. A query with filters yields those of these captures that the filters keep. -/
theorem communications_of_run
    (hrun : ReflTransGen (BuilderStep settings faults) (.initial settings) state)
    (hfile : run.file.database = state.session.committed) :
    ∃ captures : List CommunicationCapture,
      run.iterCommunications none none 0 none = .ok (.ofList captures) ∧
      captures.Perm ((communicationsOf state.trace.stored).1.zipIdx.map
        (storedCommunication run.file.tickPeriodNs)) ∧
      captures.Pairwise CommunicationCapture.Precedes ∧
      (∀ tick, captures.filter (fun capture ↦ capture.tick = tick) =
        ((communicationsOf state.trace.stored).1.zipIdx.filter fun entry ↦
          entry.1.tick = tick).map (storedCommunication run.file.tickPeriodNs)) ∧
      ∀ filter : CommunicationFilter, filter.Valid →
        run.iterCommunications filter.peripheral (filter.channel.map Nat.cast) filter.fromTick
          (filter.untilTick.map Nat.cast) = .ok (.ofList (captures.filter filter.keeps)) := by
  have hrows := (recording_run hrun).holds.communications
  rw [← hfile] at hrows
  have hfiltered (filter : CommunicationFilter) (hvalid : filter.Valid) :
      run.iterCommunications filter.peripheral (filter.channel.map Nat.cast) filter.fromTick
          (filter.untilTick.map Nat.cast) =
        .ok (.ofList ((allCaptures run.file.tickPeriodNs
          (communicationsOf state.trace.stored).1).filter filter.keeps)) := by
    rw [iterCommunications_eq hvalid, readCommunications_eq hrows hvalid]
  refine ⟨_, ?_, perm_allCaptures, pairwise_allCaptures, filter_allCaptures, hfiltered⟩
  refine (hfiltered _ valid_wide).trans ?_
  rw [List.filter_eq_self.2 fun capture _ ↦ keeps_of_wide capture]

/-- A capture of two ticks, with batches of one record. -/
def pairSettings : BuilderSettings :=
  ⟨2, Nat.two_pos, 1, Nat.one_pos, 2, Nat.two_pos⟩

/-- A thread adds a communication of the tick 1, and then one of the tick 0. -/
def pairRun : List BuilderLabel :=
  [.start none, .add 0 (.communication ⟨1, .uart, 2, [7], none⟩), .recheck 0, .enqueue 0, .process,
    .add 0 (.communication ⟨0, .spi, 0, [8, 9], none⟩), .recheck 0, .enqueue 0, .process]

/-- The second communication is the first one of the query. -/
theorem communications_of_run_pairRun : ∃ state captures,
    (BuilderState.initial pairSettings).run pairSettings (fun _ ↦ none) pairRun = some state ∧
      (millisecondRun state.session.committed).iterCommunications none none 0 none =
        .ok (.ofList captures) ∧
      captures.Perm [⟨1, 1, 1000000, 0, .uart, 2, [7]⟩, ⟨2, 0, 0, 0, .spi, 0, [8, 9]⟩] := by
  have hrun : ((BuilderState.initial pairSettings).run pairSettings (fun _ ↦ none) pairRun).map
      (fun state ↦ (communicationsOf state.trace.stored).1) =
        some [⟨1, .uart, 2, [7], some 0⟩, ⟨0, .spi, 0, [8, 9], some 0⟩] := by decide +kernel
  obtain ⟨state, hstate, hstored⟩ := Option.map_eq_some_iff.1 hrun
  obtain ⟨captures, hcaptures, hperm, -⟩ := @communications_of_run _ _ _
    (millisecondRun state.session.committed) (reflTransGen_of_run hstate) rfl
  refine ⟨state, captures, hstate, hcaptures, ?_⟩
  simpa [hstored, storedCommunication, millisecondRun] using hperm

end Runs

end HilRig.Results
