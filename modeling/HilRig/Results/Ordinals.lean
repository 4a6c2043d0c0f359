import HilRig.Results.Batching

/-!
# Ordinals of communications

The writer loop keeps, for each tick, peripheral and channel, an ordinal above all those used there.
So an ordinal it assigns is new on its key, whatever arrives on other keys and wherever the batches
end, and only an explicit ordinal can violate the uniqueness of the stored communications
(`ordinals_of_arrivals`).
-/

set_option autoImplicit false
set_option relaxedAutoImplicit false

namespace HilRig.Results

open HilRig.Foundations Relation

/-! ### Ordinals by key -/

/-- The key under which the writer loop counts a communication. -/
def CommunicationResult.key (item : CommunicationResult) : ℕ × CommunicationPeripheral × ℕ :=
  (item.tick, item.peripheral, item.channel)

/-- The next ordinals after some arrivals. -/
def nextAfter (early : List CommunicationResult) : OrdinalMap :=
  (numberFrom (fun _ ↦ 0) early).2

/-- The ordinal of an arrival after some others: its own, or the next one of its key. -/
def ordinalAfter (early : List CommunicationResult) (item : CommunicationResult) : ℕ :=
  item.ordinal.getD (nextAfter early item.key)

/-- An arrival with its ordinal. -/
def numberedAfter (early : List CommunicationResult) (item : CommunicationResult) :
    CommunicationResult :=
  { item with ordinal := some (ordinalAfter early item) }

section Numbering

variable {next : OrdinalMap} {arrivals early first rest later : List CommunicationResult}
  {item earlier : CommunicationResult} {key : ℕ × CommunicationPeripheral × ℕ}

theorem nextAfter_concat :
    nextAfter (early ++ [item]) =
      Function.update (nextAfter early) item.key
        (max (nextAfter early item.key) (ordinalAfter early item + 1)) := by
  rw [nextAfter, numberFrom_append]
  rfl

theorem nextAfter_concat_self :
    nextAfter (early ++ [item]) item.key =
      max (nextAfter early item.key) (ordinalAfter early item + 1) := by
  rw [nextAfter_concat, Function.update_self]

theorem nextAfter_concat_of_ne (hne : key ≠ item.key) :
    nextAfter (early ++ [item]) key = nextAfter early key := by
  rw [nextAfter_concat, Function.update_of_ne hne]

/-- The next ordinal of a key never decreases. -/
theorem nextAfter_le_concat : nextAfter early key ≤ nextAfter (early ++ [item]) key := by
  by_cases hkey : key = item.key
  · rw [hkey, nextAfter_concat_self]
    exact le_max_left _ _
  · rw [nextAfter_concat_of_ne hkey]

/-- The next ordinal of a key is above every ordinal used on it. -/
theorem ordinalAfter_lt_nextAfter :
    ordinalAfter first earlier < nextAfter (first ++ earlier :: rest) earlier.key := by
  induction rest using List.reverseRecOn with
  | nil =>
    rw [nextAfter_concat_self]
    omega
  | append_singleton rest item ih =>
    rw [← List.cons_append, ← List.append_assoc]
    exact ih.trans_le nextAfter_le_concat

/-- An assigned ordinal is above every earlier one on its key. -/
theorem ordinalAfter_lt (hautomatic : item.ordinal = none) (hkey : earlier.key = item.key) :
    ordinalAfter first earlier < ordinalAfter (first ++ earlier :: rest) item := by
  have hnext : ordinalAfter (first ++ earlier :: rest) item =
      nextAfter (first ++ earlier :: rest) item.key := by
    rw [ordinalAfter, hautomatic, Option.getD_none]
  rw [hnext, ← hkey]
  exact ordinalAfter_lt_nextAfter

/-- Only the arrivals on a key count for its next ordinal. -/
theorem nextAfter_filter (key : ℕ × CommunicationPeripheral × ℕ)
    (early : List CommunicationResult) :
    nextAfter (early.filter fun other ↦ other.key = key) key = nextAfter early key := by
  induction early using List.reverseRecOn with
  | nil => rfl
  | append_singleton early item ih =>
    by_cases hkey : item.key = key
    · subst hkey
      have hordinal : ordinalAfter (early.filter fun other ↦ other.key = item.key) item =
          ordinalAfter early item := by rw [ordinalAfter, ordinalAfter, ih]
      rw [List.filter_append, List.filter_singleton, decide_eq_true rfl, cond_true,
        nextAfter_concat_self, nextAfter_concat_self, ih, hordinal]
    · rw [List.filter_append, List.filter_singleton, decide_eq_false hkey, cond_false,
        List.append_nil, nextAfter_concat_of_ne (Ne.symm hkey), ih]

theorem ordinalAfter_filter (early : List CommunicationResult) (item : CommunicationResult) :
    ordinalAfter (early.filter fun other ↦ other.key = item.key) item =
      ordinalAfter early item := by
  rw [ordinalAfter, ordinalAfter, nextAfter_filter]

/-- On a key without explicit ordinals the next ordinal is the number of its arrivals. -/
theorem nextAfter_of_automatic
    (hautomatic : ∀ other ∈ early, other.key = key → other.ordinal = none) :
    nextAfter early key = early.countP fun other ↦ other.key = key := by
  induction early using List.reverseRecOn with
  | nil => rfl
  | append_singleton early item ih =>
    have hcount := ih fun other hother ↦ hautomatic other (List.mem_append_left _ hother)
    rw [List.countP_append, List.countP_singleton]
    by_cases hkey : item.key = key
    · have hordinal : ordinalAfter early item = nextAfter early item.key := by
        rw [ordinalAfter, hautomatic item (by simp) hkey, Option.getD_none]
      subst hkey
      rw [nextAfter_concat_self, hordinal, hcount, decide_eq_true rfl, if_pos rfl]
      omega
    · rw [nextAfter_concat_of_ne (Ne.symm hkey), hcount, decide_eq_false hkey]
      rfl

/-! ### Numbered arrivals -/

theorem length_numberFrom (next : OrdinalMap) (arrivals : List CommunicationResult) :
    (numberFrom next arrivals).1.length = arrivals.length := by
  induction arrivals generalizing next with
  | nil => rfl
  | cons item arrivals ih => rw [numberFrom, List.length_cons, ih, List.length_cons]

/-- The numbered arrivals are the arrivals, each with its ordinal. -/
theorem getElem?_numberFrom :
    (numberFrom (fun _ ↦ 0) (early ++ item :: later)).1[early.length]? =
      some (numberedAfter early item) := by
  rw [numberFrom_append, List.getElem?_append_right (length_numberFrom _ _).le, length_numberFrom,
    Nat.sub_self]
  rfl

/-- A place among numbered arrivals is a place among the arrivals. -/
theorem exists_split_numberFrom {before after : List CommunicationResult}
    {numbered : CommunicationResult}
    (hnumbered : (numberFrom next arrivals).1 = before ++ numbered :: after) :
    ∃ early item later, arrivals = early ++ item :: later ∧ (numberFrom next early).1 = before ∧
      (assignOrdinal (numberFrom next early).2 item).1 = numbered := by
  induction before generalizing next arrivals with
  | nil =>
    cases arrivals with
    | nil => cases hnumbered
    | cons item later =>
      exact ⟨[], item, later, rfl, rfl, (List.cons.inj hnumbered).1⟩
  | cons other before ih =>
    cases arrivals with
    | nil => cases hnumbered
    | cons head arrivals =>
      obtain ⟨hhead, htail⟩ := List.cons.inj hnumbered
      obtain ⟨early, item, later, rfl, hbefore, hitem⟩ := ih htail
      exact ⟨head :: early, item, later, rfl, by rw [numberFrom, hhead, hbefore], hitem⟩

theorem CommunicationPeripheral.value_injective :
    Function.Injective CommunicationPeripheral.value := by
  intro first second heq
  cases first <;> cases second <;> first | rfl | exact absurd heq (by decide)

/-- Rows with the same unique columns come from the same key with the same ordinal. -/
theorem key_numberedAfter
    (heq : (communicationParameters (numberedAfter first earlier)).key =
      (communicationParameters (numberedAfter early item)).key) :
    earlier.key = item.key ∧ ordinalAfter first earlier = ordinalAfter early item := by
  simp only [communicationParameters, numberedAfter, CommunicationRow.key, Option.getD_some,
    Prod.mk.injEq] at heq
  obtain ⟨htick, hperipheral, hchannel, hordinal⟩ := heq
  exact ⟨Prod.ext htick (Prod.ext (CommunicationPeripheral.value_injective hperipheral) hchannel),
    hordinal⟩

/-- Unique columns that repeat earlier ones come from an explicit ordinal that repeats an earlier
one on its key. -/
theorem explicit_of_repeated {before after : List CommunicationResult}
    {numbered : CommunicationResult}
    (hnumbered : (numberFrom (fun _ ↦ 0) arrivals).1 = before ++ numbered :: after)
    (hrepeated : (communicationParameters numbered).key ∈
      before.map fun other ↦ (communicationParameters other).key) :
    ∃ first earlier rest later, arrivals = first ++ earlier :: rest ++ numbered :: later ∧
      earlier.key = numbered.key ∧ numbered.ordinal = some (ordinalAfter first earlier) := by
  obtain ⟨early, item, later, rfl, rfl, rfl⟩ := exists_split_numberFrom hnumbered
  obtain ⟨other, hother, hsame⟩ := List.mem_map.1 hrepeated
  obtain ⟨front, back, hsplit⟩ := List.append_of_mem hother
  obtain ⟨first, earlier, rest, rfl, -, rfl⟩ := exists_split_numberFrom hsplit
  obtain ⟨hkey, hordinal⟩ : earlier.key = item.key ∧
      ordinalAfter first earlier = ordinalAfter (first ++ earlier :: rest) item :=
    key_numberedAfter hsame
  cases hexplicit : item.ordinal with
  | none => exact absurd hordinal (ordinalAfter_lt hexplicit hkey).ne
  | some ordinal =>
    have hgiven : ordinalAfter (first ++ earlier :: rest) item = ordinal := by
      rw [ordinalAfter, hexplicit, Option.getD_some]
    have hunchanged : numberedAfter (first ++ earlier :: rest) item = item := by
      rw [numberedAfter, hgiven, ← hexplicit]
    refine ⟨first, earlier, rest, later, ?_, hkey, congrArg some hordinal.symm⟩
    exact congrArg (fun last ↦ first ++ earlier :: rest ++ last :: later) hunchanged.symm

end Numbering

/-! ### Batches of the writer -/

/-- The communications among the records that the writer took, oldest first. -/
def BuilderState.communicationArrivals (state : BuilderState) : List CommunicationResult :=
  (recordsOf state.trace.processed).filterMap Record.communicationResult

/-- The state whose pending records a step writes as a batch, if it writes one. -/
def BuilderState.flushing (settings : BuilderSettings) (state : BuilderState) :
    BuilderLabel → Option BuilderState
  | .process =>
    match state.phase, state.queue with
    | .looping, .record record :: rest =>
      let pended := (state.take (.record record) rest).pend record
      if settings.batchSize ≤ pended.recordCount then some pended else none
    | .looping, .control request :: rest => some (state.take (.control request) rest)
    | _, _ => none
  | .timeout =>
    match state.phase, state.queue, state.batchStarted with
    | .looping, [], true => some state
    | _, _, _ => none
  | _ => none

section Batches

variable {settings : BuilderSettings} {faults : ℕ → Option HilRigError}
  {state batch : BuilderState} {label : BuilderLabel}

/-- The records of a batch are written by the step. -/
theorem step_of_flushing (hflushing : state.flushing settings label = some batch) :
    ∃ active next, state.step settings faults label =
      some (batch.flushPending faults active next) := by
  unfold BuilderState.flushing at hflushing
  split at hflushing
  · split at hflushing
    · rename_i record rest hphase hqueue
      obtain ⟨hfull, hbatch⟩ := Option.ite_none_right_eq_some.1 hflushing
      obtain rfl := Option.some.inj hbatch
      refine ⟨none, id, ?_⟩
      simp only [BuilderState.step, BuilderState.process, hphase, hqueue, if_pos hfull]
    · rename_i request rest hphase hqueue
      obtain rfl := Option.some.inj hflushing
      refine ⟨some request, fun flushed ↦ flushed.serve faults request, ?_⟩
      simp only [BuilderState.step, BuilderState.process, hphase, hqueue]
    · cases hflushing
  · split at hflushing
    · rename_i hphase hqueue hstarted
      obtain rfl := Option.some.inj hflushing
      refine ⟨none, id, ?_⟩
      simp only [BuilderState.step, BuilderState.timeout, hphase, hqueue, hstarted]
    · cases hflushing
  · cases hflushing

/-- The state of a batch is still that of a recording. -/
theorem Recording.flushing (hrecording : Recording settings state)
    (hflushing : state.flushing settings label = some batch) :
    Recording settings batch ∧ batch.phase.runs = true := by
  unfold BuilderState.flushing at hflushing
  split at hflushing
  · split at hflushing
    · rename_i record rest hphase hqueue
      obtain ⟨-, hbatch⟩ := Option.ite_none_right_eq_some.1 hflushing
      obtain rfl := Option.some.inj hbatch
      refine ⟨hrecording.pend hphase hqueue, ?_⟩
      cases record <;> simp [BuilderState.pend, BuilderState.take, hphase, WriterPhase.runs]
    · rename_i request rest hphase hqueue
      obtain rfl := Option.some.inj hflushing
      exact ⟨hrecording.takeControl hphase hqueue, by
        simp [BuilderState.take, hphase, WriterPhase.runs]⟩
    · cases hflushing
  · split at hflushing
    · rename_i hphase hqueue hstarted
      obtain rfl := Option.some.inj hflushing
      exact ⟨hrecording, by simp [hphase, WriterPhase.runs]⟩
    · cases hflushing
  · cases hflushing

/-- What is stored and what is pending are the arrivals with their ordinals. -/
theorem Recording.numbered (hrecording : Recording settings state)
    (hruns : state.phase.runs = true) :
    ∃ stored, stored ++ state.pendingCommunications =
        (numberFrom (fun _ ↦ 0) state.communicationArrivals).1 ∧
      state.session.committed.communicationResults = stored.map communicationParameters := by
  obtain ⟨-, pending, hpending⟩ := hrecording.running hruns
  refine ⟨(communicationsOf state.trace.stored).1, ?_, hrecording.holds.communications⟩
  rw [← hpending.communications, BuilderState.communicationArrivals, hpending.processed]
  rfl

/-- The statements of a batch before one of its communications add the rows of those before. -/
theorem keys_of_applyAll {ticks : List TickResult} {before : List CommunicationResult}
    {database after : CaptureDatabase}
    (happlied : applyAll (tickStatements ticks ++ before.map insertCommunication) database =
      .ok after) :
    after.keys = database.keys ++ before.map fun item ↦ (communicationParameters item).key := by
  rw [applyAll_append, bind_eq_ok] at happlied
  obtain ⟨middle, hmiddle, hafter⟩ := happlied
  obtain ⟨-, rfl⟩ := tickStatements_eq_ok.1 hmiddle
  obtain ⟨-, rfl⟩ := keyedInsertion_insertCommunication.applyAll_eq_ok.1 hafter
  rw [foldl_addCommunication]
  simp [CaptureDatabase.keys, CaptureDatabase.extend, Function.comp_def]

/-- Only integers that do not fit, or unique columns that are stored already, make an insertion with
an ordinal fail. -/
theorem overflow_or_mem_keys_of_error {item : CommunicationResult} {database : CaptureDatabase}
    {error : HilRigError} (hordinal : item.ordinal ≠ none)
    (hfailed : insertCommunication item database = .error error) :
    error = integerOverflow ∨ (communicationParameters item).key ∈ database.keys := by
  by_cases hfits : (communicationParameters item).fits = true
  · refine .inr (not_not.1 fun hnew ↦ ?_)
    have hinserted := (keyedInsertion_insertCommunication.insert_eq_ok item database _).2
      ⟨⟨⟨hfits, hordinal⟩, hnew⟩, rfl⟩
    rw [hinserted] at hfailed
    cases hfailed
  · rw [insertCommunication, if_pos hfits] at hfailed
    exact .inl (Except.error.inj hfailed).symm

/-- In a batch that the writer sends, an insertion of a communication whose integers fit fails only
for an explicit ordinal that repeats an earlier one on its key. -/
theorem explicit_of_error (hrecording : Recording settings batch)
    (hruns : batch.phase.runs = true) {before after : List CommunicationResult}
    {item : CommunicationResult} (hpending : batch.pendingCommunications = before ++ item :: after)
    {database : CaptureDatabase} {error : HilRigError}
    (happlied : applyAll (tickStatements batch.pendingTicks ++ before.map insertCommunication)
      batch.session.committed = .ok database)
    (hfailed : insertCommunication item database = .error error) :
    error = integerOverflow ∨ ∃ first earlier rest later,
      batch.communicationArrivals = first ++ earlier :: rest ++ item :: later ∧
        earlier.key = item.key ∧ item.ordinal = some (ordinalAfter first earlier) := by
  obtain ⟨stored, hnumbered, hrows⟩ := hrecording.numbered hruns
  rw [hpending, ← List.append_assoc] at hnumbered
  have hordinal : item.ordinal ≠ none := by
    refine @ordinal_numberFrom (fun _ ↦ 0) batch.communicationArrivals item ?_
    rw [← hnumbered]
    simp
  refine (overflow_or_mem_keys_of_error hordinal hfailed).imp_right fun hmem ↦ ?_
  refine explicit_of_repeated hnumbered.symm ?_
  rw [keys_of_applyAll happlied, CaptureDatabase.keys, hrows, List.map_map] at hmem
  rw [List.map_append]
  exact hmem

end Batches

/-- Ordinals of communications, for every sequence of arrivals and every run of a builder. An
arrival is numbered with its own ordinal or with one above all earlier ones on its key, which
depends on the arrivals of this key alone and counts them when none is explicit. What a builder has
stored and what is pending are its arrivals with these ordinals, wherever its batches end, and a
communication that a batch cannot insert, though its integers fit, has an explicit ordinal that
repeats an earlier one on its key. -/
theorem ordinals_of_arrivals :
    (∀ early item later,
      (numberFrom (fun _ ↦ 0) (early ++ item :: later)).1[early.length]? =
          some { item with ordinal := some (ordinalAfter early item) } ∧
        (item.ordinal = none → ∀ first earlier rest, early = first ++ earlier :: rest →
          earlier.key = item.key → ordinalAfter first earlier < ordinalAfter early item) ∧
        ordinalAfter (early.filter fun other ↦ other.key = item.key) item =
          ordinalAfter early item ∧
        (item.ordinal = none →
          (∀ other ∈ early, other.key = item.key → other.ordinal = none) →
            ordinalAfter early item = early.countP fun other ↦ other.key = item.key)) ∧
    ∀ settings faults state,
      ReflTransGen (BuilderStep settings faults) (.initial settings) state →
        (state.phase.runs = true → state.session.committed.communicationResults ++
            state.pendingCommunications.map communicationParameters =
          (numberFrom (fun _ ↦ 0) state.communicationArrivals).1.map communicationParameters) ∧
        ∀ label batch, state.flushing settings label = some batch →
          (∃ active next, state.step settings faults label =
            some (batch.flushPending faults active next)) ∧
          ∀ before item after database error,
            batch.pendingCommunications = before ++ item :: after →
            applyAll (tickStatements batch.pendingTicks ++ before.map insertCommunication)
              batch.session.committed = .ok database →
            insertCommunication item database = .error error →
              error = integerOverflow ∨ ∃ first earlier rest later,
                batch.communicationArrivals = first ++ earlier :: rest ++ item :: later ∧
                  earlier.key = item.key ∧ item.ordinal = some (ordinalAfter first earlier) := by
  refine ⟨fun early item later ↦ ⟨getElem?_numberFrom, ?_, ordinalAfter_filter early item, ?_⟩, ?_⟩
  · rintro hautomatic first earlier rest rfl hkey
    exact ordinalAfter_lt hautomatic hkey
  · intro hautomatic hothers
    rw [ordinalAfter, hautomatic, Option.getD_none, nextAfter_of_automatic hothers]
  · intro settings faults state hrun
    have hrecording := recording_run hrun
    refine ⟨fun hruns ↦ ?_, fun label batch hflushing ↦ ⟨step_of_flushing hflushing, ?_⟩⟩
    · obtain ⟨stored, hnumbered, hrows⟩ := hrecording.numbered hruns
      rw [hrows, ← hnumbered, List.map_append]
    · intro before item after database error hpending happlied hfailed
      obtain ⟨hbatch, hruns⟩ := hrecording.flushing hflushing
      exact explicit_of_error hbatch hruns hpending happlied hfailed

/-- After an explicit jump on one key, counting goes on from there; another key is not affected. -/
example : (numberFrom (fun _ ↦ 0) [⟨3, .uart, 0, [], none⟩, ⟨3, .uart, 0, [], some 5⟩,
    ⟨3, .spi, 0, [], none⟩, ⟨3, .uart, 0, [], none⟩]).1.map CommunicationResult.ordinal =
      [some 0, some 5, some 0, some 6] := by
  decide

end HilRig.Results
