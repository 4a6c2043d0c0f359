import HilRig.Api.Compilation

/-!
# Stimuli fit the configuration of their channel

Whether a stimulus fits is checked against the configuration at its call. No later call replaces the
configuration of a channel, so every stored stimulus fits the configuration of its channel
(`compatible_of_reachable`). The compiled records say the same of each other when no slave address,
no transferred bytes and no length is a member of an enumeration, which is compiled to its name
(`PlainBuses`).
-/

set_option autoImplicit false
set_option relaxedAutoImplicit false

namespace HilRig.Api

open HilRig.Models HilRig.Foundations

/-! ### Fitting records -/

/-- A stimulus fits the role and the frame size of a bus channel. -/
def Serves : PeripheralConfiguration → Stimulus → Prop
  | .i2c role _ _ _ _, .i2cWrite _ _ => role = .master
  | .i2c role _ _ _ _, .i2cRead _ _ => role = .master
  | .i2c role _ _ _ _, .i2cPreloadResponse _ => role = .slave
  | .spi role _ dataSize _ _, .spiTransfer txData rxLength =>
    role = .master ∧ 0 < txData.value.length + rxLength.value ∧
      (dataSize = .size16bit → txData.value.length % 2 = 0 ∧ rxLength.value % 2 = 0)
  | _, _ => True

/-- The configuration of a bus channel has an address of its own exactly when it is a slave. -/
def Addressed : PeripheralConfiguration → Prop
  | .i2c .master _ _ _ ownAddress => ownAddress = none
  | .i2c .slave _ _ _ ownAddress => ∃ address, ownAddress = some address ∧ address.value ≤ 127
  | _ => True

/-- What the checks of a request leave to be stored. -/
def Request.Fitting : Request → Prop
  | .configureChannel _ validated => Guarantees validated Addressed
  | .stimulate channel validated _ => ∀ configuration,
      Guarantees (validated configuration) fun stimulus ↦ stimulus.kind = channel.kind →
        ∀ peripheral, configuration.forChannel channel = some peripheral →
          Serves peripheral stimulus
  | _ => True

/-- Stimuli on other than bus channels fit every configuration. -/
theorem serves_of_kind {peripheral : PeripheralConfiguration} {stimulus : Stimulus}
    (hi2c : stimulus.kind ≠ .i2c) (hspi : stimulus.kind ≠ .spi) : Serves peripheral stimulus := by
  cases stimulus with
  | i2cWrite | i2cRead | i2cPreloadResponse => exact absurd rfl hi2c
  | spiTransfer => exact absurd rfl hspi
  | _ => cases peripheral <;> trivial

theorem fitting_of_kind {kind : ChannelKind} (hi2c : kind ≠ .i2c) (hspi : kind ≠ .spi)
    (self : Handle kind) (validated : Configuration → Except HilRigError Stimulus)
    (time : TimeOptions) : (Request.stimulate self.identity validated time).Fitting := by
  intro configuration stimulus _ hkind peripheral _
  exact serves_of_kind (fun h ↦ hi2c (hkind.symm.trans h)) fun h ↦ hspi (hkind.symm.trans h)

/-- A channel that passes for a role has it. -/
theorem requireRole_eq_ok {self : Handle .i2c} {role : BusRole} {configuration : Configuration}
    (hrole : I2C.requireRole self role configuration = .ok ()) :
    ∃ speed voltage pullup ownAddress, configuration.forChannel self.identity =
      some (.i2c role speed voltage pullup ownAddress) := by
  unfold I2C.requireRole at hrole
  split at hrole
  · rename_i configured speed voltage pullup ownAddress hfound
    obtain ⟨hsame, -⟩ := ite_error_eq_ok.1 hrole
    rw [not_not.1 hsame] at hfound
    exact ⟨speed, voltage, pullup, ownAddress, hfound⟩
  · cases hrole

/-- A channel that may transfer is a master. -/
theorem configurationForTransfer_eq_ok {self : Handle .spi} {configuration : Configuration}
    {dataSize : SPISize} (hsize : SPI.configurationForTransfer self configuration = .ok dataSize) :
    ∃ baud mode firstBit, configuration.forChannel self.identity =
      some (.spi .master baud dataSize mode firstBit) := by
  unfold SPI.configurationForTransfer at hsize
  split at hsize
  · rename_i role baud size mode firstBit hfound
    obtain ⟨hmaster, hsame⟩ := ite_error_eq_ok.1 hsize
    rw [not_not.1 hmaster, Except.ok.inj hsame] at hfound
    exact ⟨baud, mode, firstBit, hfound⟩
  · cases hsize

/-- An address that passes has seven bits. -/
theorem le_of_i2cAddress {passed : Passed (Builtin ℤ)} {name : String} {address : Builtin ℕ}
    (haddress : i2cAddress passed name = .ok address) : address.value ≤ 127 := by
  cases passed with
  | mistyped => cases haddress
  | value value =>
    change (if decide (0 ≤ value.value ∧ value.value ≤ 127) = true then _ else _) = _ at haddress
    split at haddress
    · rename_i haccepted
      have hbounds := of_decide_eq_true haccepted
      rw [← Except.ok.inj haddress, Builtin.value_map]
      omega
    · cases haddress

/-- Every public call stores what fits only. -/
theorem Call.fitting (call : Call) : call.request.Fitting := by
  cases call with
  | i2cConfigure self role speed logicVoltage pullup ownAddress =>
    refine guarantees_bind fun role _ ↦ guarantees_bind fun speed _ ↦
      guarantees_bind fun voltage _ ↦ guarantees_bind fun pullup _ ↦ guarantees_guard fun _ ↦ ?_
    cases role with
    | master => exact guarantees_guard fun _ ↦ guarantees_pure rfl
    | slave =>
      exact guarantees_bind fun address haddress ↦
        guarantees_pure ⟨address, rfl, le_of_i2cAddress haddress⟩
  | i2cWrite self address data time =>
    refine fun configuration ↦ guarantees_bind fun _ hrole ↦ guarantees_bind fun _ _ ↦
      guarantees_bind_pure fun payload _ peripheral hfound ↦ ?_
    obtain ⟨_, _, _, _, hmaster⟩ := requireRole_eq_ok hrole
    rw [Option.some.inj (hfound.symm.trans hmaster)]
    rfl
  | i2cRead self address length time =>
    refine fun configuration ↦ guarantees_bind fun _ hrole ↦ guarantees_bind fun _ _ ↦
      guarantees_bind_pure fun payload _ peripheral hfound ↦ ?_
    obtain ⟨_, _, _, _, hmaster⟩ := requireRole_eq_ok hrole
    rw [Option.some.inj (hfound.symm.trans hmaster)]
    rfl
  | i2cPreloadResponse self data time =>
    refine fun configuration ↦ guarantees_bind fun _ hrole ↦
      guarantees_bind_pure fun payload _ peripheral hfound ↦ ?_
    obtain ⟨_, _, _, _, hslave⟩ := requireRole_eq_ok hrole
    rw [Option.some.inj (hfound.symm.trans hslave)]
    rfl
  | spiTransfer self txData rxLength time =>
    refine fun configuration ↦ guarantees_bind fun dataSize hsize ↦ guarantees_bind fun payload _ ↦
      guarantees_bind fun receivedBytes _ ↦ guarantees_guard fun hempty ↦
        guarantees_guard fun htx ↦ guarantees_guard fun hrx ↦
          guarantees_pure fun _ peripheral hfound ↦ ?_
    obtain ⟨_, _, _, hmaster⟩ := configurationForTransfer_eq_ok hsize
    rw [Option.some.inj (hfound.symm.trans hmaster)]
    refine ⟨rfl, ?_, fun hwide ↦ ⟨?_, ?_⟩⟩
    · by_contra hnothing
      refine hempty ⟨?_, by omega⟩
      rw [List.isEmpty_iff, ← List.length_eq_zero_iff]
      omega
    · by_contra hodd
      exact htx ⟨hwide, hodd⟩
    · by_contra hodd
      exact hrx ⟨hwide, hodd⟩
  | digitalInputConfigure => exact guarantees_bind_pure fun _ ↦ trivial
  | digitalOutputConfigure => exact guarantees_bind fun _ _ ↦ guarantees_bind_pure fun _ ↦ trivial
  | pwmInputConfigure => exact guarantees_bind_pure fun _ ↦ trivial
  | pwmOutputConfigure =>
    exact guarantees_bind fun _ _ ↦ guarantees_bind fun _ _ ↦ guarantees_bind fun _ _ ↦
      guarantees_bind fun _ _ ↦ guarantees_bind_pure fun _ ↦ trivial
  | analogueInputConfigure => exact guarantees_ok trivial
  | analogueOutputConfigure => exact guarantees_bind_pure fun _ ↦ trivial
  | spiConfigure =>
    exact guarantees_bind fun _ _ ↦ guarantees_bind fun _ _ ↦ guarantees_bind fun _ _ ↦
      guarantees_bind fun _ _ ↦ guarantees_bind_pure fun _ ↦ trivial
  | uartConfigure =>
    exact guarantees_bind fun _ _ ↦ guarantees_bind fun _ _ ↦ guarantees_bind fun _ _ ↦
      guarantees_bind fun _ _ ↦ guarantees_bind fun _ _ ↦ guarantees_guard fun _ ↦
        guarantees_pure trivial
  | digitalOutputHigh | digitalOutputLow | digitalOutputToggle =>
    exact fitting_of_kind (by decide) (by decide) _ _ _
  | pwmOutputEnable | pwmOutputDisable | pwmOutputSet =>
    exact fitting_of_kind (by decide) (by decide) _ _ _
  | pwmOutputSetFrequency | pwmOutputSetDutyCycle | analogueOutputSetVoltage =>
    exact fitting_of_kind (by decide) (by decide) _ _ _
  | uartWrite | uartWriteText => exact fitting_of_kind (by decide) (by decide) _ _ _
  | _ => trivial

/-! ### Fitting tests -/

/-- Every stimulus fits the configuration of its channel. -/
structure Test.Compatible (test : Test) : Prop where
  addressed : ∀ entry ∈ test.configuration.channelConfigurations, Addressed entry.2
  served : ∀ instruction ∈ test.instructions, ∃ peripheral,
    test.configuration.forChannel instruction.channel = some peripheral ∧
      Serves peripheral instruction.stimulus

/-- The configuration of a channel stays when another one is added. -/
theorem forChannel_append {configuration : Configuration} {channel : Channel}
    {peripheral : PeripheralConfiguration}
    (hfound : configuration.forChannel channel = some peripheral)
    (entry : Channel × PeripheralConfiguration) :
    Configuration.forChannel { configuration with
      channelConfigurations := configuration.channelConfigurations ++ [entry] } channel =
        some peripheral := by
  rw [Configuration.forChannel] at hfound ⊢
  rw [List.lookup_append, hfound]
  rfl

/-- Every effect of every call keeps the stimuli fitting. -/
theorem Test.Compatible.apply {test : Test} (hcompatible : test.Compatible) {call : Call}
    {effect : Effect} (hyields : call.request.Yields test effect) :
    (effect.apply test).Compatible := by
  have htyped := call.typed
  have hfitting := call.fitting
  obtain ⟨haddressed, hserved⟩ := hcompatible
  generalize call.request = request at hyields htyped hfitting
  cases hyields with
  | channelConfigured hmutable hvalidated hkind hfresh =>
    refine ⟨fun entry hentry ↦ ?_, fun instruction hinstruction ↦ ?_⟩
    · rcases List.mem_append.1 hentry with hentry | hentry
      · exact haddressed entry hentry
      · rw [List.mem_singleton.1 hentry]
        exact hfitting _ hvalidated
    · obtain ⟨peripheral, hfound, hserves⟩ := hserved instruction hinstruction
      exact ⟨peripheral, forChannel_append hfound _, hserves⟩
  | scheduled hmutable hvalidated htick hconfigured =>
    refine ⟨haddressed, fun instruction hinstruction ↦ ?_⟩
    rcases List.mem_append.1 hinstruction with hinstruction | hinstruction
    · exact hserved instruction hinstruction
    · obtain ⟨peripheral, hfound, -⟩ := isConfigured_iff.1 hconfigured
      rw [List.mem_singleton.1 hinstruction]
      exact ⟨peripheral, hfound, hfitting _ _ hvalidated (htyped _ _ hvalidated) _ hfound⟩
  | _ => exact ⟨haddressed, hserved⟩

/-- The stimuli of every reachable test fit. -/
theorem compatible_of_reachable {test : Test} (hreachable : test.Reachable) : test.Compatible :=
  hreachable.invariant (fun _ _ ↦ ⟨by simp, by simp⟩) fun _ _ _ hcompatible hyields ↦
    hcompatible.apply hyields

/-! ### Fitting snapshots -/

/-- A compiled instruction fits a compiled configuration. -/
structure Fits (configuration : CompiledConfiguration) (instruction : CompiledInstruction) :
    Prop where
  channel : configuration.peripheral = instruction.peripheral ∧
    configuration.channel = instruction.channel
  i2cMaster : instruction.peripheral = "i2c" →
    instruction.operation = "write" ∨ instruction.operation = "read" →
      configuration.parameters.get "role" = .str "MASTER"
  i2cSlave : instruction.peripheral = "i2c" → instruction.operation = "preload_response" →
    configuration.parameters.get "role" = .str "SLAVE"
  spi : instruction.peripheral = "spi" → instruction.operation = "transfer" ∧
    configuration.parameters.get "role" = .str "MASTER" ∧ ∃ (txData : List UInt8) (rxLength : ℕ),
      instruction.arguments.get "tx_data" = (FieldValue.bytes (.plain txData)).scalar ∧
      instruction.arguments.get "rx_length" = .int rxLength ∧ 0 < txData.length + rxLength ∧
      (configuration.parameters.get "data_size" = .str "SIZE_16BIT" →
        txData.length % 2 = 0 ∧ rxLength % 2 = 0)

/-- A compiled snapshot has one configuration for each channel, and each of its instructions fits
the one of its channel. -/
structure CompatiblePlan (plan : CompiledTestIR) : Prop where
  once : (plan.configurations.map fun configuration ↦
    (configuration.peripheral, configuration.channel)).Nodup
  instructions : ∀ instruction ∈ plan.instructions, ∃ configuration ∈ plan.configurations,
    Fits configuration instruction
  addresses : ∀ configuration ∈ plan.configurations, configuration.peripheral = "i2c" →
    (configuration.parameters.get "role" = .str "MASTER" ∧
        configuration.parameters.get "own_address" = .none) ∨
      configuration.parameters.get "role" = .str "SLAVE" ∧ ∃ address : ℕ, address ≤ 127 ∧
        configuration.parameters.get "own_address" = .int address

/-! ### Enumeration members -/

/-- The address of a slave is no member of an enumeration. -/
def plainAddress : PeripheralConfiguration → Bool
  | .i2c _ _ _ _ ownAddress => ownAddress.all Builtin.isPlain
  | _ => true

/-- Neither the bytes of a transfer nor its length are members of an enumeration. -/
def plainTransfer : Stimulus → Bool
  | .spiTransfer txData rxLength => txData.isPlain && rxLength.isPlain
  | _ => true

/-- What the instructions of a bus are compared with is compiled to numbers and bytes. -/
structure Test.PlainBuses (test : Test) : Prop where
  addresses : ∀ entry ∈ test.configuration.channelConfigurations, plainAddress entry.2 = true
  transfers : ∀ instruction ∈ test.instructions, plainTransfer instruction.stimulus = true

/-- The bytes of a transfer are no member whose name begins with a digit, as no name does that is
an identifier. -/
def identifiedData : Stimulus → Bool
  | .spiTransfer (.member (some name) _) _ => name.toList.head?.all fun first ↦ !first.isDigit
  | _ => true

/-- Only a plain integer is compiled to an integer. -/
theorem isPlain_of_scalar {value : Builtin ℕ} {integer : ℤ}
    (hscalar : (FieldValue.natural value).scalar = .int integer) : value.isPlain = true := by
  cases value with
  | plain value => rfl
  | member name value => cases name <;> cases hscalar

/-- Only plain bytes are compiled to the text of bytes, when names are identifiers. -/
theorem isPlain_of_identified {txData : Builtin (List UInt8)} {rxLength : Builtin ℕ}
    (hidentified : identifiedData (.spiTransfer txData rxLength) = true) {data : List UInt8}
    (hscalar : (FieldValue.bytes txData).scalar = (FieldValue.bytes (.plain data)).scalar) :
    txData.isPlain = true := by
  cases txData with
  | plain data => rfl
  | member name other =>
    cases name with
    | none => cases hscalar
    | some name =>
      have hname : name = "0x" ++ String.join (data.map byteHex) := IRScalar.str.inj hscalar
      rw [identifiedData, hname, String.toList_append] at hidentified
      cases hidentified

/-- A channel is identified by the text of its kind and its number. -/
theorem channelKey_injective :
    Function.Injective fun channel : Channel ↦ (channel.kind.value, channel.index) := by
  rintro ⟨kind, index, hindex⟩ ⟨otherKind, otherIndex, hotherIndex⟩ hsame
  obtain ⟨hkind, rfl⟩ := Prod.mk.inj hsame
  obtain rfl := ChannelKind.value_injective hkind
  rfl

/-- A configuration of a bus has the fields of the bus. -/
theorem exists_i2c_of_kind {peripheral : PeripheralConfiguration} (hkind : peripheral.kind = .i2c) :
    ∃ role speed voltage pullup ownAddress,
      peripheral = .i2c role speed voltage pullup ownAddress := by
  cases peripheral with
  | i2c role speed voltage pullup ownAddress =>
    exact ⟨role, speed, voltage, pullup, ownAddress, rfl⟩
  | _ => cases hkind

theorem exists_spi_of_kind {peripheral : PeripheralConfiguration} (hkind : peripheral.kind = .spi) :
    ∃ role baud dataSize mode firstBit, peripheral = .spi role baud dataSize mode firstBit := by
  cases peripheral with
  | spi role baud dataSize mode firstBit => exact ⟨role, baud, dataSize, mode, firstBit, rfl⟩
  | _ => cases hkind

/-- A plain stimulus that fits its configuration is compiled to an instruction that fits. -/
theorem fits_of_serves {entry : Channel × PeripheralConfiguration} {instruction : Instruction}
    (hchannel : entry.1 = instruction.channel) (hkind : entry.2.kind = entry.1.kind)
    (hstimulus : instruction.stimulus.kind = instruction.channel.kind)
    (hserves : Serves entry.2 instruction.stimulus)
    (hplain : plainTransfer instruction.stimulus = true) :
    Fits (compiledConfiguration entry) (compiledInstruction instruction) := by
  obtain ⟨channel, peripheral⟩ := entry
  obtain ⟨instructionId, tick, other, stimulus⟩ := instruction
  obtain rfl : channel = other := hchannel
  dsimp only at hkind hstimulus hserves hplain
  have hbus {kind : ChannelKind} (hvalue : channel.kind.value = kind.value) :
      peripheral.kind = kind ∧ stimulus.kind = kind := by
    have hsame := ChannelKind.value_injective hvalue
    exact ⟨hkind.trans hsame, hstimulus.trans hsame⟩
  refine ⟨⟨rfl, rfl⟩, fun hi2c hoperation ↦ ?_, fun hi2c hoperation ↦ ?_, fun hspi ↦ ?_⟩
  · obtain ⟨hperipheral, hsent⟩ := @hbus .i2c hi2c
    obtain ⟨role, speed, voltage, pullup, ownAddress, rfl⟩ := exists_i2c_of_kind hperipheral
    cases stimulus with
    | i2cWrite address data =>
      obtain rfl : role = .master := hserves
      rfl
    | i2cRead address length =>
      obtain rfl : role = .master := hserves
      rfl
    | i2cPreloadResponse data =>
      have hother : "preload_response" = "write" ∨ "preload_response" = "read" := hoperation
      exact absurd hother (by decide)
    | _ => cases hsent
  · obtain ⟨hperipheral, hsent⟩ := @hbus .i2c hi2c
    obtain ⟨role, speed, voltage, pullup, ownAddress, rfl⟩ := exists_i2c_of_kind hperipheral
    cases stimulus with
    | i2cWrite address data =>
      have hother : "write" = "preload_response" := hoperation
      exact absurd hother (by decide)
    | i2cRead address length =>
      have hother : "read" = "preload_response" := hoperation
      exact absurd hother (by decide)
    | i2cPreloadResponse data =>
      obtain rfl : role = .slave := hserves
      rfl
    | _ => cases hsent
  · obtain ⟨hperipheral, hsent⟩ := @hbus .spi hspi
    obtain ⟨role, baud, dataSize, mode, firstBit, rfl⟩ := exists_spi_of_kind hperipheral
    cases stimulus with
    | spiTransfer txData rxLength =>
      obtain ⟨rfl, hbytes, hwide⟩ := hserves
      obtain ⟨htx, hrx⟩ := Bool.and_eq_true_iff.1 hplain
      rw [Builtin.isPlain_iff] at htx hrx
      generalize txData.value = data at htx hbytes hwide
      generalize rxLength.value = length at hrx hbytes hwide
      subst htx hrx
      refine ⟨rfl, rfl, data, length, rfl, rfl, hbytes, fun hsize ↦ hwide ?_⟩
      cases dataSize with
      | size8bit =>
        have hother : "SIZE_8BIT" = "SIZE_16BIT" := IRScalar.str.inj hsize
        exact absurd hother (by decide)
      | size16bit => rfl
    | _ => cases hsent

/-- The compiled snapshot of every reachable test is compatible if its buses are plain. -/
theorem compatible_of_plainBuses {test after : Test} (hreachable : test.Reachable)
    {plan : CompiledTestIR} (hcompiled : compile test = .ok plan after)
    (hplain : test.PlainBuses) : CompatiblePlan plan := by
  have hformed := wellFormed_of_reachable hreachable
  obtain ⟨haddressed, hserved⟩ := compatible_of_reachable hreachable
  have hperm : (sortedConfigurations test.configuration).Perm
      test.configuration.channelConfigurations := List.perm_insertionSort _ _
  obtain rfl := plan_of_compile hreachable hcompiled
  refine ⟨?_, fun instruction hinstruction ↦ ?_, fun configuration hconfiguration hi2c ↦ ?_⟩
  · have hchannels : ((sortedConfigurations test.configuration).map Prod.fst).Nodup :=
      (hperm.map Prod.fst).nodup_iff.2 hformed.nodup
    have hkeys := hchannels.map channelKey_injective
    rw [List.map_map] at hkeys
    show (((sortedConfigurations test.configuration).map compiledConfiguration).map _).Nodup
    rwa [List.map_map]
  · obtain ⟨stored, hstored, rfl⟩ := List.mem_map.1 hinstruction
    rw [sortedInstructions, List.mem_insertionSort] at hstored
    obtain ⟨peripheral, hfound, hserves⟩ := hserved stored hstored
    have hentry : (stored.channel, peripheral) ∈ test.configuration.channelConfigurations :=
      (OrderedDict.lookup_eq_some_iff hformed.nodup).1 hfound
    exact ⟨_, List.mem_map_of_mem (hperm.mem_iff.2 hentry),
      fits_of_serves rfl (hformed.configurationKind _ hentry) (hformed.stimulus stored hstored).2
        hserves (hplain.transfers stored hstored)⟩
  · obtain ⟨entry, hentry, rfl⟩ := List.mem_map.1 hconfiguration
    have hmem := hperm.mem_iff.1 hentry
    have hkind : entry.2.kind = .i2c :=
      (hformed.configurationKind entry hmem).trans (ChannelKind.value_injective hi2c)
    have hown := haddressed entry hmem
    have hnumber := hplain.addresses entry hmem
    obtain ⟨channel, peripheral⟩ := entry
    obtain ⟨role, speed, voltage, pullup, ownAddress, rfl⟩ := exists_i2c_of_kind hkind
    cases role with
    | master =>
      obtain rfl : ownAddress = none := hown
      exact .inl ⟨rfl, rfl⟩
    | slave =>
      obtain ⟨address, rfl, hbound⟩ := hown
      have haddress : address = .plain address.value := Builtin.isPlain_iff.1 hnumber
      generalize address.value = number at haddress hbound
      subst haddress
      exact .inr ⟨rfl, number, hbound, rfl⟩

/-- The buses of a test are plain if its compiled snapshot is compatible. -/
theorem plainBuses_of_compatible {test after : Test} (hreachable : test.Reachable)
    (hidentified : ∀ instruction ∈ test.instructions, identifiedData instruction.stimulus = true)
    {plan : CompiledTestIR} (hcompiled : compile test = .ok plan after)
    (hcompatible : CompatiblePlan plan) : test.PlainBuses := by
  have hformed := wellFormed_of_reachable hreachable
  have haddressed := (compatible_of_reachable hreachable).addressed
  obtain rfl := plan_of_compile hreachable hcompiled
  refine ⟨fun entry hentry ↦ ?_, fun instruction hinstruction ↦ ?_⟩
  · have hmem : entry ∈ sortedConfigurations test.configuration := by
      rwa [sortedConfigurations, List.mem_insertionSort]
    have hown := haddressed entry hentry
    have hkind := hformed.configurationKind entry hentry
    obtain ⟨channel, peripheral⟩ := entry
    cases peripheral with
    | i2c role speed voltage pullup ownAddress =>
      cases ownAddress with
      | none => rfl
      | some address =>
        have hi2c : (compiledConfiguration (channel,
            .i2c role speed voltage pullup (some address))).peripheral = "i2c" :=
          congrArg ChannelKind.value hkind.symm
        rcases hcompatible.addresses _ (List.mem_map_of_mem hmem) hi2c with
          ⟨hmaster, hnone⟩ | ⟨hslave, number, -, hnumber⟩
        · -- A master has no address, so this one cannot be stored.
          cases role with
          | master => cases (hown : some address = none)
          | slave => exact absurd (IRScalar.str.inj hmaster) (by decide)
        · exact isPlain_of_scalar hnumber
    | _ => rfl
  · have hmem : instruction ∈ sortedInstructions test.instructions := by
      rwa [sortedInstructions, List.mem_insertionSort]
    have hkind := (hformed.stimulus instruction hinstruction).2
    have hdata := hidentified instruction hinstruction
    obtain ⟨instructionId, tick, channel, stimulus⟩ := instruction
    cases stimulus with
    | spiTransfer txData rxLength =>
      obtain ⟨configuration, -, hfits⟩ := hcompatible.instructions _ (List.mem_map_of_mem hmem)
      obtain ⟨-, -, data, length, hbytes, hlength, -⟩ :=
        hfits.spi (congrArg ChannelKind.value hkind.symm)
      exact Bool.and_eq_true_iff.2
        ⟨isPlain_of_identified hdata hbytes, isPlain_of_scalar hlength⟩
    | _ => rfl

/-- The compiled snapshot of a reachable test is compatible if its buses are plain, and only then,
where the names of the enumeration members that a test transfers are identifiers. -/
theorem compatiblePlan_iff (test : Test) (hreachable : test.Reachable) (plan : CompiledTestIR)
    (after : Test) (hcompiled : compile test = .ok plan after) :
    (test.PlainBuses → CompatiblePlan plan) ∧
      ((∀ instruction ∈ test.instructions, identifiedData instruction.stimulus = true) →
        CompatiblePlan plan → test.PlainBuses) :=
  ⟨compatible_of_plainBuses hreachable hcompiled,
    fun hidentified ↦ plainBuses_of_compatible hreachable hidentified hcompiled⟩

/-! ### A bus test -/

/-- A script that reads a sensor over I2C, preloads a response for another bus master, and transfers
two frames of sixteen bits over SPI. The second channel answers at an address. -/
def busScript (ownAddress : Builtin ℤ) : List Call :=
  [.i2cConfigure (0 : Fin 2) (.value .master) (.value .fast400kHz) (.value .v3_3)
      (.value .ohm4k7) none,
    .i2cConfigure (1 : Fin 2) (.value .slave) (.value .fast400kHz) (.value .v3_3)
      (.value .ohm4k7) (some (.value ownAddress)),
    .spiConfigure (0 : Fin 2) (.value .master) (.value .baud703kbit) (.value .size16bit)
      (.value .mode0) (.value .msb),
    .i2cRead (0 : Fin 2) (.value 72) (.value 2) { atTick := some (.value 3) },
    .i2cPreloadResponse (1 : Fin 2) (.value (.plain [1, 2])) { atTick := some (.value 4) },
    .i2cPreloadResponse (0 : Fin 2) (.value (.plain [1, 2])) { atTick := some (.value 4) },
    .spiTransfer (0 : Fin 2) (.value (.plain [1, 2])) (.value 4) { atTick := some (.value 5) }]

/-- The test the script leaves; its sixth call has raised. -/
def busTest (ownAddress : Builtin ℤ) : Test :=
  blankTest.after (busScript ownAddress)

theorem reachable_busTest (ownAddress : Builtin ℤ) : (busTest ownAddress).Reachable :=
  ⟨5, .value "fan", blankTest, busScript ownAddress, create_blankTest, rfl⟩

/-- An address that is a member of an enumeration is compiled to its name. -/
theorem not_compatiblePlan_namedAddress : (busTest (.member (some "SENSOR") 80)).Reachable ∧
    (∃ after, compile (busTest (.member (some "SENSOR") 80)) =
      .ok (busTest (.member (some "SENSOR") 80)).plan after) ∧
    ¬CompatiblePlan (busTest (.member (some "SENSOR") 80)).plan := by
  have hreachable := reachable_busTest (.member (some "SENSOR") 80)
  obtain ⟨plan, after, hcompiled⟩ := (compile_of_reachable _ hreachable).1.2 (by decide +kernel)
  obtain rfl := plan_of_compile hreachable hcompiled
  refine ⟨hreachable, ⟨after, hcompiled⟩, fun hcompatible ↦ ?_⟩
  have hplain := plainBuses_of_compatible hreachable (by decide +kernel) hcompiled hcompatible
  exact absurd hplain.addresses (by decide +kernel)

theorem compatiblePlan_iff_busTest : (busTest 80).plan.instructions.length = 3 ∧
    (∃ after, compile (busTest 80) = .ok (busTest 80).plan after) ∧ (busTest 80).PlainBuses ∧
      CompatiblePlan (busTest 80).plan ∧
      (CompatiblePlan (busTest 80).plan → (busTest 80).PlainBuses) := by
  have hreachable := reachable_busTest 80
  obtain ⟨plan, after, hcompiled⟩ := (compile_of_reachable _ hreachable).1.2 (by decide +kernel)
  obtain rfl := plan_of_compile hreachable hcompiled
  have hplain : (busTest 80).PlainBuses := ⟨by decide +kernel, by decide +kernel⟩
  obtain ⟨hcompatible, hconversely⟩ := compatiblePlan_iff _ hreachable _ after hcompiled
  exact ⟨by decide +kernel, ⟨after, hcompiled⟩, hplain, hcompatible hplain,
    hconversely (by decide +kernel)⟩

end HilRig.Api
