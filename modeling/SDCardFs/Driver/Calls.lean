import SDCardFs.Driver.Init

set_option autoImplicit false

namespace SDCardFs.Driver

def Event.isBlock : Event → Bool
  | .receivedBlock _ => true
  | .failedBlock => true
  | _ => false

-- A relation kept by the commands a call may send, and by what else the driver
-- does to the card outside init's last part.
structure OnCalls (allowed : CmdSupported → UInt32 → Prop) (relation : SDCard → SDCard → Prop) : Prop extends OnFillers relation where
  cmd : ∀ code arg isAcmd, allowed code arg → Lib.Keeps relation (Driver.cmd code arg isAcmd)
  setCardType : ∀ cardType, Lib.Keeps relation (Driver.setCardType cardType)
  record : ∀ event : Event, event.isBlock = true → Lib.Keeps relation (Driver.record event)
  write_block : ∀ buffer offset token, token = spiStartBlock ∨ token = spiStartBlkMulWrite →
    Lib.Keeps relation (writeBlock buffer offset token blockSize)

section

variable {relation : SDCard → SDCard → Prop}

theorem OnBus.write_block (kept : OnBus relation)
    (records : ∀ token data response, Lib.Keeps relation (Driver.record (.sentBlock token data response))) (buffer : Nat → UInt8)
    (offset : Nat) (token : UInt8) (length : UInt32) : Lib.Keeps relation (writeBlock buffer offset token length) :=
  kept.bind (kept.transfer _) fun _ => kept.bind (kept.transfer_all _) fun _ => kept.bind (kept.transfer _) fun _ =>
    kept.bind (kept.transfer _) fun _ => kept.bind (kept.transfer _) fun _ => kept.bind (kept.wait_ready _) fun _ =>
      kept.bind (records _ _ _) fun _ => kept.pure _

-- A relation on the bus alone: what else a command changes does not matter to it.

theorem keeps_set_card_type (same : ∀ before after : SDCard, after.bus = before.bus → relation before after) (cardType : CardType) :
    Lib.Keeps relation (setCardType cardType) := by
  intro before value after ran
  rw [set_card_type_run _ _ _ _ ran]
  exact same _ _ rfl

theorem OnFillers.cmd_tail (kept : OnFillers relation) (same : ∀ before after : SDCard, after.bus = before.bus → relation before after)
    (code : CmdSupported) (response : UInt32) : Lib.Keeps relation (cmdTail code response) := by
  cases code
  case cmd8SendIfCond => exact kept.bind (keeps_set_card_type same _) fun _ => kept.read_word
  case cmd58ReadOcr => exact kept.read_word
  case cmd12StopTransmission => exact kept.bind (kept.wait_ready _) fun _ => kept.pure _
  case cmd38Erase => exact kept.bind (kept.wait_ready _) fun _ => kept.pure _
  case cmd13SendStatus => exact kept.bind kept.fill fun _ => kept.pure _
  all_goals exact kept.pure _

theorem OnFillers.cmd_answer (kept : OnFillers relation) (same : ∀ before after : SDCard, after.bus = before.bus → relation before after)
    (code : CmdSupported) (response : UInt32) : Lib.Keeps relation (cmdAnswer code response) := by
  have leave (answer : Int32 × UInt32) : Lib.Keeps relation (do Driver.unselect; return answer) := kept.bind kept.unselect fun _ => kept.pure _
  refine Lib.keeps_ite (leave _) (Lib.keeps_ite (leave _) (Lib.keeps_ite (kept.bind kept.unselect fun _ => ?_) ?_))
  · dsimp only
    exact Lib.keeps_ite (kept.bind (keeps_set_card_type same _) fun _ => kept.pure _) (kept.pure _)
  · exact kept.bind (kept.cmd_tail same _ _) fun full => Lib.keeps_ite (kept.pure _) (leave _)

theorem keeps_record (same : ∀ before after : SDCard, after.bus = before.bus → relation before after) (event : Event) :
    Lib.Keeps relation (Driver.record event) := by
  intro before value after ran
  rw [record_run _ _ _ _ ran]
  exact same _ _ rfl

theorem OnBus.on_calls (kept : OnBus relation) (same : ∀ before after : SDCard, after.bus = before.bus → relation before after) :
    OnCalls (fun _ _ => True) relation where
  toOnFillers := kept.toOnFillers
  cmd code arg isAcmd _ := by
    have attempts : Lib.Keeps relation (do let response ← cmdAttempts code arg isAcmd 3 r1NoResponse; cmdAnswer code response) :=
      kept.bind (kept.cmd_attempts _ _ _ _ _) fun response => kept.cmd_answer same code response
    refine kept.bind (kept.bind kept.select fun _ => ?_) fun _ => kept.bind (keeps_record same _) fun _ => kept.pure _
    dsimp only
    exact Lib.keeps_ite (kept.bind (kept.wait_ready _) fun _ => attempts) attempts
  setCardType := keeps_set_card_type same
  record event _ := keeps_record same event
  write_block buffer offset token _ := kept.write_block (fun _ _ _ => keeps_record same _) buffer offset token _

end

def readCode (size : UInt64) : CmdSupported :=
  if size / blockSize.toUInt64 > 1 then .cmd18ReadMultipleBlock else .cmd17ReadSingleBlock

def programCode (size : UInt64) : CmdSupported :=
  if size / blockSize.toUInt64 = 1 then .cmd24WriteBlock else .cmd25WriteMultipleBlock

namespace OnCalls

variable {allowed : CmdSupported → UInt32 → Prop} {relation : SDCard → SDCard → Prop}

theorem program_loop (kept : OnCalls allowed relation) (buffer : Nat → UInt8) (blockCnt offset : Nat) :
    Lib.Keeps relation (programLoop buffer blockCnt offset) := by
  induction blockCnt generalizing offset with
  | zero => exact kept.pure ()
  | succ blockCnt ih => exact kept.bind (kept.write_block _ _ _ (Or.inr rfl)) fun response => Lib.keeps_ite (ih _) (kept.pure ())

theorem read_block (kept : OnCalls allowed relation) (length : UInt32) : Lib.Keeps relation (readBlock length) := by
  have leave (answer : Int32 × List UInt8) (event : Event) (other : event.isBlock = true) :
      Lib.Keeps relation (do Driver.record event; return answer) :=
    kept.bind (kept.record event other) fun _ => kept.pure answer
  refine kept.bind (kept.wait_token_loop _ _) fun found => Lib.keeps_ite (leave _ _ rfl) ?_
  refine kept.bind (kept.transfer_fillers _) fun data => kept.bind kept.fill fun high => ?_
  refine kept.bind kept.fill fun low => kept.bind kept.get fun card => ?_
  exact Lib.keeps_ite (leave _ _ rfl) (leave _ _ rfl)

theorem read_loop (kept : OnCalls allowed relation) (status : Int32) (blockCnt offset : Nat) (buffer : Nat → UInt8) :
    Lib.Keeps relation (readLoop status blockCnt offset buffer) := by
  induction blockCnt generalizing offset buffer with
  | zero => exact kept.pure _
  | succ blockCnt ih => exact kept.bind (kept.read_block _) fun answer => Lib.keeps_ite (kept.pure _) (ih _ _)

-- A call that fails one of its checks leaves the card as it is.
theorem checks_refused {α : Type} (valid : SDCard → Bool) (invalid unready : α) (body : SDCard → DriverM α) (before after : SDCard) (value : α)
    (checks : ¬ (valid before = true ∧ before.isInitialized = true))
    (ran : (do
      let card ← get
      if ¬ valid card then
        return invalid
      if ¬ card.isInitialized then
        return unready
      body card : DriverM α).run before = some (value, after)) : after = before := by
  obtain ⟨card, _, got, ran⟩ := (Lib.bind_run_some _ _ _ _ _).mp ran
  obtain ⟨rfl, rfl⟩ := Prod.mk.inj (Option.some.inj got)
  split at ran
  · exact ((Lib.pure_run_some _ _ _ _).mp ran).2.symm
  · rename_i accepted
    rw [if_pos fun ready => checks ⟨Decidable.not_not.mp accepted, ready⟩] at ran
    exact ((Lib.pure_run_some _ _ _ _).mp ran).2.symm

-- A call that passes its checks: the run of its data command, and what comes
-- after that.
theorem read_started (kept : OnCalls allowed relation) (b : Nat → UInt8) (addr size : UInt64) (before after : SDCard)
    (value : Int32 × (Nat → UInt8)) (valid : before.isValidRead addr size = true) (ready : before.isInitialized = true)
    (ran : (Driver.read b addr size).run before = some (value, after)) :
    ∃ answer between, (Driver.cmd (readCode size) (before.unit addr).toUInt32 false).run before = some (answer, between) ∧
      (allowed .cmd12StopTransmission 0x0 → relation between after) := by
  obtain ⟨card, _, got, ran⟩ := (Lib.bind_run_some _ _ _ _ _).mp ran
  obtain ⟨rfl, rfl⟩ := Prod.mk.inj (Option.some.inj got)
  simp only [valid, ready, not_true_eq_false, if_false] at ran
  obtain ⟨answer, between, commands, ran⟩ := (Lib.bind_run_some _ _ _ _ _).mp ran
  refine ⟨answer, between, commands, fun stops => Lib.keeps_run (Lib.keeps_ite (kept.pure _) ?_) ran⟩
  refine kept.bind (kept.read_loop _ _ _ _) fun filled => kept.bind kept.unselect fun _ => ?_
  exact Lib.keeps_ite (kept.bind (kept.cmd _ _ _ stops) fun _ => kept.pure _) (kept.pure _)

theorem program_started (kept : OnCalls allowed relation) (b : Nat → UInt8) (addr size : UInt64) (before after : SDCard) (value : Int32)
    (valid : before.isValidProgram addr size = true) (ready : before.isInitialized = true)
    (ran : (Driver.program b addr size).run before = some (value, after)) :
    ∃ counted answer between,
      (if size / blockSize.toUInt64 = 1 then counted = before
        else ∃ count, (Driver.cmd .acmd23SetWrBlkEraseCount (size / blockSize.toUInt64).toUInt32 true).run before = some (count, counted)) ∧
      (Driver.cmd (programCode size) (before.unit addr).toUInt32 false).run counted = some (answer, between) ∧
      (allowed .cmd12StopTransmission 0x0 → relation between after) := by
  obtain ⟨card, _, got, ran⟩ := (Lib.bind_run_some _ _ _ _ _).mp ran
  obtain ⟨rfl, rfl⟩ := Prod.mk.inj (Option.some.inj got)
  simp only [valid, ready, not_true_eq_false, if_false] at ran
  by_cases single : size / blockSize.toUInt64 = 1
  · rw [if_pos single] at ran
    obtain ⟨answer, between, commands, ran⟩ := (Lib.bind_run_some _ _ _ _ _).mp ran
    refine ⟨before, answer, between, by rw [if_pos single], by rw [programCode, if_pos single]; exact commands, fun _ => ?_⟩
    refine Lib.keeps_run (Lib.keeps_ite (kept.pure _) ?_) ran
    exact kept.bind (kept.write_block _ _ _ (Or.inl rfl)) fun _ => kept.bind kept.unselect fun _ => kept.pure _
  · rw [if_neg single] at ran
    obtain ⟨count, counted, counts, ran⟩ := (Lib.bind_run_some _ _ _ _ _).mp ran
    obtain ⟨answer, between, commands, ran⟩ := (Lib.bind_run_some _ _ _ _ _).mp ran
    refine ⟨counted, answer, between, by rw [if_neg single]; exact ⟨count, counts⟩, by rw [programCode, if_neg single]; exact commands,
      fun stops => Lib.keeps_run (Lib.keeps_ite (kept.pure _) ?_) ran⟩
    refine kept.bind (kept.program_loop _ _ _) fun _ => kept.bind (kept.cmd _ _ _ stops) fun _ => ?_
    exact kept.bind kept.unselect fun _ => kept.pure _

-- The commands of a call and the arguments it makes of the card it starts on.
theorem read (kept : OnCalls allowed relation) (b : Nat → UInt8) (addr size : UInt64) :
    Lib.Ends (Driver.read b addr size) fun before _ after =>
      (before.isValidRead addr size = true → before.isInitialized = true →
        allowed (readCode size) (before.unit addr).toUInt32 ∧ allowed .cmd12StopTransmission 0x0) → relation before after := by
  intro before value after ran permits
  by_cases checks : before.isValidRead addr size = true ∧ before.isInitialized = true
  · obtain ⟨reads, stops⟩ := permits checks.1 checks.2
    obtain ⟨answer, between, commands, rest⟩ := kept.read_started b addr size before after value checks.1 checks.2 ran
    exact kept.transitive _ _ _ (Lib.keeps_run (kept.cmd _ _ _ reads) commands) (rest stops)
  · rw [checks_refused (fun card => card.isValidRead addr size) _ _ _ before after value checks ran]
    exact kept.reflexive before

theorem program (kept : OnCalls allowed relation) (b : Nat → UInt8) (addr size : UInt64) :
    Lib.Ends (Driver.program b addr size) fun before _ after =>
      (before.isValidProgram addr size = true → before.isInitialized = true →
        (size / blockSize.toUInt64 ≠ 1 → allowed .acmd23SetWrBlkEraseCount (size / blockSize.toUInt64).toUInt32) ∧
          allowed (programCode size) (before.unit addr).toUInt32 ∧ allowed .cmd12StopTransmission 0x0) → relation before after := by
  intro before value after ran permits
  by_cases checks : before.isValidProgram addr size = true ∧ before.isInitialized = true
  · obtain ⟨counts, writes, stops⟩ := permits checks.1 checks.2
    obtain ⟨counted, answer, between, first, commands, rest⟩ := kept.program_started b addr size before after value checks.1 checks.2 ran
    have upToCommand : relation before counted := by
      split at first
      · exact first ▸ kept.reflexive counted
      · rename_i several
        obtain ⟨count, counting⟩ := first
        exact Lib.keeps_run (kept.cmd _ _ _ (counts several)) counting
    exact kept.transitive _ _ _ upToCommand (kept.transitive _ _ _ (Lib.keeps_run (kept.cmd _ _ _ writes) commands) (rest stops))
  · rw [checks_refused (fun card => card.isValidProgram addr size) _ _ _ before after value checks ran]
    exact kept.reflexive before

theorem trim (kept : OnCalls allowed relation) (addr size : UInt64) :
    Lib.Ends (Driver.trim addr size) fun before _ after =>
      (before.isValidTrim addr size = true → before.isInitialized = true →
        allowed .cmd32EraseWrBlkStartAddr (before.unit addr).toUInt32 ∧
          allowed .cmd33EraseWrBlkEndAddr (before.unit addr + before.unit (size - blockSize.toUInt64)).toUInt32 ∧
          allowed .cmd38Erase 0x0) → relation before after := by
  intro before value after ran permits
  obtain ⟨card, _, got, ran⟩ := (Lib.bind_run_some _ _ _ _ _).mp ran
  obtain ⟨rfl, rfl⟩ := Prod.mk.inj (Option.some.inj got)
  split at ran
  · exact Lib.keeps_run (kept.pure _) ran
  rename_i valid
  split at ran
  · exact Lib.keeps_run (kept.pure _) ran
  rename_i ready
  obtain ⟨starts, ends, erases⟩ := permits (Decidable.not_not.mp valid) (Decidable.not_not.mp ready)
  refine Lib.keeps_run (kept.bind (kept.cmd _ _ _ starts) fun _ => Lib.keeps_ite (kept.pure _) ?_) ran
  refine kept.bind (kept.cmd _ _ _ ends) fun _ => Lib.keeps_ite (kept.pure _) ?_
  exact kept.bind (kept.cmd _ _ _ erases) fun _ => kept.pure _

section

variable (kept : OnCalls (fun _ _ => True) relation)
include kept

theorem go_idle_state_loop (retries : Nat) (response : UInt32) : Lib.Keeps relation (goIdleStateLoop retries response) := by
  induction retries generalizing response with
  | zero => exact kept.pure response
  | succ retries ih => exact kept.bind (kept.cmd _ _ _ trivial) fun answer => Lib.keeps_ite (kept.pure _) (ih _)

theorem cmd8 : Lib.Keeps relation Driver.cmd8 := by
  refine kept.bind (kept.cmd _ _ _ trivial) fun answer => kept.bind kept.get fun card => ?_
  exact Lib.keeps_ite (kept.bind (kept.setCardType _) fun _ => kept.pure _) (kept.pure _)

theorem acmd41 (arg : UInt32) : Lib.Keeps relation (Driver.acmd41 arg) := by
  have loop (fuel : Nat) : Lib.Keeps relation (acmd41Loop arg fuel) := by
    induction fuel with
    | zero => intro before value after ran; cases ran
    | succ fuel ih => exact kept.bind (kept.cmd _ _ _ trivial) fun answer => Lib.keeps_ite ih (kept.pure _)
  exact fun before value after ran => loop _ before value after ran

theorem set_capacity : Lib.Keeps relation setCapacity := by
  refine kept.bind (kept.member _) fun cardType => Lib.keeps_ite ?_ (kept.setCardType _)
  exact kept.bind (kept.cmd _ _ _ trivial) fun answer => Lib.keeps_ite (kept.setCardType _) (kept.pure _)

theorem crc_off : Lib.Keeps relation crcOff := by
  have last : Lib.Keeps relation (do let answer ← Driver.cmd .cmd59CrcOnOff 0x0 false; return answer.1) :=
    kept.bind (kept.cmd _ _ _ trivial) fun _ => kept.pure _
  refine kept.bind (kept.member _) fun crcOn => ?_
  exact Lib.keeps_ite (kept.bind (kept.cmd _ _ _ trivial) fun _ => last) last

theorem negotiate : Lib.Keeps relation Driver.negotiate := by
  refine kept.bind (kept.member _) fun cardType => kept.bind (kept.acmd41 _) fun answer => ?_
  refine Lib.keeps_ite (kept.bind (kept.setCardType _) fun _ => kept.pure _) ?_
  exact kept.bind kept.set_capacity fun _ => kept.crc_off

theorem check_voltage : Lib.Keeps relation checkVoltage := by
  refine kept.bind (kept.cmd _ _ _ trivial) fun answer => Lib.keeps_ite (kept.pure _) (Lib.keeps_ite ?_ kept.negotiate)
  exact kept.bind (kept.setCardType _) fun _ => kept.pure _

theorem spi_init : Lib.Keeps relation spiInit := kept.bind (kept.transfer_fillers 20) fun _ => kept.pure ()

theorem initialise_card : Lib.Keeps relation initialiseCard := by
  refine kept.bind kept.spi_init fun _ => kept.bind (kept.go_idle_state_loop _ _) fun idle => ?_
  refine Lib.keeps_ite (kept.pure _) (kept.bind kept.cmd8 fun status => Lib.keeps_ite (kept.pure _) ?_)
  refine kept.bind (kept.member _) fun crcOn => ?_
  exact Lib.keeps_ite (kept.bind (kept.cmd _ _ _ trivial) fun _ => kept.check_voltage) kept.check_voltage

end

end OnCalls

end SDCardFs.Driver
