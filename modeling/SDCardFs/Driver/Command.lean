import SDCardFs.Driver.Card

set_option autoImplicit false

namespace SDCardFs.Driver

def crc7Table : List UInt8 := [
  0x00, 0x09, 0x12, 0x1B, 0x24, 0x2D, 0x36, 0x3F,
  0x48, 0x41, 0x5A, 0x53, 0x6C, 0x65, 0x7E, 0x77,
  0x19, 0x10, 0x0B, 0x02, 0x3D, 0x34, 0x2F, 0x26,
  0x51, 0x58, 0x43, 0x4A, 0x75, 0x7C, 0x67, 0x6E,
  0x32, 0x3B, 0x20, 0x29, 0x16, 0x1F, 0x04, 0x0D,
  0x7A, 0x73, 0x68, 0x61, 0x5E, 0x57, 0x4C, 0x45,
  0x2B, 0x22, 0x39, 0x30, 0x0F, 0x06, 0x1D, 0x14,
  0x63, 0x6A, 0x71, 0x78, 0x47, 0x4E, 0x55, 0x5C,
  0x64, 0x6D, 0x76, 0x7F, 0x40, 0x49, 0x52, 0x5B,
  0x2C, 0x25, 0x3E, 0x37, 0x08, 0x01, 0x1A, 0x13,
  0x7D, 0x74, 0x6F, 0x66, 0x59, 0x50, 0x4B, 0x42,
  0x35, 0x3C, 0x27, 0x2E, 0x11, 0x18, 0x03, 0x0A,
  0x56, 0x5F, 0x44, 0x4D, 0x72, 0x7B, 0x60, 0x69,
  0x1E, 0x17, 0x0C, 0x05, 0x3A, 0x33, 0x28, 0x21,
  0x4F, 0x46, 0x5D, 0x54, 0x6B, 0x62, 0x79, 0x70,
  0x07, 0x0E, 0x15, 0x1C, 0x23, 0x2A, 0x31, 0x38,
  0x41, 0x48, 0x53, 0x5A, 0x65, 0x6C, 0x77, 0x7E,
  0x09, 0x00, 0x1B, 0x12, 0x2D, 0x24, 0x3F, 0x36,
  0x58, 0x51, 0x4A, 0x43, 0x7C, 0x75, 0x6E, 0x67,
  0x10, 0x19, 0x02, 0x0B, 0x34, 0x3D, 0x26, 0x2F,
  0x73, 0x7A, 0x61, 0x68, 0x57, 0x5E, 0x45, 0x4C,
  0x3B, 0x32, 0x29, 0x20, 0x1F, 0x16, 0x0D, 0x04,
  0x6A, 0x63, 0x78, 0x71, 0x4E, 0x47, 0x5C, 0x55,
  0x22, 0x2B, 0x30, 0x39, 0x06, 0x0F, 0x14, 0x1D,
  0x25, 0x2C, 0x37, 0x3E, 0x01, 0x08, 0x13, 0x1A,
  0x6D, 0x64, 0x7F, 0x76, 0x49, 0x40, 0x5B, 0x52,
  0x3C, 0x35, 0x2E, 0x27, 0x18, 0x11, 0x0A, 0x03,
  0x74, 0x7D, 0x66, 0x6F, 0x50, 0x59, 0x42, 0x4B,
  0x17, 0x1E, 0x05, 0x0C, 0x33, 0x3A, 0x21, 0x28,
  0x5F, 0x56, 0x4D, 0x44, 0x7B, 0x72, 0x69, 0x60,
  0x0E, 0x07, 0x1C, 0x15, 0x2A, 0x23, 0x38, 0x31,
  0x46, 0x4F, 0x54, 0x5D, 0x62, 0x6B, 0x70, 0x79]

-- Plain char is unsigned on the target; the index is computed in int.
def appendCRC7 (crc messageByte : UInt8) : UInt8 := crc7Table.getD ((crc.toNat <<< 1) ^^^ messageByte.toNat) 0

def getCRC7 (message : List UInt8) : UInt8 := message.foldl appendCRC7 0

def spiCmd (number : UInt8) : UInt8 := 0x40 ||| (number &&& 0x3f)

def cmdPacket (crcOn : Bool) (number : UInt8) (arg : UInt32) : List UInt8 :=
  let head := [spiCmd number, (arg >>> 24).toUInt8, (arg >>> 16).toUInt8, (arg >>> 8).toUInt8, (arg >>> 0).toUInt8]
  let last : UInt8 :=
    if crcOn then (getCRC7 head <<< 1) ||| 1
    else if number = CmdSupported.cmd0GoIdleState.number then 0x95
    else if number = CmdSupported.cmd8SendIfCond.number then 0x87
    else 0xFF
  head ++ [last]

-- Up to `tries` answers, the last one returned; 0xFF stands for the local
-- before its first assignment.
def cmdSpiLoop : Nat → UInt8 → DriverM UInt8
  | 0, response => pure response
  | tries + 1, _ => do
      let response ← transfer filler
      if response &&& r1ResponseRecv = 0 then
        return response
      cmdSpiLoop tries response

def cmdSpi (code : CmdSupported) (arg : UInt32) : DriverM UInt8 := do
  let crcOn ← member SDCard.crcOn
  transferAll (cmdPacket crcOn code.number arg)
  -- the stuff byte after CMD12
  if code = .cmd12StopTransmission then
    let _ ← transfer filler
  cmdSpiLoop 0x10 0xFF

-- for (i = 0; i < 3; i++): a response 0xFF continues, any other breaks.
def cmdAttempts (code : CmdSupported) (arg : UInt32) (isAcmd : Bool) : Nat → UInt32 → DriverM UInt32
  | 0, response => pure response
  | attempts + 1, _ => do
      if isAcmd then
        let _ ← cmdSpi .cmd55AppCmd 0x0
        let _ ← waitReady sdCommandTimeout
      let response ← cmdSpi code arg
      if r1NoResponse = response.toUInt32 then
        cmdAttempts code arg isAcmd attempts response.toUInt32
      else
        return response.toUInt32

def setCardType (cardType : CardType) : DriverM Unit := modify fun card => { card with cardType := cardType }

-- response = (transfer << 24) | (transfer << 16) | (transfer << 8) | transfer
def readWord : DriverM UInt32 := do
  let b3 ← transfer filler
  let b2 ← transfer filler
  let b1 ← transfer filler
  let b0 ← transfer filler
  return (b3.toUInt32 <<< 24) ||| (b2.toUInt32 <<< 16) ||| (b1.toUInt32 <<< 8) ||| b0.toUInt32

-- The rest of the response, by command; CMD8 falls through to CMD58.
def cmdTail (code : CmdSupported) (response : UInt32) : DriverM UInt32 :=
  match code with
  | .cmd8SendIfCond => do
      setCardType .v2
      readWord
  | .cmd58ReadOcr => readWord
  | .cmd12StopTransmission => do
      let _ ← waitReady sdCommandTimeout
      return response
  | .cmd38Erase => do
      let _ ← waitReady sdCommandTimeout
      return response
  | .cmd13SendStatus => do
      let byte ← transfer filler
      return byte.toUInt32
  | _ => pure response

def r1Status (response : UInt32) : Int32 :=
  if response &&& r1EraseReset ≠ 0 ∨ response &&& r1EraseSequenceError ≠ 0 then errorErase
  else if response &&& r1AddressError ≠ 0 ∨ response &&& r1ParameterError ≠ 0 then errorParameter
  else ok

def keepsSelected (code : CmdSupported) : Bool :=
  code = .cmd9SendCsd ∨ code = .acmd22SendNumWrBlocks ∨ code = .cmd24WriteBlock ∨ code = .cmd25WriteMultipleBlock ∨
    code = .cmd17ReadSingleBlock ∨ code = .cmd18ReadMultipleBlock

-- From the switch on R1 to the return: the status and the value left in *resp.
def cmdAnswer (code : CmdSupported) (response : UInt32) : DriverM (Int32 × UInt32) :=
  if r1NoResponse = response then do
    unselect
    return (errorNoDevice, response)
  else if response &&& r1ComCrcError ≠ 0 then do
    unselect
    return (errorCrc, response)
  else if response &&& r1IllegalCommand ≠ 0 then do
    unselect
    if code = .cmd8SendIfCond then
      setCardType .unknown
    return (errorUnsupported, response)
  else do
    let full ← cmdTail code response
    if keepsSelected code ∧ r1Status response = ok then
      return (ok, full)
    unselect
    return (r1Status response, full)

def cmdBody (code : CmdSupported) (arg : UInt32) (isAcmd : Bool) : DriverM (Int32 × UInt32) := do
  select
  if code ≠ .cmd12StopTransmission then
    let _ ← waitReady sdCommandTimeout
  let response ← cmdAttempts code arg isAcmd 3 r1NoResponse
  cmdAnswer code response

def cmd (code : CmdSupported) (arg : UInt32) (isAcmd : Bool) : DriverM (Int32 × UInt32) := do
  let answer ← cmdBody code arg isAcmd
  record (.command code arg isAcmd answer.1 answer.2)
  return answer

section

variable {relation : SDCard → SDCard → Prop}

theorem OnFillers.cmd_spi_loop (kept : OnFillers relation) (tries : Nat) (response : UInt8) : Lib.Keeps relation (cmdSpiLoop tries response) := by
  induction tries generalizing response with
  | zero => exact kept.pure response
  | succ tries ih => exact kept.bind kept.fill fun byte => Lib.keeps_ite (kept.pure _) (ih byte)

theorem OnFillers.read_word (kept : OnFillers relation) : Lib.Keeps relation readWord :=
  kept.bind kept.fill fun _ => kept.bind kept.fill fun _ => kept.bind kept.fill fun _ => kept.bind kept.fill fun _ => kept.pure _

theorem OnBus.cmd_spi (kept : OnBus relation) (code : CmdSupported) (arg : UInt32) : Lib.Keeps relation (cmdSpi code arg) := by
  refine kept.bind (kept.member _) fun crcOn => kept.bind (kept.transfer_all _) fun _ => ?_
  dsimp only
  split
  · exact kept.bind (kept.transfer _) fun _ => kept.cmd_spi_loop _ _
  · exact kept.cmd_spi_loop _ _

theorem OnBus.cmd_attempts (kept : OnBus relation) (code : CmdSupported) (arg : UInt32) (isAcmd : Bool) (attempts : Nat) (response : UInt32) :
    Lib.Keeps relation (cmdAttempts code arg isAcmd attempts response) := by
  induction attempts generalizing response with
  | zero => exact kept.pure response
  | succ attempts ih =>
      have sends : Lib.Keeps relation (do
          let byte ← cmdSpi code arg
          if r1NoResponse = byte.toUInt32 then cmdAttempts code arg isAcmd attempts byte.toUInt32
          else Pure.pure byte.toUInt32) :=
        kept.bind (kept.cmd_spi _ _) fun byte => Lib.keeps_ite (ih _) (kept.pure _)
      rw [cmdAttempts]
      dsimp only
      split
      · exact kept.bind (kept.cmd_spi _ _) fun _ => kept.bind (kept.wait_ready _) fun _ => sends
      · exact sends

end

theorem cmd_attempts_only_bus (code : CmdSupported) (arg : UInt32) (isAcmd : Bool) (attempts : Nat) (response : UInt32) :
    Lib.Keeps OnlyBus (cmdAttempts code arg isAcmd attempts response) :=
  only_bus_on_bus.cmd_attempts code arg isAcmd attempts response

theorem cmd_attempts_byte (code : CmdSupported) (arg : UInt32) (isAcmd : Bool) (attempts : Nat) (last : UInt8) :
    Lib.Ends (cmdAttempts code arg isAcmd attempts last.toUInt32) fun _ response _ => ∃ byte : UInt8, response = byte.toUInt32 := by
  induction attempts generalizing last with
  | zero => exact Lib.ends_pure _ _ fun _ => ⟨last, rfl⟩
  | succ attempts ih =>
      have sends : Lib.Ends (do
          let byte ← cmdSpi code arg
          if r1NoResponse = byte.toUInt32 then cmdAttempts code arg isAcmd attempts byte.toUInt32
          else pure byte.toUInt32) fun _ response _ => ∃ byte : UInt8, response = byte.toUInt32 := by
        intro before response after ran
        obtain ⟨byte, _, -, ran⟩ := (Lib.bind_run_some _ _ _ _ _).mp ran
        split at ran
        · exact ih byte _ _ _ ran
        · obtain ⟨rfl, -⟩ := (Lib.pure_run_some _ _ _ _).mp ran
          exact ⟨byte, rfl⟩
      intro before response after ran
      rw [cmdAttempts] at ran
      dsimp only at ran
      split at ran
      · obtain ⟨_, _, -, ran⟩ := (Lib.bind_run_some _ _ _ _ _).mp ran
        obtain ⟨_, _, -, ran⟩ := (Lib.bind_run_some _ _ _ _ _).mp ran
        exact sends _ _ _ ran
      · exact sends _ _ _ ran

theorem read_word_only_bus : Lib.Keeps OnlyBus readWord := only_bus_on_bus.read_word

-- What one _cmd leaves behind: its own record, and a card type only CMD8 touches.
structure AnswerEffect (code : CmdSupported) (before : SDCard) (answer : Int32 × UInt32) (after : SDCard) : Prop where
  frame : after = { before with bus := after.bus, cardType := after.cardType }
  same_type : code ≠ .cmd8SendIfCond → after.cardType = before.cardType
  accepted_v2 : code = .cmd8SendIfCond → answer.1 = ok → after.cardType = .v2
  unsupported_unknown : code = .cmd8SendIfCond → answer.1 = errorUnsupported → after.cardType = .unknown

theorem r1_status_supported (response : UInt32) : r1Status response ≠ errorUnsupported := by
  unfold r1Status
  split
  · decide
  · split <;> decide

theorem no_device_failed : errorNoDevice ≠ ok ∧ errorNoDevice ≠ errorUnsupported := by decide

theorem unsupported_failed : errorUnsupported ≠ ok := by decide

theorem crc_failed : errorCrc ≠ ok ∧ errorCrc ≠ errorUnsupported := by decide

theorem only_bus_effect (code : CmdSupported) (before after : SDCard) (answer : Int32 × UInt32) (moved : OnlyBus before after)
    (failed : answer.1 ≠ ok) (supported : answer.1 ≠ errorUnsupported) : AnswerEffect code before answer after := by
  rw [OnlyBus] at moved
  refine ⟨?_, fun _ => ?_, fun _ accepted => absurd accepted failed, fun _ refused => absurd refused supported⟩
  · rw [moved]
  · rw [moved]

theorem set_card_type_run (cardType : CardType) (before after : SDCard) (value : Unit)
    (ran : (setCardType cardType).run before = some (value, after)) : after = { before with cardType := cardType } :=
  (Prod.mk.inj (Option.some.inj ran)).2.symm

theorem cmd_tail_effect (code : CmdSupported) (response : UInt32) :
    Lib.Ends (cmdTail code response) fun before _ after =>
      after = { before with bus := after.bus, cardType := after.cardType } ∧
        (code ≠ .cmd8SendIfCond → after.cardType = before.cardType) ∧
        (code = .cmd8SendIfCond → after.cardType = .v2) := by
  have plain : ∀ (call : DriverM UInt32), code ≠ .cmd8SendIfCond → Lib.Keeps OnlyBus call →
      Lib.Ends call fun before _ after => after = { before with bus := after.bus, cardType := after.cardType } ∧
        (code ≠ .cmd8SendIfCond → after.cardType = before.cardType) ∧
        (code = .cmd8SendIfCond → after.cardType = .v2) := by
    intro call other keeps
    refine Lib.ends_mono keeps fun before _ after moved => ?_
    rw [OnlyBus] at moved
    refine ⟨by rw [moved], fun _ => by rw [moved], fun same => absurd same other⟩
  cases code
  case cmd8SendIfCond =>
    intro before value after ran
    obtain ⟨_, between, typed, word⟩ := (Lib.bind_run_some _ _ _ _ _).mp ran
    have typedAs := set_card_type_run _ _ _ _ typed
    have moved := Lib.keeps_run read_word_only_bus word
    rw [OnlyBus, typedAs] at moved
    refine ⟨?_, fun other => absurd rfl other, fun _ => ?_⟩
    · rw [moved]
    · rw [moved]
  case cmd58ReadOcr => exact plain _ (by decide) read_word_only_bus
  case cmd12StopTransmission =>
    exact plain _ (by decide) (only_bus_bind (wait_ready_only_bus _) fun _ => only_bus_pure _)
  case cmd38Erase =>
    exact plain _ (by decide) (only_bus_bind (wait_ready_only_bus _) fun _ => only_bus_pure _)
  case cmd13SendStatus =>
    exact plain _ (by decide) (only_bus_bind (transfer_only_bus _) fun _ => only_bus_pure _)
  all_goals exact plain _ (by decide) (only_bus_pure _)

theorem cmd_answer_effect (code : CmdSupported) (response : UInt32) :
    Lib.Ends (cmdAnswer code response) (AnswerEffect code) := by
  intro before answer after ran
  unfold cmdAnswer at ran
  split at ran
  · obtain ⟨_, _, moved, done⟩ := (Lib.bind_run_some _ _ _ _ _).mp ran
    obtain ⟨rfl, rfl⟩ := (Lib.pure_run_some _ _ _ _).mp done
    exact only_bus_effect code _ _ _ (Lib.keeps_run unselect_only_bus moved) no_device_failed.1 no_device_failed.2
  · split at ran
    · obtain ⟨_, _, moved, done⟩ := (Lib.bind_run_some _ _ _ _ _).mp ran
      obtain ⟨rfl, rfl⟩ := (Lib.pure_run_some _ _ _ _).mp done
      exact only_bus_effect code _ _ _ (Lib.keeps_run unselect_only_bus moved) crc_failed.1 crc_failed.2
    · split at ran
      · obtain ⟨_, between, moved, rest⟩ := (Lib.bind_run_some _ _ _ _ _).mp ran
        have unselected := Lib.keeps_run unselect_only_bus moved
        rw [OnlyBus] at unselected
        dsimp only at rest
        split at rest
        · rename_i isCmd8
          obtain ⟨_, _, typed, done⟩ := (Lib.bind_run_some _ _ _ _ _).mp rest
          obtain ⟨rfl, rfl⟩ := (Lib.pure_run_some _ _ _ _).mp done
          have typedAs := set_card_type_run _ _ _ _ typed
          rw [unselected] at typedAs
          refine ⟨by rw [typedAs], fun other => absurd isCmd8 other, fun _ accepted => absurd accepted unsupported_failed, fun _ _ => by rw [typedAs]⟩
        · rename_i other
          obtain ⟨rfl, rfl⟩ := (Lib.pure_run_some _ _ _ _).mp rest
          exact ⟨by rw [unselected], fun _ => by rw [unselected], fun same => absurd same other, fun same => absurd same other⟩
      · obtain ⟨full, between, tail, rest⟩ := (Lib.bind_run_some _ _ _ _ _).mp ran
        obtain ⟨frame, sameType, v2⟩ := cmd_tail_effect code response _ _ _ tail
        split at rest
        · obtain ⟨rfl, rfl⟩ := (Lib.pure_run_some _ _ _ _).mp rest
          exact ⟨frame, sameType, fun isCmd8 _ => v2 isCmd8, fun _ refused => absurd refused.symm unsupported_failed⟩
        · obtain ⟨_, _, moved, done⟩ := (Lib.bind_run_some _ _ _ _ _).mp rest
          obtain ⟨rfl, rfl⟩ := (Lib.pure_run_some _ _ _ _).mp done
          have unselected := Lib.keeps_run unselect_only_bus moved
          rw [OnlyBus] at unselected
          have frameAll : between = { before with bus := between.bus, cardType := between.cardType } := frame
          refine ⟨?_, fun other => ?_, fun isCmd8 _ => ?_, fun _ refused => absurd refused (r1_status_supported _)⟩
          · rw [unselected, frameAll]
          · rw [unselected]; exact sameType other
          · rw [unselected]; exact v2 isCmd8

structure CmdEffect (code : CmdSupported) (arg : UInt32) (isAcmd : Bool) (before : SDCard) (answer : Int32 × UInt32)
    (after : SDCard) : Prop where
  frame : after = { before with bus := after.bus, cardType := after.cardType, trace := .command code arg isAcmd answer.1 answer.2 :: before.trace }
  same_type : code ≠ .cmd8SendIfCond → after.cardType = before.cardType
  accepted_v2 : code = .cmd8SendIfCond → answer.1 = ok → after.cardType = .v2
  unsupported_unknown : code = .cmd8SendIfCond → answer.1 = errorUnsupported → after.cardType = .unknown

theorem record_run (event : Event) (before after : SDCard) (value : Unit)
    (ran : (record event).run before = some (value, after)) : after = { before with trace := event :: before.trace } :=
  (Prod.mk.inj (Option.some.inj ran)).2.symm

theorem cmd_prologue_run (code : CmdSupported) (arg : UInt32) (isAcmd : Bool) (before after : SDCard) (answer : Int32 × UInt32)
    (ran : (cmdBody code arg isAcmd).run before = some (answer, after)) :
    ∃ byte between, OnlyBus before between ∧ (cmdAnswer code (UInt8.toUInt32 byte)).run between = some (answer, after) := by
  have attempts : ∀ (middle : SDCard), OnlyBus before middle →
      (do let response ← cmdAttempts code arg isAcmd 3 r1NoResponse; cmdAnswer code response).run middle = some (answer, after) →
      ∃ byte between, OnlyBus before between ∧ (cmdAnswer code (UInt8.toUInt32 byte)).run between = some (answer, after) := by
    intro middle moved rest
    obtain ⟨response, between, tried, answered⟩ := (Lib.bind_run_some _ _ _ _ _).mp rest
    obtain ⟨byte, rfl⟩ := cmd_attempts_byte code arg isAcmd 3 0xFF _ _ _ tried
    have kept := Lib.keeps_run (cmd_attempts_only_bus code arg isAcmd 3 _) tried
    exact ⟨byte, between, only_bus_trans _ _ _ moved kept, answered⟩
  obtain ⟨_, selected, selects, rest⟩ := (Lib.bind_run_some _ _ _ _ _).mp ran
  have selectKept := Lib.keeps_run select_only_bus selects
  dsimp only at rest
  split at rest
  · obtain ⟨_, waited, waits, rest⟩ := (Lib.bind_run_some _ _ _ _ _).mp rest
    exact attempts waited (only_bus_trans _ _ _ selectKept (Lib.keeps_run (wait_ready_only_bus _) waits)) rest
  · exact attempts selected selectKept rest

theorem cmd_effect (code : CmdSupported) (arg : UInt32) (isAcmd : Bool) : Lib.Ends (cmd code arg isAcmd) (CmdEffect code arg isAcmd) := by
  intro before answer after ran
  obtain ⟨_, answered, body, rest⟩ := (Lib.bind_run_some _ _ _ _ _).mp ran
  obtain ⟨_, recorded, records, done⟩ := (Lib.bind_run_some _ _ _ _ _).mp rest
  obtain ⟨rfl, rfl⟩ := (Lib.pure_run_some _ _ _ _).mp done
  obtain ⟨byte, between, moved, answers⟩ := cmd_prologue_run code arg isAcmd _ _ _ body
  obtain ⟨frame, sameType, v2, unknown⟩ := cmd_answer_effect code byte.toUInt32 _ _ _ answers
  have recordedAs := record_run _ _ _ _ records
  rw [OnlyBus] at moved
  rw [moved] at frame sameType
  subst recordedAs
  exact ⟨by rw [frame], sameType, v2, unknown⟩

def Adds (events : List Event) (before after : SDCard) : Prop :=
  after = { before with bus := after.bus, trace := events ++ before.trace }

theorem adds_nothing (before after : SDCard) (moved : OnlyBus before after) : Adds [] before after := moved

theorem adds_trans (older newer : List Event) (a b c : SDCard) (left : Adds older a b) (right : Adds newer b c) :
    Adds (newer ++ older) a c := by
  rw [Adds] at left right ⊢
  rw [right, left, List.append_assoc]

theorem adds_trace {events : List Event} {before after : SDCard} (added : Adds events before after) : after.trace = events ++ before.trace := by
  rw [added]

theorem cmd_adds (code : CmdSupported) (arg : UInt32) (isAcmd : Bool) (other : code ≠ .cmd8SendIfCond) :
    Lib.Ends (cmd code arg isAcmd) fun before answer after => Adds [.command code arg isAcmd answer.1 answer.2] before after := by
  refine Lib.ends_mono (cmd_effect code arg isAcmd) fun before answer after effect => ?_
  rw [Adds, effect.frame, effect.same_type other]
  rfl

theorem record_adds (event : Event) : Lib.Keeps (Adds [event]) (record event) := by
  intro before value after ran
  rw [record_run event before after value ran]
  rfl

def cmd8 : DriverM Int32 := do
  let arg := cmd8Pattern ||| ((0x1 : UInt32) <<< 8)
  let (status, response) ← cmd .cmd8SendIfCond arg false
  let card ← get
  if status = ok ∧ card.cardType = .v2 ∧ response &&& 0xFFF ≠ arg then
    setCardType .unknown
    return errorUnusable
  return status

def goIdleStateLoop : Nat → UInt32 → DriverM UInt32
  | 0, response => pure response
  | retries + 1, _ => do
      let (_, response) ← cmd .cmd0GoIdleState 0x0 false
      if r1IdleState = response then
        return response
      goIdleStateLoop retries response

def goIdleState : DriverM UInt32 := goIdleStateLoop sdCmd0GoIdleStateRetries 0

end SDCardFs.Driver
