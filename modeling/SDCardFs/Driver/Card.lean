import SDCardFs.Lib.Ends

set_option autoImplicit false

namespace SDCardFs.Driver

def filler : UInt8 := 0xff
def sdCommandTimeout : Int := 5000
def sdCmd0GoIdleStateRetries : Nat := 10
def blockSize : UInt32 := 512
def sdInitFrequency : UInt32 := 200000
def sdTrxFrequency : UInt32 := 20000000

def ok : Int32 := 0
def errorUnsupported : Int32 := -5002
def errorParameter : Int32 := -5003
def errorNoInit : Int32 := -5004
def errorNoDevice : Int32 := -5005
def errorUnusable : Int32 := -5007
def errorNoResponse : Int32 := -5008
def errorCrc : Int32 := -5009
def errorErase : Int32 := -5010
def errorWrite : Int32 := -5011

def r1NoResponse : UInt32 := 0xFF
def r1ResponseRecv : UInt8 := 0x80
def r1IdleState : UInt32 := (1 : UInt32) <<< 0
def r1EraseReset : UInt32 := (1 : UInt32) <<< 1
def r1IllegalCommand : UInt32 := (1 : UInt32) <<< 2
def r1ComCrcError : UInt32 := (1 : UInt32) <<< 3
def r1EraseSequenceError : UInt32 := (1 : UInt32) <<< 4
def r1AddressError : UInt32 := (1 : UInt32) <<< 5
def r1ParameterError : UInt32 := (1 : UInt32) <<< 6

def ocrHcsCcs : UInt32 := (1 : UInt32) <<< 30
def ocr33V : UInt32 := (1 : UInt32) <<< 20
def cmd8Pattern : UInt32 := 0xAA

def spiDataResponseMask : UInt8 := 0x1F
def spiDataAccepted : UInt8 := 0x05
def spiStartBlock : UInt8 := 0xFE
def spiStartBlkMulWrite : UInt8 := 0xFC

inductive CardType where
  | none
  | v1
  | v2
  | v2hc
  | unknown
deriving DecidableEq, Repr

-- Enumerators of equal value are one constructor, as they are one value in
-- the source: CMD6/ACMD6 and CMD13/ACMD13.
inductive CmdSupported where
  | notSupported
  | cmd0GoIdleState
  | cmd1SendOpCond
  | cmd6SwitchFunc
  | cmd8SendIfCond
  | cmd9SendCsd
  | cmd10SendCid
  | cmd12StopTransmission
  | cmd13SendStatus
  | cmd16SetBlocklen
  | cmd17ReadSingleBlock
  | cmd18ReadMultipleBlock
  | acmd22SendNumWrBlocks
  | acmd23SetWrBlkEraseCount
  | cmd24WriteBlock
  | cmd25WriteMultipleBlock
  | cmd27ProgramCsd
  | cmd32EraseWrBlkStartAddr
  | cmd33EraseWrBlkEndAddr
  | cmd38Erase
  | acmd41SdSendOpCond
  | acmd42SetClrCardDetect
  | acmd51SendScr
  | cmd55AppCmd
  | cmd56GenCmd
  | cmd58ReadOcr
  | cmd59CrcOnOff
deriving DecidableEq, Repr

def CmdSupported.number : CmdSupported → UInt8
  | .notSupported => 0xFF
  | .cmd0GoIdleState => 0
  | .cmd1SendOpCond => 1
  | .cmd6SwitchFunc => 6
  | .cmd8SendIfCond => 8
  | .cmd9SendCsd => 9
  | .cmd10SendCid => 10
  | .cmd12StopTransmission => 12
  | .cmd13SendStatus => 13
  | .cmd16SetBlocklen => 16
  | .cmd17ReadSingleBlock => 17
  | .cmd18ReadMultipleBlock => 18
  | .acmd22SendNumWrBlocks => 22
  | .acmd23SetWrBlkEraseCount => 23
  | .cmd24WriteBlock => 24
  | .cmd25WriteMultipleBlock => 25
  | .cmd27ProgramCsd => 27
  | .cmd32EraseWrBlkStartAddr => 32
  | .cmd33EraseWrBlkEndAddr => 33
  | .cmd38Erase => 38
  | .acmd41SdSendOpCond => 41
  | .acmd42SetClrCardDetect => 42
  | .acmd51SendScr => 51
  | .cmd55AppCmd => 55
  | .cmd56GenCmd => 56
  | .cmd58ReadOcr => 58
  | .cmd59CrcOnOff => 59

-- One byte exchange on the bus: what the host drove, what the card answered
-- and whether chip select was high meanwhile.
structure Transfer where
  sent : UInt8
  received : UInt8
  csHigh : Bool
deriving DecidableEq, Repr

-- The card's answers still to come, the chip select line, and the exchanges
-- so far, the latest first.
structure Bus where
  rx : List UInt8
  csHigh : Bool
  transfers : List Transfer
deriving DecidableEq, Repr

-- What the card answered, recorded where the driver learns it. No function of
-- the driver reads these records back.
inductive Event where
  | command (cmd : CmdSupported) (arg : UInt32) (isAcmd : Bool) (status : Int32) (response : UInt32)
  | handshake (status : Int32)
  | sentBlock (token : UInt8) (data : List UInt8) (response : UInt8)
  | receivedBlock (data : List UInt8)
  | failedBlock
deriving DecidableEq, Repr

-- uninitialised stands for what the two locals crc_result hold, which the
-- source compares without ever assigning them.
structure SDCard where
  bus : Bus
  trace : List Event
  cardType : CardType
  sectors : UInt64
  initSck : UInt32
  transferSck : UInt32
  eraseSize : UInt32
  isInitialized : Bool
  crcOn : Bool
  uninitialised : UInt32
deriving DecidableEq, Repr

def SDCard.fresh (uninitialised : UInt32) : SDCard where
  bus := ⟨[], true, []⟩
  trace := []
  cardType := .none
  sectors := 0
  initSck := sdInitFrequency
  transferSck := sdTrxFrequency
  eraseSize := blockSize
  isInitialized := false
  crcOn := false
  uninitialised := uninitialised

def SDCard.hears (card : SDCard) (rx : List UInt8) : SDCard := { card with bus.rx := rx }

def silent (count : Nat) : List UInt8 := List.replicate count 0xFF

-- none: the answers end before the call returns. A call returns on an
-- infinite stream exactly when it returns on one of its finite prefixes.
abbrev DriverM := StateT SDCard Option

def transfer (data : UInt8) : DriverM UInt8 := fun card =>
  match card.bus.rx with
  | [] => none
  | byte :: rest =>
      some (byte, { card with bus := ⟨rest, card.bus.csHigh, ⟨data, byte, card.bus.csHigh⟩ :: card.bus.transfers⟩ })

def member {α : Type} (field : SDCard → α) : DriverM α := fun card => some (field card, card)

def record (event : Event) : DriverM Unit := modify fun card => { card with trace := event :: card.trace }

def setCs (high : Bool) : DriverM Unit := modify fun card => { card with bus.csHigh := high }

def select : DriverM Unit := do
  let _ ← transfer filler
  let _ ← transfer filler
  setCs false

def unselect : DriverM Unit := do
  let _ ← transfer filler
  setCs true

-- for (k = 0; k < count; k++) transfer(FILLER), the bytes read in order.
def transferFillers : Nat → DriverM (List UInt8)
  | 0 => pure []
  | count + 1 => do
      let byte ← transfer filler
      let rest ← transferFillers count
      return byte :: rest

def transferAll : List UInt8 → DriverM Unit
  | [] => pure ()
  | byte :: rest => do
      let _ ← transfer byte
      transferAll rest

def sendDummy : DriverM Unit := do
  let _ ← transferFillers 20

-- SPI clock set-up (initMaster) has no effect on the bytes exchanged.
def spiInit : DriverM Unit := sendDummy

-- The timeout counter c of the source is never advanced: with a positive
-- timeout the loop ends only on 0xFF. Every turn takes one answer, so the
-- fuel is the number of answers left and is not what ends the loop.
def waitReadyLoop (timeous c : Int) : Nat → DriverM Bool
  | 0 => fun _ => none
  | fuel + 1 => do
      let response ← transfer filler
      if response = 0xFF then
        return true
      if c < timeous then
        waitReadyLoop timeous c fuel
      else
        return false

def waitReady (timeous : Int) : DriverM Bool := fun card => waitReadyLoop timeous 0 (card.bus.rx.length + 1) card

def waitTokenLoop (token : UInt8) : Nat → DriverM Bool
  | 0 => pure false
  | tries + 1 => do
      let byte ← transfer filler
      if token = byte then
        return true
      waitTokenLoop token tries

def waitToken (token : UInt8) : DriverM Bool := waitTokenLoop token 50000

theorem transfer_run (data byte : UInt8) (rest : List UInt8) (card : SDCard) (next : card.bus.rx = byte :: rest) :
    (transfer data).run card =
      some (byte, { card with bus := ⟨rest, card.bus.csHigh, ⟨data, byte, card.bus.csHigh⟩ :: card.bus.transfers⟩ }) := by
  simp [transfer, StateT.run, next]

theorem transfer_effect (data : UInt8) : Lib.Ends (transfer data) fun before byte after => ∃ rest,
    before.bus.rx = byte :: rest ∧
      after = { before with bus := ⟨rest, before.bus.csHigh, ⟨data, byte, before.bus.csHigh⟩ :: before.bus.transfers⟩ } := by
  intro before value after ran
  cases answers : before.bus.rx with
  | nil => simp [transfer, StateT.run, answers] at ran
  | cons byte rest =>
      rw [transfer_run data byte rest before answers] at ran
      obtain ⟨rfl, rfl⟩ := Prod.mk.inj (Option.some.inj ran)
      exact ⟨rest, rfl, rfl⟩

-- A reflexive and transitive relation that a filler and a change of the chip
-- select line keep, and so every call that waits and reads.
structure OnFillers (relation : SDCard → SDCard → Prop) : Prop where
  reflexive : ∀ card, relation card card
  transitive : ∀ a b c, relation a b → relation b c → relation a c
  fill : Lib.Keeps relation (Driver.transfer filler)
  setCs : ∀ high, Lib.Keeps relation (Driver.setCs high)

-- The same of every exchange, and so of every call made of these.
structure OnBus (relation : SDCard → SDCard → Prop) : Prop extends OnFillers relation where
  transfer : ∀ data, Lib.Keeps relation (Driver.transfer data)
  fill := transfer filler

namespace OnFillers

variable {relation : SDCard → SDCard → Prop} {α β : Type}

theorem pure (kept : OnFillers relation) (result : α) : Lib.Keeps relation (Pure.pure result : DriverM α) :=
  Lib.keeps_pure result kept.reflexive

theorem bind (kept : OnFillers relation) {first : DriverM α} {rest : α → DriverM β} (firstKeeps : Lib.Keeps relation first)
    (restKeeps : ∀ result, Lib.Keeps relation (rest result)) : Lib.Keeps relation (first >>= rest) :=
  Lib.keeps_bind kept.transitive firstKeeps restKeeps

theorem member (kept : OnFillers relation) (field : SDCard → α) : Lib.Keeps relation (Driver.member field) := by
  intro before value after ran
  obtain ⟨-, rfl⟩ := Prod.mk.inj (Option.some.inj ran)
  exact kept.reflexive before

theorem get (kept : OnFillers relation) : Lib.Keeps relation (MonadState.get : DriverM SDCard) := kept.member fun card => card

theorem select (kept : OnFillers relation) : Lib.Keeps relation Driver.select :=
  kept.bind kept.fill fun _ => kept.bind kept.fill fun _ => kept.setCs _

theorem unselect (kept : OnFillers relation) : Lib.Keeps relation Driver.unselect := kept.bind kept.fill fun _ => kept.setCs _

theorem transfer_fillers (kept : OnFillers relation) (count : Nat) : Lib.Keeps relation (transferFillers count) := by
  induction count with
  | zero => exact kept.pure []
  | succ count ih => exact kept.bind kept.fill fun byte => kept.bind ih fun rest => kept.pure _

theorem wait_ready_loop (kept : OnFillers relation) (timeous c : Int) (fuel : Nat) : Lib.Keeps relation (waitReadyLoop timeous c fuel) := by
  induction fuel with
  | zero => intro before value after ran; cases ran
  | succ fuel ih =>
      refine kept.bind kept.fill fun response => ?_
      exact Lib.keeps_ite (kept.pure _) (Lib.keeps_ite ih (kept.pure _))

theorem wait_ready (kept : OnFillers relation) (timeous : Int) : Lib.Keeps relation (waitReady timeous) :=
  fun before value after ran => kept.wait_ready_loop timeous 0 _ before value after ran

theorem wait_token_loop (kept : OnFillers relation) (token : UInt8) (tries : Nat) : Lib.Keeps relation (waitTokenLoop token tries) := by
  induction tries with
  | zero => exact kept.pure false
  | succ tries ih => exact kept.bind kept.fill fun byte => Lib.keeps_ite (kept.pure _) ih

end OnFillers

theorem OnBus.transfer_all {relation : SDCard → SDCard → Prop} (kept : OnBus relation) (bytes : List UInt8) :
    Lib.Keeps relation (transferAll bytes) := by
  induction bytes with
  | nil => exact kept.pure ()
  | cons byte rest ih => exact kept.bind (kept.transfer byte) fun _ => ih

def OnlyBus (before after : SDCard) : Prop := after = { before with bus := after.bus }

theorem only_bus_refl (card : SDCard) : OnlyBus card card := rfl

theorem only_bus_trans (a b c : SDCard) (left : OnlyBus a b) (right : OnlyBus b c) : OnlyBus a c := by
  rw [OnlyBus, right, left]

theorem only_bus_on_bus : OnBus OnlyBus where
  reflexive := only_bus_refl
  transitive := only_bus_trans
  transfer data := by
    intro before value after ran
    obtain ⟨rest, -, rfl⟩ := transfer_effect data before value after ran
    rfl
  setCs high := by
    intro before value after ran
    obtain ⟨-, rfl⟩ := Prod.mk.inj (Option.some.inj ran)
    rfl

theorem only_bus_bind {α β : Type} {first : DriverM α} {rest : α → DriverM β}
    (firstKeeps : Lib.Keeps OnlyBus first) (restKeeps : ∀ result, Lib.Keeps OnlyBus (rest result)) :
    Lib.Keeps OnlyBus (first >>= rest) :=
  only_bus_on_bus.bind firstKeeps restKeeps

theorem only_bus_pure {α : Type} (result : α) : Lib.Keeps OnlyBus (pure result : DriverM α) := only_bus_on_bus.pure result

theorem transfer_only_bus (data : UInt8) : Lib.Keeps OnlyBus (transfer data) := only_bus_on_bus.transfer data

theorem select_only_bus : Lib.Keeps OnlyBus select := only_bus_on_bus.select

theorem unselect_only_bus : Lib.Keeps OnlyBus unselect := only_bus_on_bus.unselect

theorem transfer_fillers_only_bus (count : Nat) : Lib.Keeps OnlyBus (transferFillers count) := only_bus_on_bus.transfer_fillers count

theorem transfer_all_only_bus (bytes : List UInt8) : Lib.Keeps OnlyBus (transferAll bytes) := only_bus_on_bus.transfer_all bytes

theorem wait_ready_only_bus (timeous : Int) : Lib.Keeps OnlyBus (waitReady timeous) := only_bus_on_bus.wait_ready timeous

theorem wait_token_only_bus (token : UInt8) : Lib.Keeps OnlyBus (waitToken token) := only_bus_on_bus.wait_token_loop token 50000

end SDCardFs.Driver
