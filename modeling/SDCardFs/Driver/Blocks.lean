import SDCardFs.Lib.Bytes
import SDCardFs.Driver.Command

set_option autoImplicit false

namespace SDCardFs.Driver

def SDCard.size (card : SDCard) : UInt64 := blockSize.toUInt64 * card.sectors

def getReadSize : UInt64 := blockSize.toUInt64

def getProgramSize : UInt64 := blockSize.toUInt64

def SDCard.isValidRead (card : SDCard) (addr size : UInt64) : Bool :=
  addr % getReadSize = 0 ∧ size % getReadSize = 0 ∧ addr + size ≤ card.size

def SDCard.isValidProgram (card : SDCard) (addr size : UInt64) : Bool :=
  addr % getProgramSize = 0 ∧ size % getProgramSize = 0 ∧ addr + size ≤ card.size

def SDCard.isValidTrim (card : SDCard) (addr size : UInt64) : Bool :=
  addr % card.eraseSize.toUInt64 = 0 ∧ size % card.eraseSize.toUInt64 = 0 ∧ addr + size ≤ card.size

-- SDSC cards take a byte address, SDHC and SDXC cards a block address.
def SDCard.unit (card : SDCard) (addr : UInt64) : UInt64 :=
  if card.cardType = .v2hc then addr / blockSize.toUInt64 else addr

def store (buffer : Nat → UInt8) (offset : Nat) (data : List UInt8) : Nat → UInt8 := fun p =>
  if offset ≤ p ∧ p < offset + data.length then data.getD (p - offset) 0 else buffer p

-- _write: the CRC bytes are those of ~0, the data response is returned masked.
def writeBlock (buffer : Nat → UInt8) (offset : Nat) (token : UInt8) (length : UInt32) : DriverM UInt8 := do
  let data := Lib.slice buffer offset length.toNat
  let crc : UInt32 := 0xFFFFFFFF
  let _ ← transfer token
  transferAll data
  let _ ← transfer (crc >>> 8).toUInt8
  let _ ← transfer crc.toUInt8
  let response ← transfer filler
  let _ ← waitReady sdCommandTimeout
  record (.sentBlock token data (response &&& spiDataResponseMask))
  return response &&& spiDataResponseMask

def programLoop (buffer : Nat → UInt8) : Nat → Nat → DriverM Unit
  | 0, _ => pure ()
  | blockCnt + 1, offset => do
      let response ← writeBlock buffer offset spiStartBlkMulWrite blockSize
      if response = spiDataAccepted then
        programLoop buffer blockCnt (offset + blockSize.toNat)

-- do { .. } while (--blockCnt): a count of zero wraps around first.
def programTurns (blockCnt : UInt64) : Nat := (blockCnt - 1).toNat + 1

def program (b : Nat → UInt8) (addr size : UInt64) : DriverM Int32 := do
  let card ← get
  if ¬ card.isValidProgram addr size then
    return errorParameter
  if ¬ card.isInitialized then
    return errorNoInit
  let blockCnt := size / blockSize.toUInt64
  if blockCnt = 1 then
    let (status, _) ← cmd .cmd24WriteBlock (card.unit addr).toUInt32 false
    if status ≠ ok then
      return status
    let response ← writeBlock b 0 spiStartBlock blockSize
    unselect
    return if response ≠ spiDataAccepted then errorWrite else status
  else
    let _ ← cmd .acmd23SetWrBlkEraseCount blockCnt.toUInt32 true
    let (status, _) ← cmd .cmd25WriteMultipleBlock (card.unit addr).toUInt32 false
    if status ≠ ok then
      return status
    programLoop b (programTurns blockCnt) 0
    let _ ← cmd .cmd12StopTransmission 0x0 false
    unselect
    return status

-- _read: what was stored in the buffer, and zero or an error.
def readBlock (length : UInt32) : DriverM (Int32 × List UInt8) := do
  if (← waitToken spiStartBlock) = false then
    record .failedBlock
    return (errorNoResponse, [])
  let data ← transferFillers length.toNat
  let high ← transfer filler
  let low ← transfer filler
  let card ← get
  if card.crcOn ∧ card.uninitialised.toUInt16 ≠ (high.toUInt16 <<< 8) ||| low.toUInt16 then
    record .failedBlock
    return (errorCrc, data)
  record (.receivedBlock data)
  return (0, data)

def readLoop (status : Int32) : Nat → Nat → (Nat → UInt8) → DriverM (Int32 × (Nat → UInt8))
  | 0, _, buffer => pure (status, buffer)
  | blockCnt + 1, offset, buffer => do
      let (failed, data) ← readBlock blockSize
      if 0 ≠ failed then
        return (errorNoResponse, store buffer offset data)
      readLoop status blockCnt (offset + blockSize.toNat) (store buffer offset data)

def read (b : Nat → UInt8) (addr size : UInt64) : DriverM (Int32 × (Nat → UInt8)) := do
  let card ← get
  if ¬ card.isValidRead addr size then
    return (errorParameter, b)
  if ¬ card.isInitialized then
    return (errorParameter, b)
  let blockCnt := size / blockSize.toUInt64
  let code := if blockCnt > 1 then CmdSupported.cmd18ReadMultipleBlock else CmdSupported.cmd17ReadSingleBlock
  let (status, _) ← cmd code (card.unit addr).toUInt32 false
  if ok ≠ status then
    return (status, b)
  let (status, buffer) ← readLoop status blockCnt.toNat 0 b
  unselect
  if size > blockSize.toUInt64 then
    let (status, _) ← cmd .cmd12StopTransmission 0x0 false
    return (status, buffer)
  return (status, buffer)

def trim (addr size : UInt64) : DriverM Int32 := do
  let card ← get
  if ¬ card.isValidTrim addr size then
    return errorParameter
  if ¬ card.isInitialized then
    return errorNoInit
  let size := card.unit (size - blockSize.toUInt64)
  let addr := card.unit addr
  let (status, _) ← cmd .cmd32EraseWrBlkStartAddr addr.toUInt32 false
  if ok ≠ status then
    return status
  let (status, _) ← cmd .cmd33EraseWrBlkEndAddr (addr + size).toUInt32 false
  if ok ≠ status then
    return status
  let (status, _) ← cmd .cmd38Erase 0x0 false
  return status

theorem transfer_fillers_length (count : Nat) : Lib.Ends (transferFillers count) fun _ bytes _ => bytes.length = count := by
  induction count with
  | zero => exact Lib.ends_pure _ _ fun _ => rfl
  | succ count ih =>
      intro before bytes after ran
      obtain ⟨byte, _, -, ran⟩ := (Lib.bind_run_some _ _ _ _ _).mp ran
      obtain ⟨rest, _, fillers, ran⟩ := (Lib.bind_run_some _ _ _ _ _).mp ran
      obtain ⟨rfl, rfl⟩ := (Lib.pure_run_some _ _ _ _).mp ran
      rw [List.length_cons, Lib.ends_run ih fillers]

theorem write_block_adds (buffer : Nat → UInt8) (offset : Nat) (token : UInt8) (length : UInt32) :
    Lib.Ends (writeBlock buffer offset token length) fun before response after =>
      Adds [.sentBlock token (Lib.slice buffer offset length.toNat) response] before after := by
  intro before response after ran
  obtain ⟨_, _, started, ran⟩ := (Lib.bind_run_some _ _ _ _ _).mp ran
  obtain ⟨_, _, sent, ran⟩ := (Lib.bind_run_some _ _ _ _ _).mp ran
  obtain ⟨_, _, high, ran⟩ := (Lib.bind_run_some _ _ _ _ _).mp ran
  obtain ⟨_, _, low, ran⟩ := (Lib.bind_run_some _ _ _ _ _).mp ran
  obtain ⟨_, _, answered, ran⟩ := (Lib.bind_run_some _ _ _ _ _).mp ran
  obtain ⟨_, _, waited, ran⟩ := (Lib.bind_run_some _ _ _ _ _).mp ran
  obtain ⟨_, _, recorded, ran⟩ := (Lib.bind_run_some _ _ _ _ _).mp ran
  obtain ⟨rfl, rfl⟩ := (Lib.pure_run_some _ _ _ _).mp ran
  have data := only_bus_trans _ _ _ (Lib.keeps_run (transfer_only_bus _) started) (Lib.keeps_run (transfer_all_only_bus _) sent)
  have crc := only_bus_trans _ _ _ (Lib.keeps_run (transfer_only_bus _) high) (Lib.keeps_run (transfer_only_bus _) low)
  have answer := only_bus_trans _ _ _ (Lib.keeps_run (transfer_only_bus _) answered) (Lib.keeps_run (wait_ready_only_bus _) waited)
  have moved := only_bus_trans _ _ _ data (only_bus_trans _ _ _ crc answer)
  exact adds_trans [] _ _ _ _ (adds_nothing _ _ moved) (Lib.keeps_run (record_adds _) recorded)

-- What follows the token of a block: its data and two check bytes, with
-- nothing but the bus moved.
theorem frame_taken {α : Type} (length : UInt32) (rest : List UInt8 → UInt8 → UInt8 → SDCard → DriverM α) (waited after : SDCard) (value : α)
    (ran : (do
      let data ← transferFillers length.toNat
      let high ← transfer filler
      let low ← transfer filler
      let card ← get
      rest data high low card : DriverM α).run waited = some (value, after)) :
    ∃ data high low card, OnlyBus waited card ∧ data.length = length.toNat ∧ (rest data high low card).run card = some (value, after) := by
  obtain ⟨data, filled, fillers, ran⟩ := (Lib.bind_run_some _ _ _ _ _).mp ran
  obtain ⟨high, _, highs, ran⟩ := (Lib.bind_run_some _ _ _ _ _).mp ran
  obtain ⟨low, _, lows, ran⟩ := (Lib.bind_run_some _ _ _ _ _).mp ran
  obtain ⟨card, _, got, ran⟩ := (Lib.bind_run_some _ _ _ _ _).mp ran
  obtain ⟨rfl, rfl⟩ := Prod.mk.inj (Option.some.inj got)
  have crc := only_bus_trans _ _ _ (Lib.keeps_run (transfer_only_bus _) highs) (Lib.keeps_run (transfer_only_bus _) lows)
  exact ⟨data, high, low, _, only_bus_trans _ _ _ (Lib.keeps_run (transfer_fillers_only_bus _) fillers) crc,
    Lib.ends_run (transfer_fillers_length _) fillers, ran⟩

theorem block_count_value (size : UInt64) : (size / blockSize.toUInt64).toNat = size.toNat / 512 := by
  rw [UInt64.toNat_div]
  rfl

def receivedBlocks (events : List Event) : List (List UInt8) :=
  events.reverse.filterMap fun event => match event with
    | .receivedBlock data => some data
    | _ => none

end SDCardFs.Driver
