import SDCardFs.Driver.Blocks

set_option autoImplicit false

namespace SDCardFs.Driver

def extBits (data : List UInt8) (msb lsb : Nat) : UInt32 :=
  (List.range (1 + msb - lsb)).foldl (fun bits i =>
    let position := lsb + i
    let byte := 15 - (position >>> 3)
    let bit := position &&& 0x7
    let value := ((data.getD byte 0).toUInt32 >>> UInt32.ofNat bit) &&& 1
    bits ||| (value <<< UInt32.ofNat i)) 0

-- The switch on the CSD structure: the sector count and the erase size, none
-- for a structure that is neither 0 nor 1.
def csdSectors (csd : List UInt8) : Option (UInt64 × UInt32) :=
  let csdStructure := extBits csd 127 126
  if csdStructure = 0 then
    let cSize := extBits csd 73 62
    let cSizeMult := extBits csd 49 47
    let readBlLen := extBits csd 83 80
    let blockLen := (1 : UInt32) <<< readBlLen
    let mult := (1 : UInt32) <<< (cSizeMult + 2)
    let blocknr := (cSize + 1) * mult
    let capacity := blocknr.toUInt64 * blockLen.toUInt64
    let eraseSize := if extBits csd 46 46 ≠ 0 then blockSize else blockSize * (extBits csd 45 39 + 1)
    some (capacity / blockSize.toUInt64, eraseSize)
  else if csdStructure = 1 then
    let hcCSize := extBits csd 69 48
    some (((hcCSize + 1) <<< 10).toUInt64, blockSize)
  else none

def readBytes (length : UInt32) : DriverM (Int32 × List UInt8) := do
  if (← waitToken spiStartBlock) = false then
    unselect
    record .failedBlock
    return (errorNoResponse, [])
  let data ← transferFillers length.toNat
  let high ← transfer filler
  let low ← transfer filler
  let card ← get
  if card.crcOn ∧ card.uninitialised ≠ ((high.toUInt16 <<< 8) ||| low.toUInt16).toUInt32 then
    unselect
    record .failedBlock
    return (errorCrc, data)
  unselect
  record (.receivedBlock data)
  return (0, data)

def setEraseSize (eraseSize : UInt32) : DriverM Unit := modify fun card => { card with eraseSize := eraseSize }

def sdSectors : DriverM UInt64 := do
  let (status, _) ← cmd .cmd9SendCsd 0x0 false
  if status ≠ 0x0 then
    return 0
  let (failed, csd) ← readBytes 16
  if failed ≠ 0 then
    return 0
  match csdSectors csd with
  | none => return 0
  | some (blocks, eraseSize) =>
      setEraseSize eraseSize
      return blocks

-- do { .. } while (response & R1_IDLE_STATE): the loop has no bound of its
-- own, and every turn takes an answer.
def acmd41Loop (arg : UInt32) : Nat → DriverM (Int32 × UInt32)
  | 0 => fun _ => none
  | fuel + 1 => do
      let (status, response) ← cmd .acmd41SdSendOpCond arg true
      if response &&& r1IdleState ≠ 0 then
        acmd41Loop arg fuel
      else
        return (status, response)

def acmd41 (arg : UInt32) : DriverM (Int32 × UInt32) := fun card => acmd41Loop arg (card.bus.rx.length + 1) card

-- After ACMD41: the capacity bit of a V2 card, V1 for any other.
def setCapacity : DriverM Unit := do
  let cardType ← member SDCard.cardType
  if cardType = .v2 then
    let (status, response) ← cmd .cmd58ReadOcr 0x0 false
    if ok = status ∧ response &&& ocrHcsCcs ≠ 0 then
      setCardType .v2hc
  else
    setCardType .v1

def crcOff : DriverM Int32 := do
  let crcOn ← member SDCard.crcOn
  if crcOn = false then
    let _ ← cmd .cmd59CrcOnOff 0x0 false
  let (status, _) ← cmd .cmd59CrcOnOff 0x0 false
  return status

def negotiate : DriverM Int32 := do
  let cardType ← member SDCard.cardType
  let (status, response) ← acmd41 (if cardType = .v2 then ocrHcsCcs else 0x0)
  if ok ≠ status ∨ 0x00 ≠ response then
    setCardType .unknown
    return status
  setCapacity
  crcOff

def checkVoltage : DriverM Int32 := do
  let (status, response) ← cmd .cmd58ReadOcr 0x0 false
  if ok ≠ status then
    return status
  if response &&& ocr33V = 0 then
    setCardType .unknown
    return errorUnusable
  negotiate

def initialiseCard : DriverM Int32 := do
  spiInit
  let idle ← goIdleState
  if idle ≠ r1IdleState then
    return errorNoDevice
  let status ← cmd8
  if ok ≠ status ∧ errorUnsupported ≠ status then
    return status
  let crcOn ← member SDCard.crcOn
  if crcOn then
    let _ ← cmd .cmd59CrcOnOff 0x1 false
  checkVoltage

def freq : DriverM Int32 := do
  let transferSck ← member SDCard.transferSck
  if transferSck ≤ 25000000 then
    return 0
  else
    modify fun card => { card with transferSck := 25000000 }
    return 1

def setInitialized (isInitialized : Bool) : DriverM Unit := modify fun card => { card with isInitialized := isInitialized }

def setSectors (sectors : UInt64) : DriverM Unit := modify fun card => { card with sectors := sectors }

def finishInit (err : Int32) : DriverM Int32 := do
  record (.handshake err)
  setInitialized (err = ok)
  if err ≠ ok then
    return err
  let sectors ← sdSectors
  setSectors sectors
  if 0 = sectors then
    return errorUnsupported
  let (status, _) ← cmd .cmd16SetBlocklen blockSize false
  if status ≠ 0 then
    return errorUnsupported
  let err ← freq
  if err ≠ 0 then
    return err
  return ok

def init : DriverM Int32 := do
  let isInitialized ← member SDCard.isInitialized
  if isInitialized then
    return ok
  let err ← initialiseCard
  finishInit err

def deinit : DriverM Int32 := do
  let isInitialized ← member SDCard.isInitialized
  if isInitialized = false then
    return ok
  setInitialized false
  setSectors 0
  return ok

end SDCardFs.Driver
