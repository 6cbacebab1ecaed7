import SDCardFs.Lib.Gf2
import SDCardFs.Driver.Frames

set_option autoImplicit false

namespace SDCardFs.Driver

open Polynomial

-- The indices getCRC7 looks up, from the CRC it has so far.
def crc7Lookups : UInt8 → List UInt8 → List Nat
  | _, [] => []
  | crc, byte :: rest => ((crc.toNat <<< 1) ^^^ byte.toNat) :: crc7Lookups (appendCRC7 crc byte) rest

def crc7Entry (index : Nat) : Nat := (crc7Table.getD index 0).toNat

theorem crc7_entries : ∀ index : Fin 256, crc7Entry index = Lib.divided 0x89 7 8 (index.val <<< 7) := by decide +kernel

theorem crc7_table_right : Lib.RightTable 0x89 7 crc7Entry where
  narrow := by decide
  low := by decide
  high := by decide
  entries index inside := crc7_entries ⟨index, inside⟩

theorem append_crc7_entry (crc byte : UInt8) : (appendCRC7 crc byte).toNat = crc7Entry (Lib.tableIndex 7 crc.toNat byte) := rfl

theorem get_crc7_check (start : UInt8) (message : List UInt8) :
    (message.foldl appendCRC7 start).toNat = Lib.tableCheck 7 crc7Entry start.toNat message := by
  induction message generalizing start with
  | nil => rfl
  | cons byte message ih => exact ih (appendCRC7 start byte)

theorem crc7_lookups_inside (crc : UInt8) (message : List UInt8) (small : crc.toNat < 2 ^ 7) :
    ∀ index ∈ crc7Lookups crc message, index < 256 := by
  induction message generalizing crc with
  | nil => exact fun index member => absurd member List.not_mem_nil
  | cons byte message ih =>
      have inside := Lib.table_index_lt crc7_table_right crc.toNat byte small
      intro index member
      rcases List.mem_cons.mp member with rfl | later
      · exact inside
      · refine ih (appendCRC7 crc byte) ?_ index later
        rw [append_crc7_entry]
        exact Lib.table_entry_lt crc7_table_right _ inside

theorem crc7_divisor : Lib.bitPoly 0x89 = X ^ 7 + X ^ 3 + 1 := by
  have bits : 0x89 = (1 <<< 7) ^^^ (1 <<< 3) ^^^ 1 := by decide
  rw [bits, Lib.bit_poly_xor, Lib.bit_poly_xor, Lib.bit_poly_shift, Lib.bit_poly_shift, Lib.bit_poly_one, one_mul, one_mul]

theorem get_crc7_remainder (message : List UInt8) :
    Lib.bitPoly (getCRC7 message).toNat = (Lib.bitPoly (Lib.bigEndian message) * X ^ 7) %ₘ (X ^ 7 + X ^ 3 + 1) := by
  rw [getCRC7, get_crc7_check, ← crc7_divisor]
  exact Lib.table_check_remainder crc7_table_right message

theorem get_crc7_small (message : List UInt8) : (getCRC7 message).toNat < 2 ^ 7 := by
  rw [getCRC7, get_crc7_check]
  exact Lib.table_check_lt crc7_table_right 0 message (by decide)

-- do { .. } while (reply != 0xff), and the same for R1: each turn takes one
-- answer, so the fuel is not what ends the loop.
def waitForReadyLoop : Nat → DriverM Unit
  | 0 => fun _ => none
  | fuel + 1 => do
      let reply ← transfer filler
      if reply ≠ 0xff then
        waitForReadyLoop fuel

def waitForReady : DriverM Unit := fun card => waitForReadyLoop (card.bus.rx.length + 1) card

def receiveR1Loop : Nat → DriverM UInt8
  | 0 => fun _ => none
  | fuel + 1 => do
      let r1 ← transfer filler
      if r1 &&& 0x80 ≠ 0 then
        receiveR1Loop fuel
      else
        return r1

def receiveR1 : DriverM UInt8 := fun card => receiveR1Loop (card.bus.rx.length + 1) card

def sendCmdPacket (cmdNumber : UInt8) (payload : UInt32) : List UInt8 :=
  let head := [0x40 + cmdNumber, (payload >>> 24).toUInt8, (payload >>> 16).toUInt8, (payload >>> 8).toUInt8, payload.toUInt8]
  head ++ [(getCRC7 head <<< 1) ||| 1]

def sendCmd (cmdNumber : UInt8) (payload : UInt32) : DriverM UInt8 := do
  waitForReady
  transferAll (sendCmdPacket cmdNumber payload)
  receiveR1

theorem arg_bytes (arg : UInt32) :
    arg.toNat = Lib.bigEndian [(arg >>> 24).toUInt8, (arg >>> 16).toUInt8, (arg >>> 8).toUInt8, (arg >>> 0).toUInt8] := by
  have small := arg.toNat_lt
  simp [Lib.bigEndian, Nat.shiftRight_eq_div_pow]
  omega

theorem command_starts : ∀ n : Fin 64, 0x40 + UInt8.ofNat n = spiCmd (UInt8.ofNat n) ∧ spiCmd (UInt8.ofNat n) >>> 6 = 1 ∧
    (spiCmd (UInt8.ofNat n)).toNat = 0x40 + n.val := by
  decide +kernel

theorem command_start (number : UInt8) (small : number < 64) :
    0x40 + number = spiCmd number ∧ spiCmd number >>> 6 = 1 ∧ (spiCmd number).toNat = 0x40 + number.toNat := by
  have inside : number.toNat < 64 := UInt8.lt_iff_toNat_lt.mp small
  have known := command_starts ⟨number.toNat, inside⟩
  simp only [UInt8.ofNat_toNat] at known
  exact known

theorem check_bytes : ∀ crc : Fin 128, ((UInt8.ofNat crc <<< 1) ||| 1) &&& 1 = 1 ∧ ((UInt8.ofNat crc <<< 1) ||| 1) >>> 1 = UInt8.ofNat crc := by
  decide +kernel

theorem check_byte (crc : UInt8) (small : crc.toNat < 2 ^ 7) : ((crc <<< 1) ||| 1) &&& 1 = 1 ∧ ((crc <<< 1) ||| 1) >>> 1 = crc := by
  have known := check_bytes ⟨crc.toNat, small⟩
  simp only [UInt8.ofNat_toNat] at known
  exact known

-- A command frame: start bits 01, five bytes with their CRC7, end bit 1.
structure CommandFrame (frame : List UInt8) : Prop where
  length : frame.length = 6
  start : frame.headD 0 >>> 6 = 1
  check : Lib.bitPoly (frame.getLastD 0 >>> 1).toNat = (Lib.bitPoly (Lib.bigEndian (frame.take 5)) * X ^ 7) %ₘ (X ^ 7 + X ^ 3 + 1)
  ending : frame.getLastD 0 &&& 1 = 1

theorem cmd_packet_frame (number : UInt8) (arg : UInt32) (small : number < 64) : CommandFrame (cmdPacket true number arg) := by
  let head := [spiCmd number, (arg >>> 24).toUInt8, (arg >>> 16).toUInt8, (arg >>> 8).toUInt8, (arg >>> 0).toUInt8]
  have last : (cmdPacket true number arg).getLastD 0 = (getCRC7 head <<< 1) ||| 1 := rfl
  obtain ⟨ending, crc⟩ := check_byte (getCRC7 head) (get_crc7_small head)
  refine ⟨rfl, (command_start number small).2.1, ?_, by rw [last, ending]⟩
  rw [last, crc]
  exact get_crc7_remainder head

theorem packets_same (number : UInt8) (arg : UInt32) (small : number < 64) : sendCmdPacket number arg = cmdPacket true number arg := by
  have low : arg >>> 0 = arg := by
    rw [← UInt32.toNat_inj, UInt32.toNat_shiftRight]
    rfl
  rw [sendCmdPacket, cmdPacket, (command_start number small).1, low]
  rfl

theorem packet_unique (number other : UInt8) (arg otherArg : UInt32) (small : number < 64) (otherSmall : other < 64)
    (same : cmdPacket true other otherArg = cmdPacket true number arg) : other = number ∧ otherArg = arg := by
  have heads := congrArg (List.take 5) same
  obtain ⟨first, rest⟩ := List.cons.inj heads
  constructor
  · have numbers := congrArg UInt8.toNat first
    rw [(command_start number small).2.2, (command_start other otherSmall).2.2] at numbers
    exact UInt8.toNat_inj.mp (Nat.add_left_cancel numbers)
  · rw [← UInt32.toNat_inj, arg_bytes, arg_bytes arg]
    exact congrArg Lib.bigEndian rest

def PutsFillers (before after : SDCard) : Prop := ∃ count, Puts (List.replicate count filler) before after

theorem puts_fillers_trans (a b c : SDCard) (left : PutsFillers a b) (right : PutsFillers b c) : PutsFillers a c := by
  obtain ⟨first, left⟩ := left
  obtain ⟨second, right⟩ := right
  refine ⟨first + second, ?_⟩
  rw [← List.replicate_append_replicate]
  exact puts_trans _ _ a b c left right

theorem filler_puts : Lib.Keeps PutsFillers (transfer filler) :=
  Lib.ends_mono (transfer_puts filler) fun _ _ _ puts => ⟨1, puts⟩

theorem wait_for_ready_puts : Lib.Keeps PutsFillers waitForReady := by
  have loop (fuel : Nat) : Lib.Keeps PutsFillers (waitForReadyLoop fuel) := by
    induction fuel with
    | zero => intro before value after ran; cases ran
    | succ fuel ih =>
        refine Lib.keeps_bind puts_fillers_trans filler_puts fun reply => ?_
        exact Lib.keeps_ite ih (Lib.keeps_pure () fun _ => ⟨0, rfl⟩)
  exact fun before value after ran => loop _ before value after ran

theorem receive_r1_puts : Lib.Keeps PutsFillers receiveR1 := by
  have loop (fuel : Nat) : Lib.Keeps PutsFillers (receiveR1Loop fuel) := by
    induction fuel with
    | zero => intro before value after ran; cases ran
    | succ fuel ih =>
        refine Lib.keeps_bind puts_fillers_trans filler_puts fun r1 => ?_
        exact Lib.keeps_ite ih (Lib.keeps_pure r1 fun _ => ⟨0, rfl⟩)
  exact fun before value after ran => loop _ before value after ran

theorem send_cmd_puts (cmdNumber : UInt8) (payload : UInt32) : Lib.Ends (sendCmd cmdNumber payload) fun before _ after =>
    ∃ waits polls, sentSince before after = List.replicate waits filler ++ sendCmdPacket cmdNumber payload ++ List.replicate polls filler := by
  intro before value after ran
  obtain ⟨_, ready, waits, ran⟩ := (Lib.bind_run_some _ _ _ _ _).mp ran
  obtain ⟨_, sent, sends, ran⟩ := (Lib.bind_run_some _ _ _ _ _).mp ran
  obtain ⟨first, waited⟩ := Lib.keeps_run wait_for_ready_puts waits
  obtain ⟨last, polled⟩ := Lib.keeps_run receive_r1_puts ran
  have packet := puts_trans _ _ _ _ _ waited (Lib.keeps_run (transfer_all_puts _) sends)
  exact ⟨first, last, sent_since_puts _ _ _ (puts_trans _ _ _ _ _ packet polled)⟩

theorem cmd_spi_puts (code : CmdSupported) (arg : UInt32) : Lib.Ends (cmdSpi code arg) fun before _ after =>
    (sentSince before after).take 6 = cmdPacket before.crcOn code.number arg := by
  intro before value after ran
  obtain ⟨crcOn, same, got, ran⟩ := (Lib.bind_run_some _ _ _ _ _).mp ran
  obtain ⟨rfl, rfl⟩ := Prod.mk.inj (Option.some.inj got)
  obtain ⟨_, sent, sends, ran⟩ := (Lib.bind_run_some _ _ _ _ _).mp ran
  have rest : Lib.Keeps (fun before after => ∃ bytes, Puts bytes before after) (do
      if code = .cmd12StopTransmission then
        let _ ← transfer filler
      cmdSpiLoop 0x10 0xFF) := by
    dsimp only
    exact Lib.keeps_ite (puts_on_bus.bind (puts_on_bus.transfer _) fun _ => puts_on_bus.cmd_spi_loop _ _) (puts_on_bus.cmd_spi_loop _ _)
  obtain ⟨more, later⟩ := Lib.keeps_run rest ran
  have all := puts_trans _ more _ _ _ (Lib.keeps_run (transfer_all_puts _) sends) later
  rw [sent_since_puts _ _ _ all]
  exact List.take_left' rfl

-- The check of every message is its remainder, the table is never left, and
-- the frames of both encoders are the same for every command and argument.
theorem crc7_command_frames :
    (∀ message, Lib.bitPoly (getCRC7 message).toNat = (Lib.bitPoly (Lib.bigEndian message) * X ^ 7) %ₘ (X ^ 7 + X ^ 3 + 1)) ∧
    (∀ message, ∀ index ∈ crc7Lookups 0 message, index < 256) ∧
    (∀ code arg before value after, before.crcOn = true → (cmdSpi code arg).run before = some (value, after) →
      (sentSince before after).take 6 = cmdPacket true code.number arg) ∧
    (∀ number arg before value after, (sendCmd number arg).run before = some (value, after) →
      ∃ waits polls, sentSince before after = List.replicate waits filler ++ sendCmdPacket number arg ++ List.replicate polls filler) ∧
    (∀ number arg, number < 64 → sendCmdPacket number arg = cmdPacket true number arg ∧ CommandFrame (cmdPacket true number arg) ∧
      ∀ other otherArg, other < 64 → cmdPacket true other otherArg = cmdPacket true number arg → other = number ∧ otherArg = arg) := by
  refine ⟨get_crc7_remainder, fun message => crc7_lookups_inside 0 message (by decide), fun code arg before value after on ran => ?_,
    fun number arg before value after ran => send_cmd_puts number arg before value after ran,
    fun number arg small => ⟨packets_same number arg small, cmd_packet_frame number arg small, fun other otherArg otherSmall same =>
      packet_unique number other arg otherArg small otherSmall same⟩⟩
  have sent := Lib.ends_run (cmd_spi_puts code arg) ran
  rwa [on] at sent

example : cmdPacket true CmdSupported.cmd8SendIfCond.number 0x1AA = cmdPacket false CmdSupported.cmd8SendIfCond.number 0x1AA := by decide

def pollingCard : SDCard := { SDCard.fresh 0 with crcOn := true }.hears (silent 7 ++ [0x01])

theorem polling_card_frames :
    (∃ value after, (cmdSpi .cmd0GoIdleState 0x0).run pollingCard = some (value, after) ∧
      (sentSince pollingCard after).take 6 = cmdPacket true CmdSupported.cmd0GoIdleState.number 0x0) ∧
    (∃ value after, (sendCmd CmdSupported.cmd0GoIdleState.number 0x0).run pollingCard = some (value, after) ∧
      ∃ waits polls, sentSince pollingCard after =
        List.replicate waits filler ++ cmdPacket true CmdSupported.cmd0GoIdleState.number 0x0 ++ List.replicate polls filler) ∧
    CommandFrame (cmdPacket true CmdSupported.cmd0GoIdleState.number 0x0) := by
  obtain ⟨-, -, spi, deprecated, frames⟩ := crc7_command_frames
  obtain ⟨same, frame, -⟩ := frames CmdSupported.cmd0GoIdleState.number 0x0 (by decide)
  refine ⟨?_, ?_, frame⟩
  · have returns : ((cmdSpi .cmd0GoIdleState 0x0).run pollingCard).isSome = true := by decide +kernel
    obtain ⟨⟨value, after⟩, ran⟩ := Option.isSome_iff_exists.mp returns
    exact ⟨value, after, ran, spi .cmd0GoIdleState 0x0 pollingCard value after rfl ran⟩
  · have returns : ((sendCmd CmdSupported.cmd0GoIdleState.number 0x0).run pollingCard).isSome = true := by decide +kernel
    obtain ⟨⟨value, after⟩, ran⟩ := Option.isSome_iff_exists.mp returns
    rw [← same]
    exact ⟨value, after, ran, deprecated CmdSupported.cmd0GoIdleState.number 0x0 pollingCard value after ran⟩

end SDCardFs.Driver
