import SDCardFs.Lib.BigEndian
import SDCardFs.Driver.Telling

set_option autoImplicit false

namespace SDCardFs.Driver

def Event.answers (code : CmdSupported) : Event → Option (Int32 × UInt32)
  | .command other _ _ status response => if other = code then some (status, response) else none
  | _ => none

-- Calls that send none of the given commands and leave the card type alone.
def Quiet (codes : List CmdSupported) (before after : SDCard) : Prop :=
  ∃ events, after.trace = events ++ before.trace ∧ (∀ event ∈ events, ∀ code ∈ codes, event.answers code = none) ∧
    after.cardType = before.cardType

section
variable {codes : List CmdSupported}

end

theorem byte_of_word {own : BusFrame} {byte : UInt8} (same : byte.toUInt32 = (r1Byte own).toUInt32) : r1Byte own = byte := by
  have values := congrArg UInt32.toNat same
  exact (UInt8.toNat.inj (by simpa using values)).symm

theorem tells_read_bytes (length : UInt32) : Lib.Keeps Tells (readBytes length) := by
  have leave (answer : Int32 × List UInt8) (event : Event) (block : event.isBlock = true) :
      Lib.Keeps Tells (do unselect; record event; return answer) :=
    tells_on_calls.bind tells_on_calls.unselect fun _ => tells_on_calls.bind (tells_on_calls.record event block) fun _ => tells_on_calls.pure answer
  refine tells_on_calls.bind (tells_on_calls.wait_token_loop _ _) fun found => Lib.keeps_ite (leave _ _ rfl) ?_
  refine tells_on_calls.bind (tells_on_calls.transfer_fillers _) fun data => tells_on_calls.bind tells_on_calls.fill fun high => ?_
  refine tells_on_calls.bind tells_on_calls.fill fun low => tells_on_calls.bind tells_on_calls.get fun card => ?_
  exact Lib.keeps_ite (leave _ _ rfl) (leave _ _ rfl)

theorem tells_sd_sectors : Lib.Keeps Tells sdSectors := by
  refine tells_on_calls.bind (cmd_tells _ _ _) fun answer => Lib.keeps_ite (tells_on_calls.pure _) ?_
  refine tells_on_calls.bind (tells_read_bytes 16) fun bytes => Lib.keeps_ite (tells_on_calls.pure _) ?_
  split
  · exact tells_on_calls.pure _
  · exact tells_on_calls.bind (modify_tells _ (fun _ => rfl) fun _ => rfl) fun _ => tells_on_calls.pure _

theorem tells_finish_init (err : Int32) : Lib.Keeps Tells (finishInit err) := by
  refine tells_on_calls.bind (record_tells _ rfl) fun _ => tells_on_calls.bind (modify_tells _ (fun _ => rfl) fun _ => rfl) fun _ => ?_
  refine Lib.keeps_ite (tells_on_calls.pure _) (tells_on_calls.bind tells_sd_sectors fun sectors => ?_)
  refine tells_on_calls.bind (modify_tells _ (fun _ => rfl) fun _ => rfl) fun _ => Lib.keeps_ite (tells_on_calls.pure _) ?_
  refine tells_on_calls.bind (cmd_tells _ _ _) fun answer => Lib.keeps_ite (tells_on_calls.pure _) ?_
  have lowered : Lib.Keeps Tells freq := by
    refine tells_on_calls.bind (tells_on_calls.member _) fun transferSck => Lib.keeps_ite (tells_on_calls.pure _) ?_
    exact tells_on_calls.bind (modify_tells _ (fun _ => rfl) fun _ => rfl) fun _ => tells_on_calls.pure _
  exact tells_on_calls.bind lowered fun err => Lib.keeps_ite (tells_on_calls.pure _) (tells_on_calls.pure _)

theorem tells_init : Lib.Keeps Tells init := by
  refine tells_on_calls.bind (tells_on_calls.member _) fun ready => Lib.keeps_ite (tells_on_calls.pure _) ?_
  exact tells_on_calls.bind tells_on_calls.initialise_card fun err => tells_finish_init err

def commandAnswer (r1 : UInt8) (tail : List UInt8) : List UInt8 := silent 9 ++ [r1] ++ tail ++ silent 1

def handshakeAnswers (capacity : List UInt8) : List UInt8 :=
  silent 20 ++ commandAnswer 0x01 [] ++ commandAnswer 0x01 [0x00, 0x00, 0x01, 0xAA] ++ commandAnswer 0x01 [0x00, 0x10, 0x00, 0x00] ++
    (silent 9 ++ [0x01] ++ silent 7 ++ [0x00] ++ silent 1) ++ capacity ++ commandAnswer 0x00 [] ++ commandAnswer 0x00 []

def csdAnswer : List UInt8 :=
  silent 9 ++ [0x00, 0xFE] ++
    [0x40, 0x0E, 0x00, 0x32, 0x5B, 0x59, 0x00, 0x00, 0x3B, 0x37, 0x7F, 0x80, 0x0A, 0x40, 0x00, 0x01] ++ silent 3

def highCapacityCard : SDCard :=
  (SDCard.fresh 0).hears (handshakeAnswers (commandAnswer 0x00 [0xC0, 0x10, 0x00, 0x00]) ++ csdAnswer ++ commandAnswer 0x00 [])

end SDCardFs.Driver
