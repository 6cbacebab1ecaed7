import SDCardFs.Lib.Framing
import SDCardFs.Driver.Answers
import SDCardFs.Driver.Calls

set_option autoImplicit false

namespace SDCardFs.Driver

abbrev BusFrame := Lib.LineFrame UInt8 UInt8

abbrev BusLine := Lib.Line UInt8 UInt8

-- A byte that starts with the bits 01 opens a command frame of six bytes, and
-- a start token a block of 512 bytes with two check bytes; any other is a filler.
def frameLeft (byte : UInt8) : Option Nat :=
  if byte = spiStartBlock ∨ byte = spiStartBlkMulWrite then some 514
  else if byte &&& 0xC0 = 0x40 then some 5
  else none

theorem filler_opens_nothing : frameLeft filler = none := by decide

def busLine (exchanges : List Transfer) : BusLine := Lib.line Transfer.sent Transfer.received frameLeft exchanges

abbrev WholeLine (exchanges : List Transfer) (line : BusLine) : Prop :=
  Lib.Whole Transfer.sent Transfer.received frameLeft exchanges line

-- The exchanges between two states of a card, the oldest first.
def exchangesSince (before after : SDCard) : List Transfer :=
  (after.bus.transfers.take (after.bus.transfers.length - before.bus.transfers.length)).reverse

def framesSince (before after : SDCard) : List BusFrame := (busLine (exchangesSince before after)).frames

structure Exchanged (before : SDCard) (exchanges : List Transfer) (after : SDCard) : Prop where
  transfers : after.bus.transfers = exchanges.reverse ++ before.bus.transfers
  answers : before.bus.rx = exchanges.map Transfer.received ++ after.bus.rx

theorem exchanged_same (before after : SDCard) (same : after.bus = before.bus) : Exchanged before [] after :=
  ⟨by rw [same]; rfl, by rw [same]; rfl⟩

theorem exchanged_trans {first second : List Transfer} {a b c : SDCard} (left : Exchanged a first b) (right : Exchanged b second c) :
    Exchanged a (first ++ second) c where
  transfers := by rw [right.transfers, left.transfers, List.reverse_append, List.append_assoc]
  answers := by rw [left.answers, right.answers, List.map_append, List.append_assoc]

theorem exchanged_since {exchanges : List Transfer} {before after : SDCard} (exchanged : Exchanged before exchanges after) :
    exchangesSince before after = exchanges := by
  rw [exchangesSince, exchanged.transfers, List.length_append, Nat.add_sub_cancel, List.take_left' rfl, List.reverse_reverse]

-- The line of the exchanges between two states, with no frame half said.
def Spoke (before : SDCard) (line : BusLine) (after : SDCard) : Prop :=
  ∃ exchanges, Exchanged before exchanges after ∧ WholeLine exchanges line

-- Fillers alone: what the card answered to them.
def Heard (before : SDCard) (answers : List UInt8) (after : SDCard) : Prop := Spoke before ⟨answers, []⟩ after

theorem spoke_same (before after : SDCard) (same : after.bus = before.bus) : Heard before [] after :=
  ⟨[], exchanged_same before after same, Lib.whole_nothing⟩

theorem spoke_trans {first second : BusLine} {a b c : SDCard} (left : Spoke a first b) (right : Spoke b second c) :
    Spoke a (first.append second) c := by
  obtain ⟨xs, exchanged, whole⟩ := left
  obtain ⟨ys, further, rest⟩ := right
  exact ⟨xs ++ ys, exchanged_trans exchanged further, Lib.whole_append whole rest⟩

theorem heard_trans {first second : List UInt8} {a b c : SDCard} (left : Heard a first b) (right : Heard b second c) :
    Heard a (first ++ second) c :=
  spoke_trans left right

theorem spoke_frames {line : BusLine} {before after : SDCard} (spoke : Spoke before line after) : framesSince before after = line.frames := by
  obtain ⟨exchanges, exchanged, whole⟩ := spoke
  rw [framesSince, exchanged_since exchanged, busLine, Lib.whole_line whole]

-- What a frame hears is among the answers the card had to give.
theorem spoke_answers {line : BusLine} {before after : SDCard} (spoke : Spoke before line after) (frame : BusFrame)
    (member : frame ∈ framesSince before after) (byte : UInt8) (inside : byte ∈ frame.heard) : byte ∈ before.bus.rx := by
  obtain ⟨exchanges, exchanged, -⟩ := spoke
  rw [framesSince, exchanged_since exchanged] at member
  rw [exchanged.answers]
  exact List.mem_append_left _ (Lib.line_answers exchanges frame member byte inside)

theorem heard_answers {answers : List UInt8} {before after : SDCard} (heard : Heard before answers after) :
    before.bus.rx = answers ++ after.bus.rx := by
  obtain ⟨exchanges, exchanged, whole⟩ := heard
  rw [exchanged.answers, Lib.whole_lead whole]

theorem transfer_exchanged (data : UInt8) : Lib.Ends (transfer data) fun before byte after =>
    Exchanged before [⟨data, byte, before.bus.csHigh⟩] after := by
  intro before byte after ran
  obtain ⟨rest, answers, rfl⟩ := transfer_effect data before byte after ran
  exact ⟨rfl, answers⟩

theorem filler_heard : Lib.Ends (transfer filler) fun before byte after => Heard before [byte] after := by
  refine Lib.ends_mono (transfer_exchanged filler) fun before byte after exchanged => ⟨_, exchanged, ?_⟩
  refine Lib.whole_idle _ fun item inside => ?_
  rw [List.mem_singleton.mp inside]
  exact filler_opens_nothing

theorem set_cs_heard (high : Bool) : Lib.Ends (setCs high) fun before _ after => Heard before [] after := by
  intro before value after ran
  obtain ⟨-, rfl⟩ := Prod.mk.inj (Option.some.inj ran)
  exact ⟨[], ⟨rfl, rfl⟩, Lib.whole_nothing⟩

theorem heard_on_fillers : OnFillers fun before after => ∃ answers, Heard before answers after where
  reflexive card := ⟨[], spoke_same card card rfl⟩
  transitive a b c left right := by
    obtain ⟨first, left⟩ := left
    obtain ⟨second, right⟩ := right
    exact ⟨first ++ second, heard_trans left right⟩
  fill := Lib.ends_mono filler_heard fun _ byte _ heard => ⟨[byte], heard⟩
  setCs high := Lib.ends_mono (set_cs_heard high) fun _ _ _ heard => ⟨[], heard⟩

theorem still_heard (before after : SDCard) (same : after.bus = before.bus) : ∃ answers, Heard before answers after :=
  ⟨[], spoke_same before after same⟩

theorem select_heard : Lib.Ends select fun before _ after => ∃ first second, Heard before [first, second] after := by
  intro before value after ran
  obtain ⟨first, _, one, ran⟩ := (Lib.bind_run_some _ _ _ _ _).mp ran
  obtain ⟨second, _, two, ran⟩ := (Lib.bind_run_some _ _ _ _ _).mp ran
  exact ⟨first, second, heard_trans (heard_trans (Lib.ends_run filler_heard one) (Lib.ends_run filler_heard two)) (Lib.ends_run (set_cs_heard _) ran)⟩

theorem unselect_heard : Lib.Ends unselect fun before _ after => ∃ released, Heard before [released] after := by
  intro before value after ran
  obtain ⟨released, _, one, ran⟩ := (Lib.bind_run_some _ _ _ _ _).mp ran
  exact ⟨released, heard_trans (Lib.ends_run filler_heard one) (Lib.ends_run (set_cs_heard _) ran)⟩

theorem polling_window_split (tries : Nat) (rx window rest : List UInt8) (polled : pollingWindow tries rx = some (window, rest)) :
    rx = window ++ rest := by
  induction tries generalizing rx window with
  | zero =>
      obtain ⟨rfl, rfl⟩ := Prod.mk.inj (Option.some.inj polled)
      rfl
  | succ tries ih =>
      cases rx with
      | nil => cases polled
      | cons byte rx =>
          rw [pollingWindow] at polled
          split at polled
          · obtain ⟨rfl, rfl⟩ := Prod.mk.inj (Option.some.inj polled)
            rfl
          · obtain ⟨⟨later, left⟩, found, same⟩ := Option.map_eq_some_iff.mp polled
            obtain ⟨rfl, rfl⟩ := Prod.mk.inj same
            rw [ih rx later found, List.cons_append]

-- A window is over with its last byte, whatever comes after it.
theorem polling_window_more (tries : Nat) (rx window rest : List UInt8) (polled : pollingWindow tries rx = some (window, rest)) (more : List UInt8) :
    pollingWindow tries (window ++ more) = some (window, more) := by
  induction tries generalizing rx window with
  | zero =>
      obtain ⟨rfl, rfl⟩ := Prod.mk.inj (Option.some.inj polled)
      rfl
  | succ tries ih =>
      cases rx with
      | nil => cases polled
      | cons byte rx =>
          rw [pollingWindow] at polled
          by_cases answered : byte &&& r1ResponseRecv = 0
          · rw [if_pos answered] at polled
            obtain ⟨rfl, rfl⟩ := Prod.mk.inj (Option.some.inj polled)
            rw [List.singleton_append, pollingWindow, if_pos answered]
          · rw [if_neg answered] at polled
            obtain ⟨⟨later, left⟩, found, same⟩ := Option.map_eq_some_iff.mp polled
            obtain ⟨rfl, rfl⟩ := Prod.mk.inj same
            rw [List.cons_append, pollingWindow, if_neg answered, ih rx later found]
            rfl

theorem cmd_spi_loop_heard (tries : Nat) (last : UInt8) : Lib.Ends (cmdSpiLoop tries last) fun before byte after =>
    ∃ window, Heard before window after ∧ pollingWindow tries window = some (window, []) ∧ byte = window.getLastD last := by
  intro before byte after ran
  obtain ⟨answers, heard⟩ := Lib.keeps_run (heard_on_fillers.cmd_spi_loop tries last) ran
  obtain ⟨found, -⟩ := follows_ran (follows_cmd_spi_loop tries last) ran
  obtain ⟨⟨window, rest⟩, polled, same⟩ := Option.map_eq_some_iff.mp found
  obtain ⟨rfl, rfl⟩ := Prod.mk.inj same
  have parts := (heard_answers heard).symm.trans (polling_window_split tries _ _ _ polled)
  obtain rfl := List.append_cancel_right parts
  have alone := polling_window_more tries _ _ _ polled []
  rw [List.append_nil] at alone
  exact ⟨answers, heard, alone, rfl⟩

def Said (bytes : List UInt8) (before after : SDCard) : Prop :=
  ∃ exchanges, Exchanged before exchanges after ∧ exchanges.map Transfer.sent = bytes

theorem said_trans {first second : List UInt8} {a b c : SDCard} (left : Said first a b) (right : Said second b c) : Said (first ++ second) a c := by
  obtain ⟨xs, exchanged, sent⟩ := left
  obtain ⟨ys, further, rest⟩ := right
  exact ⟨xs ++ ys, exchanged_trans exchanged further, by rw [List.map_append, sent, rest]⟩

theorem transfer_said (data : UInt8) : Lib.Keeps (Said [data]) (transfer data) :=
  Lib.ends_mono (transfer_exchanged data) fun _ _ _ exchanged => ⟨_, exchanged, rfl⟩

theorem transfer_all_said (bytes : List UInt8) : Lib.Keeps (Said bytes) (transferAll bytes) := by
  induction bytes with
  | nil => exact Lib.ends_pure _ _ fun card => ⟨[], exchanged_same card card rfl, rfl⟩
  | cons byte bytes ih =>
      intro before value after ran
      obtain ⟨answer, between, first, rest⟩ := (Lib.bind_run_some _ _ _ _ _).mp ran
      exact said_trans (Lib.keeps_run (transfer_said byte) first) (Lib.keeps_run ih rest)

theorem frame_spoke {first : UInt8} {bytes : List UInt8} {before after : SDCard} (said : Said (first :: bytes) before after)
    (opens : frameLeft first = some bytes.length) : Spoke before ⟨[], [⟨first :: bytes, []⟩]⟩ after := by
  obtain ⟨exchanges, exchanged, sent⟩ := said
  refine ⟨exchanges, exchanged, ?_⟩
  cases exchanges with
  | nil => cases sent
  | cons item items =>
      obtain ⟨rfl, rfl⟩ := List.cons.inj sent
      exact Lib.whole_frame item items (by rw [opens, List.length_map])

theorem command_opens : ∀ number : Fin 256, frameLeft (spiCmd (UInt8.ofFin number)) = some 5 := by decide +kernel

theorem packet_spoke (crcOn : Bool) (number : UInt8) (arg : UInt32) : Lib.Ends (transferAll (cmdPacket crcOn number arg)) fun before _ after =>
    Spoke before ⟨[], [⟨cmdPacket crcOn number arg, []⟩]⟩ after :=
  Lib.ends_mono (transfer_all_said _) fun _ _ _ said => frame_spoke said (command_opens number.toFin)

-- The frame of a command with any of its check bytes.
def Carries (code : CmdSupported) (arg : UInt32) (frame : BusFrame) : Prop := ∃ crcOn, frame.said = cmdPacket crcOn code.number arg

def opensWith (code : CmdSupported) (frame : BusFrame) : Bool := frame.said.head? = some (spiCmd code.number)

-- The answers a frame is polled for: CMD12 is followed by a stuff byte.
def polled (frame : BusFrame) : Option (List UInt8 × List UInt8) :=
  pollingWindow 16 (if opensWith .cmd12StopTransmission frame then frame.heard.drop 1 else frame.heard)

-- The R1 byte of a command frame, and what was heard after it.
def r1Byte (frame : BusFrame) : UInt8 := ((polled frame).map fun found => found.1.getLastD 0xFF).getD 0xFF

def afterR1 (frame : BusFrame) : List UInt8 := ((polled frame).map Prod.snd).getD []

def hears (frame : BusFrame) (more : List UInt8) : BusFrame := ⟨frame.said, frame.heard ++ more⟩

theorem polled_hears {frame : BusFrame} {window rest : List UInt8} (found : polled frame = some (window, rest)) (more : List UInt8) :
    polled (hears frame more) = some (window, rest ++ more) := by
  have later (rx : List UInt8) (done : pollingWindow 16 rx = some (window, rest)) : pollingWindow 16 (rx ++ more) = some (window, rest ++ more) := by
    rw [polling_window_split 16 _ _ _ done, List.append_assoc]
    exact polling_window_more 16 _ _ _ done _
  rw [polled] at found ⊢
  cases stop : opensWith .cmd12StopTransmission frame with
  | false =>
      rw [stop, if_neg (by decide)] at found
      rw [show opensWith .cmd12StopTransmission (hears frame more) = false from stop, if_neg (by decide)]
      exact later _ found
  | true =>
      rw [stop, if_pos rfl] at found
      rw [show opensWith .cmd12StopTransmission (hears frame more) = true from stop, if_pos rfl]
      cases heard : frame.heard with
      | nil =>
          rw [heard] at found
          cases found
      | cons byte rx =>
          rw [heard] at found
          rw [hears, heard]
          exact later rx found

theorem r1_byte_hears {frame : BusFrame} (answered : (polled frame).isSome = true) (more : List UInt8) :
    r1Byte (hears frame more) = r1Byte frame := by
  obtain ⟨⟨window, rest⟩, found⟩ := Option.isSome_iff_exists.mp answered
  rw [r1Byte, r1Byte, polled_hears found more, found]
  rfl

theorem after_r1_hears {frame : BusFrame} (answered : (polled frame).isSome = true) (more : List UInt8) :
    afterR1 (hears frame more) = afterR1 frame ++ more := by
  obtain ⟨⟨window, rest⟩, found⟩ := Option.isSome_iff_exists.mp answered
  rw [afterR1, afterR1, polled_hears found more, found]
  rfl

theorem after_r1_heard {frame : BusFrame} {byte : UInt8} (after : byte ∈ afterR1 frame) : byte ∈ frame.heard := by
  cases found : polled frame with
  | none =>
      rw [afterR1, found] at after
      cases after
  | some answer =>
      rw [afterR1, found] at after
      have inside (rx : List UInt8) (done : pollingWindow 16 rx = some answer) : byte ∈ rx := by
        rw [polling_window_split 16 rx answer.1 answer.2 done]
        exact List.mem_append_right _ after
      rw [polled] at found
      split at found
      · exact List.mem_of_mem_drop (inside _ found)
      · exact inside _ found

def commands : List CmdSupported :=
  [.notSupported, .cmd0GoIdleState, .cmd1SendOpCond, .cmd6SwitchFunc, .cmd8SendIfCond, .cmd9SendCsd, .cmd10SendCid, .cmd12StopTransmission,
    .cmd13SendStatus, .cmd16SetBlocklen, .cmd17ReadSingleBlock, .cmd18ReadMultipleBlock, .acmd22SendNumWrBlocks, .acmd23SetWrBlkEraseCount,
    .cmd24WriteBlock, .cmd25WriteMultipleBlock, .cmd27ProgramCsd, .cmd32EraseWrBlkStartAddr, .cmd33EraseWrBlkEndAddr, .cmd38Erase,
    .acmd41SdSendOpCond, .acmd42SetClrCardDetect, .acmd51SendScr, .cmd55AppCmd, .cmd56GenCmd, .cmd58ReadOcr, .cmd59CrcOnOff]

-- The first byte of a frame tells which command it is.
theorem command_injective (code other : CmdSupported) (same : spiCmd code.number = spiCmd other.number) : code = other := by
  have found (code : CmdSupported) : commands.find? (fun known => spiCmd known.number = spiCmd code.number) = some code := by
    cases code with
    | _ => decide
  have searched := found code
  rw [same, found other] at searched
  exact (Option.some.inj searched).symm

theorem carries_opens (code : CmdSupported) (arg : UInt32) (frame : BusFrame) (carries : Carries code arg frame) (other : CmdSupported) :
    opensWith other frame = decide (code = other) := by
  obtain ⟨crcOn, said⟩ := carries
  have first : opensWith other frame = decide (spiCmd code.number = spiCmd other.number) := by
    rw [opensWith, said]
    exact decide_eq_decide.mpr ⟨fun same => Option.some.inj same, congrArg some⟩
  rw [first]
  exact decide_eq_decide.mpr ⟨command_injective code other, fun same => by rw [same]⟩

theorem cmd_spi_spoke (code : CmdSupported) (arg : UInt32) : Lib.Ends (cmdSpi code arg) fun before byte after => ∃ frame,
    Spoke before ⟨[], [frame]⟩ after ∧ Carries code arg frame ∧ (∃ window, polled frame = some (window, [])) ∧ byte = r1Byte frame := by
  intro before byte after ran
  obtain ⟨crcOn, _, got, ran⟩ := (Lib.bind_run_some _ _ _ _ _).mp ran
  obtain ⟨-, rfl⟩ := Prod.mk.inj (Option.some.inj got)
  obtain ⟨_, sent, sends, ran⟩ := (Lib.bind_run_some _ _ _ _ _).mp ran
  have packet := Lib.ends_run (packet_spoke crcOn code.number arg) sends
  by_cases stop : code = .cmd12StopTransmission
  · rw [if_pos stop] at ran
    obtain ⟨stuff, skipped, skips, ran⟩ := (Lib.bind_run_some _ _ _ _ _).mp ran
    obtain ⟨window, heard, found, rfl⟩ := Lib.ends_run (cmd_spi_loop_heard _ _) ran
    have carries : Carries code arg ⟨cmdPacket crcOn code.number arg, stuff :: window⟩ := ⟨crcOn, rfl⟩
    have polls : polled ⟨cmdPacket crcOn code.number arg, stuff :: window⟩ = some (window, []) := by
      rw [polled, carries_opens code arg _ carries, decide_eq_true stop, if_pos rfl]
      exact found
    refine ⟨⟨cmdPacket crcOn code.number arg, stuff :: window⟩,
      spoke_trans packet (heard_trans (Lib.ends_run filler_heard skips) heard), carries, ⟨window, polls⟩, ?_⟩
    rw [r1Byte, polls]
    rfl
  · rw [if_neg stop] at ran
    obtain ⟨window, heard, found, rfl⟩ := Lib.ends_run (cmd_spi_loop_heard _ _) ran
    have carries : Carries code arg ⟨cmdPacket crcOn code.number arg, window⟩ := ⟨crcOn, rfl⟩
    have polls : polled ⟨cmdPacket crcOn code.number arg, window⟩ = some (window, []) := by
      rw [polled, carries_opens code arg _ carries, decide_eq_false stop, if_neg (by decide)]
      exact found
    refine ⟨⟨cmdPacket crcOn code.number arg, window⟩, spoke_trans packet heard, carries, ⟨window, polls⟩, ?_⟩
    rw [r1Byte, polls]
    rfl

-- One turn of the retry loop: CMD55 where an application command is sent, and
-- the command itself.
structure Attempt where
  asked : Option BusFrame
  own : BusFrame

def Attempt.frames (attempt : Attempt) : List BusFrame := attempt.asked.toList ++ [attempt.own]

structure Attempt.Of (code : CmdSupported) (arg : UInt32) (isAcmd : Bool) (attempt : Attempt) : Prop where
  asked : if isAcmd then ∃ frame, attempt.asked = some frame ∧ Carries .cmd55AppCmd 0x0 frame else attempt.asked = none
  own : Carries code arg attempt.own
  answered : (polled attempt.own).isSome = true

-- Up to so many turns, another one only after 0xFF; the frame of the last.
inductive Tries (code : CmdSupported) (arg : UInt32) (isAcmd : Bool) : Nat → List Attempt → BusFrame → Prop where
  | last (left : Nat) (attempt : Attempt) : attempt.Of code arg isAcmd → Tries code arg isAcmd (left + 1) [attempt] attempt.own
  | again (left : Nat) (attempt : Attempt) (later : List Attempt) (own : BusFrame) : attempt.Of code arg isAcmd →
      r1Byte attempt.own = 0xFF → Tries code arg isAcmd left later own → Tries code arg isAcmd (left + 1) (attempt :: later) own

theorem tries_frames {code : CmdSupported} {arg : UInt32} {isAcmd : Bool} {left : Nat} {tries : List Attempt} {own : BusFrame}
    (tried : Tries code arg isAcmd left tries own) : tries.flatMap Attempt.frames ≠ [] := by
  cases tried with
  | last left attempt _ => simp [Attempt.frames]
  | again left attempt later own _ _ _ => simp [Attempt.frames]

-- What is heard later belongs to the last frame.
theorem tries_hear {code : CmdSupported} {arg : UInt32} {isAcmd : Bool} {left : Nat} {tries : List Attempt} {own : BusFrame}
    (tried : Tries code arg isAcmd left tries own) (more : List UInt8) :
    ∃ heard, Tries code arg isAcmd left heard (hears own more) ∧ heard.flatMap Attempt.frames = Lib.hearOn (tries.flatMap Attempt.frames) more := by
  induction tried with
  | last left attempt sent =>
      obtain ⟨⟨window, rest⟩, found⟩ := Option.isSome_iff_exists.mp sent.answered
      have still : Attempt.Of code arg isAcmd ⟨attempt.asked, hears attempt.own more⟩ :=
        ⟨sent.asked, sent.own, by rw [polled_hears found]; rfl⟩
      refine ⟨[⟨attempt.asked, hears attempt.own more⟩], .last left _ still, ?_⟩
      simp only [List.flatMap_cons, List.flatMap_nil, List.append_nil, Attempt.frames]
      rw [Lib.hear_on_append _ _ (List.cons_ne_nil _ _)]
      rfl
  | again left attempt later own sent silent tried ih =>
      obtain ⟨heard, tries, frames⟩ := ih
      refine ⟨attempt :: heard, .again left attempt heard _ sent silent tries, ?_⟩
      rw [List.flatMap_cons, List.flatMap_cons, frames, Lib.hear_on_append _ _ (tries_frames tried)]

theorem attempt_spoke (code : CmdSupported) (arg : UInt32) (isAcmd : Bool) {α : Type} (rest : UInt8 → DriverM α) (before after : SDCard) (value : α)
    (ran : (do
      if isAcmd then
        let _ ← cmdSpi .cmd55AppCmd 0x0
        let _ ← waitReady sdCommandTimeout
      let byte ← cmdSpi code arg
      rest byte : DriverM α).run before = some (value, after)) :
    ∃ (attempt : Attempt) (between : SDCard), attempt.Of code arg isAcmd ∧ Spoke before ⟨[], attempt.frames⟩ between ∧ afterR1 attempt.own = [] ∧
      (rest (r1Byte attempt.own)).run between = some (value, after) := by
  have sends (asked : Option BusFrame) (middle : SDCard) (spoke : Spoke before ⟨[], asked.toList⟩ middle)
      (asks : if isAcmd then ∃ frame, asked = some frame ∧ Carries .cmd55AppCmd 0x0 frame else asked = none)
      (ran : (do let byte ← cmdSpi code arg; rest byte : DriverM α).run middle = some (value, after)) :
      ∃ (attempt : Attempt) (between : SDCard), attempt.Of code arg isAcmd ∧ Spoke before ⟨[], attempt.frames⟩ between ∧ afterR1 attempt.own = [] ∧
        (rest (r1Byte attempt.own)).run between = some (value, after) := by
    obtain ⟨byte, between, commands, ran⟩ := (Lib.bind_run_some _ _ _ _ _).mp ran
    obtain ⟨own, spoken, carries, ⟨window, found⟩, rfl⟩ := Lib.ends_run (cmd_spi_spoke code arg) commands
    have both := spoke_trans spoke spoken
    rw [Lib.frames_line_append] at both
    exact ⟨⟨asked, own⟩, between, ⟨asks, carries, by rw [found]; rfl⟩, both, by rw [afterR1, found]; rfl, ran⟩
  cases isAcmd with
  | false => exact sends none before (spoke_same before before rfl) rfl ran
  | true =>
      obtain ⟨_, asking, asks, ran⟩ := (Lib.bind_run_some _ _ _ _ _).mp ran
      obtain ⟨_, waiting, waits, ran⟩ := (Lib.bind_run_some _ _ _ _ _).mp ran
      obtain ⟨frame, spoke, carries, -, -⟩ := Lib.ends_run (cmd_spi_spoke .cmd55AppCmd 0x0) asks
      obtain ⟨more, heard⟩ := Lib.keeps_run (heard_on_fillers.wait_ready _) waits
      exact sends (some (hears frame more)) waiting (spoke_trans spoke heard) ⟨hears frame more, rfl, carries⟩ ran

theorem cmd_attempts_spoke (code : CmdSupported) (arg : UInt32) (isAcmd : Bool) (attempts : Nat) (start : UInt32) :
    Lib.Ends (cmdAttempts code arg isAcmd (attempts + 1) start) fun before response after => ∃ tries own,
      Tries code arg isAcmd (attempts + 1) tries own ∧ Spoke before ⟨[], tries.flatMap Attempt.frames⟩ after ∧ afterR1 own = [] ∧
        response = (r1Byte own).toUInt32 := by
  induction attempts generalizing start with
  | zero =>
      intro before response after ran
      obtain ⟨attempt, between, sent, spoke, rest, ran⟩ := attempt_spoke code arg isAcmd _ _ _ _ ran
      refine ⟨[attempt], attempt.own, .last 0 attempt sent, ?_⟩
      rw [List.flatMap_cons, List.flatMap_nil, List.append_nil]
      split at ran
      · obtain ⟨rfl, rfl⟩ := (Lib.pure_run_some _ _ _ _).mp ran
        exact ⟨spoke, rest, rfl⟩
      · obtain ⟨rfl, rfl⟩ := (Lib.pure_run_some _ _ _ _).mp ran
        exact ⟨spoke, rest, rfl⟩
  | succ attempts ih =>
      intro before response after ran
      obtain ⟨attempt, between, sent, spoke, rest, ran⟩ := attempt_spoke code arg isAcmd _ _ _ _ ran
      by_cases silent : r1NoResponse = (r1Byte attempt.own).toUInt32
      · rw [if_pos silent] at ran
        obtain ⟨tries, own, tried, later, left, rfl⟩ := Lib.ends_run (ih _) ran
        have both := spoke_trans spoke later
        rw [Lib.frames_line_append] at both
        exact ⟨attempt :: tries, own, .again _ attempt tries own sent ((no_response_byte _).mp silent) tried, both, left, rfl⟩
      · rw [if_neg silent] at ran
        obtain ⟨rfl, rfl⟩ := (Lib.pure_run_some _ _ _ _).mp ran
        refine ⟨[attempt], attempt.own, .last _ attempt sent, ?_⟩
        rw [List.flatMap_cons, List.flatMap_nil, List.append_nil]
        exact ⟨spoke, rest, rfl⟩

def answerWord (b3 b2 b1 b0 : UInt8) : UInt32 := (b3.toUInt32 <<< 24) ||| (b2.toUInt32 <<< 16) ||| (b1.toUInt32 <<< 8) ||| b0.toUInt32

theorem read_word_heard : Lib.Ends readWord fun before word after =>
    ∃ b3 b2 b1 b0, Heard before [b3, b2, b1, b0] after ∧ word = answerWord b3 b2 b1 b0 := by
  intro before word after ran
  obtain ⟨b3, _, first, ran⟩ := (Lib.bind_run_some _ _ _ _ _).mp ran
  obtain ⟨b2, _, second, ran⟩ := (Lib.bind_run_some _ _ _ _ _).mp ran
  obtain ⟨b1, _, third, ran⟩ := (Lib.bind_run_some _ _ _ _ _).mp ran
  obtain ⟨b0, _, fourth, ran⟩ := (Lib.bind_run_some _ _ _ _ _).mp ran
  obtain ⟨rfl, rfl⟩ := (Lib.pure_run_some _ _ _ _).mp ran
  have left := heard_trans (Lib.ends_run filler_heard first) (Lib.ends_run filler_heard second)
  have right := heard_trans (Lib.ends_run filler_heard third) (Lib.ends_run filler_heard fourth)
  exact ⟨b3, b2, b1, b0, heard_trans left right, rfl⟩

-- Outside CMD8, CMD13 and CMD58 the value of an answer is its R1 byte.
def answersR1 (code : CmdSupported) : Bool := code ≠ .cmd8SendIfCond ∧ code ≠ .cmd13SendStatus ∧ code ≠ .cmd58ReadOcr

theorem cmd_tail_value (code : CmdSupported) (response : UInt32) (plain : answersR1 code = true) :
    Lib.Ends (cmdTail code response) fun _ value _ => value = response := by
  have waited : Lib.Ends (do let _ ← waitReady sdCommandTimeout; return response) fun _ value _ => value = response := by
    intro before value after ran
    obtain ⟨_, _, -, ran⟩ := (Lib.bind_run_some _ _ _ _ _).mp ran
    exact ((Lib.pure_run_some _ _ _ _).mp ran).1.symm
  cases code
  case cmd8SendIfCond => cases plain
  case cmd13SendStatus => cases plain
  case cmd58ReadOcr => cases plain
  case cmd12StopTransmission => exact waited
  case cmd38Erase => exact waited
  all_goals exact Lib.ends_pure response _ fun _ => rfl

theorem cmd_answer_value (code : CmdSupported) (response : UInt32) (plain : answersR1 code = true) :
    Lib.Ends (cmdAnswer code response) fun _ answer _ => answer.2 = response := by
  have leave (status : Int32) (value : UInt32) (same : value = response) :
      Lib.Ends (do unselect; return (status, value)) fun _ answer _ => answer.2 = response := by
    intro before answer after ran
    obtain ⟨_, _, -, ran⟩ := (Lib.bind_run_some _ _ _ _ _).mp ran
    obtain ⟨rfl, -⟩ := (Lib.pure_run_some _ _ _ _).mp ran
    exact same
  intro before answer after ran
  rw [cmdAnswer] at ran
  split at ran
  · exact leave _ _ rfl _ _ _ ran
  split at ran
  · exact leave _ _ rfl _ _ _ ran
  split at ran
  · obtain ⟨_, _, -, ran⟩ := (Lib.bind_run_some _ _ _ _ _).mp ran
    dsimp only at ran
    split at ran
    · obtain ⟨_, _, -, ran⟩ := (Lib.bind_run_some _ _ _ _ _).mp ran
      obtain ⟨rfl, -⟩ := (Lib.pure_run_some _ _ _ _).mp ran
      rfl
    · obtain ⟨rfl, -⟩ := (Lib.pure_run_some _ _ _ _).mp ran
      rfl
  obtain ⟨full, _, tail, ran⟩ := (Lib.bind_run_some _ _ _ _ _).mp ran
  have same := Lib.ends_run (cmd_tail_value code response plain) tail
  split at ran
  · obtain ⟨rfl, -⟩ := (Lib.pure_run_some _ _ _ _).mp ran
    exact same
  · exact leave _ _ same _ _ _ ran

-- An accepted CMD58 is followed by the four bytes of the OCR.
theorem ocr_answer_heard (response : UInt32) : Lib.Ends (cmdAnswer .cmd58ReadOcr response) fun before answer after => answer.1 = ok →
    ∃ b3 b2 b1 b0 later, Heard before (b3 :: b2 :: b1 :: b0 :: later) after ∧ answer.2 = answerWord b3 b2 b1 b0 := by
  have refused (status : Int32) (failed : status ≠ ok) (before after : SDCard) (answer : Int32 × UInt32)
      (ran : (do unselect; return (status, response) : DriverM (Int32 × UInt32)).run before = some (answer, after)) : answer.1 ≠ ok := by
    obtain ⟨_, _, -, ran⟩ := (Lib.bind_run_some _ _ _ _ _).mp ran
    obtain ⟨rfl, -⟩ := (Lib.pure_run_some _ _ _ _).mp ran
    exact failed
  intro before answer after ran accepted
  rw [cmdAnswer] at ran
  split at ran
  · exact absurd accepted (refused _ (by decide) _ _ _ ran)
  split at ran
  · exact absurd accepted (refused _ (by decide) _ _ _ ran)
  split at ran
  · exact absurd accepted (refused _ (by decide) _ _ _ ran)
  obtain ⟨full, between, tail, ran⟩ := (Lib.bind_run_some _ _ _ _ _).mp ran
  obtain ⟨b3, b2, b1, b0, heard, rfl⟩ := Lib.ends_run read_word_heard tail
  rw [if_neg fun kept => absurd kept.1 (by decide)] at ran
  obtain ⟨_, _, leaves, ran⟩ := (Lib.bind_run_some _ _ _ _ _).mp ran
  obtain ⟨rfl, rfl⟩ := (Lib.pure_run_some _ _ _ _).mp ran
  obtain ⟨released, more⟩ := Lib.keeps_run heard_on_fillers.unselect leaves
  exact ⟨b3, b2, b1, b0, released, heard_trans heard more, rfl⟩

-- What a command returns, by the last of its frames.
structure Valued (code : CmdSupported) (own : BusFrame) (status : Int32) (response : UInt32) : Prop where
  r1 : status = answerStatus (r1Byte own).toUInt32
  plain : answersR1 code = true → response = (r1Byte own).toUInt32
  word : code = .cmd58ReadOcr → status = ok → ∃ b3 b2 b1 b0 later, afterR1 own = b3 :: b2 :: b1 :: b0 :: later ∧ response = answerWord b3 b2 b1 b0

-- The frames of a command, at most three turns of them, and what they return.
def CommandSaid (code : CmdSupported) (arg : UInt32) (isAcmd : Bool) (status : Int32) (response : UInt32) (frames : List BusFrame) : Prop :=
  ∃ tries own, Tries code arg isAcmd 3 tries own ∧ frames = tries.flatMap Attempt.frames ∧ Valued code own status response

theorem tries_answered {code : CmdSupported} {arg : UInt32} {isAcmd : Bool} {left : Nat} {tries : List Attempt} {own : BusFrame}
    (tried : Tries code arg isAcmd left tries own) : Carries code arg own ∧ (polled own).isSome = true := by
  induction tried with
  | last left attempt sent => exact ⟨sent.own, sent.answered⟩
  | again left attempt later own _ _ _ ih => exact ih

theorem command_said_hears {code : CmdSupported} {arg : UInt32} {isAcmd : Bool} {status : Int32} {response : UInt32} {frames : List BusFrame}
    (said : CommandSaid code arg isAcmd status response frames) (more : List UInt8) :
    CommandSaid code arg isAcmd status response (Lib.hearOn frames more) := by
  obtain ⟨tries, own, tried, rfl, valued⟩ := said
  obtain ⟨heard, still, frames⟩ := tries_hear tried more
  have answered := (tries_answered tried).2
  refine ⟨heard, hears own more, still, frames.symm, by rw [r1_byte_hears answered, valued.r1], fun plain => ?_, fun isOcr accepted => ?_⟩
  · rw [r1_byte_hears answered, valued.plain plain]
  · obtain ⟨b3, b2, b1, b0, later, bytes, word⟩ := valued.word isOcr accepted
    exact ⟨b3, b2, b1, b0, later ++ more, by rw [after_r1_hears answered, bytes]; rfl, word⟩

-- A command that leaves the card selected for the data of its answer.
theorem data_answer_kept (code : CmdSupported) (response : UInt32) (keeps : keepsSelected code = true) (plain : answersR1 code = true)
    (notStop : code ≠ .cmd12StopTransmission) (notErase : code ≠ .cmd38Erase) :
    Lib.Ends (cmdAnswer code response) fun before answer after => answer.1 = ok → after = before := by
  have tail : cmdTail code response = pure response := by
    cases code
    case cmd8SendIfCond => cases plain
    case cmd13SendStatus => cases plain
    case cmd58ReadOcr => cases plain
    case cmd12StopTransmission => exact absurd rfl notStop
    case cmd38Erase => exact absurd rfl notErase
    all_goals rfl
  have leave (status : Int32) (failed : status ≠ ok) :
      Lib.Ends (do unselect; return (status, response)) fun before answer after => answer.1 = ok → after = before := by
    intro before answer after ran accepted
    obtain ⟨_, _, -, ran⟩ := (Lib.bind_run_some _ _ _ _ _).mp ran
    obtain ⟨rfl, -⟩ := (Lib.pure_run_some _ _ _ _).mp ran
    exact absurd accepted failed
  intro before answer after ran
  rw [cmdAnswer] at ran
  split at ran
  · exact leave _ (by decide) _ _ _ ran
  split at ran
  · exact leave _ (by decide) _ _ _ ran
  split at ran
  · obtain ⟨_, _, -, ran⟩ := (Lib.bind_run_some _ _ _ _ _).mp ran
    dsimp only at ran
    split at ran
    · obtain ⟨_, _, -, ran⟩ := (Lib.bind_run_some _ _ _ _ _).mp ran
      obtain ⟨rfl, -⟩ := (Lib.pure_run_some _ _ _ _).mp ran
      exact fun accepted => absurd (show errorUnsupported = ok from accepted) (by decide)
    · obtain ⟨rfl, -⟩ := (Lib.pure_run_some _ _ _ _).mp ran
      exact fun accepted => absurd (show errorUnsupported = ok from accepted) (by decide)
  obtain ⟨full, middle, tails, ran⟩ := (Lib.bind_run_some _ _ _ _ _).mp ran
  rw [tail] at tails
  obtain ⟨-, rfl⟩ := (Lib.pure_run_some _ _ _ _).mp tails
  split at ran
  · obtain ⟨-, rfl⟩ := (Lib.pure_run_some _ _ _ _).mp ran
    exact fun _ => rfl
  · rename_i refused
    obtain ⟨_, _, -, ran⟩ := (Lib.bind_run_some _ _ _ _ _).mp ran
    obtain ⟨rfl, -⟩ := (Lib.pure_run_some _ _ _ _).mp ran
    exact fun accepted => absurd ⟨keeps, accepted⟩ refused

theorem kept_plain (code : CmdSupported) (keeps : keepsSelected code = true) :
    answersR1 code = true ∧ code ≠ .cmd12StopTransmission ∧ code ≠ .cmd38Erase := by
  cases code with
  | _ => first | exact ⟨rfl, by decide, by decide⟩ | cases keeps

-- What is heard behind the R1 byte: nothing when data follows, and the register
-- first when it was asked for.
theorem answer_heard (code : CmdSupported) (response : UInt32) : Lib.Ends (cmdAnswer code response) fun before answer after =>
    ∃ more, Heard before more after ∧ (code = .cmd58ReadOcr → answer.1 = ok →
        ∃ b3 b2 b1 b0 later, more = b3 :: b2 :: b1 :: b0 :: later ∧ answer.2 = answerWord b3 b2 b1 b0) ∧
      (keepsSelected code = true → answer.1 = ok → more = []) := by
  intro before answer after ran
  by_cases isOcr : code = .cmd58ReadOcr ∧ answer.1 = ok
  · obtain ⟨rfl, accepted⟩ := isOcr
    obtain ⟨b3, b2, b1, b0, later, bytes, word⟩ := Lib.ends_run (ocr_answer_heard _) ran accepted
    exact ⟨_, bytes, fun _ _ => ⟨b3, b2, b1, b0, later, rfl, word⟩, fun keeps => absurd keeps (by decide)⟩
  by_cases data : keepsSelected code = true ∧ answer.1 = ok
  · obtain ⟨plain, notStop, notErase⟩ := kept_plain code data.1
    have same := Lib.ends_run (data_answer_kept code _ data.1 plain notStop notErase) ran data.2
    exact ⟨[], spoke_same before after (by rw [same]), fun ocr accepted => absurd ⟨ocr, accepted⟩ isOcr, fun _ _ => rfl⟩
  · obtain ⟨more, later⟩ := Lib.keeps_run (heard_on_fillers.cmd_answer still_heard code _) ran
    exact ⟨more, later, fun ocr accepted => absurd ⟨ocr, accepted⟩ isOcr, fun keeps accepted => absurd ⟨keeps, accepted⟩ data⟩

theorem attempts_answer_spoke (code : CmdSupported) (arg : UInt32) (isAcmd : Bool) (lead : List UInt8) (before middle after : SDCard)
    (answer : Int32 × UInt32) (heard : Heard before lead middle)
    (ran : (do let response ← cmdAttempts code arg isAcmd 3 r1NoResponse; cmdAnswer code response).run middle = some (answer, after)) :
    ∃ tries own, Spoke before ⟨lead, tries.flatMap Attempt.frames⟩ after ∧ Tries code arg isAcmd 3 tries own ∧
      Valued code own answer.1 answer.2 ∧ (keepsSelected code = true → answer.1 = ok → afterR1 own = []) := by
  obtain ⟨response, between, attempts, ran⟩ := (Lib.bind_run_some _ _ _ _ _).mp ran
  obtain ⟨tries, own, tried, spoke, silent, rfl⟩ := Lib.ends_run (cmd_attempts_spoke code arg isAcmd 2 _) attempts
  have status := Lib.ends_run (cmd_answer_status code _) ran
  have polls := (tries_answered tried).2
  obtain ⟨more, later, word, kept⟩ := Lib.ends_run (answer_heard code _) ran
  obtain ⟨heardTries, still, frames⟩ := tries_hear tried more
  have whole := spoke_trans (spoke_trans heard spoke) later
  rw [Lib.lead_line_append, Lib.line_append_lead _ _ (tries_frames tried), ← frames] at whole
  dsimp only at whole
  rw [List.append_nil] at whole
  refine ⟨heardTries, hears own more, whole, still, ⟨by rw [r1_byte_hears polls, status], fun plain => ?_, fun isOcr accepted => ?_⟩,
    fun keeps accepted => by rw [after_r1_hears polls, silent, kept keeps accepted]; rfl⟩
  · rw [r1_byte_hears polls]
    exact Lib.ends_run (cmd_answer_value code _ plain) ran
  · obtain ⟨b3, b2, b1, b0, rest, bytes, value⟩ := word isOcr accepted
    exact ⟨b3, b2, b1, b0, rest, by rw [after_r1_hears polls, silent, bytes]; rfl, value⟩

-- The frames of a command, after what was heard before the first of them: two
-- answers, and a wait unless it is CMD12. When data follows an accepted command
-- it comes right after the R1 byte.
theorem cmd_tries_spoke (code : CmdSupported) (arg : UInt32) (isAcmd : Bool) : Lib.Ends (cmd code arg isAcmd) fun before answer after =>
    ∃ lead tries own, Spoke before ⟨lead, tries.flatMap Attempt.frames⟩ after ∧ Tries code arg isAcmd 3 tries own ∧
      Valued code own answer.1 answer.2 ∧ (keepsSelected code = true → answer.1 = ok → afterR1 own = []) ∧
      (code = .cmd12StopTransmission → lead.length = 2) := by
  intro before answer after ran
  obtain ⟨found, done, body, ran⟩ := (Lib.bind_run_some _ _ _ _ _).mp ran
  obtain ⟨_, recorded, records, ran⟩ := (Lib.bind_run_some _ _ _ _ _).mp ran
  obtain ⟨rfl, rfl⟩ := (Lib.pure_run_some _ _ _ _).mp ran
  obtain ⟨lead, tries, own, spoke, tried, valued, kept, short⟩ : ∃ lead tries own, Spoke before ⟨lead, tries.flatMap Attempt.frames⟩ done ∧
      Tries code arg isAcmd 3 tries own ∧ Valued code own found.1 found.2 ∧ (keepsSelected code = true → found.1 = ok → afterR1 own = []) ∧
      (code = .cmd12StopTransmission → lead.length = 2) := by
    obtain ⟨_, selected, selects, body⟩ := (Lib.bind_run_some _ _ _ _ _).mp body
    obtain ⟨first, second, heard⟩ := Lib.ends_run select_heard selects
    dsimp only at body
    split at body
    · rename_i waiting
      obtain ⟨_, waited, waits, body⟩ := (Lib.bind_run_some _ _ _ _ _).mp body
      obtain ⟨busy, more⟩ := Lib.keeps_run (heard_on_fillers.wait_ready _) waits
      obtain ⟨tries, own, spoke, tried, valued, kept⟩ := attempts_answer_spoke code arg isAcmd _ before waited done found (heard_trans heard more) body
      exact ⟨_, tries, own, spoke, tried, valued, kept, fun stop => absurd stop waiting⟩
    · obtain ⟨tries, own, spoke, tried, valued, kept⟩ := attempts_answer_spoke code arg isAcmd _ before selected done found heard body
      exact ⟨_, tries, own, spoke, tried, valued, kept, fun _ => rfl⟩
  have quiet : recorded.bus = done.bus := by rw [record_run _ _ _ _ records]
  have whole := spoke_trans spoke (spoke_same done recorded quiet)
  rw [Lib.line_append_nothing] at whole
  exact ⟨lead, tries, own, whole, tried, valued, kept, short⟩

theorem cmd_spoke (code : CmdSupported) (arg : UInt32) (isAcmd : Bool) : Lib.Ends (cmd code arg isAcmd) fun before answer after =>
    ∃ line, Spoke before line after ∧ CommandSaid code arg isAcmd answer.1 answer.2 line.frames :=
  Lib.ends_mono (cmd_tries_spoke code arg isAcmd) fun _ _ _ ⟨_, tries, own, spoke, tried, valued, _⟩ =>
    ⟨_, spoke, tries, own, tried, rfl, valued⟩

-- A data block on the bus: its token, the data and the check bytes, and the
-- data response that is the first thing heard after it.
def blockSaid (token : UInt8) (data : List UInt8) : List UInt8 := token :: (data ++ [0xFF, 0xFF])

def dataResponse (frame : BusFrame) : UInt8 := frame.heard.headD 0xFF &&& spiDataResponseMask

def startToken (token : UInt8) : Bool := token = spiStartBlock ∨ token = spiStartBlkMulWrite

def BlockSaid (token : UInt8) (data : List UInt8) (response : UInt8) (frames : List BusFrame) : Prop :=
  ∃ frame, frames = [frame] ∧ startToken token = true ∧ frame.said = blockSaid token data ∧ frame.heard ≠ [] ∧ response = dataResponse frame

theorem block_said_hears {token response : UInt8} {data : List UInt8} {frames : List BusFrame} (said : BlockSaid token data response frames)
    (more : List UInt8) : BlockSaid token data response (Lib.hearOn frames more) := by
  obtain ⟨⟨bytes, heard⟩, rfl, start, block, answered, same⟩ := said
  obtain ⟨answer, later, rfl⟩ := List.exists_cons_of_ne_nil answered
  exact ⟨⟨bytes, answer :: later ++ more⟩, rfl, start, block, List.cons_ne_nil _ _, same⟩

theorem start_token_opens (token : UInt8) (start : startToken token = true) : frameLeft token = some 514 := by
  rw [frameLeft, if_pos (of_decide_eq_true start)]

theorem write_block_spoke (buffer : Nat → UInt8) (offset : Nat) (token : UInt8) (start : startToken token = true) :
    Lib.Ends (writeBlock buffer offset token blockSize) fun before response after =>
      ∃ line, Spoke before line after ∧ BlockSaid token (Lib.slice buffer offset blockSize.toNat) response line.frames := by
  intro before response after ran
  obtain ⟨_, started, starts, ran⟩ := (Lib.bind_run_some _ _ _ _ _).mp ran
  obtain ⟨_, filled, fills, ran⟩ := (Lib.bind_run_some _ _ _ _ _).mp ran
  obtain ⟨_, high, highs, ran⟩ := (Lib.bind_run_some _ _ _ _ _).mp ran
  obtain ⟨_, low, lows, ran⟩ := (Lib.bind_run_some _ _ _ _ _).mp ran
  obtain ⟨answer, answered, answers, ran⟩ := (Lib.bind_run_some _ _ _ _ _).mp ran
  obtain ⟨_, waited, waits, ran⟩ := (Lib.bind_run_some _ _ _ _ _).mp ran
  obtain ⟨_, recorded, records, ran⟩ := (Lib.bind_run_some _ _ _ _ _).mp ran
  obtain ⟨rfl, rfl⟩ := (Lib.pure_run_some _ _ _ _).mp ran
  have said := Lib.keeps_run (transfer_all_said _) fills
  have check := said_trans (Lib.keeps_run (transfer_said _) highs) (Lib.keeps_run (transfer_said _) lows)
  obtain ⟨busy, more⟩ := Lib.keeps_run (heard_on_fillers.wait_ready _) waits
  have heard := heard_trans (Lib.ends_run filler_heard answers) more
  have quiet : recorded.bus = waited.bus := by rw [record_run _ _ _ _ records]
  have count : (Lib.slice buffer offset blockSize.toNat).length = 512 := Lib.slice_length _ _ _
  generalize Lib.slice buffer offset blockSize.toNat = data at said count ⊢
  have block : Said (blockSaid token data) before low := said_trans (Lib.keeps_run (transfer_said token) starts) (said_trans said check)
  have spoke := frame_spoke block (by rw [start_token_opens token start, List.length_append, count]; rfl)
  have whole := spoke_trans (spoke_trans spoke heard) (spoke_same waited recorded quiet)
  rw [Lib.line_append_nothing, Lib.line_append_lead _ _ (List.cons_ne_nil _ _), Lib.hearOn] at whole
  exact ⟨_, whole, ⟨blockSaid token data, [] ++ (answer :: busy)⟩, rfl, start, rfl, List.cons_ne_nil _ _, rfl⟩

end SDCardFs.Driver
