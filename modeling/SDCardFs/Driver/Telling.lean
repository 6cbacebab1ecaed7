import SDCardFs.Driver.Wire

set_option autoImplicit false

namespace SDCardFs.Driver

-- The frames a record stands for: those of a command, or of a data block sent.
def EventSaid : Event → List BusFrame → Prop
  | .command code arg isAcmd status response, frames => CommandSaid code arg isAcmd status response frames
  | .sentBlock token data response, frames => BlockSaid token data response frames
  | .handshake _, frames => frames = []
  | .receivedBlock _, frames => frames = []
  | .failedBlock, frames => frames = []

-- The records, the latest first, against the frames on the bus, the oldest first.
inductive Told : List Event → List BusFrame → Prop where
  | nothing : Told [] []
  | next (event : Event) (events : List Event) (said frames : List BusFrame) : Told events frames → EventSaid event said →
      Told (event :: events) (frames ++ said)

theorem event_said_hears (event : Event) (frames : List BusFrame) (said : EventSaid event frames) (more : List UInt8) :
    EventSaid event (Lib.hearOn frames more) := by
  cases event with
  | command code arg isAcmd status response => exact command_said_hears said more
  | sentBlock token data response => exact block_said_hears said more
  | handshake status =>
      rw [show frames = [] from said]
      rfl
  | receivedBlock data =>
      rw [show frames = [] from said]
      rfl
  | failedBlock =>
      rw [show frames = [] from said]
      rfl

theorem told_hears (events : List Event) (frames : List BusFrame) (told : Told events frames) (more : List UInt8) :
    Told events (Lib.hearOn frames more) := by
  induction told with
  | nothing => exact .nothing
  | next event events said frames told eventSaid ih =>
      by_cases silent : said = []
      · rw [silent] at eventSaid
        rw [silent, List.append_nil]
        have still := Told.next event events [] _ ih eventSaid
        rwa [List.append_nil] at still
      · rw [Lib.hear_on_append _ _ silent]
        exact .next event events _ frames told (event_said_hears event said eventSaid more)

theorem told_trans (older newer : List Event) (first second : List BusFrame) (left : Told older first) (right : Told newer second) :
    Told (newer ++ older) (first ++ second) := by
  induction right with
  | nothing =>
      rw [List.append_nil]
      exact left
  | next event events said frames told eventSaid ih =>
      rw [← List.append_assoc]
      exact .next event _ said _ ih eventSaid

theorem told_one (event : Event) (frames : List BusFrame) (said : EventSaid event frames) : Told [event] frames :=
  .next event [] frames [] .nothing said

-- Calls whose records are what they put on the bus.
def Tells (before after : SDCard) : Prop :=
  ∃ events line, after.trace = events ++ before.trace ∧ Spoke before line after ∧ Told events line.frames

theorem tells_trans (a b c : SDCard) (left : Tells a b) (right : Tells b c) : Tells a c := by
  obtain ⟨older, first, olderTrace, firstSpoke, firstTold⟩ := left
  obtain ⟨newer, second, newerTrace, secondSpoke, secondTold⟩ := right
  refine ⟨newer ++ older, first.append second, by rw [newerTrace, olderTrace, List.append_assoc], spoke_trans firstSpoke secondSpoke, ?_⟩
  rw [Lib.append_frames]
  exact told_trans older newer _ _ (told_hears older first.frames firstTold _) secondTold

theorem tells_told {events : List Event} {before after : SDCard} (tells : Tells before after) (trace : after.trace = events ++ before.trace) :
    Told events (framesSince before after) := by
  obtain ⟨told, line, grown, spoke, said⟩ := tells
  obtain rfl := List.append_cancel_right (grown.symm.trans trace)
  rwa [spoke_frames spoke]

theorem tells_exchanged {before after : SDCard} (tells : Tells before after) : Exchanged before (exchangesSince before after) after := by
  obtain ⟨_, _, -, ⟨exchanges, exchanged, -⟩, -⟩ := tells
  rw [exchanged_since exchanged]
  exact exchanged

theorem tells_heard (answers : List UInt8) (before after : SDCard) (trace : after.trace = before.trace) (heard : Heard before answers after) :
    Tells before after :=
  ⟨[], ⟨answers, []⟩, trace, heard, .nothing⟩

theorem tells_same (before after : SDCard) (bus : after.bus = before.bus) (trace : after.trace = before.trace) : Tells before after :=
  tells_heard [] before after trace (spoke_same before after bus)

theorem tells_on_fillers : OnFillers Tells where
  reflexive card := tells_same card card rfl rfl
  transitive := tells_trans
  fill := by
    intro before byte after ran
    have moved := Lib.keeps_run (transfer_only_bus filler) ran
    exact tells_heard [byte] before after (by rw [moved]) (Lib.ends_run filler_heard ran)
  setCs high := by
    intro before value after ran
    have heard := Lib.ends_run (set_cs_heard high) ran
    obtain ⟨-, rfl⟩ := Prod.mk.inj (Option.some.inj ran)
    exact tells_heard [] before _ rfl heard

theorem cmd_tells (code : CmdSupported) (arg : UInt32) (isAcmd : Bool) : Lib.Keeps Tells (cmd code arg isAcmd) := by
  intro before answer after ran
  obtain ⟨line, spoke, said⟩ := Lib.ends_run (cmd_spoke code arg isAcmd) ran
  have effect := Lib.ends_run (cmd_effect code arg isAcmd) ran
  exact ⟨[.command code arg isAcmd answer.1 answer.2], line, by rw [effect.frame]; rfl, spoke, told_one _ _ said⟩

theorem record_tells (event : Event) (silent : EventSaid event []) : Lib.Keeps Tells (record event) := by
  intro before value after ran
  rw [record_run _ _ _ _ ran]
  exact ⟨[event], ⟨[], []⟩, rfl, spoke_same _ _ rfl, told_one event [] silent⟩

theorem modify_tells (change : SDCard → SDCard) (bus : ∀ card, (change card).bus = card.bus) (trace : ∀ card, (change card).trace = card.trace) :
    Lib.Keeps Tells (modify change : DriverM Unit) := by
  intro before value after ran
  obtain ⟨-, rfl⟩ := Prod.mk.inj (Option.some.inj ran)
  exact tells_same before _ (bus before) (trace before)

theorem tells_on_calls : OnCalls (fun _ _ => True) Tells where
  toOnFillers := tells_on_fillers
  cmd code arg isAcmd _ := cmd_tells code arg isAcmd
  setCardType cardType := modify_tells _ (fun _ => rfl) fun _ => rfl
  record event block := by
    refine record_tells event ?_
    cases event with
    | receivedBlock data => rfl
    | failedBlock => rfl
    | command code arg isAcmd status response => cases block
    | handshake status => cases block
    | sentBlock token data response => cases block
  write_block buffer offset token start := by
    intro before response after ran
    obtain ⟨line, spoke, said⟩ := Lib.ends_run (write_block_spoke buffer offset token (decide_eq_true start)) ran
    refine ⟨[.sentBlock token (Lib.slice buffer offset blockSize.toNat) response], line, ?_, spoke, told_one _ _ said⟩
    exact adds_trace (Lib.ends_run (write_block_adds buffer offset token blockSize) ran)

def isData (frame : BusFrame) : Bool := frame.said.head?.any startToken

-- The data blocks among the frames, each with its data response.
def dataBlocks (frames : List BusFrame) : List (List UInt8 × UInt8) :=
  (frames.filter isData).map fun frame => (frame.said, dataResponse frame)

-- The R1 byte reports no error, as _cmd looks at it.
def accepted (frame : BusFrame) : Bool := answerStatus (r1Byte frame).toUInt32 = ok

def commandAccepted (code : CmdSupported) (frames : List BusFrame) : Prop :=
  ∃ frame ∈ frames, opensWith code frame = true ∧ accepted frame = true

def lastFrame (code : CmdSupported) (frames : List BusFrame) : Option BusFrame := frames.reverse.find? (opensWith code)

def saidBlocks (events : List Event) : List (List UInt8 × UInt8) :=
  events.reverse.filterMap fun event => match event with
    | .sentBlock token data response => some (blockSaid token data, response)
    | _ => none

theorem command_not_data : ∀ number : Fin 256, startToken (spiCmd (UInt8.ofFin number)) = false := by decide +kernel

theorem carries_not_data {code : CmdSupported} {arg : UInt32} {frame : BusFrame} (carries : Carries code arg frame) : isData frame = false := by
  obtain ⟨crcOn, said⟩ := carries
  rw [isData, said]
  exact command_not_data code.number.toFin

theorem tries_members {code : CmdSupported} {arg : UInt32} {isAcmd : Bool} {left : Nat} {tries : List Attempt} {own : BusFrame}
    (tried : Tries code arg isAcmd left tries own) (frame : BusFrame) (inside : frame ∈ tries.flatMap Attempt.frames) :
    Carries .cmd55AppCmd 0x0 frame ∨ Carries code arg frame ∧ (frame = own ∨ r1Byte frame = 0xFF) := by
  have one (attempt : Attempt) (sent : attempt.Of code arg isAcmd) (member : frame ∈ attempt.frames) :
      Carries .cmd55AppCmd 0x0 frame ∨ frame = attempt.own := by
    rcases List.mem_append.mp member with asked | own
    · have asks := sent.asked
      split at asks
      · obtain ⟨found, same, carries⟩ := asks
        rw [same] at asked
        exact Or.inl (List.mem_singleton.mp asked ▸ carries)
      · rw [asks] at asked
        cases asked
    · exact Or.inr (List.mem_singleton.mp own)
  induction tried with
  | last left attempt sent =>
      rw [List.flatMap_cons, List.flatMap_nil, List.append_nil] at inside
      refine (one attempt sent inside).imp id fun (same : frame = attempt.own) => ⟨?_, Or.inl same⟩
      rw [same]
      exact sent.own
  | again left attempt later own sent silent tried ih =>
      rw [List.flatMap_cons] at inside
      rcases List.mem_append.mp inside with first | rest
      · refine (one attempt sent first).imp id fun (same : frame = attempt.own) => ?_
        rw [same]
        exact ⟨sent.own, Or.inr silent⟩
      · exact ih rest

theorem tries_last {code : CmdSupported} {arg : UInt32} {isAcmd : Bool} {left : Nat} {tries : List Attempt} {own : BusFrame}
    (tried : Tries code arg isAcmd left tries own) : ∃ earlier, tries.flatMap Attempt.frames = earlier ++ [own] := by
  induction tried with
  | last left attempt sent => exact ⟨attempt.asked.toList, by simp [Attempt.frames]⟩
  | again left attempt later own sent silent tried ih =>
      obtain ⟨earlier, frames⟩ := ih
      exact ⟨attempt.frames ++ earlier, by rw [List.flatMap_cons, frames, List.append_assoc]⟩

theorem tries_accepted {code : CmdSupported} {arg : UInt32} {isAcmd : Bool} {left : Nat} {tries : List Attempt} {own : BusFrame}
    (tried : Tries code arg isAcmd left tries own) (other : code ≠ .cmd55AppCmd) :
    commandAccepted code (tries.flatMap Attempt.frames) ↔ accepted own = true := by
  constructor
  · rintro ⟨frame, inside, opens, right⟩
    rcases tries_members tried frame inside with asks | ⟨-, rfl | silent⟩
    · rw [carries_opens _ _ _ asks] at opens
      exact absurd (of_decide_eq_true opens).symm other
    · exact right
    · rw [accepted, silent] at right
      exact absurd (of_decide_eq_true right) (by decide)
  · intro right
    obtain ⟨earlier, frames⟩ := tries_last tried
    refine ⟨own, by rw [frames]; simp, ?_, right⟩
    rw [carries_opens _ _ _ (tries_answered tried).1]
    exact decide_eq_true rfl

-- The frames of one command open no other one.
theorem tries_other {code : CmdSupported} {arg : UInt32} {isAcmd : Bool} {left : Nat} {tries : List Attempt} {own : BusFrame}
    (tried : Tries code arg isAcmd left tries own) (asked : CmdSupported) (different : code ≠ asked) (notAsking : .cmd55AppCmd ≠ asked) :
    ∀ frame ∈ tries.flatMap Attempt.frames, opensWith asked frame = false := by
  intro frame inside
  rcases tries_members tried frame inside with asks | ⟨carries, -⟩
  · rw [carries_opens _ _ _ asks]
    exact decide_eq_false notAsking
  · rw [carries_opens _ _ _ carries]
    exact decide_eq_false different

theorem command_accepted_append (code : CmdSupported) (first second : List BusFrame) :
    commandAccepted code (first ++ second) ↔ commandAccepted code first ∨ commandAccepted code second := by
  simp only [commandAccepted, List.mem_append, or_and_right, exists_or]

theorem accepted_opens {code : CmdSupported} {frames : List BusFrame} (other : ∀ frame ∈ frames, opensWith code frame = false) :
    ¬ commandAccepted code frames := by
  rintro ⟨frame, inside, opens, -⟩
  rw [other frame inside] at opens
  cases opens

theorem last_frame_own {code : CmdSupported} (earlier : List BusFrame) {own : BusFrame} (opens : opensWith code own = true) :
    lastFrame code (earlier ++ [own]) = some own := by
  rw [lastFrame, List.reverse_append, List.reverse_singleton, List.singleton_append, List.find?_cons_of_pos opens]

theorem last_frame_other {code : CmdSupported} (first : List BusFrame) {second : List BusFrame}
    (other : ∀ frame ∈ second, opensWith code frame = false) : lastFrame code (first ++ second) = lastFrame code first := by
  have none : second.reverse.find? (opensWith code) = none :=
    List.find?_eq_none.mpr fun frame inside opens => by
      rw [other frame (List.mem_reverse.mp inside)] at opens
      cases opens
  rw [lastFrame, List.reverse_append, List.find?_append, none, Option.none_or, lastFrame]

theorem tries_last_frame {code : CmdSupported} {arg : UInt32} {isAcmd : Bool} {left : Nat} {tries : List Attempt} {own : BusFrame}
    (tried : Tries code arg isAcmd left tries own) : lastFrame code (tries.flatMap Attempt.frames) = some own := by
  obtain ⟨earlier, frames⟩ := tries_last tried
  rw [frames]
  refine last_frame_own earlier ?_
  rw [carries_opens _ _ _ (tries_answered tried).1]
  exact decide_eq_true rfl

theorem said_blocks_cons (event : Event) (events : List Event) : saidBlocks (event :: events) = saidBlocks events ++ saidBlocks [event] := by
  simp [saidBlocks, List.filterMap_append]

theorem data_blocks_append (first second : List BusFrame) : dataBlocks (first ++ second) = dataBlocks first ++ dataBlocks second := by
  simp [dataBlocks]

theorem event_data (event : Event) (frames : List BusFrame) (said : EventSaid event frames) : dataBlocks frames = saidBlocks [event] := by
  cases event with
  | command code arg isAcmd status response =>
      obtain ⟨tries, own, tried, rfl, -⟩ := said
      have none : (tries.flatMap Attempt.frames).filter isData = [] := by
        refine List.filter_eq_nil_iff.mpr fun frame inside => ?_
        rw [Bool.not_eq_true]
        rcases tries_members tried frame inside with asks | ⟨own, -⟩
        · exact carries_not_data asks
        · exact carries_not_data own
      rw [dataBlocks, none]
      rfl
  | sentBlock token data response =>
      obtain ⟨frame, rfl, start, block, -, rfl⟩ := said
      have opens : isData frame = true := by
        rw [isData, block]
        exact start
      rw [dataBlocks, List.filter_cons_of_pos opens]
      simp [saidBlocks, block]
  | handshake status =>
      rw [show frames = [] from said]
      rfl
  | receivedBlock data =>
      rw [show frames = [] from said]
      rfl
  | failedBlock =>
      rw [show frames = [] from said]
      rfl

theorem told_data (events : List Event) (frames : List BusFrame) (told : Told events frames) : dataBlocks frames = saidBlocks events := by
  induction told with
  | nothing => rfl
  | next event events said frames told eventSaid ih => rw [data_blocks_append, said_blocks_cons, ih, event_data event said eventSaid]

theorem block_opens (token : UInt8) (data : List UInt8) (frame : BusFrame) (start : startToken token = true)
    (said : frame.said = blockSaid token data) (code : CmdSupported) : opensWith code frame = false := by
  rw [opensWith, said]
  refine decide_eq_false fun same => ?_
  have command : startToken (spiCmd code.number) = false := command_not_data code.number.toFin
  rw [← Option.some.inj same] at command
  exact absurd (start.symm.trans command) (by decide)

theorem event_opens (event : Event) (frames : List BusFrame) (said : EventSaid event frames) (code : CmdSupported)
    (other : code ≠ .cmd55AppCmd) (frame : BusFrame) (inside : frame ∈ frames) (opens : opensWith code frame = true) :
    ∃ arg isAcmd status response, event = .command code arg isAcmd status response := by
  cases event with
  | command sent arg isAcmd status response =>
      obtain ⟨tries, own, tried, rfl, -⟩ := said
      rcases tries_members tried frame inside with asks | ⟨carries, -⟩
      · rw [carries_opens _ _ _ asks] at opens
        exact absurd (of_decide_eq_true opens).symm other
      · rw [carries_opens _ _ _ carries] at opens
        exact ⟨arg, isAcmd, status, response, by rw [of_decide_eq_true opens]⟩
  | sentBlock token data response =>
      obtain ⟨found, rfl, start, block, -⟩ := said
      rw [List.mem_singleton.mp inside, block_opens token data found start block] at opens
      cases opens
  | handshake status =>
      rw [show frames = [] from said] at inside
      cases inside
  | receivedBlock data =>
      rw [show frames = [] from said] at inside
      cases inside
  | failedBlock =>
      rw [show frames = [] from said] at inside
      cases inside

theorem told_accepted (events : List Event) (frames : List BusFrame) (told : Told events frames) (code : CmdSupported)
    (other : code ≠ .cmd55AppCmd) : commandAccepted code frames ↔ ∃ arg isAcmd response, Event.command code arg isAcmd ok response ∈ events := by
  induction told with
  | nothing => exact ⟨fun ⟨_, inside, _⟩ => (by cases inside), fun ⟨_, _, _, inside⟩ => (by cases inside)⟩
  | next event events said frames told eventSaid ih =>
      rw [command_accepted_append, ih]
      constructor
      · rintro (⟨arg, isAcmd, response, member⟩ | ⟨frame, inside, opens, right⟩)
        · exact ⟨arg, isAcmd, response, List.mem_cons_of_mem _ member⟩
        · obtain ⟨arg, isAcmd, status, response, rfl⟩ := event_opens event said eventSaid code other frame inside opens
          obtain ⟨tries, own, tried, rfl, valued⟩ := eventSaid
          have right := (tries_accepted tried other).mp ⟨frame, inside, opens, right⟩
          refine ⟨arg, isAcmd, response, ?_⟩
          rw [show status = ok from valued.r1.trans (of_decide_eq_true right)]
          exact List.mem_cons_self
      · rintro ⟨arg, isAcmd, response, member⟩
        rcases List.mem_cons.mp member with rfl | earlier
        · obtain ⟨tries, own, tried, rfl, valued⟩ := eventSaid
          exact Or.inr ((tries_accepted tried other).mpr (decide_eq_true valued.r1.symm))
        · exact Or.inl ⟨arg, isAcmd, response, earlier⟩

theorem told_sent (events : List Event) (frames : List BusFrame) (told : Told events frames) (code : CmdSupported)
    (other : code ≠ .cmd55AppCmd) : (∃ frame ∈ frames, opensWith code frame = true) ↔
      ∃ arg isAcmd status response, Event.command code arg isAcmd status response ∈ events := by
  induction told with
  | nothing => exact ⟨fun ⟨_, inside, _⟩ => (by cases inside), fun ⟨_, _, _, _, inside⟩ => (by cases inside)⟩
  | next event events said frames told eventSaid ih =>
      constructor
      · rintro ⟨frame, inside, opens⟩
        rcases List.mem_append.mp inside with earlier | last
        · obtain ⟨arg, isAcmd, status, response, member⟩ := ih.mp ⟨frame, earlier, opens⟩
          exact ⟨arg, isAcmd, status, response, List.mem_cons_of_mem _ member⟩
        · obtain ⟨arg, isAcmd, status, response, rfl⟩ := event_opens event said eventSaid code other frame last opens
          exact ⟨arg, isAcmd, status, response, List.mem_cons_self⟩
      · rintro ⟨arg, isAcmd, status, response, member⟩
        rcases List.mem_cons.mp member with rfl | earlier
        · obtain ⟨tries, own, tried, rfl, -⟩ := eventSaid
          obtain ⟨before, shape⟩ := tries_last tried
          refine ⟨own, by rw [shape]; simp, ?_⟩
          rw [carries_opens _ _ _ (tries_answered tried).1]
          exact decide_eq_true rfl
        · obtain ⟨frame, inside, opens⟩ := ih.mpr ⟨arg, isAcmd, status, response, earlier⟩
          exact ⟨frame, List.mem_append_left _ inside, opens⟩

end SDCardFs.Driver
