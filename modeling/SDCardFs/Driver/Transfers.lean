import SDCardFs.Driver.Bounds
import SDCardFs.Driver.Program

set_option autoImplicit false

namespace SDCardFs.Driver

-- What a call has exchanged by the time the card has given these answers: the
-- first exchanges of a run that goes on from there and returns.
def Begun {α : Type} (call : DriverM α) (card : SDCard) (rx : List UInt8) (exchanges : List Transfer) : Prop :=
  ∃ more value after, call.run (card.hears (rx ++ more)) = some (value, after) ∧
    exchanges = (exchangesSince (card.hears (rx ++ more)) after).take rx.length

-- What has been said of each data block.
def blockFrames (frames : List BusFrame) : List (List UInt8) := (frames.filter isData).map Lib.LineFrame.said

-- At most the blocks of the buffer, in their order: the last may be half said.
def BlocksBegun (b : Nat → UInt8) (size : UInt64) (frames : List BusFrame) : Prop :=
  (blockFrames frames).length ≤ size.toNat / 512 ∧
    ∀ (k : Nat) (said : List UInt8), (blockFrames frames)[k]? = some said → said <+: bufferBlock b (programToken size) k

-- A single-block command moves one block and a multiple-block command several.
def CommandsMatch (blocks : Nat) (frames : List BusFrame) : Prop :=
  ∀ frame ∈ frames,
    (opensWith .cmd17ReadSingleBlock frame = true ∨ opensWith .cmd24WriteBlock frame = true → blocks = 1) ∧
      (opensWith .cmd18ReadMultipleBlock frame = true ∨ opensWith .cmd25WriteMultipleBlock frame = true → 1 < blocks)

structure SDCard.ProgramKept (card : SDCard) (b : Nat → UInt8) (addr size : UInt64) : Prop where
  begins : ∀ rx, ∃ exchanges, Begun (program b addr size) card rx exchanges
  soFar : ∀ rx exchanges, Begun (program b addr size) card rx exchanges →
    BlocksBegun b size (busLine exchanges).frames ∧ CommandsMatch (size.toNat / 512) (busLine exchanges).frames
  moves : ∀ rx status after, (program b addr size).run (card.hears rx) = some (status, after) →
    ProgramSaid b size (framesSince (card.hears rx) after) status
  inside : ∀ other : Nat → UInt8, (∀ p, p < size.toNat → other p = b p) → ∀ rx,
    (program other addr size).run (card.hears rx) = (program b addr size).run (card.hears rx)

structure SDCard.ReadKept (card : SDCard) (b : Nat → UInt8) (addr size : UInt64) : Prop where
  begins : ∀ rx, ∃ exchanges, Begun (read b addr size) card rx exchanges
  soFar : ∀ rx exchanges, Begun (read b addr size) card rx exchanges → CommandsMatch (size.toNat / 512) (busLine exchanges).frames
  moves : ∀ rx status filled after, (read b addr size).run (card.hears rx) = some ((status, filled), after) →
    ReadSaid none size b filled (framesSince (card.hears rx) after) status
  inside : ∀ rx status filled after, (read b addr size).run (card.hears rx) = some ((status, filled), after) →
    ∀ p, size.toNat ≤ p → filled p = b p

theorem begun_frames {α : Type} {call : DriverM α} {card : SDCard} {rx : List UInt8} {exchanges : List Transfer} (begun : Begun call card rx exchanges) :
    ∃ more value after, call.run (card.hears (rx ++ more)) = some (value, after) ∧
      Lib.Begins (busLine exchanges).frames (framesSince (card.hears (rx ++ more)) after) := by
  obtain ⟨more, value, after, ran, rfl⟩ := begun
  refine ⟨more, value, after, ran, ?_⟩
  rw [framesSince]
  generalize exchangesSince (card.hears (rx ++ more)) after = all
  have begins := @Lib.line_begins _ _ _ Transfer.sent Transfer.received frameLeft (all.take rx.length) (all.drop rx.length)
  rw [List.take_append_drop] at begins
  exact begins

-- A frame cut short opens as the whole one does.
theorem prefix_opens {part frame : BusFrame} (some : part.said ≠ []) (start : part.said <+: frame.said) : part.said.head? = frame.said.head? := by
  obtain ⟨byte, rest, shape⟩ := List.exists_cons_of_ne_nil some
  obtain ⟨more, whole⟩ := start
  rw [← whole, shape]
  rfl

theorem begins_commands (blocks : Nat) (part whole : List BusFrame) (begins : Lib.Begins part whole) (all : CommandsMatch blocks whole) :
    CommandsMatch blocks part := by
  induction begins with
  | nothing frames => exact fun _ inside => absurd inside List.not_mem_nil
  | last part frame frames some start _ =>
      intro cut inside
      rw [List.mem_singleton.mp inside]
      have whole := all frame List.mem_cons_self
      simpa only [opensWith, prefix_opens some start] using whole
  | next frame part frames _ ih =>
      intro cut inside
      rcases List.mem_cons.mp inside with rfl | later
      · exact all cut List.mem_cons_self
      · exact ih (fun other member => all other (List.mem_cons_of_mem _ member)) cut later

theorem begins_blocks (part whole : List BusFrame) (begins : Lib.Begins part whole) :
    (blockFrames part).length ≤ (blockFrames whole).length ∧
      ∀ (k : Nat) (said : List UInt8), (blockFrames part)[k]? = some said → ∃ full, (blockFrames whole)[k]? = some full ∧ said <+: full := by
  induction begins with
  | nothing frames => exact ⟨Nat.zero_le _, fun k said found => by cases found⟩
  | last part frame frames some start _ =>
      have same : isData part = isData frame := by
        rw [isData, isData, prefix_opens some start]
      cases data : isData frame with
      | false =>
          rw [data] at same
          rw [blockFrames, List.filter_cons_of_neg (by rw [same]; decide)]
          exact ⟨Nat.zero_le _, fun k said found => by cases found⟩
      | true =>
          rw [data] at same
          rw [blockFrames, blockFrames, List.filter_cons_of_pos same, List.filter_cons_of_pos data]
          refine ⟨Nat.succ_le_succ (Nat.zero_le _), fun k said found => ?_⟩
          cases k with
          | zero =>
              obtain rfl := Option.some.inj found
              exact ⟨frame.said, rfl, start⟩
          | succ k => cases found
  | next frame part frames _ ih =>
      cases data : isData frame with
      | false =>
          rw [blockFrames, blockFrames, List.filter_cons_of_neg (by rw [data]; decide), List.filter_cons_of_neg (by rw [data]; decide)]
          exact ih
      | true =>
          rw [blockFrames, blockFrames, List.filter_cons_of_pos data, List.filter_cons_of_pos data]
          refine ⟨Nat.succ_le_succ ih.1, fun k said found => ?_⟩
          cases k with
          | zero => exact ⟨frame.said, rfl, Option.some.inj found ▸ List.prefix_refl _⟩
          | succ k => exact ih.2 k said found

theorem block_frames_data (frames : List BusFrame) : blockFrames frames = (dataBlocks frames).map Prod.fst := by
  rw [blockFrames, dataBlocks, List.map_map]
  rfl

theorem written_frames (b : Nat → UInt8) (token : UInt8) (count : Nat) :
    (writtenBlocks b token count).map Prod.fst = (List.range count).map (bufferBlock b token) := by
  rw [writtenBlocks, List.map_map]
  rfl

theorem said_blocks_begun (b : Nat → UInt8) (size : UInt64) (frames : List BusFrame) (status : Int32) (said : ProgramSaid b size frames status) :
    BlocksBegun b size frames := by
  have first (count : Nat) (few : count ≤ size.toNat / 512)
      (blocks : blockFrames frames = (List.range count).map (bufferBlock b (programToken size))) : BlocksBegun b size frames := by
    refine ⟨by rw [blocks, List.length_map, List.length_range]; exact few, fun k said found => ?_⟩
    rw [blocks, List.getElem?_map] at found
    obtain ⟨place, inside, rfl⟩ := Option.map_eq_some_iff.mp found
    obtain ⟨bound, same⟩ := List.getElem?_eq_some_iff.mp inside
    obtain rfl : k = place := (List.getElem_range bound).symm.trans same
    exact List.prefix_refl _
  cases said with
  | refused status failed _ _ none => exact first 0 (Nat.zero_le _) (by rw [block_frames_data, none]; rfl)
  | complete command blocks => exact first _ (Nat.le_refl _) (by rw [block_frames_data, blocks, written_frames])
  | stopped count response command early refused blocks =>
      refine first (count + 1) early ?_
      rw [block_frames_data, blocks, List.map_append, written_frames, List.range_succ, List.map_append]
      rfl

theorem program_loop_same (first second : Nat → UInt8) (blockCnt offset : Nat)
    (same : ∀ p, p < offset + 512 * blockCnt → first p = second p) : programLoop first blockCnt offset = programLoop second blockCnt offset := by
  induction blockCnt generalizing offset with
  | zero => rfl
  | succ blockCnt ih =>
      have block : writeBlock first offset spiStartBlkMulWrite blockSize = writeBlock second offset spiStartBlkMulWrite blockSize := by
        rw [writeBlock, writeBlock, Lib.slice_congr first second offset offset _ fun p inside => same _ ?_]
        have small : blockSize.toNat = 512 := rfl
        omega
      rw [programLoop, programLoop, block, ih (offset + blockSize.toNat) fun p inside => same p ?_]
      have small : blockSize.toNat = 512 := rfl
      omega

theorem program_same (first second : Nat → UInt8) (addr size : UInt64) (positive : size / blockSize.toUInt64 ≠ 0)
    (same : ∀ p, p < size.toNat → first p = second p) : program first addr size = program second addr size := by
  have blocks := block_count_value size
  have count : (size / blockSize.toUInt64).toNat ≠ 0 := fun zero => positive (UInt64.toNat_inj.mp zero)
  have single : size / blockSize.toUInt64 = 1 → writeBlock first 0 spiStartBlock blockSize = writeBlock second 0 spiStartBlock blockSize := by
    intro one
    rw [writeBlock, writeBlock, Lib.slice_congr first second 0 0 _ fun p inside => same _ ?_]
    have small : blockSize.toNat = 512 := rfl
    omega
  have several : programLoop first (programTurns (size / blockSize.toUInt64)) 0 = programLoop second (programTurns (size / blockSize.toUInt64)) 0 := by
    rw [program_turns_positive _ positive]
    exact program_loop_same first second _ 0 fun p inside => same p (by omega)
  rw [program, program]
  by_cases one : size / blockSize.toUInt64 = 1
  · simp only [if_pos one, single one]
  · simp only [if_neg one, several]

theorem one_command_match (code : CmdSupported) (blocks : Nat) (singles : code = .cmd17ReadSingleBlock ∨ code = .cmd24WriteBlock → blocks = 1)
    (several : code = .cmd18ReadMultipleBlock ∨ code = .cmd25WriteMultipleBlock → 1 < blocks) (arg : UInt32) (sent : CmdSupported)
    (sentArg : UInt32) (one : OneCommand code arg sent sentArg) :
    (sent = .cmd17ReadSingleBlock ∨ sent = .cmd24WriteBlock → blocks = 1) ∧
      (sent = .cmd18ReadMultipleBlock ∨ sent = .cmd25WriteMultipleBlock → 1 < blocks) := by
  rcases one with ⟨rfl, -⟩ | rfl | rfl
  · exact ⟨singles, several⟩
  · exact ⟨fun wrong => by simp at wrong, fun wrong => by simp at wrong⟩
  · exact ⟨fun wrong => by simp at wrong, fun wrong => by simp at wrong⟩

-- What is known of the commands on the record holds of their frames.
theorem frames_match {allowed : CmdSupported → UInt32 → Prop} {before after : SDCard} (tells : Tells before after) (sends : Sends allowed before after)
    (blocks : Nat) (matching : ∀ code arg, allowed code arg → (code = .cmd17ReadSingleBlock ∨ code = .cmd24WriteBlock → blocks = 1) ∧
      (code = .cmd18ReadMultipleBlock ∨ code = .cmd25WriteMultipleBlock → 1 < blocks)) : CommandsMatch blocks (framesSince before after) := by
  obtain ⟨events, trace, permitted⟩ := sends
  have told := tells_told tells trace
  have allowedFrame (code : CmdSupported) (other : code ≠ .cmd55AppCmd) (frame : BusFrame) (inside : frame ∈ framesSince before after)
      (opens : opensWith code frame = true) : ∃ arg, allowed code arg := by
    obtain ⟨arg, isAcmd, status, response, member⟩ := (told_sent events _ told code other).mp ⟨frame, inside, opens⟩
    exact ⟨arg, permitted _ _ _ _ _ member⟩
  intro frame inside
  constructor
  · rintro (opens | opens)
    · obtain ⟨arg, permits⟩ := allowedFrame _ (by decide) frame inside opens
      exact (matching _ arg permits).1 (Or.inl rfl)
    · obtain ⟨arg, permits⟩ := allowedFrame _ (by decide) frame inside opens
      exact (matching _ arg permits).1 (Or.inr rfl)
  · rintro (opens | opens)
    · obtain ⟨arg, permits⟩ := allowedFrame _ (by decide) frame inside opens
      exact (matching _ arg permits).2 (Or.inl rfl)
    · obtain ⟨arg, permits⟩ := allowedFrame _ (by decide) frame inside opens
      exact (matching _ arg permits).2 (Or.inr rfl)

theorem program_frames_match (b : Nat → UInt8) (addr size : UInt64) (before after : SDCard) (value : Int32)
    (positive : size.toNat / 512 ≠ 0) (ran : (program b addr size).run before = some (value, after)) :
    CommandsMatch (size.toNat / 512) (framesSince before after) := by
  have single : size / blockSize.toUInt64 = 1 ↔ size.toNat / 512 = 1 := by
    rw [← UInt64.toNat_inj, block_count_value]
    rfl
  have tells := Lib.ends_run (tells_on_calls.program b addr size) ran fun _ _ => ⟨fun _ => trivial, trivial, trivial⟩
  refine frames_match tells (program_sends b addr size before after value ran) _ fun code arg sent => ?_
  refine one_command_match (programCode size) _ (fun alone => ?_) (fun multiple => ?_) _ _ _ sent.2
  · refine single.mp (Decidable.not_not.mp fun several => ?_)
    simp [programCode, several] at alone
  · have several : ¬ size / blockSize.toUInt64 = 1 := fun alone => by simp [programCode, alone] at multiple
    rw [single] at several
    omega

theorem read_frames_match (b : Nat → UInt8) (addr size : UInt64) (before after : SDCard) (value : Int32 × (Nat → UInt8))
    (positive : size.toNat / 512 ≠ 0) (ran : (read b addr size).run before = some (value, after)) :
    CommandsMatch (size.toNat / 512) (framesSince before after) := by
  have several : size / blockSize.toUInt64 > 1 ↔ 1 < size.toNat / 512 := by
    rw [gt_iff_lt, UInt64.lt_iff_toNat_lt, block_count_value]
    rfl
  have tells := Lib.ends_run (tells_on_calls.read b addr size) ran fun _ _ => ⟨trivial, trivial⟩
  refine frames_match tells (read_sends b addr size before after value ran) _ fun code arg sent => ?_
  refine one_command_match (readCode size) _ (fun single => ?_) (fun multiple => ?_) _ _ _ sent.2
  · have few : ¬ size / blockSize.toUInt64 > 1 := fun many => by simp [readCode, many] at single
    rw [several] at few
    omega
  · refine several.mp (Decidable.not_not.mp fun few => ?_)
    simp [readCode, few] at multiple

theorem begun_exists {α : Type} {call : DriverM α} {card : SDCard}
    (continues : ∀ rx, ∃ more value after, call.run (card.hears (rx ++ more)) = some (value, after)) (rx : List UInt8) :
    ∃ exchanges, Begun call card rx exchanges := by
  obtain ⟨more, value, after, ran⟩ := continues rx
  exact ⟨_, more, value, after, ran, rfl⟩

-- All that a run exchanges has been exchanged once its answers are given.
theorem begun_whole {α : Type} {call : DriverM α} {card : SDCard} {rx : List UInt8} {value : α} {after : SDCard}
    (ran : call.run (card.hears rx) = some (value, after)) (exchanged : Exchanged (card.hears rx) (exchangesSince (card.hears rx) after) after) :
    Begun call card rx (exchangesSince (card.hears rx) after) := by
  refine ⟨[], value, after, by rw [List.append_nil]; exact ran, ?_⟩
  have answers := congrArg List.length exchanged.answers
  rw [List.length_append, List.length_map, show (card.hears rx).bus.rx = rx from rfl] at answers
  rw [List.append_nil, List.take_of_length_le (by omega)]

theorem sent_frame {card after : SDCard} {rx : List UInt8} (tells : Tells (card.hears rx) after) {code : CmdSupported} (other : code ≠ .cmd55AppCmd)
    {arg r1 : UInt32} {isAcmd : Bool} {status : Int32} (member : Event.command code arg isAcmd status r1 ∈ newEvents card after) :
    ∃ frame ∈ framesSince (card.hears rx) after, opensWith code frame = true := by
  obtain ⟨events, line, trace, spoke, told⟩ := tells
  rw [new_events_append card after events trace] at member
  rw [spoke_frames spoke]
  exact (told_sent events _ told code other).mpr ⟨arg, isAcmd, status, r1, member⟩

-- A zero-length request: CMD17 for no block, and CMD25 for none.
theorem empty_read_unkept (card : SDCard) (b : Nat → UInt8) (addr : UInt64) (valid : card.isValidRead addr 0 = true)
    (ready : card.isInitialized = true) : ¬ card.ReadKept b addr 0 := by
  intro kept
  obtain ⟨rx, status, after, ran⟩ := silent_run card (.read b addr 0) (fun wrong => by cases wrong)
  obtain ⟨answer, r1, member⟩ := read_command_sent b addr 0 card valid ready rx status after ran
  obtain ⟨⟨found, buffer⟩, read, reads, ran⟩ := (Lib.bind_run_some _ _ _ _ _).mp ran
  obtain ⟨-, rfl⟩ := (Lib.pure_run_some _ _ _ _).mp ran
  have tells := Lib.ends_run (tells_on_calls.read b addr 0) reads fun _ _ => ⟨trivial, trivial⟩
  obtain ⟨frame, inside, opens⟩ := sent_frame tells (by decide) member
  have matching := kept.soFar rx _ (begun_whole reads (tells_exchanged tells)) frame inside
  exact absurd (matching.1 (Or.inl opens)) (by decide)

theorem empty_program_unkept (card : SDCard) (b : Nat → UInt8) (addr : UInt64) (valid : card.isValidProgram addr 0 = true)
    (ready : card.isInitialized = true) : ¬ card.ProgramKept b addr 0 := by
  intro kept
  obtain ⟨rx, status, after, ran⟩ := silent_run card (.program b addr 0) (fun wrong => by cases wrong)
  obtain ⟨answer, r1, member⟩ := program_command_sent b addr 0 card valid ready rx status after ran
  have tells := Lib.ends_run (tells_on_calls.program b addr 0) ran fun _ _ => ⟨fun _ => trivial, trivial, trivial⟩
  obtain ⟨frame, inside, opens⟩ := sent_frame tells (by decide) member
  have matching := (kept.soFar rx _ (begun_whole ran (tells_exchanged tells))).2 frame inside
  exact absurd (matching.2 (Or.inr opens)) (by decide)

theorem whole_positive (size : UInt64) (whole : size % blockSize.toUInt64 = 0) (positive : size ≠ 0) : size.toNat / 512 ≠ 0 := by
  have same := congrArg UInt64.toNat whole
  rw [UInt64.toNat_mod, UInt64.toNat_zero, show blockSize.toUInt64.toNat = 512 from rfl] at same
  have nonzero : size.toNat ≠ 0 := fun zero => positive (UInt64.toNat_inj.mp zero)
  omega

theorem program_kept_iff (card : SDCard) (ready : card.isInitialized = true) (b : Nat → UInt8) (addr size : UInt64)
    (valid : card.isValidProgram addr size = true) : card.ProgramKept b addr size ↔ size ≠ 0 := by
  constructor
  · rintro kept rfl
    exact empty_program_unkept card b addr valid ready kept
  · intro positive
    have blocks := whole_positive size (of_decide_eq_true valid).2.1 positive
    have count : size / blockSize.toUInt64 ≠ 0 := fun zero => blocks (by rw [← block_count_value, zero]; rfl)
    have said (rx : List UInt8) (status : Int32) (after : SDCard) (ran : (program b addr size).run (card.hears rx) = some (status, after)) :=
      program_said b addr size (card.hears rx) after status ready valid count ran
    refine ⟨begun_exists (calls_continue card (.program b addr size) fun wrong => (by cases wrong)), fun rx exchanges begun => ?_, said, fun other same rx => ?_⟩
    · obtain ⟨more, status, after, ran, begins⟩ := begun_frames begun
      obtain ⟨few, starts⟩ := begins_blocks _ _ begins
      obtain ⟨whole, inOrder⟩ := said_blocks_begun b size _ status (said _ status after ran)
      refine ⟨⟨Nat.le_trans few whole, fun k part found => ?_⟩,
        begins_commands _ _ _ begins (program_frames_match b addr size _ after status blocks ran)⟩
      obtain ⟨full, place, start⟩ := starts k part found
      exact start.trans (inOrder k full place)
    · rw [program_same other b addr size count same]

theorem read_continues (card : SDCard) (b : Nat → UInt8) (addr size : UInt64) (rx : List UInt8) :
    ∃ more value after, (read b addr size).run (card.hears (rx ++ more)) = some (value, after) :=
  timely_continues (fun _ _ => timely_read b addr size) card rx

theorem read_kept_iff (card : SDCard) (crcOff : card.crcOn = false) (ready : card.isInitialized = true) (b : Nat → UInt8)
    (addr size : UInt64) (valid : card.isValidRead addr size = true) : card.ReadKept b addr size ↔ size ≠ 0 := by
  constructor
  · rintro kept rfl
    exact empty_read_unkept card b addr valid ready kept
  · intro positive
    have blocks := whole_positive size (of_decide_eq_true valid).2.1 positive
    have said (rx : List UInt8) (status : Int32) (filled : Nat → UInt8) (after : SDCard)
        (ran : (read b addr size).run (card.hears rx) = some ((status, filled), after)) :
        ReadSaid none size b filled (framesSince (card.hears rx) after) status := by
      have said := read_said b addr size (card.hears rx) after status filled ready valid ran
      rwa [show (card.hears rx).blockCheck = none from if_neg (by rw [show (card.hears rx).crcOn = false from crcOff]; decide)] at said
    refine ⟨begun_exists (read_continues card b addr size), fun rx exchanges begun => ?_, said, fun rx status filled after ran p outside => ?_⟩
    · obtain ⟨more, value, after, ran, begins⟩ := begun_frames begun
      exact begins_commands _ _ _ begins (read_frames_match b addr size _ after value blocks ran)
    · have beyond : 512 * (size.toNat / 512) ≤ p := by omega
      cases said rx status filled after ran with
      | refused _ _ _ same => rw [same]
      | single _ _ stored => exact stored.above p beyond
      | multiple _ _ _ stored _ => exact stored.above p beyond

theorem transfers_kept_iff (card : SDCard) (reachable : card.Reachable) (ready : card.isInitialized = true) (b : Nat → UInt8)
    (addr size : UInt64) :
    (card.isValidProgram addr size = true → (card.ProgramKept b addr size ↔ size ≠ 0)) ∧
      (card.isValidRead addr size = true → (card.ReadKept b addr size ↔ size ≠ 0)) :=
  ⟨program_kept_iff card ready b addr size, read_kept_iff card (reachable_configured card reachable).crcOff ready b addr size⟩

theorem empty_requests_send_commands : ∃ card : SDCard, card.Reachable ∧ card.isInitialized = true ∧
    card.isValidProgram 0 0 = true ∧ card.isValidRead 0 0 = true ∧
    ¬ card.ProgramKept (fun _ => 0) 0 0 ∧ ¬ card.ReadKept (fun _ => 0) 0 0 := by
  obtain ⟨card, reachable, ready, -⟩ := high_capacity_card_reached
  have inside : (0 : UInt64) + 0 ≤ card.size := UInt64.le_iff_toNat_le.mpr (Nat.zero_le _)
  have program : card.isValidProgram 0 0 = true := decide_eq_true ⟨by decide, by decide, inside⟩
  have read : card.isValidRead 0 0 = true := decide_eq_true ⟨by decide, by decide, inside⟩
  exact ⟨card, reachable, ready, program, read, empty_program_unkept card _ 0 program ready, empty_read_unkept card _ 0 read ready⟩

theorem high_capacity_card_transfers : ∃ card : SDCard, card.Reachable ∧ card.isInitialized = true ∧
    card.ProgramKept (fun _ => 0) 512 1024 ∧ card.ReadKept (fun _ => 0) 512 1024 := by
  obtain ⟨card, reachable, ready, -, sectors, -⟩ := high_capacity_card_reached
  have inside : (512 : UInt64) + 1024 ≤ card.size := by
    refine UInt64.le_iff_toNat_le.mpr ?_
    rw [size_wraps, sectors]
    decide
  have program : card.isValidProgram 512 1024 = true := decide_eq_true ⟨by decide, by decide, inside⟩
  have read : card.isValidRead 512 1024 = true := decide_eq_true ⟨by decide, by decide, inside⟩
  have kept := transfers_kept_iff card reachable ready (fun _ => 0) 512 1024
  exact ⟨card, reachable, ready, (kept.1 program).mpr (by decide), (kept.2 read).mpr (by decide)⟩

end SDCardFs.Driver
