import SDCardFs.Driver.Causal
import SDCardFs.Driver.Telling

set_option autoImplicit false

namespace SDCardFs.Driver

-- A block is recorded as received exactly when _read returns zero, and then it
-- has the length asked for.
theorem read_block_adds (length : UInt32) : Lib.Ends (readBlock length) fun before answer after =>
    (answer.1 = 0 ∧ answer.2.length = length.toNat ∧ Adds [.receivedBlock answer.2] before after) ∨
      (answer.1 ≠ 0 ∧ Adds [.failedBlock] before after) := by
  intro before answer after ran
  obtain ⟨found, waited, waits, ran⟩ := (Lib.bind_run_some _ _ _ _ _).mp ran
  have token := Lib.keeps_run (wait_token_only_bus _) waits
  split at ran
  · obtain ⟨_, _, records, ran⟩ := (Lib.bind_run_some _ _ _ _ _).mp ran
    obtain ⟨rfl, rfl⟩ := (Lib.pure_run_some _ _ _ _).mp ran
    exact Or.inr ⟨by decide, adds_trans [] _ _ _ _ (adds_nothing _ _ token) (Lib.keeps_run (record_adds _) records)⟩
  · obtain ⟨data, high, low, card, framed, whole, ran⟩ := frame_taken length _ _ _ _ ran
    have moved := only_bus_trans _ _ _ token framed
    split at ran
    · obtain ⟨_, _, records, ran⟩ := (Lib.bind_run_some _ _ _ _ _).mp ran
      obtain ⟨rfl, rfl⟩ := (Lib.pure_run_some _ _ _ _).mp ran
      exact Or.inr ⟨by simp only; decide, adds_trans [] _ _ _ _ (adds_nothing _ _ moved) (Lib.keeps_run (record_adds _) records)⟩
    · obtain ⟨_, _, records, ran⟩ := (Lib.bind_run_some _ _ _ _ _).mp ran
      obtain ⟨rfl, rfl⟩ := (Lib.pure_run_some _ _ _ _).mp ran
      exact Or.inl ⟨rfl, whole, adds_trans [] _ _ _ _ (adds_nothing _ _ moved) (Lib.keeps_run (record_adds _) records)⟩

theorem slice_store (buffer : Nat → UInt8) (offset : Nat) (data : List UInt8) : Lib.slice (store buffer offset data) offset data.length = data := by
  refine List.ext_getElem (Lib.slice_length _ _ _) fun p before inside => ?_
  simp [Lib.slice, store, inside]

theorem store_below (buffer : Nat → UInt8) (offset p : Nat) (data : List UInt8) (below : p < offset) : store buffer offset data p = buffer p := by
  rw [store, if_neg (by omega)]

-- The sum a block is compared with, when the CRC is on.
def SDCard.blockCheck (card : SDCard) : Option UInt16 := if card.crcOn then some card.uninitialised.toUInt16 else none

theorem adds_block_check {events : List Event} {before after : SDCard} (added : Adds events before after) : after.blockCheck = before.blockCheck := by
  rw [added]
  rfl

theorem store_above (buffer : Nat → UInt8) (offset p : Nat) (data : List UInt8) (above : offset + data.length ≤ p) :
    store buffer offset data p = buffer p := by
  rw [store, if_neg (by omega)]

theorem fillers_heard (count : Nat) : Lib.Ends (transferFillers count) fun before data after => Heard before data after := by
  induction count with
  | zero => exact Lib.ends_pure _ _ fun before => spoke_same before before rfl
  | succ count ih =>
      intro before data after ran
      obtain ⟨byte, between, first, ran⟩ := (Lib.bind_run_some _ _ _ _ _).mp ran
      obtain ⟨rest, _, others, ran⟩ := (Lib.bind_run_some _ _ _ _ _).mp ran
      obtain ⟨rfl, rfl⟩ := (Lib.pure_run_some _ _ _ _).mp ran
      exact heard_trans (Lib.ends_run filler_heard first) (Lib.ends_run ih others)

theorem wait_token_heard (token : UInt8) : Lib.Ends (waitToken token) fun before found after => ∃ answers, Heard before answers after ∧
    ∀ more, seekToken token 50000 (answers ++ more) = some (found, more) := by
  intro before found after ran
  obtain ⟨answers, heard⟩ := Lib.keeps_run (heard_on_fillers.wait_token_loop token 50000) ran
  obtain ⟨sought, -⟩ := follows_ran (follows_wait_token token 50000) ran
  obtain ⟨taken, parts, again⟩ := seek_token_split token 50000 _ _ _ sought
  obtain rfl := List.append_cancel_right ((heard_answers heard).symm.trans parts)
  exact ⟨answers, heard, again⟩

-- What _read makes of the answers it hears, whatever comes after them.
structure BlockHeard (card : SDCard) (answers : List UInt8) (answer : Int32 × List UInt8) : Prop where
  came : answer.1 = 0 → answer.2.length = 512 ∧ ∀ more, takeBlock card.blockCheck (answers ++ more) = some (answer.2, more)
  missed : answer.1 ≠ 0 → answer.2.length ≤ 512 ∧ (∀ more, takeBlock card.blockCheck (answers ++ more) = none) ∧
    (card.crcOn = false → answers.length = 50000 ∧ spiStartBlock ∉ answers)

theorem check_fails (card : SDCard) (high low : UInt8) :
    checkHolds card.blockCheck high low = true ↔
      ¬ (card.crcOn = true ∧ card.uninitialised.toUInt16 ≠ (high.toUInt16 <<< 8) ||| low.toUInt16) := by
  cases crc : card.crcOn with
  | false => simp [SDCard.blockCheck, crc, checkHolds]
  | true => simp [SDCard.blockCheck, crc, checkHolds]

theorem read_block_heard : Lib.Ends (readBlock blockSize) fun before answer after =>
    ∃ answers, Heard before answers after ∧ BlockHeard before answers answer := by
  intro before answer after ran
  obtain ⟨found, waited, waits, ran⟩ := (Lib.bind_run_some _ _ _ _ _).mp ran
  obtain ⟨answers, heard, sought⟩ := Lib.ends_run (wait_token_heard _) waits
  have silent (event : Event) (last : SDCard) (records : (record event).run last = some ((), after)) : Heard last [] after :=
    spoke_same last after (by rw [record_run _ _ _ _ records])
  cases found with
  | false =>
      obtain ⟨_, _, records, ran⟩ := (Lib.bind_run_some _ _ _ _ _).mp ran
      obtain ⟨rfl, rfl⟩ := (Lib.pure_run_some _ _ _ _).mp ran
      have whole := heard_trans heard (silent _ _ records)
      rw [List.append_nil] at whole
      refine ⟨answers, whole, fun came => absurd came (by decide), fun _ => ⟨Nat.zero_le _, fun more => take_block_unseen _ _ _ sought, fun _ => ?_⟩⟩
      have missed := sought []
      rw [List.append_nil] at missed
      obtain ⟨waited, parts, count, absent⟩ := seek_token_missed _ _ _ _ missed
      rw [List.append_nil] at parts
      exact parts ▸ ⟨count, absent⟩
  | true =>
      obtain ⟨data, filled, fills, ran⟩ := (Lib.bind_run_some _ _ _ _ _).mp ran
      obtain ⟨high, highAt, highs, ran⟩ := (Lib.bind_run_some _ _ _ _ _).mp ran
      obtain ⟨low, lowAt, lows, ran⟩ := (Lib.bind_run_some _ _ _ _ _).mp ran
      obtain ⟨card, _, got, ran⟩ := (Lib.bind_run_some _ _ _ _ _).mp ran
      obtain ⟨rfl, rfl⟩ := Prod.mk.inj (Option.some.inj got)
      have moved := only_bus_trans _ _ _ (Lib.keeps_run (wait_token_only_bus _) waits) (only_bus_trans _ _ _
        (Lib.keeps_run (transfer_fillers_only_bus _) fills)
        (only_bus_trans _ _ _ (Lib.keeps_run (transfer_only_bus _) highs) (Lib.keeps_run (transfer_only_bus _) lows)))
      have whole : data.length = 512 := Lib.ends_run (transfer_fillers_length _) fills
      have check : Heard filled [high, low] lowAt := heard_trans (Lib.ends_run filler_heard highs) (Lib.ends_run filler_heard lows)
      have frame := heard_trans heard (heard_trans (Lib.ends_run (fillers_heard _) fills) check)
      have sum : lowAt.blockCheck = before.blockCheck := adds_block_check (adds_nothing _ _ moved)
      have taken (more : List UInt8) := take_block_framed before.blockCheck answers data high low more sought whole
      have holds := check_fails lowAt high low
      rw [sum] at holds
      split at ran
      · rename_i wrong
        obtain ⟨_, _, records, ran⟩ := (Lib.bind_run_some _ _ _ _ _).mp ran
        obtain ⟨rfl, rfl⟩ := (Lib.pure_run_some _ _ _ _).mp ran
        have spoke := heard_trans frame (silent _ _ records)
        rw [List.append_nil] at spoke
        refine ⟨_, spoke, fun came => absurd came (show ¬ errorCrc = 0 by decide), fun _ => ⟨Nat.le_of_eq whole, fun more => ?_, fun off => ?_⟩⟩
        · rw [taken, if_neg fun right => holds.mp right wrong]
        · rw [moved] at wrong
          exact absurd (off.symm.trans wrong.1) (by decide)
      · rename_i right
        obtain ⟨_, _, records, ran⟩ := (Lib.bind_run_some _ _ _ _ _).mp ran
        obtain ⟨rfl, rfl⟩ := (Lib.pure_run_some _ _ _ _).mp ran
        have spoke := heard_trans frame (silent _ _ records)
        rw [List.append_nil] at spoke
        exact ⟨_, spoke, fun _ => ⟨whole, fun more => by rw [taken, if_pos (holds.mpr right)]⟩, fun missed => absurd rfl missed⟩

def slices (buffer : Nat → UInt8) (offset count : Nat) : List (List UInt8) := (List.range count).map fun k => Lib.slice buffer (offset + 512 * k) 512

theorem slices_succ (buffer : Nat → UInt8) (offset count : Nat) :
    slices buffer offset (count + 1) = Lib.slice buffer offset 512 :: slices buffer (offset + 512) count := by
  have shift : (fun k => Lib.slice buffer (offset + 512 * k) 512) ∘ Nat.succ = fun k => Lib.slice buffer (offset + 512 + 512 * k) 512 := by
    funext k
    rw [Function.comp_apply, Nat.succ_eq_add_one, Nat.mul_add, Nat.mul_one, Nat.add_comm (512 * k), Nat.add_assoc]
  rw [slices, List.range_succ_eq_map, List.map_cons, List.map_map, shift, slices]
  rfl

-- What a loop over so many blocks makes of the answers it hears: the blocks of
-- them, stored one after another, and what is left where one does not come.
structure LoopHeard (card : SDCard) (blockCnt offset : Nat) (buffer filled : Nat → UInt8) (answers : List UInt8) (blocks : List (List UInt8))
    (unread : List UInt8) : Prop where
  taken : ∀ more, takeBlocks card.blockCheck blockCnt (answers ++ more) = (blocks, unread ++ more)
  stored : blocks = slices filled offset blocks.length
  below : ∀ p, p < offset → filled p = buffer p
  above : ∀ p, offset + 512 * blockCnt ≤ p → filled p = buffer p
  few : blocks.length ≤ blockCnt
  whole : blocks.length = blockCnt → unread = []
  missed : blocks.length < blockCnt → card.crcOn = false → unread.length = 50000 ∧ spiStartBlock ∉ unread

theorem read_loop_heard (status : Int32) (blockCnt offset : Nat) (buffer : Nat → UInt8) :
    Lib.Ends (readLoop status blockCnt offset buffer) fun before answer after => ∃ answers blocks unread, Heard before answers after ∧
      LoopHeard before blockCnt offset buffer answer.2 answers blocks unread ∧
      answer.1 = if blocks.length = blockCnt then status else errorNoResponse := by
  induction blockCnt generalizing offset buffer with
  | zero =>
      refine Lib.ends_pure _ _ fun before => ⟨[], [], [], spoke_same before before rfl, ?_, rfl⟩
      exact ⟨fun _ => rfl, rfl, fun _ _ => rfl, fun _ _ => rfl, Nat.le_refl 0, fun _ => rfl, fun wrong => absurd wrong (Nat.lt_irrefl 0)⟩
  | succ blockCnt ih =>
      intro before answer after ran
      obtain ⟨⟨failed, data⟩, received, reads, ran⟩ := (Lib.bind_run_some _ _ _ _ _).mp ran
      obtain ⟨answers, heard, block⟩ := Lib.ends_run read_block_heard reads
      have length : blockSize.toNat = 512 := rfl
      by_cases came : failed = 0
      · subst came
        obtain ⟨whole, taken⟩ := block.came rfl
        rcases Lib.ends_run (read_block_adds blockSize) reads with ⟨-, -, added⟩ | ⟨missed, -⟩
        · have sum := adds_block_check added
          have crc : received.crcOn = before.crcOn := by
            rw [added]
          obtain ⟨later, blocks, unread, more, rest, status⟩ := Lib.ends_run (ih _ _) ran
          rw [length] at rest
          have first : Lib.slice answer.2 offset 512 = data := by
            rw [Lib.slice_congr answer.2 (store buffer offset data) offset offset _ fun p inside => rest.below _ (by omega)]
            dsimp only at whole
            rw [← whole, slice_store]
          refine ⟨answers ++ later, data :: blocks, unread, heard_trans heard more, ⟨fun further => ?_, ?_, fun p inside => ?_, fun p outside => ?_,
            Nat.succ_le_succ rest.few, fun all => rest.whole (Nat.succ.inj all), fun missed off => rest.missed (Nat.lt_of_succ_lt_succ missed) ?_⟩, ?_⟩
          · have tail := rest.taken further
            rw [sum] at tail
            rw [List.append_assoc, take_blocks_came (taken _), tail]
          · rw [List.length_cons, slices_succ, first, ← rest.stored]
          · rw [rest.below p (by omega), store_below _ _ _ _ inside]
          · rw [rest.above p (by omega), store_above _ _ _ _ (by dsimp only at whole; omega)]
          · rw [crc, off]
          · rw [status]
            simp only [List.length_cons, Nat.add_right_cancel_iff]
        · exact absurd rfl missed
      · dsimp only at ran
        rw [if_pos (Ne.symm came)] at ran
        obtain ⟨rfl, rfl⟩ := (Lib.pure_run_some _ _ _ _).mp ran
        obtain ⟨short, missed, waited⟩ := block.missed came
        refine ⟨answers, [], answers, heard, ⟨fun more => take_blocks_missed (missed more) blockCnt, rfl, fun p inside => store_below _ _ _ _ inside,
          fun p outside => store_above _ _ _ _ (by dsimp only at short; omega), Nat.zero_le _, fun none => absurd none (Nat.succ_ne_zero _).symm,
          fun _ off => waited off⟩, ?_⟩
        exact (if_neg (Nat.succ_ne_zero blockCnt).symm).symm

-- What a card answers after the R1 byte of the read command, and the blocks in it.
def readAnswered (size : UInt64) (frames : List BusFrame) : List UInt8 := ((lastFrame (readCode size) frames).map afterR1).getD []

def blocksFound (check : Option UInt16) (size : UInt64) (frames : List BusFrame) : List (List UInt8) × List UInt8 :=
  takeBlocks check (size.toNat / 512) (readAnswered size frames)

def blocksRead (check : Option UInt16) (size : UInt64) (frames : List BusFrame) : List (List UInt8) := (blocksFound check size frames).1

-- What is left after the blocks is heard while the card is released, and before
-- a CMD12 selected again; where a block did not come, after 50000 answers
-- without a start token.
structure BlocksStored (check : Option UInt16) (size : UInt64) (buffer filled : Nat → UInt8) (frames : List BusFrame) : Prop where
  stored : blocksRead check size frames = slices filled 0 (blocksRead check size frames).length
  above : ∀ p, 512 * (size.toNat / 512) ≤ p → filled p = buffer p
  few : (blocksRead check size frames).length ≤ size.toNat / 512
  left : ∃ unread released, (blocksFound check size frames).2 = unread ++ released ∧
    released.length = (if size > blockSize.toUInt64 then 3 else 1) ∧ ((blocksRead check size frames).length = size.toNat / 512 → unread = []) ∧
    ((blocksRead check size frames).length < size.toNat / 512 → check = none → unread.length = 50000 ∧ spiStartBlock ∉ unread)

-- What a read says on the bus and what it stores and returns.
inductive ReadSaid (check : Option UInt16) (size : UInt64) (buffer filled : Nat → UInt8) (frames : List BusFrame) : Int32 → Prop where
  | refused (status : Int32) : status ≠ ok → ¬ commandAccepted (readCode size) frames → filled = buffer → ReadSaid check size buffer filled frames status
  | single : ¬ size > blockSize.toUInt64 → commandAccepted (readCode size) frames → BlocksStored check size buffer filled frames →
      ReadSaid check size buffer filled frames (if (blocksRead check size frames).length = size.toNat / 512 then ok else errorNoResponse)
  | multiple (status : Int32) : size > blockSize.toUInt64 → commandAccepted (readCode size) frames → BlocksStored check size buffer filled frames →
      (status = ok ↔ commandAccepted .cmd12StopTransmission frames) → ReadSaid check size buffer filled frames status

theorem read_code_plain (size : UInt64) : keepsSelected (readCode size) = true ∧ readCode size ≠ .cmd55AppCmd ∧
    readCode size ≠ .cmd12StopTransmission := by
  rw [readCode]
  split
  · exact ⟨rfl, by decide, by decide⟩
  · exact ⟨rfl, by decide, by decide⟩

theorem block_check_none (card : SDCard) (unchecked : card.blockCheck = none) : card.crcOn = false := by
  cases crc : card.crcOn with
  | false => rfl
  | true =>
      rw [SDCard.blockCheck, if_pos crc] at unchecked
      cases unchecked

-- The blocks of the loop, in the frame of the command they answer.
theorem loop_blocks_stored {card : SDCard} {size : UInt64} {buffer filled : Nat → UInt8} {answers unread : List UInt8} {blocks : List (List UInt8)}
    (looped : LoopHeard card (size.toNat / 512) 0 buffer filled answers blocks unread) (frames : List BusFrame) (more : List UInt8)
    (answered : readAnswered size frames = answers ++ more) (short : more.length = if size > blockSize.toUInt64 then 3 else 1) :
    blocksRead card.blockCheck size frames = blocks ∧ BlocksStored card.blockCheck size buffer filled frames := by
  have found : blocksFound card.blockCheck size frames = (blocks, unread ++ more) := by
    rw [blocksFound, answered, looped.taken]
  have read : blocksRead card.blockCheck size frames = blocks := by
    rw [blocksRead, found]
  refine ⟨read, ?_, fun p outside => looped.above p (by omega), ?_, unread, more, by rw [found], short, fun all => ?_, fun missed unchecked => ?_⟩
  · rw [read]
    exact looped.stored
  · rw [read]
    exact looped.few
  · rw [read] at all
    exact looped.whole all
  · rw [read] at missed
    exact looped.missed missed (block_check_none card unchecked)

theorem data_frames {code : CmdSupported} {arg : UInt32} {isAcmd : Bool} {left : Nat} {tries : List Attempt} {own : BusFrame}
    (tried : Tries code arg isAcmd left tries own) (notAsking : code ≠ .cmd55AppCmd) (right : accepted own = true) (silent : afterR1 own = [])
    (answers : List UInt8) (later : List BusFrame) (other : ∀ frame ∈ later, opensWith code frame = false) :
    commandAccepted code (Lib.hearOn (tries.flatMap Attempt.frames) answers ++ later) ∧
      (lastFrame code (Lib.hearOn (tries.flatMap Attempt.frames) answers ++ later)).map afterR1 = some answers := by
  obtain ⟨heard, still, frames⟩ := tries_hear tried answers
  have polls := (tries_answered tried).2
  rw [← frames]
  constructor
  · refine (command_accepted_append _ _ _).mpr (Or.inl ((tries_accepted still notAsking).mpr ?_))
    rw [accepted, r1_byte_hears polls]
    exact right
  · rw [last_frame_other _ other, tries_last_frame still, Option.map_some, after_r1_hears polls, silent, List.nil_append]

theorem read_said (b : Nat → UInt8) (addr size : UInt64) (before after : SDCard) (status : Int32) (filled : Nat → UInt8)
    (initialised : before.isInitialized = true) (valid : before.isValidRead addr size = true)
    (ran : (read b addr size).run before = some ((status, filled), after)) :
    ReadSaid before.blockCheck size b filled (framesSince before after) status := by
  obtain ⟨card, same, got, ran⟩ := (Lib.bind_run_some _ _ _ _ _).mp ran
  obtain ⟨rfl, rfl⟩ := Prod.mk.inj (Option.some.inj got)
  simp only [valid, initialised, not_true_eq_false, if_false] at ran
  obtain ⟨keeps, notAsking, notStop⟩ := read_code_plain size
  obtain ⟨answer, commanded, commands, ran⟩ := (Lib.bind_run_some _ _ _ _ _).mp ran
  change (cmd (readCode size) _ _).run _ = _ at commands
  obtain ⟨lead, tries, own, spoke, tried, valued, kept, -⟩ := Lib.ends_run (cmd_tries_spoke (readCode size) _ _) commands
  have effect := Lib.ends_run (cmd_effect (readCode size) _ _) commands
  by_cases failed : ok = answer.1
  · have right : accepted own = true := decide_eq_true (valued.r1.symm.trans failed.symm)
    have silent := kept keeps failed.symm
    rw [if_neg fun refused => refused failed] at ran
    obtain ⟨⟨looping, stored⟩, looped, loops, ran⟩ := (Lib.bind_run_some _ _ _ _ _).mp ran
    obtain ⟨answers, blocks, unread, heard, found, counted⟩ := Lib.ends_run (read_loop_heard _ _ _ _) loops
    rw [block_count_value] at found counted
    have sum : commanded.blockCheck = before.blockCheck := by
      rw [effect.frame]
      rfl
    obtain ⟨_, unselected, unselects, ran⟩ := (Lib.bind_run_some _ _ _ _ _).mp ran
    obtain ⟨released, leaving⟩ := Lib.ends_run unselect_heard unselects
    have line := spoke_trans spoke (heard_trans heard leaving)
    rw [Lib.line_append_lead _ _ (tries_frames tried)] at line
    dsimp only at ran found counted
    by_cases several : size > blockSize.toUInt64
    · rw [if_pos several] at ran
      obtain ⟨stop, stopped, stops, ran⟩ := (Lib.bind_run_some _ _ _ _ _).mp ran
      obtain ⟨same, rfl⟩ := (Lib.pure_run_some _ _ _ _).mp ran
      obtain ⟨rfl, rfl⟩ := Prod.mk.inj same
      obtain ⟨more, stopTries, stopOwn, stopSpoke, stopTried, stopValued, -, short⟩ := Lib.ends_run (cmd_tries_spoke _ _ _) stops
      have frames := spoke_frames (spoke_trans line stopSpoke)
      rw [Lib.append_frames, Lib.hear_on_twice] at frames
      have other := tries_other stopTried (readCode size) notStop.symm notAsking.symm
      obtain ⟨command, answered⟩ := data_frames tried notAsking right silent (answers ++ [released] ++ more) _ other
      rw [← frames] at command answered
      obtain ⟨-, stores⟩ := loop_blocks_stored found (framesSince before stopped) ([released] ++ more) (by
        rw [readAnswered, answered, List.append_assoc]
        rfl) (by rw [List.length_append, short rfl, if_pos several]; rfl)
      rw [sum] at stores
      refine .multiple _ several command stores ?_
      obtain ⟨_, heardTries, heardFrames⟩ := tries_hear tried (answers ++ [released] ++ more)
      rw [frames, command_accepted_append, ← heardFrames, or_iff_right (accepted_opens (tries_other heardTries _ notStop (by decide))),
        tries_accepted stopTried (by decide), stopValued.r1]
      exact ⟨fun stops => decide_eq_true stops, fun stops => of_decide_eq_true stops⟩
    · rw [if_neg several] at ran
      obtain ⟨same, rfl⟩ := (Lib.pure_run_some _ _ _ _).mp ran
      obtain ⟨rfl, rfl⟩ := Prod.mk.inj same
      have frames : framesSince before unselected = Lib.hearOn (tries.flatMap Attempt.frames) (answers ++ [released]) := spoke_frames line
      obtain ⟨command, answered⟩ := data_frames tried notAsking right silent (answers ++ [released]) [] fun _ inside => absurd inside List.not_mem_nil
      rw [List.append_nil, ← frames] at command answered
      obtain ⟨read, stores⟩ := loop_blocks_stored found (framesSince before unselected) [released] (by rw [readAnswered, answered]; rfl)
        (by rw [if_neg several]; rfl)
      rw [sum] at read stores
      have single := ReadSaid.single several command stores
      rw [read] at single
      rw [counted, ← failed]
      exact single
  · rw [if_pos failed] at ran
    obtain ⟨same, rfl⟩ := (Lib.pure_run_some _ _ _ _).mp ran
    obtain ⟨rfl, rfl⟩ := Prod.mk.inj same
    refine .refused _ (Ne.symm failed) (fun accepts => ?_) rfl
    rw [spoke_frames spoke, tries_accepted tried notAsking] at accepts
    exact failed (valued.r1.trans (of_decide_eq_true accepts)).symm

-- The read command accepted and every block of the request answered and stored.
def ReadDone (check : Option UInt16) (size : UInt64) (filled : Nat → UInt8) (frames : List BusFrame) : Prop :=
  commandAccepted (readCode size) frames ∧ blocksRead check size frames = slices filled 0 (size.toNat / 512)

-- A block that _read fails for: no start token, or check bytes that differ.
def BlockMissed (check : Option UInt16) (size : UInt64) (frames : List BusFrame) : Prop :=
  commandAccepted (readCode size) frames ∧ (blocksRead check size frames).length < size.toNat / 512

def ReadReports (check : Option UInt16) (size : UInt64) (filled : Nat → UInt8) (status : Int32) (frames : List BusFrame) : Prop :=
  (status = ok → ReadDone check size filled frames) ∧ (BlockMissed check size frames → status ≠ ok)

theorem read_larger (size : UInt64) (atLeastOne : 512 ≤ size) : size > blockSize.toUInt64 ↔ size ≠ 512 := by
  have atLeastNat : 512 ≤ size.toNat := by simpa [UInt64.le_iff_toNat_le] using atLeastOne
  rw [gt_iff_lt, UInt64.lt_iff_toNat_lt, ne_eq, ← UInt64.toNat_inj, show blockSize.toUInt64.toNat = 512 from rfl,
    show (512 : UInt64).toNat = 512 from rfl]
  omega

theorem read_ok_iff_stop_not_accepted (b : Nat → UInt8) (addr size : UInt64) (before after : SDCard) (status : Int32) (filled : Nat → UInt8)
    (initialised : before.isInitialized = true) (valid : before.isValidRead addr size = true) (atLeastOne : 512 ≤ size)
    (ran : (read b addr size).run before = some ((status, filled), after)) :
    Exchanged before (exchangesSince before after) after ∧
      (ReadReports before.blockCheck size filled status (framesSince before after) ↔
        size = 512 ∨ ¬ BlockMissed before.blockCheck size (framesSince before after) ∨
          ¬ commandAccepted .cmd12StopTransmission (framesSince before after)) := by
  have tells := Lib.keeps_run (tells_on_calls.read b addr size) ran fun _ _ => ⟨trivial, trivial⟩
  refine ⟨tells_exchanged tells, ?_⟩
  have said := read_said b addr size before after status filled initialised valid ran
  generalize framesSince before after = frames at said
  have larger := read_larger size atLeastOne
  have done (command : commandAccepted (readCode size) frames) (blocks : BlocksStored before.blockCheck size b filled frames)
      (all : ¬ BlockMissed before.blockCheck size frames) : ReadDone before.blockCheck size filled frames := by
    have count : (blocksRead before.blockCheck size frames).length = size.toNat / 512 :=
      Nat.le_antisymm blocks.few (Nat.not_lt.mp fun missed => all ⟨command, missed⟩)
    exact ⟨command, count ▸ blocks.stored⟩
  cases said with
  | refused status failed refused _ =>
      exact ⟨fun _ => Or.inr (Or.inl fun missed => refused missed.1), fun _ => ⟨fun accepted => absurd accepted failed, fun _ => failed⟩⟩
  | single alone command blocks =>
      refine ⟨fun _ => Or.inl (Decidable.not_not.mp fun other => alone (larger.mpr other)), fun _ => ⟨fun accepted => ?_, fun missed => ?_⟩⟩
      · refine done command blocks fun missed => ?_
        rw [if_neg (Nat.ne_of_lt missed.2)] at accepted
        exact absurd accepted (by decide)
      · rw [if_neg (Nat.ne_of_lt missed.2)]
        decide
  | multiple status several command blocks stopped =>
      constructor
      · rintro ⟨-, reports⟩
        by_cases missed : BlockMissed before.blockCheck size frames
        · exact Or.inr (Or.inr fun stop => reports missed (stopped.mpr stop))
        · exact Or.inr (Or.inl missed)
      · rintro (one | all | refused)
        · exact absurd one (larger.mp several)
        · exact ⟨fun _ => done command blocks all, fun missed => absurd missed all⟩
        · exact ⟨fun accepted => absurd (stopped.mp accepted) refused, fun _ accepted => refused (stopped.mp accepted)⟩

theorem block_token (check : Option UInt16) (rx block rest : List UInt8) (taken : takeBlock check rx = some (block, rest)) : spiStartBlock ∈ rx := by
  obtain ⟨⟨found, later⟩, sought, taken⟩ := Option.bind_eq_some_iff.mp taken
  cases found with
  | false => cases taken
  | true => exact seek_token_member _ _ _ _ sought

-- No block comes out of answers without a start token.
theorem blocks_token (check : Option UInt16) (count : Nat) (rx : List UInt8) (absent : spiStartBlock ∉ rx) : (takeBlocks check count rx).1 = [] := by
  cases count with
  | zero => rfl
  | succ count =>
      cases taken : takeBlock check rx with
      | none => rw [take_blocks_missed taken]
      | some found => exact absurd (block_token check rx found.1 found.2 taken) absent

theorem wait_token_loop_absent (token : UInt8) (bytes rest : List UInt8) (absent : token ∉ bytes) (card : SDCard)
    (stream : card.bus.rx = bytes ++ rest) :
    ∃ transfers, (waitTokenLoop token bytes.length).run card =
      some (false, { card with bus := ⟨rest, card.bus.csHigh, transfers⟩ }) := by
  induction bytes generalizing card with
  | nil => exact ⟨card.bus.transfers, by rw [List.length_nil, ← List.nil_append rest, ← stream]; rfl⟩
  | cons byte bytes ih =>
      have other : ¬ token = byte := fun same => absent (by simp [same])
      obtain ⟨transfers, ran⟩ := ih (fun inside => absent (by simp [inside]))
        { card with bus := ⟨bytes ++ rest, card.bus.csHigh, ⟨filler, byte, card.bus.csHigh⟩ :: card.bus.transfers⟩ } rfl
      refine ⟨transfers, (Lib.bind_run_some _ _ _ _ _).mpr ⟨byte, _, transfer_run filler byte (bytes ++ rest) card stream, ?_⟩⟩
      rw [if_neg other]
      exact ran

def acceptedAnswer : List UInt8 := silent 9 ++ [0x00]

def stopAnswer : List UInt8 := silent 9 ++ [0x00] ++ silent 2

def silentCard : SDCard :=
  { SDCard.fresh 0 with
    bus.rx := acceptedAnswer ++ (silent 50000 ++ (silent 1 ++ stopAnswer))
    sectors := 4
    isInitialized := true
    cardType := .v2hc }

theorem read_command_accepted : ∃ after, (cmd .cmd18ReadMultipleBlock 0x0 false).run silentCard = some ((ok, 0), after) ∧
    after.bus.rx = silent 50000 ++ (silent 1 ++ stopAnswer) := by
  have observed : ((cmd .cmd18ReadMultipleBlock 0x0 false).run { silentCard with bus.rx := acceptedAnswer }).map
      (fun answer => (answer.1, answer.2.bus.rx)) = some ((ok, 0), []) := by decide +kernel
  cases ran : (cmd .cmd18ReadMultipleBlock 0x0 false).run { silentCard with bus.rx := acceptedAnswer } with
  | none => simp [ran] at observed
  | some answer =>
      simp only [ran, Option.map_some, Option.some.injEq, Prod.mk.injEq] at observed
      have extended := cmd_causal _ _ _ _ _ _ [] (silent 50000 ++ (silent 1 ++ stopAnswer)) ran
      refine ⟨_, observed.1 ▸ extended, ?_⟩
      simp only [SDCard.amid, observed.2, List.nil_append]

def stoppingCard : SDCard :=
  { silentCard with bus := ⟨stopAnswer, true, []⟩, trace := [.failedBlock, .command .cmd18ReadMultipleBlock 0x0 false ok 0] }

theorem stop_command_accepted (past : List Transfer) :
    ∃ after r1, (cmd .cmd12StopTransmission 0x0 false).run { stoppingCard with bus.transfers := past } = some ((ok, r1), after) := by
  have observed : ((cmd .cmd12StopTransmission 0x0 false).run stoppingCard).map (fun answer => answer.1.1) = some ok := by decide +kernel
  cases ran : (cmd .cmd12StopTransmission 0x0 false).run stoppingCard with
  | none => simp [ran] at observed
  | some answer =>
      obtain ⟨⟨status, r1⟩, after⟩ := answer
      simp only [ran, Option.map_some, Option.some.injEq] at observed
      subst observed
      refine ⟨after.amid past [], r1, ?_⟩
      have extended := cmd_causal _ _ _ _ _ _ past [] ran
      simpa [SDCard.amid, stoppingCard] using extended

theorem silent_block_missed (card : SDCard) (buffer : Nat → UInt8) (rest : List UInt8) (stream : card.bus.rx = silent 50000 ++ rest) :
    ∃ transfers, (readLoop ok 2 0 buffer).run card = some ((errorNoResponse, store buffer 0 []),
      { card with bus := ⟨rest, card.bus.csHigh, transfers⟩, trace := .failedBlock :: card.trace }) := by
  have absent : spiStartBlock ∉ silent 50000 := fun inside => absurd (List.eq_of_mem_replicate inside) (by decide)
  obtain ⟨transfers, waited⟩ := wait_token_loop_absent spiStartBlock (silent 50000) rest absent card stream
  rw [silent, List.length_replicate] at waited
  refine ⟨transfers, (Lib.bind_run_some _ _ _ _ _).mpr ⟨(errorNoResponse, []), _, ?_, rfl⟩⟩
  exact (Lib.bind_run_some _ _ _ _ _).mpr ⟨false, _, waited, rfl⟩

theorem silent_card_reads : ∃ buffer after, (read (fun _ => 0) 0 1024).run silentCard = some ((ok, buffer), after) := by
  obtain ⟨reading, commanded, stream⟩ := read_command_accepted
  have commandAdds := Lib.ends_run (cmd_adds _ _ _ (by decide)) commanded
  obtain ⟨transfers, missed⟩ := silent_block_missed reading (fun _ => 0) (silent 1 ++ stopAnswer) stream
  obtain ⟨after, r1, stopped⟩ := stop_command_accepted (⟨filler, 0xFF, reading.bus.csHigh⟩ :: transfers)
  refine ⟨store (fun _ => 0) 0 [], after, (Lib.bind_run_some _ _ _ _ _).mpr ⟨silentCard, silentCard, rfl, ?_⟩⟩
  have valid : silentCard.isValidRead 0 1024 = true := by decide +kernel
  simp only [valid, show silentCard.isInitialized = true from rfl, not_true_eq_false, if_false]
  refine (Lib.bind_run_some _ _ _ _ _).mpr ⟨_, _, commanded, ?_⟩
  refine (Lib.bind_run_some _ _ _ _ _).mpr ⟨_, _, missed, ?_⟩
  refine (Lib.bind_run_some _ _ _ _ _).mpr ⟨(), { stoppingCard with bus.transfers := ⟨filler, 0xFF, reading.bus.csHigh⟩ :: transfers }, ?_, ?_⟩
  · rw [commandAdds]
    rfl
  · exact (Lib.bind_run_some _ _ _ _ _).mpr ⟨_, _, stopped, rfl⟩

theorem silent_card_token : spiStartBlock ∉ silentCard.bus.rx := by
  have other (count : Nat) : spiStartBlock ∉ silent count := fun inside => absurd (List.eq_of_mem_replicate inside) (by decide)
  intro inside
  simp only [silentCard, acceptedAnswer, stopAnswer, List.mem_append, other, false_or, or_false, List.mem_singleton] at inside
  exact absurd inside (by decide)

theorem read_hides_missed_block : silentCard.isInitialized = true ∧ silentCard.isValidRead 0 1024 = true ∧
    ∃ buffer after, (read (fun _ => 0) 0 1024).run silentCard = some ((ok, buffer), after) ∧
      ¬ ReadReports silentCard.blockCheck 1024 buffer ok (framesSince silentCard after) := by
  have valid : silentCard.isValidRead 0 1024 = true := by decide +kernel
  obtain ⟨buffer, after, ran⟩ := silent_card_reads
  refine ⟨rfl, valid, buffer, after, ran, fun reports => ?_⟩
  obtain ⟨command, blocks⟩ := reports.1 rfl
  obtain ⟨-, line, -, spoke, -⟩ := Lib.keeps_run (tells_on_calls.read (fun _ => 0) 0 1024) ran fun _ _ => ⟨trivial, trivial⟩
  have none : blocksRead silentCard.blockCheck 1024 (framesSince silentCard after) = [] := by
    refine blocks_token _ _ _ fun inside => silent_card_token ?_
    cases last : lastFrame (readCode 1024) (framesSince silentCard after) with
    | none =>
        rw [readAnswered, last] at inside
        cases inside
    | some frame =>
        rw [readAnswered, last] at inside
        exact spoke_answers spoke frame (List.mem_reverse.mp (List.mem_of_find?_eq_some last)) _ (after_r1_heard inside)
  rw [none, show (1024 : UInt64).toNat / 512 = 1 + 1 from rfl, slices_succ] at blocks
  cases blocks

def receivingCard : SDCard := { silentCard with bus.rx := acceptedAnswer ++ [0xFE] ++ List.replicate 512 0x5A ++ silent 3 }

-- A card that sends both blocks of a request of two and takes the CMD12.
def sendingCard : SDCard :=
  { silentCard with
    bus.rx := acceptedAnswer ++ [0xFE] ++ List.replicate 512 0x5A ++ silent 3 ++ [0xFE] ++ List.replicate 512 0xA5 ++ silent 3 ++ stopAnswer }

theorem sending_card_reads : ∃ buffer after, (read (fun _ => 0) 0 1024).run sendingCard = some ((ok, buffer), after) ∧
    ReadReports sendingCard.blockCheck 1024 buffer ok (framesSince sendingCard after) := by
  have observed : ((read (fun _ => 0) 0 1024).run sendingCard).map (fun answer =>
      (answer.1.1, (blocksRead sendingCard.blockCheck 1024 (framesSince sendingCard answer.2)).length)) = some (ok, 2) := by decide +kernel
  cases ran : (read (fun _ => 0) 0 1024).run sendingCard with
  | none => simp [ran] at observed
  | some answer =>
      obtain ⟨⟨status, buffer⟩, after⟩ := answer
      simp only [ran, Option.map_some, Option.some.injEq, Prod.mk.injEq] at observed
      obtain ⟨rfl, count⟩ := observed
      refine ⟨buffer, after, rfl, ?_⟩
      refine (read_ok_iff_stop_not_accepted (fun _ => 0) 0 1024 sendingCard after ok buffer rfl (by decide +kernel) (by decide) ran).2.mpr ?_
      refine Or.inr (Or.inl fun missed => ?_)
      rw [BlockMissed, count] at missed
      exact absurd missed.2 (by decide)

end SDCardFs.Driver
