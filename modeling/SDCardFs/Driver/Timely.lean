import SDCardFs.Driver.Accepting
import SDCardFs.Driver.Lifecycle

set_option autoImplicit false

namespace SDCardFs.Driver

def heard (stream : Nat → UInt8) (count : Nat) : List UInt8 := (List.range count).map stream

-- The call has returned before the card has given more than bound answers.
def ReturnsWithin {α : Type} (bound : Nat) (call : DriverM α) (card : SDCard) (stream : Nat → UInt8) : Prop :=
  (call.run (card.hears (heard stream bound))).isSome = true

-- A call takes answers off the stream and puts none back, so what holds of
-- every answer to come still holds after it.
def Draws (before after : SDCard) : Prop := ∃ taken, before.bus.rx = taken ++ after.bus.rx

theorem draws_refl (card : SDCard) : Draws card card := ⟨[], rfl⟩

theorem draws_trans (a b c : SDCard) (left : Draws a b) (right : Draws b c) : Draws a c := by
  obtain ⟨first, leftTaken⟩ := left
  obtain ⟨second, rightTaken⟩ := right
  exact ⟨first ++ second, by rw [leftTaken, rightTaken, List.append_assoc]⟩

theorem transfer_hears (data : UInt8) : Lib.Ends (transfer data) fun before byte after => before.bus.rx = byte :: after.bus.rx := by
  intro before value after ran
  obtain ⟨rest, answers, rfl⟩ := transfer_effect data before value after ran
  exact answers

theorem draws_on_bus : OnBus Draws where
  reflexive := draws_refl
  transitive := draws_trans
  transfer data := Lib.ends_mono (transfer_hears data) fun _ byte _ parts => ⟨[byte], parts⟩
  setCs high := by
    intro before value after ran
    obtain ⟨-, rfl⟩ := Prod.mk.inj (Option.some.inj ran)
    exact ⟨[], rfl⟩

-- One turn of the ACMD41 loop: the windows polled for the command, and the
-- answer during which the card is released.
def acmd41Turn (rx : List UInt8) : Option (UInt32 × List UInt8) :=
  (pollingWindows .acmd41SdSendOpCond true rx).bind fun found =>
    (nextAnswer found.2).map fun released => ((lastByte 0xFF found.1).toUInt32, released.2)

-- Answers in which the turns come to one whose R1 byte has the idle bit clear.
inductive LeavesIdle : List UInt8 → List UInt8 → Prop where
  | now (rx rest : List UInt8) (response : UInt32) : acmd41Turn rx = some (response, rest) → response &&& r1IdleState = 0 → LeavesIdle rx rest
  | later (rx between rest : List UInt8) (response : UInt32) : acmd41Turn rx = some (response, between) → response &&& r1IdleState ≠ 0 →
      LeavesIdle between rest → LeavesIdle rx rest

theorem follows_acmd41_answer (response : UInt32) : Follows (cmdAnswer .acmd41SdSendOpCond response) fun rx =>
    (nextAnswer rx).map fun released => ((answerStatus response, response), released.2) := by
  have leave (status : Int32) : Follows (do unselect; return (status, response)) fun rx =>
      (nextAnswer rx).map fun released => ((status, response), released.2) := by
    have release := follows_bind (follows_bind (follows_transfer filler) fun _ => follows_set_cs true) fun _ => follows_pure (status, response)
    simp only [Option.bind_assoc, Option.bind_some] at release
    simp only [Option.map_eq_bind]
    exact release
  rw [cmdAnswer, answerStatus]
  by_cases silence : r1NoResponse = response
  · rw [if_pos silence, if_pos silence]
    exact leave _
  rw [if_neg silence, if_neg silence]
  by_cases crc : response &&& r1ComCrcError ≠ 0
  · rw [if_pos crc, if_pos crc]
    exact leave _
  rw [if_neg crc, if_neg crc]
  by_cases illegal : response &&& r1IllegalCommand ≠ 0
  · rw [if_pos illegal, if_pos illegal]
    exact leave _
  · rw [if_neg illegal, if_neg illegal]
    exact leave _

theorem follows_acmd41_body (arg : UInt32) : Follows (cmdBody .acmd41SdSendOpCond arg true) fun rx =>
    (acmd41Turn rx).map fun turn => ((answerStatus turn.1, turn.1), turn.2) := by
  have body := follows_bind (follows_r1 .acmd41SdSendOpCond arg true) follows_acmd41_answer
  simp only [Option.bind_map, Function.comp_def] at body
  simp only [acmd41Turn, Option.map_bind, Function.comp_def, Option.map_map]
  rw [cmd_body_parts]
  exact body

theorem acmd41_turn_runs (arg : UInt32) (card : SDCard) (response : UInt32) (rest : List UInt8)
    (turn : acmd41Turn card.bus.rx = some (response, rest)) :
    ∃ status after, (cmd .acmd41SdSendOpCond arg true).run card = some ((status, response), after) ∧ after.bus.rx = rest := by
  obtain ⟨after, ran, -, left⟩ := (follows_acmd41_body arg).ends card (answerStatus response, response) rest (by rw [turn]; rfl)
  exact ⟨_, { after with trace := .command .acmd41SdSendOpCond arg true (answerStatus response) response :: after.trace },
    (Lib.bind_run_some _ _ _ _ _).mpr ⟨_, after, ran, rfl⟩, left⟩

theorem acmd41_turn_ran (arg : UInt32) : Lib.Ends (cmd .acmd41SdSendOpCond arg true) fun before answer after =>
    acmd41Turn before.bus.rx = some (answer.2, after.bus.rx) := by
  intro before answer after ran
  obtain ⟨found, between, body, ran⟩ := (Lib.bind_run_some _ _ _ _ _).mp ran
  obtain ⟨_, recorded, records, ran⟩ := (Lib.bind_run_some _ _ _ _ _).mp ran
  obtain ⟨rfl, rfl⟩ := (Lib.pure_run_some _ _ _ _).mp ran
  obtain ⟨turned, -⟩ := follows_ran (follows_acmd41_body arg) body
  obtain ⟨turn, taken, same⟩ := Option.map_eq_some_iff.mp turned
  obtain ⟨rfl, left⟩ := Prod.mk.inj same
  rw [record_run _ _ _ _ records, taken, ← left]

theorem draws_on_calls : OnCalls (fun _ _ => True) Draws := draws_on_bus.on_calls fun before after same => ⟨[], by rw [same]; rfl⟩

theorem next_answer_shorter (rx : List UInt8) (answer : UInt8 × List UInt8) (next : nextAnswer rx = some answer) : answer.2.length < rx.length := by
  cases rx with
  | nil => cases next
  | cons byte rest =>
      obtain rfl := Option.some.inj next
      exact Nat.lt_succ_self _

theorem acmd41_turn_shorter (rx rest : List UInt8) (response : UInt32) (turn : acmd41Turn rx = some (response, rest)) : rest.length < rx.length := by
  obtain ⟨found, polled, turn⟩ := Option.bind_eq_some_iff.mp turn
  obtain ⟨released, next, same⟩ := Option.map_eq_some_iff.mp turn
  obtain ⟨after, ran, -, left⟩ := (follows_r1 .acmd41SdSendOpCond 0x0 true).ends ((SDCard.fresh 0).hears rx) _ found.2 (by
    rw [show ((SDCard.fresh 0).hears rx).bus.rx = rx from rfl, polled]
    rfl)
  have draws : Lib.Keeps Draws (do
      select
      let _ ← waitReady sdCommandTimeout
      cmdAttempts .acmd41SdSendOpCond 0x0 true 3 r1NoResponse) :=
    draws_on_bus.bind draws_on_bus.select fun _ => draws_on_bus.bind (draws_on_bus.wait_ready _) fun _ => draws_on_bus.cmd_attempts _ _ _ _ _
  obtain ⟨taken, parts⟩ := Lib.keeps_run draws ran
  have length := congrArg List.length parts
  rw [List.length_append, left, show ((SDCard.fresh 0).hears rx).bus.rx = rx from rfl] at length
  have shorter := next_answer_shorter found.2 released next
  rw [← (Prod.mk.inj same).2]
  omega

theorem acmd41_turn_more (rx rest : List UInt8) (response : UInt32) (turn : acmd41Turn rx = some (response, rest)) (more : List UInt8) :
    acmd41Turn (rx ++ more) = some (response, rest ++ more) := by
  obtain ⟨status, after, ran, left⟩ := acmd41_turn_runs 0x0 ((SDCard.fresh 0).hears rx) response rest turn
  have longer := Lib.ends_run (acmd41_turn_ran 0x0) (cmd_causal _ _ _ _ _ _ [] more ran)
  rw [← left]
  exact longer

theorem leaves_idle_more (rx rest : List UInt8) (leaves : LeavesIdle rx rest) (more : List UInt8) : LeavesIdle (rx ++ more) (rest ++ more) := by
  induction leaves with
  | now rx rest response turn idle => exact .now _ _ response (acmd41_turn_more rx rest response turn more) idle
  | later rx between rest response turn idle _ ih => exact .later _ _ _ response (acmd41_turn_more rx between response turn more) idle ih

theorem acmd41_loop_returns (arg : UInt32) (rx rest : List UInt8) (leaves : LeavesIdle rx rest) (card : SDCard) (stream : card.bus.rx = rx)
    (fuel : Nat) (enough : rx.length < fuel) : ∃ answer after, (acmd41Loop arg fuel).run card = some (answer, after) ∧ after.bus.rx = rest := by
  induction leaves generalizing card fuel with
  | now rx rest response turn idle =>
      obtain ⟨fuel, rfl⟩ : ∃ less, fuel = less + 1 := ⟨fuel - 1, by omega⟩
      obtain ⟨status, after, ran, left⟩ := acmd41_turn_runs arg card response rest (by rw [stream]; exact turn)
      refine ⟨(status, response), after, (Lib.bind_run_some _ _ _ _ _).mpr ⟨_, after, ran, ?_⟩, left⟩
      dsimp only
      rw [if_neg fun busy => busy idle]
      rfl
  | later rx between rest response turn busy _ ih =>
      obtain ⟨fuel, rfl⟩ : ∃ less, fuel = less + 1 := ⟨fuel - 1, by omega⟩
      obtain ⟨status, middle, ran, left⟩ := acmd41_turn_runs arg card response between (by rw [stream]; exact turn)
      have shorter := acmd41_turn_shorter rx between response turn
      obtain ⟨answer, after, loops, last⟩ := ih middle left fuel (by omega)
      refine ⟨answer, after, (Lib.bind_run_some _ _ _ _ _).mpr ⟨_, middle, ran, ?_⟩, last⟩
      dsimp only
      rw [if_pos busy]
      exact loops

-- A card that is ready once in any gap answers that follow each other, and in
-- any so many answers leaves the idle state when it is polled there.
def Prompt (gap turns : Nat) (answers : List UInt8) : Prop :=
  ∀ rest, rest <:+ answers → (gap ≤ rest.length → 0xFF ∈ rest.take gap) ∧ (turns ≤ rest.length → ∃ left, LeavesIdle (rest.take turns) left)

theorem prompt_drop (gap turns used : Nat) (answers : List UInt8) (prompt : Prompt gap turns answers) : Prompt gap turns (answers.drop used) :=
  fun rest last => prompt rest (last.trans (List.drop_suffix used answers))

-- Given bound answers of a prompt card the call returns, and takes no more.
def Timely {α : Type} (gap turns bound : Nat) (call : DriverM α) : Prop :=
  ∀ card : SDCard, bound ≤ card.bus.rx.length → Prompt gap turns card.bus.rx →
    ∃ value after used, call.run card = some (value, after) ∧ used ≤ bound ∧ after.bus.rx = card.bus.rx.drop used

section
variable {α β : Type} {gap turns : Nat}

theorem timely_pure (result : α) : Timely gap turns 0 (pure result : DriverM α) :=
  fun card _ _ => ⟨result, card, 0, rfl, Nat.le_refl 0, rfl⟩

theorem timely_weaken {bound larger : Nat} {call : DriverM α} (more : bound ≤ larger) (timely : Timely gap turns bound call) :
    Timely gap turns larger call := by
  intro card enough prompt
  obtain ⟨value, after, used, ran, taken, rest⟩ := timely card (Nat.le_trans more enough) prompt
  exact ⟨value, after, used, ran, Nat.le_trans taken more, rest⟩

theorem timely_bind {first : DriverM α} {rest : α → DriverM β} {sooner later : Nat} (firstTimely : Timely gap turns sooner first)
    (restTimely : ∀ result, Timely gap turns later (rest result)) : Timely gap turns (sooner + later) (first >>= rest) := by
  intro card enough prompt
  obtain ⟨result, between, used, ran, taken, left⟩ := firstTimely card (by omega) prompt
  have room : later ≤ between.bus.rx.length := by
    rw [left, List.length_drop]
    omega
  obtain ⟨value, after, more, ends, spent, last⟩ := restTimely result between room (by rw [left]; exact prompt_drop gap turns used _ prompt)
  refine ⟨value, after, used + more, (Lib.bind_run_some _ _ _ _ _).mpr ⟨result, between, ran, ends⟩, by omega, ?_⟩
  rw [last, left, List.drop_drop]

theorem timely_ite {condition : Prop} [Decidable condition] {yes no : DriverM α} {bound : Nat} (yesTimely : Timely gap turns bound yes)
    (noTimely : Timely gap turns bound no) : Timely gap turns bound (if condition then yes else no) := by
  split
  · exact yesTimely
  · exact noTimely

theorem timely_member (field : SDCard → α) : Timely gap turns 0 (member field) :=
  fun card _ _ => ⟨field card, card, 0, rfl, Nat.le_refl 0, rfl⟩

theorem timely_modify (change : SDCard → SDCard) (apart : ∀ card, (change card).bus.rx = card.bus.rx) : Timely gap turns 0 (modify change) :=
  fun card _ _ => ⟨(), change card, 0, rfl, Nat.le_refl 0, apart card⟩

theorem timely_transfer (data : UInt8) : Timely gap turns 1 (transfer data) := by
  intro card enough prompt
  cases answers : card.bus.rx with
  | nil =>
      rw [answers] at enough
      exact absurd enough (by decide)
  | cons byte rest => exact ⟨byte, _, 1, transfer_run data byte rest card answers, Nat.le_refl 1, rfl⟩

theorem timely_set_cs (high : Bool) : Timely gap turns 0 (setCs high) := timely_modify _ fun _ => rfl

theorem timely_select : Timely gap turns 2 select :=
  timely_bind (timely_transfer _) fun _ => timely_bind (timely_transfer _) fun _ => timely_set_cs _

theorem timely_unselect : Timely gap turns 1 unselect := timely_bind (timely_transfer _) fun _ => timely_set_cs _

theorem timely_set_card_type (cardType : CardType) : Timely gap turns 0 (setCardType cardType) := timely_modify _ fun _ => rfl

theorem timely_record (event : Event) : Timely gap turns 0 (record event) := timely_modify _ fun _ => rfl

theorem timely_fillers (count : Nat) : Timely gap turns count (transferFillers count) := by
  induction count with
  | zero => exact timely_pure []
  | succ count ih =>
      exact timely_weaken (by omega) (timely_bind (timely_transfer _) fun byte => timely_bind ih fun rest => timely_pure _)

theorem timely_all (bytes : List UInt8) : Timely gap turns bytes.length (transferAll bytes) := by
  induction bytes with
  | nil => exact timely_pure ()
  | cons byte rest ih =>
      exact timely_weaken (by rw [List.length_cons]; omega) (timely_bind (timely_transfer byte) fun _ => ih)

theorem timely_wait_token (token : UInt8) : Timely gap turns 50000 (waitToken token) := by
  have loop (tries : Nat) : Timely gap turns tries (waitTokenLoop token tries) := by
    induction tries with
    | zero => exact timely_pure false
    | succ tries ih =>
        exact timely_weaken (by omega) (timely_bind (timely_transfer _) fun byte =>
          timely_ite (timely_weaken (Nat.zero_le tries) (timely_pure true)) ih)
  exact loop 50000

theorem wait_ready_loop_stops (timeous c : Int) (ahead fuel : Nat) (card : SDCard) (ready : 0xFF ∈ card.bus.rx.take ahead)
    (enough : ahead ≤ fuel) : ∃ value after used, (waitReadyLoop timeous c fuel).run card = some (value, after) ∧ used ≤ ahead ∧
      after.bus.rx = card.bus.rx.drop used := by
  induction ahead generalizing card fuel with
  | zero => simp at ready
  | succ ahead ih =>
      obtain ⟨fuel, rfl⟩ : ∃ less, fuel = less + 1 := ⟨fuel - 1, by omega⟩
      cases answers : card.bus.rx with
      | nil => simp [answers] at ready
      | cons byte rest =>
          obtain ⟨next, heard, left⟩ : ∃ next, (transfer filler).run card = some (byte, next) ∧ next.bus.rx = rest :=
            ⟨_, transfer_run filler byte rest card answers, rfl⟩
          by_cases now : byte = 0xFF
          · refine ⟨true, next, 1, (Lib.bind_run_some _ _ _ _ _).mpr ⟨byte, next, heard, ?_⟩, by omega, left⟩
            rw [if_pos now]
            rfl
          by_cases early : c < timeous
          · have still : 0xFF ∈ next.bus.rx.take ahead := by
              rw [answers, List.take_succ_cons] at ready
              rw [left]
              exact (List.mem_cons.mp ready).resolve_left (Ne.symm now)
            obtain ⟨value, after, used, ran, taken, last⟩ := ih fuel next still (by omega)
            refine ⟨value, after, used + 1, (Lib.bind_run_some _ _ _ _ _).mpr ⟨byte, next, heard, ?_⟩, by omega, by rw [last, left]; rfl⟩
            rw [if_neg now, if_pos early]
            exact ran
          · refine ⟨false, next, 1, (Lib.bind_run_some _ _ _ _ _).mpr ⟨byte, next, heard, ?_⟩, by omega, left⟩
            rw [if_neg now, if_neg early]
            rfl

theorem timely_wait_ready (timeous : Int) : Timely gap turns gap (waitReady timeous) := by
  intro card enough prompt
  have ready : 0xFF ∈ card.bus.rx.take gap := (prompt _ (List.suffix_refl _)).1 enough
  exact wait_ready_loop_stops timeous 0 gap (card.bus.rx.length + 1) card ready (by omega)

theorem timely_cmd_spi_loop (tries : Nat) (response : UInt8) : Timely gap turns tries (cmdSpiLoop tries response) := by
  induction tries generalizing response with
  | zero => exact timely_pure response
  | succ tries ih =>
      exact timely_weaken (by omega) (timely_bind (timely_transfer _) fun byte =>
        timely_ite (timely_weaken (Nat.zero_le tries) (timely_pure byte)) (ih byte))

-- Six bytes of the packet, the stuff byte, and sixteen answers.
theorem timely_cmd_spi (code : CmdSupported) (arg : UInt32) : Timely gap turns 23 (cmdSpi code arg) := by
  have packet (crcOn : Bool) : (cmdPacket crcOn code.number arg).length = 6 := rfl
  refine timely_weaken (Nat.le_of_eq rfl) (@timely_bind _ _ _ _ _ _ 0 23 (timely_member _) fun crcOn => ?_)
  have sends := @timely_all gap turns (cmdPacket crcOn code.number arg)
  rw [packet] at sends
  refine @timely_bind _ _ _ _ _ _ 6 17 sends fun _ => ?_
  dsimp only
  split
  · exact @timely_bind _ _ _ _ _ _ 1 16 (timely_transfer _) fun _ => timely_cmd_spi_loop _ _
  · exact timely_weaken (by decide) (timely_cmd_spi_loop 16 _)

theorem timely_cmd_attempts (code : CmdSupported) (arg : UInt32) (isAcmd : Bool) (attempts : Nat) (response : UInt32) :
    Timely gap turns (attempts * (46 + gap)) (cmdAttempts code arg isAcmd attempts response) := by
  induction attempts generalizing response with
  | zero => exact timely_weaken (Nat.zero_le _) (timely_pure response)
  | succ attempts ih =>
      have sends : Timely gap turns (23 + attempts * (46 + gap)) (do
          let byte ← cmdSpi code arg
          if r1NoResponse = byte.toUInt32 then cmdAttempts code arg isAcmd attempts byte.toUInt32
          else pure byte.toUInt32) :=
        timely_bind (timely_cmd_spi _ _) fun byte => timely_ite (ih _) (timely_weaken (Nat.zero_le _) (timely_pure _))
      rw [cmdAttempts, Nat.add_mul]
      dsimp only
      split
      · exact timely_weaken (by omega) (timely_bind (timely_cmd_spi _ _) fun _ => timely_bind (timely_wait_ready _) fun _ => sends)
      · exact timely_weaken (by omega) sends

theorem timely_read_word : Timely gap turns 4 readWord :=
  timely_bind (timely_transfer _) fun _ => timely_bind (timely_transfer _) fun _ =>
    timely_bind (timely_transfer _) fun _ => timely_bind (timely_transfer _) fun _ => timely_pure _

theorem timely_cmd_tail (code : CmdSupported) (response : UInt32) : Timely gap turns (4 + gap) (cmdTail code response) := by
  cases code
  case cmd8SendIfCond =>
    exact timely_weaken (by omega) (@timely_bind _ _ _ _ _ _ 0 4 (timely_set_card_type _) fun _ => timely_read_word)
  case cmd58ReadOcr => exact timely_weaken (by omega) timely_read_word
  case cmd12StopTransmission => exact timely_weaken (by omega) (timely_bind (timely_wait_ready _) fun _ => timely_pure _)
  case cmd38Erase => exact timely_weaken (by omega) (timely_bind (timely_wait_ready _) fun _ => timely_pure _)
  case cmd13SendStatus => exact timely_weaken (by omega) (timely_bind (timely_transfer _) fun _ => timely_pure _)
  all_goals exact timely_weaken (Nat.zero_le _) (timely_pure _)

-- One _cmd: the selection, at most one wait before each of the three frames
-- and one after the last, and the release.
def cmdBound (gap : Nat) : Nat := 2 + gap + 3 * (46 + gap) + (4 + gap) + 1

theorem timely_cmd_answer (code : CmdSupported) (response : UInt32) : Timely gap turns (4 + gap + 1) (cmdAnswer code response) := by
  have leave (answer : Int32 × UInt32) : Timely gap turns 1 (do unselect; return answer) :=
    timely_bind timely_unselect fun _ => timely_pure answer
  have left (answer : Int32 × UInt32) : Timely gap turns (4 + gap + 1) (do unselect; return answer) := timely_weaken (by omega) (leave answer)
  refine timely_ite (left _) (timely_ite (left _) (timely_ite ?_ ?_))
  · have changed (answer : Int32 × UInt32) : Timely gap turns 0 (do setCardType .unknown; return answer) :=
      timely_bind (timely_set_card_type _) fun _ => timely_pure answer
    exact timely_weaken (by omega) (timely_bind timely_unselect fun _ => timely_ite (changed _) (timely_pure _))
  · exact timely_bind (timely_cmd_tail _ _) fun full => timely_ite (timely_weaken (by decide) (timely_pure _)) (leave _)

theorem timely_cmd (code : CmdSupported) (arg : UInt32) (isAcmd : Bool) : Timely gap turns (cmdBound gap) (cmd code arg isAcmd) := by
  have answered : Timely gap turns (3 * (46 + gap) + (4 + gap + 1)) (do
      let response ← cmdAttempts code arg isAcmd 3 r1NoResponse
      cmdAnswer code response) :=
    timely_bind (timely_cmd_attempts _ _ _ 3 _) fun response => timely_cmd_answer code response
  have body : Timely gap turns (cmdBound gap) (cmdBody code arg isAcmd) := by
    refine timely_weaken (by unfold cmdBound; omega) (@timely_bind _ _ _ _ _ _ 2 (gap + (3 * (46 + gap) + (4 + gap + 1))) timely_select fun _ => ?_)
    dsimp only
    exact timely_ite (timely_bind (timely_wait_ready _) fun _ => answered) (timely_weaken (by omega) answered)
  exact @timely_bind _ _ _ _ _ _ (cmdBound gap) 0 body fun answer => timely_bind (timely_record _) fun _ => timely_pure answer

theorem timely_write_block (buffer : Nat → UInt8) (offset : Nat) (token : UInt8) (length : UInt32) :
    Timely gap turns (length.toNat + 4 + gap) (writeBlock buffer offset token length) := by
  have sends := @timely_all gap turns (Lib.slice buffer offset length.toNat)
  rw [Lib.slice_length] at sends
  have answered (card : UInt8 → Event) : Timely gap turns (1 + gap) (do
      let response ← transfer filler
      let _ ← waitReady sdCommandTimeout
      record (card response)
      return response &&& spiDataResponseMask) :=
    timely_bind (timely_transfer _) fun _ => timely_bind (timely_wait_ready _) fun _ => timely_bind (timely_record _) fun _ => timely_pure _
  exact timely_weaken (by omega) (timely_bind (timely_transfer _) fun _ => timely_bind sends fun _ =>
    timely_bind (timely_transfer _) fun _ => timely_bind (timely_transfer _) fun _ => answered _)

theorem timely_program_loop (buffer : Nat → UInt8) (blockCnt offset : Nat) :
    Timely gap turns (blockCnt * (516 + gap)) (programLoop buffer blockCnt offset) := by
  induction blockCnt generalizing offset with
  | zero => exact timely_weaken (Nat.zero_le _) (timely_pure ())
  | succ blockCnt ih =>
      rw [Nat.add_mul]
      have block : Timely gap turns (516 + gap) (writeBlock buffer offset spiStartBlkMulWrite blockSize) := timely_write_block buffer offset _ blockSize
      exact timely_weaken (by omega) (timely_bind block fun response => timely_ite (ih _) (timely_weaken (Nat.zero_le _) (timely_pure ())))

theorem timely_read_block (length : UInt32) : Timely gap turns (50000 + length.toNat + 2) (readBlock length) := by
  have failed (answer : Int32 × List UInt8) (event : Event) : Timely gap turns 0 (do record event; return answer) :=
    timely_bind (timely_record _) fun _ => timely_pure answer
  refine timely_weaken (by omega) (@timely_bind _ _ _ _ _ _ 50000 (length.toNat + 2) (timely_wait_token _) fun found => ?_)
  refine timely_ite (timely_weaken (Nat.zero_le _) (failed _ _)) (timely_bind (timely_fillers _) fun data => ?_)
  refine @timely_bind _ _ _ _ _ _ 1 1 (timely_transfer _) fun high => @timely_bind _ _ _ _ _ _ 1 0 (timely_transfer _) fun low => ?_
  exact @timely_bind _ _ _ _ _ _ 0 0 (timely_member fun card => card) fun card => timely_ite (failed _ _) (failed _ _)

theorem timely_read_loop (status : Int32) (blockCnt offset : Nat) (buffer : Nat → UInt8) :
    Timely gap turns (blockCnt * 50514) (readLoop status blockCnt offset buffer) := by
  induction blockCnt generalizing offset buffer with
  | zero => exact timely_weaken (Nat.zero_le _) (timely_pure _)
  | succ blockCnt ih =>
      rw [Nat.add_mul]
      refine timely_weaken (by omega) (@timely_bind _ _ _ _ _ _ 50514 (blockCnt * 50514) (timely_read_block blockSize) fun answer => ?_)
      exact timely_ite (timely_weaken (Nat.zero_le _) (timely_pure _)) (ih _ _)

theorem timely_get {α : Type} {bound : Nat} {rest : SDCard → DriverM α} (restTimely : ∀ card, Timely gap turns bound (rest card)) :
    Timely gap turns bound (get >>= rest) :=
  fun card enough prompt => restTimely card card enough prompt

theorem timely_acmd41 (arg : UInt32) : Timely gap turns turns (acmd41 arg) := by
  intro card enough prompt
  obtain ⟨left, leaves⟩ := (prompt _ (List.suffix_refl _)).2 enough
  have whole := leaves_idle_more _ _ leaves (card.bus.rx.drop turns)
  rw [List.take_append_drop] at whole
  obtain ⟨answer, after, ran, last⟩ := acmd41_loop_returns arg _ _ whole card rfl (card.bus.rx.length + 1) (Nat.lt_succ_self _)
  obtain ⟨taken, parts⟩ := Lib.keeps_run (draws_on_calls.acmd41 arg) (show (acmd41 arg).run card = some (answer, after) from ran)
  have length := congrArg List.length parts
  rw [List.length_append, last, List.length_append, List.length_drop] at length
  exact ⟨answer, after, taken.length, ran, by omega, by rw [parts, List.drop_left]⟩

theorem timely_go_idle_state_loop (retries : Nat) (response : UInt32) : Timely gap turns (retries * cmdBound gap) (goIdleStateLoop retries response) := by
  induction retries generalizing response with
  | zero => exact timely_weaken (Nat.zero_le _) (timely_pure response)
  | succ retries ih =>
      rw [Nat.succ_mul, Nat.add_comm]
      exact timely_bind (timely_cmd .cmd0GoIdleState 0x0 false) fun answer =>
        timely_ite (timely_weaken (Nat.zero_le _) (timely_pure _)) (ih _)

theorem timely_cmd8 : Timely gap turns (cmdBound gap) cmd8 := by
  refine @timely_bind _ _ _ _ _ _ (cmdBound gap) 0 (timely_cmd _ _ _) fun answer => ?_
  refine @timely_bind _ _ _ _ _ _ 0 0 (timely_member fun card => card) fun card => ?_
  exact timely_ite (@timely_bind _ _ _ _ _ _ 0 0 (timely_set_card_type _) fun _ => timely_pure _) (timely_pure _)

theorem timely_set_capacity : Timely gap turns (cmdBound gap) setCapacity := by
  refine timely_weaken (Nat.le_of_eq (Nat.zero_add _)) (timely_bind (timely_member _) fun cardType => timely_ite ?_ ?_)
  · exact @timely_bind _ _ _ _ _ _ (cmdBound gap) 0 (timely_cmd _ _ _) fun answer => timely_ite (timely_set_card_type _) (timely_pure _)
  · exact timely_weaken (Nat.zero_le _) (timely_set_card_type _)

theorem timely_crc_off : Timely gap turns (2 * cmdBound gap) crcOff := by
  have last : Timely gap turns (cmdBound gap) (do let answer ← cmd .cmd59CrcOnOff 0x0 false; return answer.1) :=
    @timely_bind _ _ _ _ _ _ (cmdBound gap) 0 (timely_cmd _ _ _) fun _ => timely_pure _
  refine timely_weaken (Nat.le_of_eq (Nat.zero_add _)) (timely_bind (timely_member _) fun crcOn => timely_ite ?_ ?_)
  · exact timely_weaken (by omega) (timely_bind (timely_cmd _ _ _) fun _ => last)
  · exact timely_weaken (by omega) last

theorem timely_negotiate : Timely gap turns (turns + 3 * cmdBound gap) negotiate := by
  refine timely_weaken (Nat.le_of_eq (Nat.zero_add _)) (timely_bind (timely_member _) fun cardType => ?_)
  refine timely_bind (timely_acmd41 _) fun answer => timely_ite ?_ ?_
  · exact timely_weaken (Nat.zero_le _) (@timely_bind _ _ _ _ _ _ 0 0 (timely_set_card_type _) fun _ => timely_pure _)
  · exact timely_weaken (by omega) (timely_bind timely_set_capacity fun _ => timely_crc_off)

theorem timely_check_voltage : Timely gap turns (turns + 4 * cmdBound gap) checkVoltage := by
  refine timely_weaken (by omega) (timely_bind (timely_cmd _ _ _) fun answer => timely_ite ?_ (timely_ite ?_ timely_negotiate))
  · exact timely_weaken (Nat.zero_le _) (timely_pure _)
  · exact timely_weaken (Nat.zero_le _) (@timely_bind _ _ _ _ _ _ 0 0 (timely_set_card_type _) fun _ => timely_pure _)

-- The dummy clocks, the CMD0 retries, CMD8 and CMD59, and what follows them.
def handshakeBound (gap turns : Nat) : Nat := 20 + (sdCmd0GoIdleStateRetries + 6) * cmdBound gap + turns

theorem timely_initialise_card : Timely gap turns (handshakeBound gap turns) initialiseCard := by
  have dummy : Timely gap turns 20 spiInit := @timely_bind _ _ _ _ _ _ 20 0 (timely_fillers 20) fun _ => timely_pure ()
  have voltage : Timely gap turns (cmdBound gap + (turns + 4 * cmdBound gap)) (do
      let crcOn ← member SDCard.crcOn
      if crcOn then
        let _ ← cmd .cmd59CrcOnOff 0x1 false
      checkVoltage) := by
    refine timely_weaken (Nat.le_of_eq (Nat.zero_add _)) (timely_bind (timely_member _) fun crcOn => ?_)
    dsimp only
    exact timely_ite (timely_bind (timely_cmd _ _ _) fun _ => timely_check_voltage) (timely_weaken (by omega) timely_check_voltage)
  have checked : Timely gap turns (cmdBound gap + (cmdBound gap + (turns + 4 * cmdBound gap))) (do
      let status ← cmd8
      if ok ≠ status ∧ errorUnsupported ≠ status then
        return status
      let crcOn ← member SDCard.crcOn
      if crcOn then
        let _ ← cmd .cmd59CrcOnOff 0x1 false
      checkVoltage) :=
    timely_bind timely_cmd8 fun status => timely_ite (timely_weaken (Nat.zero_le _) (timely_pure _)) voltage
  refine timely_weaken ?_ (timely_bind dummy fun _ => timely_bind (timely_go_idle_state_loop sdCmd0GoIdleStateRetries 0) fun idle =>
    timely_ite (timely_weaken (Nat.zero_le _) (timely_pure _)) checked)
  rw [handshakeBound, Nat.add_mul]
  omega

theorem timely_read_bytes (length : UInt32) : Timely gap turns (50000 + length.toNat + 3) (readBytes length) := by
  have failed (answer : Int32 × List UInt8) (event : Event) : Timely gap turns 1 (do unselect; record event; return answer) :=
    @timely_bind _ _ _ _ _ _ 1 0 timely_unselect fun _ => @timely_bind _ _ _ _ _ _ 0 0 (timely_record _) fun _ => timely_pure answer
  refine timely_weaken (by omega) (@timely_bind _ _ _ _ _ _ 50000 (length.toNat + 3) (timely_wait_token _) fun found => ?_)
  refine timely_ite (timely_weaken (by omega) (failed _ _)) (timely_bind (timely_fillers _) fun data => ?_)
  refine @timely_bind _ _ _ _ _ _ 1 2 (timely_transfer _) fun high => @timely_bind _ _ _ _ _ _ 1 1 (timely_transfer _) fun low => ?_
  exact @timely_bind _ _ _ _ _ _ 0 1 (timely_member fun card => card) fun card => timely_ite (failed _ _) (failed _ _)

theorem timely_sd_sectors : Timely gap turns (cmdBound gap + 50019) sdSectors := by
  refine timely_bind (timely_cmd _ _ _) fun answer => timely_ite (timely_weaken (Nat.zero_le _) (timely_pure _)) ?_
  refine @timely_bind _ _ _ _ _ _ 50019 0 (timely_read_bytes 16) fun found => timely_ite (timely_pure _) ?_
  cases csdSectors found.2 with
  | none => exact timely_pure _
  | some csd => exact @timely_bind _ _ _ _ _ _ 0 0 (timely_modify _ fun _ => rfl) fun _ => timely_pure _

theorem timely_freq : Timely gap turns 0 freq := by
  refine @timely_bind _ _ _ _ _ _ 0 0 (timely_member _) fun transferSck => timely_ite (timely_pure _) ?_
  exact @timely_bind _ _ _ _ _ _ 0 0 (timely_modify _ fun _ => rfl) fun _ => timely_pure _

theorem timely_finish_init (err : Int32) : Timely gap turns (2 * cmdBound gap + 50019) (finishInit err) := by
  have last : Timely gap turns (cmdBound gap) (do
      let answer ← cmd .cmd16SetBlocklen blockSize false
      if answer.1 ≠ 0 then
        return errorUnsupported
      let err ← freq
      if err ≠ 0 then
        return err
      return ok) := by
    refine @timely_bind _ _ _ _ _ _ (cmdBound gap) 0 (timely_cmd _ _ _) fun answer => timely_ite (timely_pure _) ?_
    exact @timely_bind _ _ _ _ _ _ 0 0 timely_freq fun err => timely_ite (timely_pure _) (timely_pure _)
  refine timely_weaken (Nat.le_of_eq (Nat.zero_add _)) (timely_bind (timely_record _) fun _ => ?_)
  refine timely_weaken (Nat.le_of_eq (Nat.zero_add _)) (timely_bind (timely_modify _ fun _ => rfl) fun _ => ?_)
  refine timely_ite (timely_weaken (Nat.zero_le _) (timely_pure _)) ?_
  refine timely_weaken (by omega) (timely_bind timely_sd_sectors fun sectors => @timely_bind _ _ _ _ _ _ 0 (cmdBound gap) (timely_modify _ fun _ => rfl) fun _ => ?_)
  exact timely_ite (timely_weaken (Nat.zero_le _) (timely_pure _)) last

theorem timely_init : Timely gap turns (handshakeBound gap turns + (2 * cmdBound gap + 50019)) init := by
  refine timely_weaken (Nat.le_of_eq (Nat.zero_add _)) (timely_bind (timely_member _) fun ready => ?_)
  exact timely_ite (timely_weaken (Nat.zero_le _) (timely_pure _)) (timely_bind timely_initialise_card fun err => timely_finish_init err)

-- The transfers of a call on a card that is ready once in every gap answers
-- and, for init, leaves the idle state within so many.
def DriverCall.transfers (gap turns : Nat) : DriverCall → Nat
  | .init => handshakeBound gap turns + 2 * cmdBound gap + 50019
  | .deinit => 0
  | .read _ _ size => (size / blockSize.toUInt64).toNat * 50514 + 2 * cmdBound gap + 1
  | .program _ _ size => programTurns (size / blockSize.toUInt64) * (516 + gap) + 3 * cmdBound gap + 1
  | .trim _ _ => 3 * cmdBound gap

theorem timely_refusal {α : Type} (answer : α) (bound : Nat) : Timely gap turns bound (pure answer : DriverM α) :=
  timely_weaken (Nat.zero_le bound) (timely_pure answer)

theorem timely_read (b : Nat → UInt8) (addr size : UInt64) :
    Timely gap turns (cmdBound gap + ((size / blockSize.toUInt64).toNat * 50514 + (1 + cmdBound gap))) (read b addr size) := by
  refine timely_get fun card => timely_ite (timely_refusal _ _) (timely_ite (timely_refusal _ _) ?_)
  refine timely_bind (timely_cmd _ _ _) fun answer => timely_ite (timely_refusal _ _) ?_
  refine timely_bind (timely_read_loop _ _ _ _) fun filled => timely_bind timely_unselect fun _ => ?_
  exact timely_ite (@timely_bind _ _ _ _ _ _ (cmdBound gap) 0 (timely_cmd _ _ _) fun _ => timely_pure _) (timely_refusal _ _)

theorem timely_program (b : Nat → UInt8) (addr size : UInt64) :
    Timely gap turns (cmdBound gap + (cmdBound gap + (programTurns (size / blockSize.toUInt64) * (516 + gap) + (cmdBound gap + 1)))) (program b addr size) := by
  have leave (status : Int32) : Timely gap turns 1 (do unselect; return status) := timely_bind timely_unselect fun _ => timely_pure status
  have atLeast : 516 + gap ≤ programTurns (size / blockSize.toUInt64) * (516 + gap) := by
    rw [programTurns, Nat.add_mul]
    omega
  refine timely_get fun card => timely_ite (timely_refusal _ _) (timely_ite (timely_refusal _ _) ?_)
  dsimp only
  refine timely_ite ?_ ?_
  · refine timely_bind (timely_cmd _ _ _) fun answer => timely_ite (timely_refusal _ _) ?_
    have block : Timely gap turns (516 + gap) (writeBlock b 0 spiStartBlock blockSize) := timely_write_block b 0 _ blockSize
    exact timely_weaken (by omega) (timely_bind block fun response => leave _)
  · refine timely_bind (timely_cmd _ _ _) fun _ => timely_bind (timely_cmd _ _ _) fun answer => timely_ite (timely_refusal _ _) ?_
    exact timely_bind (timely_program_loop _ _ _) fun _ => timely_bind (timely_cmd _ _ _) fun _ => leave _

theorem timely_trim (addr size : UInt64) : Timely gap turns (cmdBound gap + (cmdBound gap + cmdBound gap)) (trim addr size) := by
  refine timely_get fun card => timely_ite (timely_refusal _ _) (timely_ite (timely_refusal _ _) ?_)
  refine timely_bind (timely_cmd _ _ _) fun answer => timely_ite (timely_refusal _ _) ?_
  refine timely_bind (timely_cmd _ _ _) fun answer => timely_ite (timely_refusal _ _) ?_
  exact @timely_bind _ _ _ _ _ _ (cmdBound gap) 0 (timely_cmd _ _ _) fun answer => timely_pure _

end

theorem timely_calls (gap turns : Nat) (call : DriverCall) : Timely gap turns (call.transfers gap turns) call.status := by
  have answered {α : Type} {bound : Nat} {answer : DriverM (Int32 × α)} (timely : Timely gap turns bound answer) :
      Timely gap turns bound (do let (status, _) ← answer; return status) := @timely_bind _ _ _ _ _ _ bound 0 timely fun _ => timely_pure _
  cases call with
  | init => exact timely_weaken (by simp only [DriverCall.transfers]; omega) timely_init
  | deinit =>
      refine @timely_bind _ _ _ _ _ _ 0 0 (timely_member _) fun ready => timely_ite (timely_pure _) ?_
      exact @timely_bind _ _ _ _ _ _ 0 0 (timely_modify _ fun _ => rfl) fun _ =>
        @timely_bind _ _ _ _ _ _ 0 0 (timely_modify _ fun _ => rfl) fun _ => timely_pure _
  | read b addr size =>
      exact timely_weaken (by simp only [DriverCall.transfers]; omega) (answered (timely_read b addr size))
  | program b addr size => exact timely_weaken (by simp only [DriverCall.transfers]; omega) (timely_program b addr size)
  | trim addr size => exact timely_weaken (by simp only [DriverCall.transfers]; omega) (timely_trim addr size)

end SDCardFs.Driver
