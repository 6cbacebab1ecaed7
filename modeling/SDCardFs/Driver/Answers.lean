import SDCardFs.Driver.Command

set_option autoImplicit false

namespace SDCardFs.Driver

-- A call that agrees with a reader of the answers: it returns exactly when the
-- reader finds what it looks for, with the same result and the same answers left.
structure Follows {α : Type} (call : DriverM α) (reader : List UInt8 → Option (α × List UInt8)) : Prop where
  ends : ∀ card value rest, reader card.bus.rx = some (value, rest) →
    ∃ after, call.run card = some (value, after) ∧ OnlyBus card after ∧ after.bus.rx = rest
  hangs : ∀ card, reader card.bus.rx = none → call.run card = none

section

variable {α β : Type}

theorem follows_ran {call : DriverM α} {reader : List UInt8 → Option (α × List UInt8)} (follows : Follows call reader)
    {before after : SDCard} {value : α} (ran : call.run before = some (value, after)) :
    reader before.bus.rx = some (value, after.bus.rx) ∧ OnlyBus before after := by
  cases found : reader before.bus.rx with
  | none =>
      rw [follows.hangs before found] at ran
      cases ran
  | some answer =>
      obtain ⟨last, lastRan, moved, rest⟩ := follows.ends before answer.1 answer.2 found
      rw [lastRan] at ran
      obtain ⟨rfl, rfl⟩ := Prod.mk.inj (Option.some.inj ran)
      exact ⟨by rw [rest], moved⟩

theorem follows_pure (result : α) : Follows (pure result) fun rx => some (result, rx) where
  ends card value rest found := by
    obtain ⟨rfl, rfl⟩ := Prod.mk.inj (Option.some.inj found)
    exact ⟨card, rfl, rfl, rfl⟩
  hangs card found := by cases found

theorem follows_bind {first : DriverM α} {rest : α → DriverM β} {reader : List UInt8 → Option (α × List UInt8)}
    {later : α → List UInt8 → Option (β × List UInt8)} (firstFollows : Follows first reader)
    (restFollows : ∀ result, Follows (rest result) (later result)) :
    Follows (first >>= rest) fun rx => (reader rx).bind fun answer => later answer.1 answer.2 where
  ends card value left found := by
    obtain ⟨⟨result, between⟩, middle, last⟩ := Option.bind_eq_some_iff.mp found
    obtain ⟨mid, firstRan, firstMoved, stream⟩ := firstFollows.ends card result between middle
    obtain ⟨after, restRan, restMoved, rest⟩ := (restFollows result).ends mid value left (by rw [stream]; exact last)
    exact ⟨after, (Lib.bind_run_some _ _ _ _ _).mpr ⟨result, mid, firstRan, restRan⟩, only_bus_trans _ _ _ firstMoved restMoved, rest⟩
  hangs card found := by
    rw [StateT.run_bind]
    cases middle : reader card.bus.rx with
    | none =>
        rw [firstFollows.hangs card middle]
        rfl
    | some answer =>
        obtain ⟨mid, firstRan, -, stream⟩ := firstFollows.ends card answer.1 answer.2 middle
        rw [firstRan]
        refine (restFollows answer.1).hangs mid ?_
        rw [stream]
        rwa [middle, Option.bind_some] at found

theorem follows_member {field : SDCard → α} {rest : α → DriverM β} {reader : List UInt8 → Option (β × List UInt8)}
    (restFollows : ∀ result, Follows (rest result) reader) : Follows (member field >>= rest) reader where
  ends card := (restFollows (field card)).ends card
  hangs card := (restFollows (field card)).hangs card

theorem follows_set_cs (high : Bool) : Follows (setCs high) fun rx => some ((), rx) where
  ends card value rest found := by
    obtain ⟨-, rfl⟩ := Prod.mk.inj (Option.some.inj found)
    exact ⟨_, rfl, rfl, rfl⟩
  hangs card found := by cases found

end

def nextAnswer : List UInt8 → Option (UInt8 × List UInt8)
  | [] => none
  | byte :: rest => some (byte, rest)

theorem follows_transfer (data : UInt8) : Follows (transfer data) nextAnswer where
  ends card value rest found := by
    cases stream : card.bus.rx with
    | nil => simp [stream, nextAnswer] at found
    | cons byte later =>
        rw [stream] at found
        obtain ⟨rfl, rfl⟩ := Prod.mk.inj (Option.some.inj found)
        exact ⟨_, transfer_run data byte later card stream, rfl, rfl⟩
  hangs card found := by
    cases stream : card.bus.rx with
    | nil => simp [transfer, StateT.run, stream]
    | cons byte later =>
        rw [stream] at found
        cases found

def skipAnswers (count : Nat) (rx : List UInt8) : Option (Unit × List UInt8) :=
  if count ≤ rx.length then some ((), rx.drop count) else none

theorem skip_answers_succ (count : Nat) (rx : List UInt8) :
    skipAnswers (count + 1) rx = (nextAnswer rx).bind fun answer => skipAnswers count answer.2 := by
  cases rx with
  | nil => rfl
  | cons byte rest => simp [skipAnswers, nextAnswer]

theorem follows_transfer_all (bytes : List UInt8) : Follows (transferAll bytes) (skipAnswers bytes.length) := by
  induction bytes with
  | nil => exact follows_pure ()
  | cons byte bytes ih =>
      have reader : skipAnswers (byte :: bytes).length = fun rx => (nextAnswer rx).bind fun answer => skipAnswers bytes.length answer.2 :=
        funext fun rx => skip_answers_succ bytes.length rx
      rw [reader]
      exact follows_bind (follows_transfer byte) fun _ => ih

-- _wait_ready takes the answers up to the first 0xFF.
def untilReady : List UInt8 → Option (List UInt8)
  | [] => none
  | byte :: rest => if byte = 0xFF then some rest else untilReady rest

theorem wait_ready_loop_follows (timeous : Int) (positive : 0 < timeous) (fuel : Nat) (card : SDCard) (enough : card.bus.rx.length < fuel) :
    (∀ rest, untilReady card.bus.rx = some rest →
      ∃ after, (waitReadyLoop timeous 0 fuel).run card = some (true, after) ∧ OnlyBus card after ∧ after.bus.rx = rest) ∧
    (untilReady card.bus.rx = none → (waitReadyLoop timeous 0 fuel).run card = none) := by
  induction fuel generalizing card with
  | zero => exact absurd enough (Nat.not_lt_zero _)
  | succ fuel ih =>
      cases stream : card.bus.rx with
      | nil =>
          refine ⟨fun rest found => (by cases found), fun _ => ?_⟩
          rw [waitReadyLoop, StateT.run_bind, (follows_transfer filler).hangs card (by rw [stream]; rfl)]
          rfl
      | cons byte later =>
          obtain ⟨next, heard, moved, left⟩ := (follows_transfer filler).ends card byte later (by rw [stream]; rfl)
          have room : next.bus.rx.length < fuel := by
            rw [stream, List.length_cons] at enough
            rw [left]
            omega
          obtain ⟨stops, hangs⟩ := ih next room
          rw [left] at stops hangs
          by_cases ready : byte = 0xFF
          · rw [untilReady, if_pos ready]
            refine ⟨fun rest found => ?_, fun wrong => (by cases wrong)⟩
            obtain rfl := Option.some.inj found
            refine ⟨next, (Lib.bind_run_some _ _ _ _ _).mpr ⟨byte, next, heard, ?_⟩, moved, left⟩
            rw [if_pos ready]
            rfl
          · rw [untilReady, if_neg ready]
            constructor
            · intro rest found
              obtain ⟨after, ran, further, last⟩ := stops rest found
              refine ⟨after, (Lib.bind_run_some _ _ _ _ _).mpr ⟨byte, next, heard, ?_⟩, only_bus_trans _ _ _ moved further, last⟩
              rw [if_neg ready, if_pos positive]
              exact ran
            · intro busy
              cases ran : (waitReadyLoop timeous 0 (fuel + 1)).run card with
              | none => rfl
              | some answer =>
                  obtain ⟨other, between, again, rest⟩ := (Lib.bind_run_some _ _ _ _ _).mp ran
                  obtain ⟨rfl, rfl⟩ := Prod.mk.inj (Option.some.inj (heard.symm.trans again))
                  rw [if_neg ready, if_pos positive, hangs busy] at rest
                  cases rest

theorem follows_wait_ready (timeous : Int) (positive : 0 < timeous) :
    Follows (waitReady timeous) fun rx => (untilReady rx).map fun rest => (true, rest) where
  ends card value rest found := by
    obtain ⟨left, ready, same⟩ := Option.map_eq_some_iff.mp found
    obtain ⟨rfl, rfl⟩ := Prod.mk.inj same
    exact (wait_ready_loop_follows timeous positive _ card (Nat.lt_succ_self _)).1 left ready
  hangs card found := (wait_ready_loop_follows timeous positive _ card (Nat.lt_succ_self _)).2 (Option.map_eq_none_iff.mp found)

-- The polling window of a frame: sixteen answers, or those up to the first
-- that has bit 7 clear.
def pollingWindow : Nat → List UInt8 → Option (List UInt8 × List UInt8)
  | 0, rx => some ([], rx)
  | _ + 1, [] => none
  | tries + 1, byte :: rest =>
      if byte &&& r1ResponseRecv = 0 then some ([byte], rest)
      else (pollingWindow tries rest).map fun found => (byte :: found.1, found.2)

theorem follows_cmd_spi_loop (tries : Nat) (last : UInt8) :
    Follows (cmdSpiLoop tries last) fun rx => (pollingWindow tries rx).map fun found => (found.1.getLastD last, found.2) := by
  induction tries generalizing last with
  | zero => exact follows_pure last
  | succ tries ih =>
      have turn (byte : UInt8) : Follows (if byte &&& r1ResponseRecv = 0 then pure byte else cmdSpiLoop tries byte) fun rx =>
          if byte &&& r1ResponseRecv = 0 then some (byte, rx)
          else (pollingWindow tries rx).map fun found => (found.1.getLastD byte, found.2) := by
        by_cases answered : byte &&& r1ResponseRecv = 0
        · simp only [if_pos answered]
          exact follows_pure byte
        · simp only [if_neg answered]
          exact ih byte
      have reader : (fun rx => (pollingWindow (tries + 1) rx).map fun found => (found.1.getLastD last, found.2)) =
          fun rx => (nextAnswer rx).bind fun answer => if answer.1 &&& r1ResponseRecv = 0 then some (answer.1, answer.2)
            else (pollingWindow tries answer.2).map fun found => (found.1.getLastD answer.1, found.2) := by
        funext rx
        cases rx with
        | nil => rfl
        | cons byte rest =>
            rw [pollingWindow, nextAnswer, Option.bind_some]
            by_cases answered : byte &&& r1ResponseRecv = 0
            · rw [if_pos answered, if_pos answered]
              rfl
            · rw [if_neg answered, if_neg answered, Option.map_map]
              simp only [Function.comp_def, List.getLastD_cons]
      rw [reader]
      exact follows_bind (follows_transfer filler) turn

theorem skip_answers_last {α : Type} (count : Nat) (rx : List UInt8) (later : List UInt8 → Option α) :
    ((skipAnswers count rx).bind fun skipped => (nextAnswer skipped.2).bind fun answer => later answer.2) =
      (skipAnswers (count + 1) rx).bind fun skipped => later skipped.2 := by
  induction count generalizing rx with
  | zero =>
      cases rx with
      | nil => rfl
      | cons byte rest => rfl
  | succ count ih =>
      rw [skip_answers_succ count rx, skip_answers_succ (count + 1) rx]
      cases rx with
      | nil => rfl
      | cons byte rest => exact ih rest

-- A frame is six exchanges, and seven for CMD12 with its stuff byte.
def frameWindow (code : CmdSupported) (rx : List UInt8) : Option (List UInt8 × List UInt8) :=
  (skipAnswers (if code = .cmd12StopTransmission then 7 else 6) rx).bind fun skipped => pollingWindow 16 skipped.2

theorem cmd_packet_length (crcOn : Bool) (number : UInt8) (arg : UInt32) : (cmdPacket crcOn number arg).length = 6 := rfl

theorem follows_cmd_spi (code : CmdSupported) (arg : UInt32) :
    Follows (cmdSpi code arg) fun rx => (frameWindow code rx).map fun found => (found.1.getLastD 0xFF, found.2) := by
  refine follows_member fun crcOn => ?_
  have sends := follows_transfer_all (cmdPacket crcOn code.number arg)
  rw [cmd_packet_length] at sends
  by_cases stop : code = .cmd12StopTransmission
  · have reader : (fun rx => (frameWindow code rx).map fun found => (found.1.getLastD 0xFF, found.2)) = fun rx =>
        (skipAnswers 6 rx).bind fun skipped => (nextAnswer skipped.2).bind fun answer =>
          (pollingWindow 16 answer.2).map fun found => (found.1.getLastD 0xFF, found.2) := by
      funext rx
      rw [skip_answers_last 6 rx fun later => (pollingWindow 16 later).map fun found => (found.1.getLastD 0xFF, found.2)]
      simp only [frameWindow, if_pos stop, Option.map_bind, Function.comp_def]
    rw [reader, if_pos stop]
    exact follows_bind sends fun _ => follows_bind (follows_transfer filler) fun _ => follows_cmd_spi_loop _ _
  · have reader : (fun rx => (frameWindow code rx).map fun found => (found.1.getLastD 0xFF, found.2)) = fun rx =>
        (skipAnswers 6 rx).bind fun skipped => (pollingWindow 16 skipped.2).map fun found => (found.1.getLastD 0xFF, found.2) := by
      funext rx
      simp only [frameWindow, if_neg stop, Option.map_bind, Function.comp_def]
    rw [reader, if_neg stop]
    exact follows_bind sends fun _ => follows_cmd_spi_loop _ _

-- The polling windows of the attempts: another one follows a window that ends
-- in 0xFF, and each attempt of an application command begins with CMD55.
def attemptWindows (code : CmdSupported) (isAcmd : Bool) : Nat → List UInt8 → Option (List (List UInt8) × List UInt8)
  | 0, rx => some ([], rx)
  | attempts + 1, rx =>
      (if isAcmd then (frameWindow .cmd55AppCmd rx).bind fun asked => untilReady asked.2 else some rx).bind fun ready =>
        (frameWindow code ready).bind fun found =>
          if found.1.getLastD 0xFF = 0xFF then (attemptWindows code isAcmd attempts found.2).map fun later => (found.1 :: later.1, later.2)
          else some ([found.1], found.2)

def lastByte (start : UInt8) (windows : List (List UInt8)) : UInt8 := windows.foldl (fun _ window => window.getLastD 0xFF) start

theorem no_response_byte (byte : UInt8) : r1NoResponse = byte.toUInt32 ↔ byte = 0xFF := by
  rw [← UInt32.toNat_inj, ← UInt8.toNat_inj, UInt8.toNat_toUInt32]
  exact eq_comm

-- What the answers say after the frame of an attempt: the last byte of its
-- window, or what the attempts left find where that byte is 0xFF.
def attemptAnswer (code : CmdSupported) (isAcmd : Bool) (attempts : Nat) (byte : UInt8) (rx : List UInt8) : Option (UInt32 × List UInt8) :=
  if byte = 0xFF then (attemptWindows code isAcmd attempts rx).map fun found => ((lastByte byte found.1).toUInt32, found.2)
  else some (byte.toUInt32, rx)

theorem follows_attempt_answer (code : CmdSupported) (arg : UInt32) (isAcmd : Bool) (attempts : Nat) (byte : UInt8)
    (left : Follows (cmdAttempts code arg isAcmd attempts byte.toUInt32) fun rx =>
      (attemptWindows code isAcmd attempts rx).map fun found => ((lastByte byte found.1).toUInt32, found.2)) :
    Follows (if r1NoResponse = byte.toUInt32 then cmdAttempts code arg isAcmd attempts byte.toUInt32 else pure byte.toUInt32)
      (attemptAnswer code isAcmd attempts byte) := by
  by_cases silence : byte = 0xFF
  · have answer : attemptAnswer code isAcmd attempts byte = fun rx =>
        (attemptWindows code isAcmd attempts rx).map fun found => ((lastByte byte found.1).toUInt32, found.2) :=
      funext fun rx => if_pos silence
    rw [if_pos ((no_response_byte byte).mpr silence), answer]
    exact left
  · have answer : attemptAnswer code isAcmd attempts byte = fun rx => some (byte.toUInt32, rx) := funext fun rx => if_neg silence
    rw [if_neg fun same => silence ((no_response_byte byte).mp same), answer]
    exact follows_pure _

theorem attempt_window_answer (code : CmdSupported) (isAcmd : Bool) (attempts : Nat) (start : UInt8) (found : List UInt8 × List UInt8) :
    (if found.1.getLastD 0xFF = 0xFF then (attemptWindows code isAcmd attempts found.2).map fun later => (found.1 :: later.1, later.2)
      else some ([found.1], found.2)).map (fun windows => ((lastByte start windows.1).toUInt32, windows.2)) =
    attemptAnswer code isAcmd attempts (found.1.getLastD 0xFF) found.2 := by
  by_cases silence : found.1.getLastD 0xFF = 0xFF
  · rw [if_pos silence, attemptAnswer, if_pos silence, Option.map_map]
    rfl
  · rw [if_neg silence, attemptAnswer, if_neg silence]
    rfl

theorem follows_cmd_attempts (code : CmdSupported) (arg : UInt32) (isAcmd : Bool) (attempts : Nat) (start : UInt8) :
    Follows (cmdAttempts code arg isAcmd attempts start.toUInt32) fun rx =>
      (attemptWindows code isAcmd attempts rx).map fun found => ((lastByte start found.1).toUInt32, found.2) := by
  induction attempts generalizing start with
  | zero => exact follows_pure _
  | succ attempts ih =>
      have sends : Follows (do
          let byte ← cmdSpi code arg
          if r1NoResponse = byte.toUInt32 then cmdAttempts code arg isAcmd attempts byte.toUInt32
          else pure byte.toUInt32) fun rx =>
            (frameWindow code rx).bind fun found => attemptAnswer code isAcmd attempts (found.1.getLastD 0xFF) found.2 := by
        have follows := follows_bind (follows_cmd_spi code arg) fun byte => follows_attempt_answer code arg isAcmd attempts byte (ih byte)
        simp only [Option.bind_map, Function.comp_def] at follows
        exact follows
      rw [cmdAttempts]
      dsimp only
      cases isAcmd with
      | false =>
          simp only [attemptWindows, Bool.false_eq_true, if_false, Option.bind_some, Option.map_bind, Function.comp_def,
            attempt_window_answer]
          exact sends
      | true =>
          simp only [attemptWindows, if_true, Option.map_bind, Function.comp_def, attempt_window_answer]
          have asks := follows_bind (follows_cmd_spi .cmd55AppCmd 0x0) fun _ =>
            follows_bind (follows_wait_ready sdCommandTimeout (by decide)) fun _ => sends
          simp only [Option.bind_map, Function.comp_def] at asks
          simp only [Option.bind_assoc]
          exact asks

def pollingWindows (code : CmdSupported) (isAcmd : Bool) (rx : List UInt8) : Option (List (List UInt8) × List UInt8) :=
  (skipAnswers 2 rx).bind fun selected =>
    (if code = .cmd12StopTransmission then some selected.2 else untilReady selected.2).bind fun ready =>
      attemptWindows code isAcmd 3 ready

theorem follows_select : Follows select (skipAnswers 2) := by
  have reader : skipAnswers 2 = fun rx => (nextAnswer rx).bind fun first => (nextAnswer first.2).bind fun second => some ((), second.2) := by
    funext rx
    rw [skip_answers_succ]
    congr 1
    funext first
    rw [skip_answers_succ]
    rfl
  rw [reader]
  exact follows_bind (follows_transfer _) fun _ => follows_bind (follows_transfer _) fun _ => follows_set_cs _

-- _cmd up to the evaluation of R1, which is the last byte polled.
theorem follows_r1 (code : CmdSupported) (arg : UInt32) (isAcmd : Bool) :
    Follows (do
      select
      if code ≠ .cmd12StopTransmission then
        let _ ← waitReady sdCommandTimeout
      cmdAttempts code arg isAcmd 3 r1NoResponse)
      fun rx => (pollingWindows code isAcmd rx).map fun found => ((lastByte 0xFF found.1).toUInt32, found.2) := by
  have attempts := follows_cmd_attempts code arg isAcmd 3 0xFF
  by_cases stop : code = .cmd12StopTransmission
  · simp only [pollingWindows, ne_eq, stop, not_true_eq_false, if_false, Option.map_bind, Function.comp_def]
    rw [stop] at attempts
    exact follows_bind follows_select fun _ => attempts
  · simp only [pollingWindows, ne_eq, stop, not_false_eq_true, if_true, Option.map_bind, Function.comp_def]
    have waits := follows_bind (follows_wait_ready sdCommandTimeout (by decide)) fun _ => attempts
    simp only [Option.bind_map, Function.comp_def] at waits
    exact follows_bind follows_select fun _ => waits

theorem cmd_body_parts (code : CmdSupported) (arg : UInt32) (isAcmd : Bool) : cmdBody code arg isAcmd = (do
    let response ← (do
      select
      if code ≠ .cmd12StopTransmission then
        let _ ← waitReady sdCommandTimeout
      cmdAttempts code arg isAcmd 3 r1NoResponse : DriverM UInt32)
    cmdAnswer code response) := by
  rw [cmdBody]
  by_cases stop : code = .cmd12StopTransmission
  · simp only [stop, ne_eq, not_true_eq_false, if_false, bind_assoc]
  · simp only [stop, ne_eq, not_false_eq_true, if_true, bind_assoc]

-- The statuses by priority, for any byte taken as R1.
def answerStatus (response : UInt32) : Int32 :=
  if r1NoResponse = response then errorNoDevice
  else if response &&& r1ComCrcError ≠ 0 then errorCrc
  else if response &&& r1IllegalCommand ≠ 0 then errorUnsupported
  else r1Status response

theorem cmd_answer_status (code : CmdSupported) (response : UInt32) :
    Lib.Ends (cmdAnswer code response) fun _ answer _ => answer.1 = answerStatus response := by
  have leave (status : Int32) : Lib.Ends (do unselect; return (status, response)) fun _ answer _ => answer.1 = status := by
    intro before answer after ran
    obtain ⟨_, _, -, ran⟩ := (Lib.bind_run_some _ _ _ _ _).mp ran
    obtain ⟨rfl, -⟩ := (Lib.pure_run_some _ _ _ _).mp ran
    rfl
  intro before answer after ran
  rw [cmdAnswer] at ran
  rw [answerStatus]
  by_cases silence : r1NoResponse = response
  · rw [if_pos silence] at ran ⊢
    exact leave _ _ _ _ ran
  rw [if_neg silence] at ran ⊢
  by_cases crc : response &&& r1ComCrcError ≠ 0
  · rw [if_pos crc] at ran ⊢
    exact leave _ _ _ _ ran
  rw [if_neg crc] at ran ⊢
  by_cases illegal : response &&& r1IllegalCommand ≠ 0
  · rw [if_pos illegal] at ran ⊢
    obtain ⟨_, _, -, ran⟩ := (Lib.bind_run_some _ _ _ _ _).mp ran
    dsimp only at ran
    split at ran
    · obtain ⟨_, _, -, ran⟩ := (Lib.bind_run_some _ _ _ _ _).mp ran
      obtain ⟨rfl, -⟩ := (Lib.pure_run_some _ _ _ _).mp ran
      rfl
    · obtain ⟨rfl, -⟩ := (Lib.pure_run_some _ _ _ _).mp ran
      rfl
  rw [if_neg illegal] at ran ⊢
  obtain ⟨full, _, -, ran⟩ := (Lib.bind_run_some _ _ _ _ _).mp ran
  split at ran
  · rename_i kept
    obtain ⟨rfl, -⟩ := (Lib.pure_run_some _ _ _ _).mp ran
    exact kept.2.symm
  · obtain ⟨_, _, -, ran⟩ := (Lib.bind_run_some _ _ _ _ _).mp ran
    obtain ⟨rfl, -⟩ := (Lib.pure_run_some _ _ _ _).mp ran
    rfl

-- _wait_token takes the answers up to the first token, or as many as it may.
def seekToken (token : UInt8) : Nat → List UInt8 → Option (Bool × List UInt8)
  | 0, rx => some (false, rx)
  | _ + 1, [] => none
  | tries + 1, byte :: rest => if token = byte then some (true, rest) else seekToken token tries rest

theorem follows_wait_token (token : UInt8) (tries : Nat) : Follows (waitTokenLoop token tries) (seekToken token tries) := by
  induction tries with
  | zero => exact follows_pure false
  | succ tries ih =>
      have turn (byte : UInt8) : Follows (if token = byte then pure true else waitTokenLoop token tries) fun rx =>
          if token = byte then some (true, rx) else seekToken token tries rx := by
        by_cases found : token = byte
        · simp only [if_pos found]
          exact follows_pure true
        · simp only [if_neg found]
          exact ih
      have reader : seekToken token (tries + 1) = fun rx => (nextAnswer rx).bind fun answer =>
          if token = answer.1 then some (true, answer.2) else seekToken token tries answer.2 := by
        funext rx
        cases rx with
        | nil => rfl
        | cons byte rest => rfl
      rw [reader]
      exact follows_bind (follows_transfer filler) turn

theorem seek_token_found (token : UInt8) (wait rest : List UInt8) (tries : Nat) (early : wait.length < tries) (absent : token ∉ wait) :
    seekToken token tries (wait ++ token :: rest) = some (true, rest) := by
  induction wait generalizing tries with
  | nil =>
      cases tries with
      | zero => exact absurd early (Nat.not_lt_zero _)
      | succ tries =>
          rw [List.nil_append, seekToken, if_pos rfl]
  | cons byte wait ih =>
      cases tries with
      | zero => exact absurd early (Nat.not_lt_zero _)
      | succ tries =>
          rw [List.cons_append, seekToken, if_neg fun same => absent (by simp [same])]
          exact ih tries (Nat.lt_of_succ_lt_succ early) fun inside => absent (List.mem_cons_of_mem _ inside)

def takeAnswers : Nat → List UInt8 → Option (List UInt8 × List UInt8)
  | 0, rx => some ([], rx)
  | count + 1, rx => (nextAnswer rx).bind fun answer => (takeAnswers count answer.2).bind fun later => some (answer.1 :: later.1, later.2)

theorem follows_transfer_fillers (count : Nat) : Follows (transferFillers count) (takeAnswers count) := by
  induction count with
  | zero => exact follows_pure []
  | succ count ih =>
      exact follows_bind (follows_transfer filler) fun byte => follows_bind ih fun rest => follows_pure (byte :: rest)

theorem take_answers_append (data rest : List UInt8) : takeAnswers data.length (data ++ rest) = some (data, rest) := by
  induction data with
  | nil => rfl
  | cons byte data ih =>
      rw [List.length_cons, List.cons_append, takeAnswers, nextAnswer, Option.bind_some, ih]
      rfl

theorem seek_token_split (token : UInt8) (tries : Nat) (rx rest : List UInt8) (found : Bool) (sought : seekToken token tries rx = some (found, rest)) :
    ∃ taken, rx = taken ++ rest ∧ ∀ more, seekToken token tries (taken ++ more) = some (found, more) := by
  induction tries generalizing rx with
  | zero =>
      obtain ⟨rfl, rfl⟩ := Prod.mk.inj (Option.some.inj sought)
      exact ⟨[], rfl, fun _ => rfl⟩
  | succ tries ih =>
      cases rx with
      | nil => cases sought
      | cons byte rx =>
          rw [seekToken] at sought
          by_cases same : token = byte
          · rw [if_pos same] at sought
            obtain ⟨rfl, rfl⟩ := Prod.mk.inj (Option.some.inj sought)
            exact ⟨[byte], rfl, fun more => by rw [List.singleton_append, seekToken, if_pos same]⟩
          · rw [if_neg same] at sought
            obtain ⟨taken, parts, again⟩ := ih rx sought
            refine ⟨byte :: taken, by rw [parts]; rfl, fun more => ?_⟩
            rw [List.cons_append, seekToken, if_neg same, again]

theorem seek_token_missed (token : UInt8) (tries : Nat) (rx rest : List UInt8) (missed : seekToken token tries rx = some (false, rest)) :
    ∃ waited, rx = waited ++ rest ∧ waited.length = tries ∧ token ∉ waited := by
  induction tries generalizing rx with
  | zero =>
      obtain ⟨-, rfl⟩ := Prod.mk.inj (Option.some.inj missed)
      exact ⟨[], rfl, rfl, List.not_mem_nil⟩
  | succ tries ih =>
      cases rx with
      | nil => cases missed
      | cons byte rx =>
          rw [seekToken] at missed
          by_cases same : token = byte
          · rw [if_pos same] at missed
            cases (Prod.mk.inj (Option.some.inj missed)).1
          · rw [if_neg same] at missed
            obtain ⟨waited, parts, count, absent⟩ := ih rx missed
            refine ⟨byte :: waited, by rw [parts]; rfl, by rw [List.length_cons, count], fun inside => ?_⟩
            rcases List.mem_cons.mp inside with now | later
            · exact same now
            · exact absent later

theorem seek_token_member (token : UInt8) (tries : Nat) (rx rest : List UInt8) (sought : seekToken token tries rx = some (true, rest)) : token ∈ rx := by
  induction tries generalizing rx with
  | zero => cases (Prod.mk.inj (Option.some.inj sought)).1
  | succ tries ih =>
      cases rx with
      | nil => cases sought
      | cons byte rx =>
          rw [seekToken] at sought
          by_cases same : token = byte
          · rw [same]
            exact List.mem_cons_self
          · rw [if_neg same] at sought
            exact List.mem_cons_of_mem _ (ih rx sought)

-- The check bytes of a block are compared with the given sum, if there is one.
def checkHolds (check : Option UInt16) (high low : UInt8) : Bool := check.all fun crc => crc = (high.toUInt16 <<< 8) ||| low.toUInt16

-- A block as _read takes it: the start token, 512 bytes and the check bytes.
def takeBlock (check : Option UInt16) (rx : List UInt8) : Option (List UInt8 × List UInt8) :=
  (seekToken spiStartBlock 50000 rx).bind fun sought =>
    if sought.1 then
      (takeAnswers 512 sought.2).bind fun filled => match filled.2 with
        | high :: low :: rest => if checkHolds check high low then some (filled.1, rest) else none
        | _ => none
    else none

-- So many blocks one after another, up to the first that does not come, and the
-- answers left.
def takeBlocks (check : Option UInt16) : Nat → List UInt8 → List (List UInt8) × List UInt8
  | 0, rx => ([], rx)
  | count + 1, rx => match takeBlock check rx with
    | some (block, rest) => (block :: (takeBlocks check count rest).1, (takeBlocks check count rest).2)
    | none => ([], rx)

theorem take_blocks_came {check : Option UInt16} {rx block rest : List UInt8} (came : takeBlock check rx = some (block, rest)) (count : Nat) :
    takeBlocks check (count + 1) rx = (block :: (takeBlocks check count rest).1, (takeBlocks check count rest).2) := by
  rw [takeBlocks, came]

theorem take_blocks_missed {check : Option UInt16} {rx : List UInt8} (missed : takeBlock check rx = none) (count : Nat) :
    takeBlocks check (count + 1) rx = ([], rx) := by
  rw [takeBlocks, missed]

theorem take_block_framed (check : Option UInt16) (wait block : List UInt8) (high low : UInt8) (rest : List UInt8)
    (sought : ∀ more, seekToken spiStartBlock 50000 (wait ++ more) = some (true, more)) (whole : block.length = 512) :
    takeBlock check (wait ++ (block ++ [high, low]) ++ rest) = if checkHolds check high low then some (block, rest) else none := by
  have filled := take_answers_append block (high :: low :: rest)
  rw [whole] at filled
  rw [takeBlock, List.append_assoc, sought, Option.bind_some, if_pos rfl, List.append_assoc]
  change (takeAnswers 512 (block ++ high :: low :: rest)).bind _ = _
  rw [filled]
  rfl

theorem take_block_unseen (check : Option UInt16) (waited rest : List UInt8)
    (sought : ∀ more, seekToken spiStartBlock 50000 (waited ++ more) = some (false, more)) : takeBlock check (waited ++ rest) = none := by
  rw [takeBlock, sought, Option.bind_some, if_neg Bool.false_ne_true]

end SDCardFs.Driver
