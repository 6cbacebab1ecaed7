import SDCardFs.Lib.Runs
import SDCardFs.Driver.Calls
import SDCardFs.Driver.Handshake

set_option autoImplicit false

namespace SDCardFs.Driver

def Event.setsBlocklen : Event → Bool
  | .command .cmd16SetBlocklen arg false status _ => arg = blockSize ∧ status = ok
  | _ => false

def sinceHandshake (trace : List Event) : List Event := trace.takeWhile (· ≠ .handshake ok)

def BlocklenSet (trace : List Event) : Prop := ∃ event ∈ sinceHandshake trace, event.setsBlocklen = true

def csdBlocks (csd : List UInt8) : UInt64 := (csdSectors csd).elim 0 Prod.fst

-- A handshake that succeeds is followed by a CSD with a capacity and by an
-- accepted CMD16.
def InitMet (events : List Event) : Prop :=
  .handshake ok ∈ events → (∃ csd ∈ receivedBlocks (sinceHandshake events), csdBlocks csd ≠ 0) ∧ BlocklenSet events

instance (events : List Event) : Decidable (InitMet events) := by
  unfold InitMet BlocklenSet
  infer_instance

structure Steady (before after : SDCard) : Prop where
  isInitialized : after.isInitialized = before.isInitialized
  sectors : after.sectors = before.sectors
  slow : before.transferSck ≤ 25000000 → after.transferSck ≤ 25000000
  trace : ∃ events, after.trace = events ++ before.trace ∧ ∀ err, .handshake err ∉ events

theorem steady_refl (card : SDCard) : Steady card card := ⟨rfl, rfl, id, [], rfl, by simp⟩

theorem steady_trans (a b c : SDCard) (left : Steady a b) (right : Steady b c) : Steady a c := by
  obtain ⟨older, olderTrace, olderQuiet⟩ := left.trace
  obtain ⟨newer, newerTrace, newerQuiet⟩ := right.trace
  refine ⟨right.isInitialized.trans left.isInitialized, right.sectors.trans left.sectors, right.slow ∘ left.slow,
    newer ++ older, by rw [newerTrace, olderTrace, List.append_assoc], fun err member => ?_⟩
  rcases List.mem_append.mp member with inside | inside
  · exact newerQuiet err inside
  · exact olderQuiet err inside

theorem steady_on_bus : OnBus Steady where
  reflexive := steady_refl
  transitive := steady_trans
  transfer data := Lib.ends_mono (transfer_only_bus data) fun before _ after moved => by
    rw [OnlyBus] at moved
    rw [moved]
    exact ⟨rfl, rfl, id, [], rfl, by simp⟩
  setCs high := by
    intro before value after ran
    obtain ⟨-, rfl⟩ := Prod.mk.inj (Option.some.inj ran)
    exact ⟨rfl, rfl, id, [], rfl, by simp⟩

theorem record_steady (event : Event) (plain : ∀ err, event ≠ .handshake err) : Lib.Keeps Steady (record event) :=
  Lib.ends_mono (record_adds event) fun before value after added => by
    rw [Adds] at added
    rw [added]
    exact ⟨rfl, rfl, id, [event], rfl, fun err member => plain err (List.mem_singleton.mp member).symm⟩

theorem steady_on_calls : OnCalls (fun _ _ => True) Steady where
  toOnFillers := steady_on_bus.toOnFillers
  cmd code arg isAcmd _ := Lib.ends_mono (cmd_effect code arg isAcmd) fun before answer after effect => by
    rw [effect.frame]
    exact ⟨rfl, rfl, id, [_], rfl, by simp⟩
  setCardType cardType := by
    intro before value after ran
    rw [set_card_type_run _ _ _ _ ran]
    exact ⟨rfl, rfl, id, [], rfl, by simp⟩
  record event block := record_steady event fun err same => by
    rw [same] at block
    cases block
  write_block buffer offset token _ := steady_on_bus.write_block (fun _ _ _ => record_steady _ (by simp)) buffer offset token _

theorem read_bytes_adds (length : UInt32) : Lib.Ends (readBytes length) fun before answer after =>
    (answer.1 = 0 ∧ answer.2.length = length.toNat ∧ Adds [.receivedBlock answer.2] before after) ∨
      (answer.1 ≠ 0 ∧ Adds [.failedBlock] before after) := by
  have leave (answer : Int32 × List UInt8) (event : Event) (before middle : SDCard) (moved : OnlyBus before middle)
      (found : Int32 × List UInt8) (after : SDCard)
      (ran : (do unselect; record event; return answer : DriverM (Int32 × List UInt8)).run middle = some (found, after)) :
      found = answer ∧ Adds [event] before after := by
    obtain ⟨_, _, unselects, ran⟩ := (Lib.bind_run_some _ _ _ _ _).mp ran
    obtain ⟨_, _, records, ran⟩ := (Lib.bind_run_some _ _ _ _ _).mp ran
    obtain ⟨rfl, rfl⟩ := (Lib.pure_run_some _ _ _ _).mp ran
    have released := only_bus_trans _ _ _ moved (Lib.keeps_run unselect_only_bus unselects)
    exact ⟨rfl, adds_trans [] _ _ _ _ (adds_nothing _ _ released) (Lib.keeps_run (record_adds _) records)⟩
  intro before answer after ran
  obtain ⟨found, waited, waits, ran⟩ := (Lib.bind_run_some _ _ _ _ _).mp ran
  have token := Lib.keeps_run (wait_token_only_bus _) waits
  split at ran
  · obtain ⟨rfl, added⟩ := leave _ _ _ _ token _ _ ran
    exact Or.inr ⟨by decide, added⟩
  · obtain ⟨data, high, low, card, framed, whole, ran⟩ := frame_taken length _ _ _ _ ran
    have moved := only_bus_trans _ _ _ token framed
    split at ran
    · obtain ⟨rfl, added⟩ := leave _ _ _ _ moved _ _ ran
      exact Or.inr ⟨by simp only; decide, added⟩
    · obtain ⟨rfl, added⟩ := leave _ _ _ _ moved _ _ ran
      exact Or.inl ⟨rfl, whole, added⟩

-- What _sd_sectors makes of the answer to CMD9 and of the register after it.
inductive SectorsRead (before : SDCard) : UInt64 → SDCard → Prop where
  | refused (status : Int32) (r1 : UInt32) (after : SDCard) : status ≠ ok →
      Adds [.command .cmd9SendCsd 0x0 false status r1] before after → SectorsRead before 0 after
  | missed (r1 : UInt32) (after : SDCard) : Adds [.failedBlock, .command .cmd9SendCsd 0x0 false ok r1] before after →
      SectorsRead before 0 after
  | unknown (csd : List UInt8) (r1 : UInt32) (after : SDCard) : csd.length = 16 → csdSectors csd = none →
      Adds [.receivedBlock csd, .command .cmd9SendCsd 0x0 false ok r1] before after → SectorsRead before 0 after
  | known (csd : List UInt8) (r1 : UInt32) (blocks : UInt64) (eraseSize : UInt32) (between : SDCard) : csd.length = 16 →
      csdSectors csd = some (blocks, eraseSize) → Adds [.receivedBlock csd, .command .cmd9SendCsd 0x0 false ok r1] before between →
      SectorsRead before blocks { between with eraseSize := eraseSize }

theorem sd_sectors_read : Lib.Ends sdSectors SectorsRead := by
  intro before blocks after ran
  obtain ⟨⟨status, r1⟩, commanded, commands, ran⟩ := (Lib.bind_run_some _ _ _ _ _).mp ran
  have command := Lib.ends_run (cmd_adds _ _ _ (by decide)) commands
  dsimp only at command ran
  split at ran
  · rename_i failed
    obtain ⟨rfl, rfl⟩ := (Lib.pure_run_some _ _ _ _).mp ran
    exact .refused status r1 _ failed command
  · rename_i accepted
    obtain rfl : status = ok := Decidable.not_not.mp accepted
    obtain ⟨⟨failed, csd⟩, received, reads, ran⟩ := (Lib.bind_run_some _ _ _ _ _).mp ran
    rcases Lib.ends_run (read_bytes_adds 16) reads with ⟨came, whole, block⟩ | ⟨missed, block⟩
    · dsimp only at came whole block ran
      rw [if_neg (by rw [came]; decide)] at ran
      have both := adds_trans _ _ _ _ _ command block
      split at ran
      · rename_i unknown
        obtain ⟨rfl, rfl⟩ := (Lib.pure_run_some _ _ _ _).mp ran
        exact .unknown csd r1 _ whole unknown both
      · rename_i found eraseSize known
        obtain ⟨_, sized, sizes, ran⟩ := (Lib.bind_run_some _ _ _ _ _).mp ran
        obtain ⟨rfl, rfl⟩ := (Lib.pure_run_some _ _ _ _).mp ran
        obtain ⟨-, rfl⟩ := Prod.mk.inj (Option.some.inj sizes)
        exact .known csd r1 found eraseSize _ whole known both
    · dsimp only at missed block ran
      rw [if_pos missed] at ran
      obtain ⟨rfl, rfl⟩ := (Lib.pure_run_some _ _ _ _).mp ran
      exact .missed r1 _ (adds_trans _ _ _ _ _ command block)

theorem sd_sectors_adds : Lib.Ends sdSectors fun before blocks after =>
    ∃ events, after.trace = events ++ before.trace ∧ after.isInitialized = before.isInitialized ∧ after.transferSck = before.transferSck ∧
      (∀ event ∈ events, event.setsBlocklen = false ∧ ∀ err, event ≠ .handshake err) ∧
      ∀ csd ∈ receivedBlocks events, csdBlocks csd = blocks := by
  have plain (block : Event) (status : Int32) (r1 : UInt32) (other : block.setsBlocklen = false ∧ ∀ err, block ≠ .handshake err) :
      ∀ event ∈ [block, .command .cmd9SendCsd 0x0 false status r1], event.setsBlocklen = false ∧ ∀ err, event ≠ .handshake err := by
    intro event member
    rcases List.mem_cons.mp member with rfl | member
    · exact other
    · rw [List.mem_singleton.mp member]
      exact ⟨rfl, fun err same => by cases same⟩
  have received (csd : List UInt8) : Event.setsBlocklen (.receivedBlock csd) = false ∧ ∀ err, Event.receivedBlock csd ≠ .handshake err :=
    ⟨rfl, fun err same => by cases same⟩
  refine Lib.ends_mono sd_sectors_read fun before blocks after reads => ?_
  cases reads with
  | refused status r1 after failed added =>
      rw [added]
      exact ⟨_, rfl, rfl, rfl, fun event member => plain .failedBlock status r1 ⟨rfl, fun err same => by cases same⟩ event
        (List.mem_cons_of_mem _ member), by simp [receivedBlocks]⟩
  | missed r1 after added =>
      rw [added]
      exact ⟨_, rfl, rfl, rfl, plain _ _ _ ⟨rfl, fun err same => by cases same⟩, by simp [receivedBlocks]⟩
  | unknown csd r1 after whole unknown added =>
      rw [added]
      exact ⟨_, rfl, rfl, rfl, plain _ _ _ (received csd), by simp [receivedBlocks, csdBlocks, unknown]⟩
  | known csd r1 blocks eraseSize between whole known added =>
      rw [added]
      exact ⟨_, rfl, rfl, rfl, plain _ _ _ (received csd), by simp [receivedBlocks, csdBlocks, known]⟩

-- Past the handshake, init returns OK exactly when a capacity was read and
-- CMD16 was accepted; the flag is set before either is known.
structure Finished (err : Int32) (before : SDCard) (status : Int32) (after : SDCard) (events : List Event) : Prop where
  trace : after.trace = events ++ .handshake err :: before.trace
  quiet : ∀ other, .handshake other ∉ events
  slow : after.transferSck ≤ 25000000
  flag : after.isInitialized = decide (err = ok)
  done : status = ok → err = ok ∧ after.sectors ≠ 0 ∧ ∃ event ∈ events, event.setsBlocklen = true
  missed : err = ok → status ≠ ok → (∀ csd ∈ receivedBlocks events, csdBlocks csd = 0) ∨ ∀ event ∈ events, event.setsBlocklen = false

-- What finishInit keeps between the handshake and its return.
structure Recorded (err : Int32) (before card : SDCard) (events : List Event) : Prop where
  trace : card.trace = events ++ .handshake err :: before.trace
  quiet : ∀ other, .handshake other ∉ events
  slow : card.transferSck ≤ 25000000
  flag : card.isInitialized = decide (err = ok)

theorem recorded_adds (err : Int32) (before card after : SDCard) (events : List Event) (event : Event)
    (recorded : Recorded err before card events) (other : ∀ err, event ≠ .handshake err) (added : Adds [event] card after) :
    Recorded err before after (event :: events) := by
  rw [Adds] at added
  refine ⟨?_, fun err member => ?_, ?_, ?_⟩
  · rw [added]
    simp [recorded.trace]
  · rcases List.mem_cons.mp member with same | member
    · exact other err same.symm
    · exact recorded.quiet err member
  · rw [added]
    exact recorded.slow
  · rw [added]
    exact recorded.flag

theorem finish_init_finished (err : Int32) (before after : SDCard) (status : Int32) (slow : before.transferSck ≤ 25000000)
    (ran : (finishInit err).run before = some (status, after)) : ∃ events, Finished err before status after events := by
  obtain ⟨_, recorded, records, ran⟩ := (Lib.bind_run_some _ _ _ _ _).mp ran
  have record := record_run _ _ _ _ records
  obtain ⟨_, flagged, flags, ran⟩ := (Lib.bind_run_some _ _ _ _ _).mp ran
  obtain ⟨-, flag⟩ := Prod.mk.inj (Option.some.inj flags)
  have flagged : flagged = { before with trace := .handshake err :: before.trace, isInitialized := decide (err = ok) } := by
    rw [← flag, record]
  split at ran
  · rename_i failed
    obtain ⟨rfl, rfl⟩ := (Lib.pure_run_some _ _ _ _).mp ran
    exact ⟨[], by rw [flagged]; rfl, by simp, by rw [flagged]; exact slow, by rw [flagged], fun same => absurd same failed,
      fun same => absurd same failed⟩
  · rename_i accepted
    have accepted : err = ok := Decidable.not_not.mp accepted
    obtain ⟨blocks, counted, counts, ran⟩ := (Lib.bind_run_some _ _ _ _ _).mp ran
    obtain ⟨events, trace, sameFlag, sameSck, plain, capacity⟩ := Lib.ends_run sd_sectors_adds counts
    rw [flagged] at trace sameFlag sameSck
    obtain ⟨_, sectored, sectors, ran⟩ := (Lib.bind_run_some _ _ _ _ _).mp ran
    obtain ⟨-, sized⟩ := Prod.mk.inj (Option.some.inj sectors)
    have shaken : Recorded err before sectored events := by
      rw [← sized]
      exact ⟨trace, fun other member => (plain _ member).2 other rfl, by rw [sameSck]; exact slow, sameFlag⟩
    split at ran
    · rename_i empty
      obtain ⟨rfl, rfl⟩ := (Lib.pure_run_some _ _ _ _).mp ran
      exact ⟨events, shaken.trace, shaken.quiet, shaken.slow, shaken.flag, fun same => absurd same unsupported_failed,
        fun _ _ => Or.inl fun csd member => (capacity csd member).trans empty.symm⟩
    · rename_i counted
      obtain ⟨⟨blocklen, r1⟩, commanded, commands, ran⟩ := (Lib.bind_run_some _ _ _ _ _).mp ran
      have command := Lib.ends_run (cmd_adds _ _ _ (by decide)) commands
      have sent := recorded_adds err before sectored commanded events (.command .cmd16SetBlocklen blockSize false blocklen r1) shaken
        (fun err same => by cases same) command
      dsimp only at ran
      split at ran
      · rename_i refused
        obtain ⟨rfl, rfl⟩ := (Lib.pure_run_some _ _ _ _).mp ran
        refine ⟨_, sent.trace, sent.quiet, sent.slow, sent.flag, fun same => absurd same unsupported_failed,
          fun _ _ => Or.inr fun event member => ?_⟩
        rcases List.mem_cons.mp member with rfl | member
        · exact decide_eq_false fun both => refused both.2
        · exact (plain event member).1
      · rename_i set
        have set : blocklen = ok := Decidable.not_not.mp set
        obtain ⟨slowErr, tuned, tunes, ran⟩ := (Lib.bind_run_some _ _ _ _ _).mp ran
        obtain ⟨_, _, got, tunes⟩ := (Lib.bind_run_some _ _ _ _ _).mp tunes
        obtain ⟨rfl, rfl⟩ := Prod.mk.inj (Option.some.inj got)
        rw [if_pos sent.slow] at tunes
        obtain ⟨rfl, rfl⟩ := (Lib.pure_run_some _ _ _ _).mp tunes
        obtain ⟨rfl, rfl⟩ := (Lib.pure_run_some _ _ _ _).mp ran
        refine ⟨_, sent.trace, sent.quiet, sent.slow, sent.flag, fun _ => ⟨accepted, ?_, _, List.mem_cons_self, ?_⟩,
          fun _ failed => absurd rfl failed⟩
        · rw [command, ← sized]
          exact Ne.symm counted
        · exact decide_eq_true ⟨rfl, set⟩

def newEvents (before after : SDCard) : List Event := after.trace.take (after.trace.length - before.trace.length)

theorem new_events_append (before after : SDCard) (events : List Event) (trace : after.trace = events ++ before.trace) :
    newEvents before after = events := by
  rw [newEvents, trace, List.length_append, Nat.add_sub_cancel, List.take_left']
  rfl

theorem since_handshake_append (events older : List Event) (quiet : ∀ err, .handshake err ∉ events) :
    sinceHandshake (events ++ older) = events ++ sinceHandshake older := by
  refine List.takeWhile_append_of_pos fun event member => ?_
  exact decide_eq_true fun same => quiet ok (same ▸ member)

theorem since_handshake_cons (older : List Event) : sinceHandshake (.handshake ok :: older) = [] := by
  simp [sinceHandshake]

def Complete (card : SDCard) : Prop := 0 < card.sectors ∧ BlocklenSet card.trace

theorem sectors_positive (sectors : UInt64) (nonzero : sectors ≠ 0) : 0 < sectors := by
  rw [UInt64.lt_iff_toNat_lt]
  exact Nat.pos_of_ne_zero fun zero => nonzero (UInt64.toNat_inj.mp zero)

theorem init_step (before after : SDCard) (status : Int32) (uninitialised : before.isInitialized = false) (slow : before.transferSck ≤ 25000000)
    (ran : init.run before = some (status, after)) :
    after.transferSck ≤ 25000000 ∧ (∃ err, .handshake err ∈ newEvents before after) ∧
      (InitMet (newEvents before after) → (status = ok → after.isInitialized = true ∧ Complete after) ∧
        (status ≠ ok → after.isInitialized = false)) := by
  obtain ⟨_, _, got, ran⟩ := (Lib.bind_run_some _ _ _ _ _).mp ran
  obtain ⟨rfl, rfl⟩ := Prod.mk.inj (Option.some.inj got)
  rw [uninitialised] at ran
  obtain ⟨err, shaken, shakes, ran⟩ := (Lib.bind_run_some _ _ _ _ _).mp ran
  have steady := Lib.keeps_run steady_on_calls.initialise_card shakes
  obtain ⟨older, olderTrace, olderQuiet⟩ := steady.trace
  obtain ⟨events, finished⟩ := finish_init_finished err shaken after status (steady.slow slow) ran
  have fresh : newEvents before after = events ++ .handshake err :: older := by
    refine new_events_append _ _ _ ?_
    rw [finished.trace, olderTrace]
    simp
  refine ⟨finished.slow, ⟨err, by rw [fresh]; simp⟩, fun met => ?_⟩
  rw [fresh] at met
  refine ⟨fun accepted => ?_, fun failed => ?_⟩
  · obtain ⟨rfl, counted, set⟩ := finished.done accepted
    refine ⟨finished.flag, sectors_positive _ counted, ?_⟩
    rw [BlocklenSet, finished.trace, since_handshake_append _ _ finished.quiet, since_handshake_cons, List.append_nil]
    exact set
  · rw [finished.flag]
    refine decide_eq_false fun shook => ?_
    subst shook
    obtain ⟨⟨csd, received, positive⟩, event, since, set⟩ := met (by simp)
    rw [since_handshake_append _ _ finished.quiet, since_handshake_cons, List.append_nil] at received since
    rcases finished.missed rfl failed with empty | unset
    · exact positive (empty csd received)
    · rw [unset event since] at set
      cases set

inductive DriverCall where
  | init
  | deinit
  | read (b : Nat → UInt8) (addr size : UInt64)
  | program (b : Nat → UInt8) (addr size : UInt64)
  | trim (addr size : UInt64)

def DriverCall.status : DriverCall → DriverM Int32
  | .init => Driver.init
  | .deinit => Driver.deinit
  | .read b addr size => do
      let (status, _) ← Driver.read b addr size
      return status
  | .program b addr size => Driver.program b addr size
  | .trim addr size => Driver.trim addr size

theorem calls_tell (call : DriverCall) : Lib.Keeps Tells call.status := by
  cases call with
  | init => exact tells_init
  | deinit =>
      refine tells_on_calls.bind (tells_on_calls.member _) fun flag => Lib.keeps_ite (tells_on_calls.pure _) ?_
      refine tells_on_calls.bind (modify_tells _ (fun _ => rfl) fun _ => rfl) fun _ => ?_
      exact tells_on_calls.bind (modify_tells _ (fun _ => rfl) fun _ => rfl) fun _ => tells_on_calls.pure ok
  | read b addr size =>
      intro before status after ran
      obtain ⟨answer, read, reads, ran⟩ := (Lib.bind_run_some _ _ _ _ _).mp ran
      obtain ⟨-, rfl⟩ := (Lib.pure_run_some _ _ _ _).mp ran
      exact Lib.ends_run (tells_on_calls.read b addr size) reads fun _ _ => ⟨trivial, trivial⟩
  | program b addr size =>
      exact Lib.ends_mono (tells_on_calls.program b addr size) fun before status after tells => tells fun _ _ => ⟨fun _ => trivial, trivial, trivial⟩
  | trim addr size =>
      exact Lib.ends_mono (tells_on_calls.trim addr size) fun before status after tells => tells fun _ _ => ⟨trivial, trivial, trivial⟩

-- The commands and blocks a call records are the frames it puts on the bus, with
-- the answers the card gave.
theorem call_told (call : DriverCall) (card after : SDCard) (rx : List UInt8) (status : Int32)
    (ran : call.status.run (card.hears rx) = some (status, after)) :
    Exchanged (card.hears rx) (exchangesSince (card.hears rx) after) after ∧ Told (newEvents card after) (framesSince (card.hears rx) after) := by
  have tells := Lib.keeps_run (calls_tell call) ran
  refine ⟨tells_exchanged tells, ?_⟩
  have grown := tells
  obtain ⟨events, _, trace, -⟩ := grown
  rw [new_events_append card after events trace]
  exact tells_told tells trace

-- A call together with the answers it is given, and the calls whose init does
-- not stop half-way through a card that has answered the handshake.
def Calls (before : SDCard) (input : DriverCall × List UInt8) (after : SDCard) : Prop :=
  ∃ status, input.1.status.run (before.hears input.2) = some (status, after)

def CallsMeeting (before : SDCard) (input : DriverCall × List UInt8) (after : SDCard) : Prop :=
  Calls before input after ∧ (input.1 = .init → before.isInitialized = false → InitMet (newEvents before after))

def Sound (card : SDCard) : Prop := card.transferSck ≤ 25000000 ∧ (card.isInitialized = true → Complete card)

theorem steady_sound (before after : SDCard) (sound : Sound before) (steady : Steady before after) : Sound after := by
  refine ⟨steady.slow sound.1, fun initialised => ?_⟩
  rw [steady.isInitialized] at initialised
  obtain ⟨positive, event, since, set⟩ := sound.2 initialised
  obtain ⟨events, trace, quiet⟩ := steady.trace
  refine ⟨by rw [steady.sectors]; exact positive, event, ?_, set⟩
  rw [trace, since_handshake_append _ _ quiet]
  exact List.mem_append_right _ since

theorem initialised_init (before after : SDCard) (status : Int32) (initialised : before.isInitialized = true)
    (ran : init.run before = some (status, after)) : status = ok ∧ after = before := by
  obtain ⟨_, _, got, ran⟩ := (Lib.bind_run_some _ _ _ _ _).mp ran
  obtain ⟨rfl, rfl⟩ := Prod.mk.inj (Option.some.inj got)
  rw [initialised] at ran
  obtain ⟨rfl, rfl⟩ := (Lib.pure_run_some _ _ _ _).mp ran
  exact ⟨rfl, rfl⟩

theorem calls_sound (before : SDCard) (input : DriverCall × List UInt8) (after : SDCard) (sound : Sound before)
    (calls : CallsMeeting before input after) : Sound after := by
  obtain ⟨call, rx⟩ := input
  obtain ⟨⟨status, ran⟩, met⟩ := calls
  have heard : Sound (before.hears rx) := sound
  have fresh : newEvents (before.hears rx) after = newEvents before after := rfl
  cases call with
  | init =>
      cases flag : before.isInitialized with
      | true =>
          obtain ⟨-, rfl⟩ := initialised_init _ _ _ (show (before.hears rx).isInitialized = true from flag) ran
          exact heard
      | false =>
          obtain ⟨slow, -, settles⟩ := init_step (before.hears rx) after status flag sound.1 ran
          obtain ⟨done, undone⟩ := settles (fresh ▸ met rfl flag)
          refine ⟨slow, fun initialised => ?_⟩
          by_cases accepted : status = ok
          · exact (done accepted).2
          · rw [undone accepted] at initialised
            cases initialised
  | deinit =>
      obtain ⟨_, _, got, ran⟩ := (Lib.bind_run_some _ _ _ _ _).mp ran
      obtain ⟨rfl, rfl⟩ := Prod.mk.inj (Option.some.inj got)
      split at ran
      · obtain ⟨-, rfl⟩ := (Lib.pure_run_some _ _ _ _).mp ran
        exact heard
      · obtain ⟨_, _, flags, ran⟩ := (Lib.bind_run_some _ _ _ _ _).mp ran
        obtain ⟨-, rfl⟩ := Prod.mk.inj (Option.some.inj flags)
        obtain ⟨_, _, sectors, ran⟩ := (Lib.bind_run_some _ _ _ _ _).mp ran
        obtain ⟨-, rfl⟩ := Prod.mk.inj (Option.some.inj sectors)
        obtain ⟨-, rfl⟩ := (Lib.pure_run_some _ _ _ _).mp ran
        exact ⟨sound.1, fun wrong => by cases wrong⟩
  | read b addr size =>
      obtain ⟨answer, read, reads, ran⟩ := (Lib.bind_run_some _ _ _ _ _).mp ran
      obtain ⟨-, rfl⟩ := (Lib.pure_run_some _ _ _ _).mp ran
      exact steady_sound _ _ heard (Lib.ends_run (steady_on_calls.read b addr size) reads fun _ _ => ⟨trivial, trivial⟩)
  | program b addr size =>
      exact steady_sound _ _ heard
        (Lib.ends_run (steady_on_calls.program b addr size) ran fun _ _ => ⟨fun _ => trivial, trivial, trivial⟩)
  | trim addr size =>
      exact steady_sound _ _ heard (Lib.ends_run (steady_on_calls.trim addr size) ran fun _ _ => ⟨trivial, trivial, trivial⟩)

theorem fresh_sound (uninitialised : UInt32) : Sound (SDCard.fresh uninitialised) :=
  ⟨show sdTrxFrequency ≤ 25000000 by decide, fun wrong => by cases wrong⟩

-- The flag means a complete card; init returns OK only then; an init that
-- failed leaves the next one to start with the handshake again.
def InitReliable (card : SDCard) : Prop :=
  (card.isInitialized = true → Complete card) ∧
    ∀ rx status after, init.run (card.hears rx) = some (status, after) →
      (card.isInitialized = false → InitMet (newEvents card after)) →
      (status = ok → after.isInitialized = true ∧ Complete after) ∧
        (status ≠ ok → ∀ next again final, init.run (after.hears next) = some (again, final) → ∃ err, .handshake err ∈ newEvents after final)

theorem meeting_runs_init_reliable (uninitialised : UInt32) (inputs : List (DriverCall × List UInt8)) (card : SDCard)
    (ran : Lib.Run CallsMeeting (SDCard.fresh uninitialised) inputs card) :
    InitReliable card ∧ ∀ rx status after, init.run (card.hears rx) = some (status, after) →
      Exchanged (card.hears rx) (exchangesSince (card.hears rx) after) after ∧ Told (newEvents card after) (framesSince (card.hears rx) after) := by
  have sound : Sound card := Lib.run_invariant Sound calls_sound ran (fresh_sound uninitialised)
  refine ⟨⟨sound.2, fun rx status after inits met => ?_⟩, fun rx status after inits => call_told .init card after rx status inits⟩
  cases flag : card.isInitialized with
  | true =>
      obtain ⟨rfl, rfl⟩ := initialised_init _ _ _ (show (card.hears rx).isInitialized = true from flag) inits
      exact ⟨fun _ => ⟨flag, sound.2 flag⟩, fun failed => absurd rfl failed⟩
  | false =>
      obtain ⟨slow, -, settles⟩ := init_step (card.hears rx) after status flag sound.1 inits
      obtain ⟨done, undone⟩ := settles (met flag)
      exact ⟨done, fun failed next again final retries =>
        (init_step (after.hears next) final again (undone failed) slow retries).2.1⟩

def unreadCsd : List UInt8 := handshakeAnswers (commandAnswer 0x00 [0xC0, 0x10, 0x00, 0x00]) ++ commandAnswer 0x04 []

theorem half_initialised_init_ok : ∃ card, Lib.Run Calls (SDCard.fresh 0) [(.init, unreadCsd)] card ∧ card.isInitialized = true ∧
    card.sectors = 0 ∧ ¬ Complete card ∧ init.run (card.hears []) = some (ok, card.hears []) := by
  have observed : (init.run ((SDCard.fresh 0).hears unreadCsd)).map (fun answer => (answer.1, answer.2.isInitialized, answer.2.sectors)) =
      some (errorUnsupported, true, 0) := by decide +kernel
  cases ran : init.run ((SDCard.fresh 0).hears unreadCsd) with
  | none => simp [ran] at observed
  | some answer =>
      obtain ⟨status, card⟩ := answer
      simp only [ran, Option.map_some, Option.some.injEq, Prod.mk.injEq] at observed
      obtain ⟨rfl, flag, none⟩ := observed
      refine ⟨card, .snoc _ _ _ [] _ (.nil _) ⟨_, ran⟩, flag, none, fun complete => ?_, ?_⟩
      · have positive := complete.1
        rw [none] at positive
        exact absurd positive (by decide)
      · refine (Lib.bind_run_some _ _ _ _ _).mpr ⟨true, card.hears [], ?_, rfl⟩
        exact congrArg (fun found => some (found, card.hears [])) flag

theorem high_capacity_card_reliable : ∃ card, Lib.Run CallsMeeting (SDCard.fresh 0) [(.init, highCapacityCard.bus.rx)] card ∧
    card.isInitialized = true ∧ InitReliable card := by
  have observed : (init.run highCapacityCard).map (fun answer =>
      (decide (InitMet (newEvents (SDCard.fresh 0) answer.2)), answer.2.isInitialized)) = some (true, true) := by decide +kernel
  cases ran : init.run highCapacityCard with
  | none => simp [ran] at observed
  | some answer =>
      simp only [ran, Option.map_some, Option.some.injEq, Prod.mk.injEq, decide_eq_true_eq] at observed
      have run : Lib.Run CallsMeeting (SDCard.fresh 0) [(.init, highCapacityCard.bus.rx)] answer.2 :=
        .snoc _ _ _ [] _ (.nil _) ⟨⟨answer.1, ran⟩, fun _ _ => observed.1⟩
      exact ⟨answer.2, run, observed.2, (meeting_runs_init_reliable 0 _ answer.2 run).1⟩

end SDCardFs.Driver
