import SDCardFs.Driver.Read
import SDCardFs.Driver.Lifecycle

set_option autoImplicit false

namespace SDCardFs.Driver

-- Everything but the filler is sent with chip select low.
def InFrame (exchanges : List Transfer) : Prop := ∀ exchange ∈ exchanges, exchange.sent ≠ filler → exchange.csHigh = false

def Framed (before after : SDCard) : Prop := ∃ exchanges, after.bus.transfers = exchanges ++ before.bus.transfers ∧ InFrame exchanges

theorem framed_refl (card : SDCard) : Framed card card := ⟨[], rfl, fun _ member => nomatch member⟩

theorem framed_trans (a b c : SDCard) (left : Framed a b) (right : Framed b c) : Framed a c := by
  obtain ⟨older, leftSent, leftFramed⟩ := left
  obtain ⟨newer, rightSent, rightFramed⟩ := right
  refine ⟨newer ++ older, by rw [rightSent, leftSent, List.append_assoc], fun exchange member => ?_⟩
  rcases List.mem_append.mp member with new | old
  · exact rightFramed exchange new
  · exact leftFramed exchange old

-- Calls that send fillers only and do not touch chip select, calls made and
-- ended with the card selected, and calls that give the bus back.
structure Idles (before after : SDCard) : Prop where
  line : after.bus.csHigh = before.bus.csHigh
  framed : Framed before after

def StaysSelected (before after : SDCard) : Prop := before.bus.csHigh = false → after.bus.csHigh = false ∧ Framed before after

def Releases (before after : SDCard) : Prop := before.bus.csHigh = true → after.bus.csHigh = true ∧ Framed before after

theorem Idles.refl (card : SDCard) : Idles card card := ⟨rfl, framed_refl card⟩

theorem Idles.trans (a b c : SDCard) (left : Idles a b) (right : Idles b c) : Idles a c :=
  ⟨right.line.trans left.line, framed_trans a b c left.framed right.framed⟩

theorem Idles.stays_selected {before after : SDCard} (idles : Idles before after) : StaysSelected before after :=
  fun low => ⟨idles.line.trans low, idles.framed⟩

theorem Idles.releases {before after : SDCard} (idles : Idles before after) : Releases before after :=
  fun high => ⟨idles.line.trans high, idles.framed⟩

theorem stays_selected_trans (a b c : SDCard) (left : StaysSelected a b) (right : StaysSelected b c) : StaysSelected a c := by
  intro low
  obtain ⟨still, older⟩ := left low
  obtain ⟨last, newer⟩ := right still
  exact ⟨last, framed_trans a b c older newer⟩

theorem releases_trans (a b c : SDCard) (left : Releases a b) (right : Releases b c) : Releases a c := by
  intro high
  obtain ⟨still, older⟩ := left high
  obtain ⟨last, newer⟩ := right still
  exact ⟨last, framed_trans a b c older newer⟩

section
variable {α β : Type}

theorem idles_bind {first : DriverM α} {rest : α → DriverM β} (firstIdles : Lib.Keeps Idles first)
    (restIdles : ∀ result, Lib.Keeps Idles (rest result)) : Lib.Keeps Idles (first >>= rest) :=
  Lib.keeps_bind Idles.trans firstIdles restIdles

theorem idles_pure (result : α) : Lib.Keeps Idles (pure result : DriverM α) := Lib.keeps_pure result Idles.refl

theorem selected_bind {first : DriverM α} {rest : α → DriverM β} (firstStays : Lib.Keeps StaysSelected first)
    (restStays : ∀ result, Lib.Keeps StaysSelected (rest result)) : Lib.Keeps StaysSelected (first >>= rest) :=
  Lib.keeps_bind stays_selected_trans firstStays restStays

theorem idles_selected {call : DriverM α} (idles : Lib.Keeps Idles call) : Lib.Keeps StaysSelected call :=
  Lib.ends_mono idles fun _ _ _ => Idles.stays_selected

theorem idles_releases {call : DriverM α} (idles : Lib.Keeps Idles call) : Lib.Keeps Releases call :=
  Lib.ends_mono idles fun _ _ _ => Idles.releases

theorem releases_bind {first : DriverM α} {rest : α → DriverM β} (firstReleases : Lib.Keeps Releases first)
    (restReleases : ∀ result, Lib.Keeps Releases (rest result)) : Lib.Keeps Releases (first >>= rest) :=
  Lib.keeps_bind releases_trans firstReleases restReleases

theorem releases_pure (result : α) : Lib.Keeps Releases (pure result : DriverM α) := idles_releases (idles_pure result)

theorem member_idles (field : SDCard → α) : Lib.Keeps Idles (member field) := by
  intro before value after ran
  obtain ⟨-, rfl⟩ := Prod.mk.inj (Option.some.inj ran)
  exact Idles.refl before

theorem modify_idles (change : SDCard → SDCard) (apart : ∀ card, (change card).bus = card.bus) : Lib.Keeps Idles (modify change : DriverM Unit) := by
  intro before value after ran
  obtain ⟨-, rfl⟩ := Prod.mk.inj (Option.some.inj ran)
  exact ⟨by rw [apart], [], by rw [apart]; rfl, fun _ member => nomatch member⟩

end

theorem get_idles : Lib.Keeps Idles (get : DriverM SDCard) := by
  intro before value after ran
  obtain ⟨-, rfl⟩ := Prod.mk.inj (Option.some.inj ran)
  exact Idles.refl before

theorem record_idles (event : Event) : Lib.Keeps Idles (record event) := modify_idles _ fun _ => rfl

theorem set_card_type_idles (cardType : CardType) : Lib.Keeps Idles (setCardType cardType) := modify_idles _ fun _ => rfl

theorem transfer_sent (data : UInt8) : Lib.Ends (transfer data) fun before byte after =>
    after.bus.csHigh = before.bus.csHigh ∧ after.bus.transfers = ⟨data, byte, before.bus.csHigh⟩ :: before.bus.transfers := by
  intro before byte after ran
  obtain ⟨rest, -, rfl⟩ := transfer_effect data before byte after ran
  exact ⟨rfl, rfl⟩

theorem filler_idles : Lib.Keeps Idles (transfer filler) := by
  refine Lib.ends_mono (transfer_sent filler) ?_
  rintro before byte after ⟨line, sent⟩
  refine ⟨line, [_], sent, fun exchange member other => ?_⟩
  rw [List.mem_singleton.mp member] at other
  exact absurd rfl other

theorem transfer_selected (data : UInt8) : Lib.Keeps StaysSelected (transfer data) := by
  refine Lib.ends_mono (transfer_sent data) ?_
  rintro before byte after ⟨line, sent⟩ low
  refine ⟨line.trans low, [_], sent, fun exchange member _ => ?_⟩
  rw [List.mem_singleton.mp member]
  exact low

theorem transfer_fillers_idles (count : Nat) : Lib.Keeps Idles (transferFillers count) := by
  induction count with
  | zero => exact idles_pure []
  | succ count ih => exact idles_bind filler_idles fun byte => idles_bind ih fun rest => idles_pure _

theorem transfer_all_selected (bytes : List UInt8) : Lib.Keeps StaysSelected (transferAll bytes) := by
  induction bytes with
  | nil => exact idles_selected (idles_pure ())
  | cons byte rest ih => exact selected_bind (transfer_selected byte) fun _ => ih

theorem wait_ready_loop_idles (timeous c : Int) (fuel : Nat) : Lib.Keeps Idles (waitReadyLoop timeous c fuel) := by
  induction fuel with
  | zero => intro before value after ran; cases ran
  | succ fuel ih => exact idles_bind filler_idles fun response => Lib.keeps_ite (idles_pure _) (Lib.keeps_ite ih (idles_pure _))

theorem wait_ready_idles (timeous : Int) : Lib.Keeps Idles (waitReady timeous) :=
  fun before value after ran => wait_ready_loop_idles timeous 0 _ before value after ran

theorem wait_token_loop_idles (token : UInt8) (tries : Nat) : Lib.Keeps Idles (waitTokenLoop token tries) := by
  induction tries with
  | zero => exact idles_pure false
  | succ tries ih => exact idles_bind filler_idles fun byte => Lib.keeps_ite (idles_pure _) ih

-- Calls after which the value tells how chip select was left, made in any
-- state of the line or with the card selected.
def Leaves {α : Type} (level : α → Bool) (call : DriverM α) : Prop :=
  Lib.Ends call fun before value after => Framed before after ∧ after.bus.csHigh = level value

def SelectedLeaves {α : Type} (level : α → Bool) (call : DriverM α) : Prop :=
  Lib.Ends call fun before value after => before.bus.csHigh = false → Framed before after ∧ after.bus.csHigh = level value

section
variable {α β : Type} {level : β → Bool}

theorem leaves_after {first : DriverM α} {rest : α → DriverM β} (firstIdles : Lib.Keeps Idles first)
    (restLeaves : ∀ result, Leaves level (rest result)) : Leaves level (first >>= rest) :=
  Lib.ends_bind firstIdles restLeaves fun before _ between _ after idles left =>
    ⟨framed_trans before between after idles.framed left.1, left.2⟩

theorem leaves_selected {first : DriverM α} {rest : α → DriverM β} (selects : Leaves (fun _ => false) first)
    (restLeaves : ∀ result, SelectedLeaves level (rest result)) : Leaves level (first >>= rest) :=
  Lib.ends_bind selects restLeaves fun before _ between _ after left right =>
    ⟨framed_trans before between after left.1 (right left.2).1, (right left.2).2⟩

theorem selected_leaves_after {first : DriverM α} {rest : α → DriverM β} (firstStays : Lib.Keeps StaysSelected first)
    (restLeaves : ∀ result, SelectedLeaves level (rest result)) : SelectedLeaves level (first >>= rest) := by
  refine Lib.ends_bind firstStays restLeaves fun before _ between _ after left right low => ?_
  obtain ⟨still, older⟩ := left low
  exact ⟨framed_trans before between after older (right still).1, (right still).2⟩

theorem leaves_any {call : DriverM β} (leaves : Leaves level call) : SelectedLeaves level call :=
  Lib.ends_mono leaves fun _ _ _ left _ => left

theorem selected_leaves_ite {condition : Prop} [Decidable condition] {yes no : DriverM β} (yesLeaves : condition → SelectedLeaves level yes)
    (noLeaves : ¬ condition → SelectedLeaves level no) : SelectedLeaves level (if condition then yes else no) := by
  split
  · rename_i holds
    exact yesLeaves holds
  · rename_i fails
    exact noLeaves fails

end

theorem set_cs_leaves (high : Bool) : Leaves (fun _ => high) (setCs high) := by
  intro before value after ran
  obtain ⟨-, rfl⟩ := Prod.mk.inj (Option.some.inj ran)
  exact ⟨⟨[], rfl, fun _ member => nomatch member⟩, rfl⟩

theorem select_leaves : Leaves (fun _ => false) select :=
  leaves_after filler_idles fun _ => leaves_after filler_idles fun _ => set_cs_leaves false

theorem unselect_leaves : Leaves (fun _ => true) unselect := leaves_after filler_idles fun _ => set_cs_leaves true

theorem unselect_then {α : Type} {level : α → Bool} {rest : DriverM α} (idles : Lib.Keeps Idles rest)
    (high : Lib.Ends rest fun _ value _ => level value = true) : Leaves level (do unselect; rest) := by
  intro before value after ran
  obtain ⟨_, between, unselects, ran⟩ := (Lib.bind_run_some _ _ _ _ _).mp ran
  obtain ⟨framed, released⟩ := Lib.ends_run unselect_leaves unselects
  have kept := Lib.keeps_run idles ran
  exact ⟨framed_trans _ _ _ framed kept.framed, (kept.line.trans released).trans (Lib.ends_run high ran).symm⟩

theorem unselect_return {α : Type} {level : α → Bool} (result : α) (high : level result = true) :
    Leaves level (do unselect; return result) :=
  unselect_then (idles_pure result) (Lib.ends_pure result _ fun _ => high)

theorem cmd_spi_loop_idles (tries : Nat) (response : UInt8) : Lib.Keeps Idles (cmdSpiLoop tries response) := by
  induction tries generalizing response with
  | zero => exact idles_pure response
  | succ tries ih => exact idles_bind filler_idles fun byte => Lib.keeps_ite (idles_pure _) (ih byte)

theorem cmd_spi_selected (code : CmdSupported) (arg : UInt32) : Lib.Keeps StaysSelected (cmdSpi code arg) := by
  refine selected_bind (idles_selected (member_idles _)) fun crcOn => selected_bind (transfer_all_selected _) fun _ => idles_selected ?_
  exact Lib.keeps_ite (idles_bind filler_idles fun _ => cmd_spi_loop_idles _ _) (cmd_spi_loop_idles _ _)

theorem cmd_attempts_selected (code : CmdSupported) (arg : UInt32) (isAcmd : Bool) (attempts : Nat) (response : UInt32) :
    Lib.Keeps StaysSelected (cmdAttempts code arg isAcmd attempts response) := by
  induction attempts generalizing response with
  | zero => exact idles_selected (idles_pure response)
  | succ attempts ih =>
      have sends : Lib.Keeps StaysSelected (do
          let byte ← cmdSpi code arg
          if r1NoResponse = byte.toUInt32 then cmdAttempts code arg isAcmd attempts byte.toUInt32
          else pure byte.toUInt32) :=
        selected_bind (cmd_spi_selected _ _) fun byte => Lib.keeps_ite (ih _) (idles_selected (idles_pure _))
      refine Lib.keeps_ite (selected_bind (cmd_spi_selected _ _) fun _ => ?_) sends
      exact selected_bind (idles_selected (wait_ready_idles _)) fun _ => sends

theorem read_word_idles : Lib.Keeps Idles readWord :=
  idles_bind filler_idles fun _ => idles_bind filler_idles fun _ => idles_bind filler_idles fun _ =>
    idles_bind filler_idles fun _ => idles_pure _

theorem cmd_tail_idles (code : CmdSupported) (response : UInt32) : Lib.Keeps Idles (cmdTail code response) := by
  cases code
  case cmd8SendIfCond => exact idles_bind (set_card_type_idles _) fun _ => read_word_idles
  case cmd58ReadOcr => exact read_word_idles
  case cmd12StopTransmission => exact idles_bind (wait_ready_idles _) fun _ => idles_pure _
  case cmd38Erase => exact idles_bind (wait_ready_idles _) fun _ => idles_pure _
  case cmd13SendStatus => exact idles_bind filler_idles fun _ => idles_pure _
  all_goals exact idles_pure _

-- Six commands leave the card selected, when they are accepted.
def cmdLevel (code : CmdSupported) (answer : Int32 × UInt32) : Bool := ! (keepsSelected code && answer.1 = ok)

theorem cmd_level_failed (code : CmdSupported) (status : Int32) (response : UInt32) (failed : status ≠ ok) :
    cmdLevel code (status, response) = true := by
  simp [cmdLevel, failed]

theorem cmd_answer_leaves (code : CmdSupported) (response : UInt32) : SelectedLeaves (cmdLevel code) (cmdAnswer code response) := by
  refine selected_leaves_ite (fun _ => leaves_any (unselect_return _ (cmd_level_failed code _ _ no_device_failed.1))) fun _ => ?_
  refine selected_leaves_ite (fun _ => leaves_any (unselect_return _ (cmd_level_failed code _ _ crc_failed.1))) fun _ => ?_
  refine selected_leaves_ite (fun _ => leaves_any (unselect_then ?_ ?_)) fun _ => ?_
  · exact Lib.keeps_ite (idles_bind (set_card_type_idles _) fun _ => idles_pure _) (idles_pure _)
  · intro before value after ran
    dsimp only at ran
    split at ran
    · obtain ⟨_, _, _, done⟩ := (Lib.bind_run_some _ _ _ _ _).mp ran
      obtain ⟨rfl, _⟩ := (Lib.pure_run_some _ _ _ _).mp done
      exact cmd_level_failed code _ _ unsupported_failed
    · obtain ⟨rfl, _⟩ := (Lib.pure_run_some _ _ _ _).mp ran
      exact cmd_level_failed code _ _ unsupported_failed
  · refine selected_leaves_after (idles_selected (cmd_tail_idles code response)) fun full => selected_leaves_ite (fun kept => ?_) fun released => ?_
    · refine Lib.ends_pure _ _ fun card low => ⟨framed_refl card, ?_⟩
      simp [cmdLevel, kept.1, low]
    · apply leaves_any (unselect_return _ _)
      rcases Decidable.not_and_iff_or_not.mp released with other | failed
      · simp [cmdLevel, other]
      · exact cmd_level_failed code _ _ failed

theorem cmd_leaves (code : CmdSupported) (arg : UInt32) (isAcmd : Bool) : Leaves (cmdLevel code) (cmd code arg isAcmd) := by
  have answered : SelectedLeaves (cmdLevel code) (do let response ← cmdAttempts code arg isAcmd 3 r1NoResponse; cmdAnswer code response) :=
    selected_leaves_after (cmd_attempts_selected _ _ _ _ _) fun response => cmd_answer_leaves code response
  have body : Leaves (cmdLevel code) (cmdBody code arg isAcmd) := by
    refine leaves_selected select_leaves fun _ => selected_leaves_ite (fun _ => ?_) fun _ => answered
    exact selected_leaves_after (idles_selected (wait_ready_idles _)) fun _ => answered
  intro before answer after ran
  obtain ⟨_, answeredCard, called, ran⟩ := (Lib.bind_run_some _ _ _ _ _).mp ran
  obtain ⟨_, recorded, records, done⟩ := (Lib.bind_run_some _ _ _ _ _).mp ran
  obtain ⟨rfl, rfl⟩ := (Lib.pure_run_some _ _ _ _).mp done
  obtain ⟨framed, level⟩ := Lib.ends_run body called
  have kept := Lib.keeps_run (record_idles _) records
  exact ⟨framed_trans _ _ _ framed kept.framed, kept.line.trans level⟩

theorem cmd_releases (code : CmdSupported) (arg : UInt32) (isAcmd : Bool) (plain : keepsSelected code = false) :
    Lib.Keeps Releases (cmd code arg isAcmd) := by
  refine Lib.ends_mono (cmd_leaves code arg isAcmd) fun before answer after left _ => ?_
  refine ⟨left.2.trans ?_, left.1⟩
  simp [cmdLevel, plain]

-- A command that keeps the card selected, given back by what follows.
theorem cmd_transaction {α : Type} (code : CmdSupported) (arg : UInt32) (isAcmd : Bool) (rest : Int32 × UInt32 → DriverM α)
    (keeps : keepsSelected code = true) (refused : ∀ answer, answer.1 ≠ ok → Lib.Keeps Releases (rest answer))
    (accepted : ∀ answer, answer.1 = ok → SelectedLeaves (fun _ => true) (rest answer)) :
    Lib.Keeps Releases (cmd code arg isAcmd >>= rest) := by
  intro before value after ran high
  obtain ⟨answer, between, called, ran⟩ := (Lib.bind_run_some _ _ _ _ _).mp ran
  obtain ⟨framed, level⟩ := Lib.ends_run (cmd_leaves code arg isAcmd) called
  by_cases passed : answer.1 = ok
  · have low : between.bus.csHigh = false := by simpa [cmdLevel, keeps, passed] using level
    obtain ⟨rested, released⟩ := Lib.ends_run (accepted answer passed) ran low
    exact ⟨released, framed_trans _ _ _ framed rested⟩
  · have released : between.bus.csHigh = true := by simpa [cmdLevel, keeps, passed] using level
    obtain ⟨last, rested⟩ := Lib.keeps_run (refused answer passed) ran released
    exact ⟨last, framed_trans _ _ _ framed rested⟩

theorem unselect_releases {α : Type} {rest : DriverM α} (restReleases : Lib.Keeps Releases rest) :
    SelectedLeaves (fun _ => true) (do unselect; rest) := by
  intro before value after ran low
  obtain ⟨_, between, unselects, ran⟩ := (Lib.bind_run_some _ _ _ _ _).mp ran
  obtain ⟨framed, released⟩ := Lib.ends_run unselect_leaves unselects
  obtain ⟨last, rested⟩ := Lib.keeps_run restReleases ran released
  exact ⟨framed_trans _ _ _ framed rested, last⟩

theorem write_block_selected (buffer : Nat → UInt8) (offset : Nat) (token : UInt8) (length : UInt32) :
    Lib.Keeps StaysSelected (writeBlock buffer offset token length) := by
  refine selected_bind (transfer_selected _) fun _ => selected_bind (transfer_all_selected _) fun _ => ?_
  refine selected_bind (transfer_selected _) fun _ => selected_bind (transfer_selected _) fun _ => idles_selected ?_
  refine idles_bind filler_idles fun _ => idles_bind (wait_ready_idles _) fun _ => ?_
  exact idles_bind (record_idles _) fun _ => idles_pure _

theorem program_loop_selected (buffer : Nat → UInt8) (blockCnt offset : Nat) : Lib.Keeps StaysSelected (programLoop buffer blockCnt offset) := by
  induction blockCnt generalizing offset with
  | zero => exact idles_selected (idles_pure ())
  | succ blockCnt ih => exact selected_bind (write_block_selected _ _ _ _) fun response => Lib.keeps_ite (ih _) (idles_selected (idles_pure ()))

-- CMD12 of a multi-block run is sent while the card is selected.
theorem cmd_selected (code : CmdSupported) (arg : UInt32) (isAcmd : Bool) (plain : keepsSelected code = false) {α : Type}
    (rest : Int32 × UInt32 → DriverM α) (restReleases : ∀ answer, Lib.Keeps Releases (rest answer)) :
    SelectedLeaves (fun _ => true) (cmd code arg isAcmd >>= rest) := by
  intro before value after ran low
  obtain ⟨answer, between, called, ran⟩ := (Lib.bind_run_some _ _ _ _ _).mp ran
  obtain ⟨framed, level⟩ := Lib.ends_run (cmd_leaves code arg isAcmd) called
  have released : between.bus.csHigh = true := by simpa [cmdLevel, plain] using level
  obtain ⟨last, rested⟩ := Lib.keeps_run (restReleases answer) ran released
  exact ⟨framed_trans _ _ _ framed rested, last⟩

theorem unselect_only_releases : Lib.Keeps Releases unselect :=
  Lib.ends_mono unselect_leaves fun _ _ _ left _ => ⟨left.2, left.1⟩

theorem program_releases (b : Nat → UInt8) (addr size : UInt64) : Lib.Keeps Releases (program b addr size) := by
  refine releases_bind (idles_releases get_idles) fun card => Lib.keeps_ite (releases_pure _) (Lib.keeps_ite (releases_pure _) ?_)
  refine Lib.keeps_ite (cmd_transaction _ _ _ _ rfl ?_ ?_) (releases_bind (cmd_releases _ _ _ rfl) fun _ => cmd_transaction _ _ _ _ rfl ?_ ?_)
  · intro answer failed
    dsimp only
    rw [if_pos failed]
    exact releases_pure _
  · intro answer accepted
    dsimp only
    rw [if_neg fun failed => failed accepted]
    exact selected_leaves_after (write_block_selected _ _ _ _) fun _ => unselect_releases (releases_pure _)
  · intro answer failed
    dsimp only
    rw [if_pos failed]
    exact releases_pure _
  · intro answer accepted
    dsimp only
    rw [if_neg fun failed => failed accepted]
    refine selected_leaves_after (program_loop_selected _ _ _) fun _ => cmd_selected _ _ _ rfl _ fun _ => ?_
    exact releases_bind unselect_only_releases fun _ => releases_pure _

theorem read_block_idles (length : UInt32) : Lib.Keeps Idles (readBlock length) := by
  refine idles_bind (wait_token_loop_idles _ _) fun found => Lib.keeps_ite (idles_bind (record_idles _) fun _ => idles_pure _) ?_
  refine idles_bind (transfer_fillers_idles _) fun data => idles_bind filler_idles fun high => idles_bind filler_idles fun low => ?_
  refine idles_bind get_idles fun card => Lib.keeps_ite (idles_bind (record_idles _) fun _ => idles_pure _) ?_
  exact idles_bind (record_idles _) fun _ => idles_pure _

theorem read_loop_idles (status : Int32) (blockCnt offset : Nat) (buffer : Nat → UInt8) :
    Lib.Keeps Idles (readLoop status blockCnt offset buffer) := by
  induction blockCnt generalizing offset buffer with
  | zero => exact idles_pure _
  | succ blockCnt ih => exact idles_bind (read_block_idles _) fun answer => Lib.keeps_ite (idles_pure _) (ih _ _)

theorem read_releases (b : Nat → UInt8) (addr size : UInt64) : Lib.Keeps Releases (read b addr size) := by
  refine releases_bind (idles_releases get_idles) fun card => Lib.keeps_ite (releases_pure _) (Lib.keeps_ite (releases_pure _) ?_)
  refine cmd_transaction _ _ _ _ ?_ ?_ ?_
  · split <;> rfl
  · intro answer failed
    dsimp only
    rw [if_pos (Ne.symm failed)]
    exact releases_pure _
  · intro answer accepted
    dsimp only
    rw [if_neg fun failed => failed accepted.symm]
    refine selected_leaves_after (idles_selected (read_loop_idles _ _ _ _)) fun filled => unselect_releases ?_
    exact Lib.keeps_ite (releases_bind (cmd_releases _ _ _ rfl) fun _ => releases_pure _) (releases_pure _)

theorem trim_releases (addr size : UInt64) : Lib.Keeps Releases (trim addr size) := by
  refine releases_bind (idles_releases get_idles) fun card => Lib.keeps_ite (releases_pure _) (Lib.keeps_ite (releases_pure _) ?_)
  refine releases_bind (cmd_releases _ _ _ rfl) fun _ => Lib.keeps_ite (releases_pure _) (releases_bind (cmd_releases _ _ _ rfl) fun _ => ?_)
  exact Lib.keeps_ite (releases_pure _) (releases_bind (cmd_releases _ _ _ rfl) fun _ => releases_pure _)

theorem read_bytes_leaves (length : UInt32) : SelectedLeaves (fun _ => true) (readBytes length) := by
  have left (answer : Int32 × List UInt8) (event : Event) : SelectedLeaves (fun _ => true) (do unselect; record event; return answer) :=
    unselect_releases (releases_bind (idles_releases (record_idles _)) fun _ => releases_pure _)
  refine selected_leaves_after (idles_selected (wait_token_loop_idles _ _)) fun found => selected_leaves_ite (fun _ => left _ _) fun _ => ?_
  refine selected_leaves_after (idles_selected (transfer_fillers_idles _)) fun data => ?_
  refine selected_leaves_after (idles_selected filler_idles) fun high => selected_leaves_after (idles_selected filler_idles) fun low => ?_
  exact selected_leaves_after (idles_selected get_idles) fun card => selected_leaves_ite (fun _ => left _ _) fun _ => left _ _

theorem selected_leaves_bind {α β : Type} {first : DriverM α} {rest : α → DriverM β} (firstLeaves : SelectedLeaves (fun _ => true) first)
    (restReleases : ∀ result, Lib.Keeps Releases (rest result)) : SelectedLeaves (fun _ => true) (first >>= rest) := by
  refine Lib.ends_bind firstLeaves restReleases fun before _ between _ after left right low => ?_
  obtain ⟨framed, released⟩ := left low
  obtain ⟨last, rested⟩ := right released
  exact ⟨framed_trans _ _ _ framed rested, last⟩

theorem sd_sectors_releases : Lib.Keeps Releases sdSectors := by
  refine cmd_transaction _ _ _ _ rfl ?_ ?_
  · intro answer failed
    have refused : answer.1 ≠ 0x0 := failed
    dsimp only
    rw [if_pos refused]
    exact releases_pure _
  · intro answer accepted
    have passed : answer.1 = 0x0 := accepted
    dsimp only
    rw [if_neg fun failed => failed passed]
    refine selected_leaves_bind (read_bytes_leaves 16) fun csd => Lib.keeps_ite (releases_pure _) ?_
    cases csdSectors csd.2 with
    | none => exact releases_pure _
    | some found => exact releases_bind (idles_releases (modify_idles _ fun _ => rfl)) fun _ => releases_pure _

theorem acmd41_loop_releases (arg : UInt32) (fuel : Nat) : Lib.Keeps Releases (acmd41Loop arg fuel) := by
  induction fuel with
  | zero => intro before value after ran; cases ran
  | succ fuel ih => exact releases_bind (cmd_releases _ _ _ rfl) fun answer => Lib.keeps_ite ih (releases_pure _)

theorem acmd41_releases (arg : UInt32) : Lib.Keeps Releases (acmd41 arg) :=
  fun before value after ran => acmd41_loop_releases arg _ before value after ran

theorem set_card_type_releases (cardType : CardType) : Lib.Keeps Releases (setCardType cardType) := idles_releases (set_card_type_idles cardType)

theorem crc_off_releases : Lib.Keeps Releases crcOff := by
  have last : Lib.Keeps Releases (do let answer ← cmd .cmd59CrcOnOff 0x0 false; return answer.1) :=
    releases_bind (cmd_releases _ _ _ rfl) fun _ => releases_pure _
  refine releases_bind (idles_releases (member_idles _)) fun crcOn => ?_
  exact Lib.keeps_ite (releases_bind (cmd_releases _ _ _ rfl) fun _ => last) last

theorem set_capacity_releases : Lib.Keeps Releases setCapacity := by
  refine releases_bind (idles_releases (member_idles _)) fun cardType => Lib.keeps_ite ?_ (set_card_type_releases _)
  exact releases_bind (cmd_releases _ _ _ rfl) fun answer => Lib.keeps_ite (set_card_type_releases _) (releases_pure _)

theorem negotiate_releases : Lib.Keeps Releases negotiate := by
  refine releases_bind (idles_releases (member_idles _)) fun cardType => releases_bind (acmd41_releases _) fun answer => ?_
  refine Lib.keeps_ite (releases_bind (set_card_type_releases _) fun _ => releases_pure _) ?_
  exact releases_bind set_capacity_releases fun _ => crc_off_releases

theorem check_voltage_releases : Lib.Keeps Releases checkVoltage := by
  refine releases_bind (cmd_releases _ _ _ rfl) fun answer => Lib.keeps_ite (releases_pure _) (Lib.keeps_ite ?_ negotiate_releases)
  exact releases_bind (set_card_type_releases _) fun _ => releases_pure _

theorem go_idle_state_releases (retries : Nat) (response : UInt32) : Lib.Keeps Releases (goIdleStateLoop retries response) := by
  induction retries generalizing response with
  | zero => exact releases_pure _
  | succ retries ih => exact releases_bind (cmd_releases _ _ _ rfl) fun answer => Lib.keeps_ite (releases_pure _) (ih _)

theorem cmd8_releases : Lib.Keeps Releases cmd8 := by
  refine releases_bind (cmd_releases _ _ _ rfl) fun answer => releases_bind (idles_releases get_idles) fun card => ?_
  exact Lib.keeps_ite (releases_bind (set_card_type_releases _) fun _ => releases_pure _) (releases_pure _)

theorem initialise_card_releases : Lib.Keeps Releases initialiseCard := by
  have dummy : Lib.Keeps Idles spiInit := idles_bind (transfer_fillers_idles 20) fun _ => idles_pure ()
  refine releases_bind (idles_releases dummy) fun _ => releases_bind (go_idle_state_releases _ _) fun idle => ?_
  refine Lib.keeps_ite (releases_pure _) (releases_bind cmd8_releases fun status => Lib.keeps_ite (releases_pure _) ?_)
  refine releases_bind (idles_releases (member_idles _)) fun crcOn => ?_
  exact Lib.keeps_ite (releases_bind (cmd_releases _ _ _ rfl) fun _ => check_voltage_releases) check_voltage_releases

theorem finish_init_releases (err : Int32) : Lib.Keeps Releases (finishInit err) := by
  refine releases_bind (idles_releases (record_idles _)) fun _ => releases_bind (idles_releases (modify_idles _ fun _ => rfl)) fun _ => ?_
  refine Lib.keeps_ite (releases_pure _) (releases_bind sd_sectors_releases fun sectors => ?_)
  refine releases_bind (idles_releases (modify_idles _ fun _ => rfl)) fun _ => Lib.keeps_ite (releases_pure _) ?_
  refine releases_bind (cmd_releases _ _ _ rfl) fun answer => Lib.keeps_ite (releases_pure _) (releases_bind ?_ fun err => ?_)
  · refine releases_bind (idles_releases (member_idles _)) fun transferSck => Lib.keeps_ite (releases_pure _) ?_
    exact releases_bind (idles_releases (modify_idles _ fun _ => rfl)) fun _ => releases_pure _
  · exact Lib.keeps_ite (releases_pure _) (releases_pure _)

theorem init_releases : Lib.Keeps Releases init := by
  refine releases_bind (idles_releases (member_idles _)) fun isInitialized => Lib.keeps_ite (releases_pure _) ?_
  exact releases_bind initialise_card_releases finish_init_releases

theorem deinit_releases : Lib.Keeps Releases deinit := by
  refine releases_bind (idles_releases (member_idles _)) fun isInitialized => Lib.keeps_ite (releases_pure _) ?_
  refine releases_bind (idles_releases (modify_idles _ fun _ => rfl)) fun _ => ?_
  exact releases_bind (idles_releases (modify_idles _ fun _ => rfl)) fun _ => releases_pure _

theorem calls_release_chip_select (call : DriverCall) (before after : SDCard) (answers : List UInt8) (status : Int32)
    (high : before.bus.csHigh = true) (ran : call.status.run (before.hears answers) = some (status, after)) :
    after.bus.csHigh = true ∧ ∃ exchanges, after.bus.transfers = exchanges ++ before.bus.transfers ∧
      ∀ exchange ∈ exchanges, exchange.sent ≠ filler → exchange.csHigh = false := by
  have releases : Lib.Keeps Releases call.status := by
    cases call with
    | init => exact init_releases
    | deinit => exact deinit_releases
    | read b addr size => exact releases_bind (read_releases b addr size) fun _ => releases_pure _
    | program b addr size => exact program_releases b addr size
    | trim addr size => exact trim_releases addr size
  exact releases (before.hears answers) status after ran high

theorem receiving_card_releases : ∃ status after, (DriverCall.read (fun _ => 0) 0 512).status.run receivingCard = some (status, after) ∧
    after.bus.csHigh = true ∧ ∃ exchanges, after.bus.transfers = exchanges ++ receivingCard.bus.transfers ∧
      ∀ exchange ∈ exchanges, exchange.sent ≠ filler → exchange.csHigh = false := by
  have returns : ((DriverCall.read (fun _ => 0) 0 512).status.run receivingCard).isSome = true := by decide +kernel
  obtain ⟨⟨status, after⟩, ran⟩ := Option.isSome_iff_exists.mp returns
  exact ⟨status, after, ran, calls_release_chip_select _ receivingCard after receivingCard.bus.rx status rfl ran⟩

end SDCardFs.Driver
