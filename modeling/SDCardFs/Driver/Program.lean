import SDCardFs.Driver.Telling

set_option autoImplicit false

namespace SDCardFs.Driver

def acceptedBlock (buffer : Nat → UInt8) (token : UInt8) (offset k : Nat) : Event :=
  .sentBlock token (Lib.slice buffer (offset + blockSize.toNat * k) blockSize.toNat) spiDataAccepted

def acceptedBlocks (buffer : Nat → UInt8) (token : UInt8) (offset n : Nat) : List Event :=
  ((List.range n).map (acceptedBlock buffer token offset)).reverse

theorem accepted_blocks_succ (buffer : Nat → UInt8) (token : UInt8) (offset n : Nat) :
    acceptedBlocks buffer token offset (n + 1) =
      acceptedBlocks buffer token (offset + blockSize.toNat) n ++
        [.sentBlock token (Lib.slice buffer offset blockSize.toNat) spiDataAccepted] := by
  have shift : acceptedBlock buffer token offset ∘ Nat.succ = acceptedBlock buffer token (offset + blockSize.toNat) := by
    funext k
    simp only [acceptedBlock, Function.comp_apply, Nat.succ_eq_add_one, Nat.mul_add, Nat.mul_one]
    rw [Nat.add_comm (blockSize.toNat * k), Nat.add_assoc]
  simp only [acceptedBlocks, List.range_succ_eq_map, List.map_cons, List.map_map, List.reverse_cons, shift]
  simp [acceptedBlock]

theorem program_loop_adds (buffer : Nat → UInt8) (blockCnt offset : Nat) :
    Lib.Ends (programLoop buffer blockCnt offset) fun before _ after => ∃ events, Adds events before after ∧
      (events = acceptedBlocks buffer spiStartBlkMulWrite offset blockCnt ∨
        ∃ k response, k < blockCnt ∧ response ≠ spiDataAccepted ∧
          events = .sentBlock spiStartBlkMulWrite (Lib.slice buffer (offset + blockSize.toNat * k) blockSize.toNat) response ::
            acceptedBlocks buffer spiStartBlkMulWrite offset k) := by
  induction blockCnt generalizing offset with
  | zero => exact Lib.ends_pure _ _ fun before => ⟨[], adds_nothing _ _ (only_bus_refl before), Or.inl rfl⟩
  | succ blockCnt ih =>
      intro before value after ran
      obtain ⟨response, written, writes, rest⟩ := (Lib.bind_run_some _ _ _ _ _).mp ran
      have wrote := Lib.ends_run (write_block_adds _ _ _ _) writes
      split at rest
      · rename_i accepted
        rw [accepted] at wrote
        obtain ⟨events, added, shape⟩ := Lib.ends_run (ih _) rest
        refine ⟨_, adds_trans _ _ _ _ _ wrote added, ?_⟩
        rcases shape with all | ⟨k, last, early, refused, stopped⟩
        · exact Or.inl (by rw [all, accepted_blocks_succ])
        · have next : offset + blockSize.toNat + blockSize.toNat * k = offset + blockSize.toNat * (k + 1) := by
            rw [Nat.mul_add, Nat.mul_one, Nat.add_comm (blockSize.toNat * k), Nat.add_assoc]
          exact Or.inr ⟨k + 1, last, by omega, refused, by rw [stopped, next, accepted_blocks_succ]; rfl⟩
      · rename_i refused
        obtain ⟨-, rfl⟩ := (Lib.pure_run_some _ _ _ _).mp rest
        exact ⟨_, wrote, Or.inr ⟨0, response, by omega, refused, rfl⟩⟩

theorem program_turns_positive (blockCnt : UInt64) (positive : blockCnt ≠ 0) : programTurns blockCnt = blockCnt.toNat := by
  have : blockCnt.toNat ≠ 0 := by
    intro zero
    exact positive (UInt64.toNat_inj.mp zero)
  have := blockCnt.toNat_lt
  simp only [programTurns, UInt64.toNat_sub, UInt64.toNat_one]
  omega

-- Every block of the loop accepted, or all before the one it stops at.
def LoopTrace (b : Nat → UInt8) (blocks : Nat) (loop : List Event) : Prop :=
  loop = acceptedBlocks b spiStartBlkMulWrite 0 blocks ∨
    ∃ k response, k < blocks ∧ response ≠ spiDataAccepted ∧
      loop = .sentBlock spiStartBlkMulWrite (Lib.slice b (0 + blockSize.toNat * k) blockSize.toNat) response ::
        acceptedBlocks b spiStartBlkMulWrite 0 k

-- What a program of at least one block adds to the trace, and returns.
inductive ProgramTrace (b : Nat → UInt8) (blocks : UInt64) : Int32 → List Event → Prop where
  | singleRefused (arg r1 : UInt32) (status : Int32) : blocks = 1 → status ≠ ok →
      ProgramTrace b blocks status [.command .cmd24WriteBlock arg false status r1]
  | single (arg r1 : UInt32) (response : UInt8) : blocks = 1 →
      ProgramTrace b blocks (if response ≠ spiDataAccepted then errorWrite else ok)
        [.sentBlock spiStartBlock (Lib.slice b 0 blockSize.toNat) response, .command .cmd24WriteBlock arg false ok r1]
  | multipleRefused (arg r1 count countR1 : UInt32) (status counted : Int32) : blocks ≠ 1 → status ≠ ok →
      ProgramTrace b blocks status
        [.command .cmd25WriteMultipleBlock arg false status r1, .command .acmd23SetWrBlkEraseCount count true counted countR1]
  | multiple (arg r1 count countR1 stop stopR1 : UInt32) (counted stopped : Int32) (loop : List Event) : blocks ≠ 1 →
      LoopTrace b blocks.toNat loop →
      ProgramTrace b blocks ok ([.command .cmd12StopTransmission stop false stopped stopR1] ++ (loop ++
        ([.command .cmd25WriteMultipleBlock arg false ok r1] ++ [.command .acmd23SetWrBlkEraseCount count true counted countR1])))

theorem program_trace (b : Nat → UInt8) (addr size : UInt64) (before after : SDCard) (status : Int32)
    (ready : before.isInitialized = true) (valid : before.isValidProgram addr size = true) (positive : size / blockSize.toUInt64 ≠ 0)
    (ran : (program b addr size).run before = some (status, after)) :
    ∃ events, Adds events before after ∧ ProgramTrace b (size / blockSize.toUInt64) status events := by
  obtain ⟨card, same, got, ran⟩ := (Lib.bind_run_some _ _ _ _ _).mp ran
  obtain ⟨rfl, rfl⟩ := Prod.mk.inj (Option.some.inj got)
  simp only [valid, ready, not_true_eq_false, if_false] at ran
  split at ran
  · rename_i single
    obtain ⟨answer, commanded, commands, ran⟩ := (Lib.bind_run_some _ _ _ _ _).mp ran
    have command := Lib.ends_run (cmd_adds _ _ _ (by decide)) commands
    split at ran
    · rename_i failed
      obtain ⟨rfl, rfl⟩ := (Lib.pure_run_some _ _ _ _).mp ran
      exact ⟨_, command, .singleRefused _ _ _ single failed⟩
    · rename_i accepted
      have accepted : answer.1 = ok := Decidable.not_not.mp accepted
      obtain ⟨response, written, writes, ran⟩ := (Lib.bind_run_some _ _ _ _ _).mp ran
      have wrote := Lib.ends_run (write_block_adds _ _ _ _) writes
      obtain ⟨_, unselected, unselects, ran⟩ := (Lib.bind_run_some _ _ _ _ _).mp ran
      obtain ⟨rfl, rfl⟩ := (Lib.pure_run_some _ _ _ _).mp ran
      have released := adds_nothing _ _ (Lib.keeps_run unselect_only_bus unselects)
      rw [accepted] at command ⊢
      exact ⟨_, adds_trans _ _ _ _ _ (adds_trans _ _ _ _ _ command wrote) released, .single _ _ response single⟩
  · rename_i several
    obtain ⟨count, counted, counts, ran⟩ := (Lib.bind_run_some _ _ _ _ _).mp ran
    have erase := Lib.ends_run (cmd_adds _ _ _ (by decide)) counts
    obtain ⟨answer, commanded, commands, ran⟩ := (Lib.bind_run_some _ _ _ _ _).mp ran
    have command := adds_trans _ _ _ _ _ erase (Lib.ends_run (cmd_adds _ _ _ (by decide)) commands)
    split at ran
    · rename_i failed
      obtain ⟨rfl, rfl⟩ := (Lib.pure_run_some _ _ _ _).mp ran
      exact ⟨_, command, .multipleRefused _ _ _ _ _ _ several failed⟩
    · rename_i accepted
      have accepted : answer.1 = ok := Decidable.not_not.mp accepted
      obtain ⟨_, looped, loops, ran⟩ := (Lib.bind_run_some _ _ _ _ _).mp ran
      obtain ⟨loop, added, shape⟩ := Lib.ends_run (program_loop_adds _ _ _) loops
      rw [program_turns_positive _ positive] at shape
      obtain ⟨_, stopped, stops, ran⟩ := (Lib.bind_run_some _ _ _ _ _).mp ran
      have stop := Lib.ends_run (cmd_adds _ _ _ (by decide)) stops
      obtain ⟨_, unselected, unselects, ran⟩ := (Lib.bind_run_some _ _ _ _ _).mp ran
      obtain ⟨rfl, rfl⟩ := (Lib.pure_run_some _ _ _ _).mp ran
      have released := adds_nothing _ _ (Lib.keeps_run unselect_only_bus unselects)
      have all := adds_trans _ _ _ _ _ (adds_trans _ _ _ _ _ (adds_trans _ _ _ _ _ command added) stop) released
      rw [accepted] at all ⊢
      exact ⟨_, all, .multiple _ _ _ _ _ _ _ _ loop several shape⟩

def programToken (size : UInt64) : UInt8 := if size / blockSize.toUInt64 = 1 then spiStartBlock else spiStartBlkMulWrite

-- The frame of the k-th block of a buffer, and the first blocks, all accepted.
def bufferBlock (b : Nat → UInt8) (token : UInt8) (k : Nat) : List UInt8 := blockSaid token (Lib.slice b (512 * k) 512)

def writtenBlocks (b : Nat → UInt8) (token : UInt8) (count : Nat) : List (List UInt8 × UInt8) :=
  (List.range count).map fun k => (bufferBlock b token k, spiDataAccepted)

-- What a program of at least one block says on the bus, and returns.
inductive ProgramSaid (b : Nat → UInt8) (size : UInt64) (frames : List BusFrame) : Int32 → Prop where
  | refused (status : Int32) : status ≠ ok → ¬ commandAccepted .cmd24WriteBlock frames → ¬ commandAccepted .cmd25WriteMultipleBlock frames →
      dataBlocks frames = [] → ProgramSaid b size frames status
  | complete : commandAccepted (programCode size) frames →
      dataBlocks frames = writtenBlocks b (programToken size) (size.toNat / 512) → ProgramSaid b size frames ok
  | stopped (count : Nat) (response : UInt8) : commandAccepted (programCode size) frames → count < size.toNat / 512 →
      response ≠ spiDataAccepted →
      dataBlocks frames = writtenBlocks b (programToken size) count ++ [(bufferBlock b (programToken size) count, response)] →
      ProgramSaid b size frames (if size / blockSize.toUInt64 = 1 then errorWrite else ok)

theorem said_blocks_append (newer older : List Event) : saidBlocks (newer ++ older) = saidBlocks older ++ saidBlocks newer := by
  simp [saidBlocks, List.reverse_append]

theorem said_blocks_accepted (b : Nat → UInt8) (token : UInt8) (count : Nat) :
    saidBlocks (acceptedBlocks b token 0 count) = writtenBlocks b token count := by
  have blocks : blockSize.toNat = 512 := rfl
  simp [saidBlocks, acceptedBlocks, List.filterMap_map, acceptedBlock, Function.comp_def, writtenBlocks, bufferBlock, blocks]

theorem program_said (b : Nat → UInt8) (addr size : UInt64) (before after : SDCard) (status : Int32)
    (ready : before.isInitialized = true) (valid : before.isValidProgram addr size = true) (positive : size / blockSize.toUInt64 ≠ 0)
    (ran : (program b addr size).run before = some (status, after)) : ProgramSaid b size (framesSince before after) status := by
  obtain ⟨events, added, trace⟩ := program_trace b addr size before after status ready valid positive ran
  have told : Told events (framesSince before after) :=
    tells_told (Lib.ends_run (tells_on_calls.program b addr size) ran fun _ _ => ⟨fun _ => trivial, trivial, trivial⟩) (adds_trace added)
  have data := told_data events _ told
  have single := told_accepted events _ told .cmd24WriteBlock (by decide)
  have multiple := told_accepted events _ told .cmd25WriteMultipleBlock (by decide)
  generalize framesSince before after = frames at told data single multiple
  have blocks := block_count_value size
  cases trace with
  | singleRefused arg r1 status one failed =>
      refine .refused status failed (fun writes => ?_) (fun writes => ?_) data
      · obtain ⟨_, _, _, member⟩ := single.mp writes
        exact failed (Event.command.inj (List.mem_singleton.mp member)).2.2.2.1.symm
      · obtain ⟨_, _, _, member⟩ := multiple.mp writes
        cases List.mem_singleton.mp member
  | single arg r1 response one =>
      have code : commandAccepted (programCode size) frames := by
        rw [programCode, if_pos one]
        exact single.mpr ⟨arg, false, r1, by simp⟩
      have token : programToken size = spiStartBlock := if_pos one
      have count : size.toNat / 512 = 1 := by
        rw [← blocks, one]
        rfl
      by_cases right : response = spiDataAccepted
      · rw [if_neg (fun wrong => wrong right)]
        exact .complete code (by rw [data, count, token, right]; rfl)
      · have last := ProgramSaid.stopped 0 response code (by rw [count]; exact Nat.one_pos) right (by rw [data, token]; rfl)
        rw [if_pos one] at last
        rw [if_pos right]
        exact last
  | multipleRefused arg r1 count countR1 status counted several failed =>
      refine .refused status failed (fun writes => ?_) (fun writes => ?_) data
      · obtain ⟨_, _, _, member⟩ := single.mp writes
        simp at member
      · obtain ⟨_, _, _, member⟩ := multiple.mp writes
        simp only [List.mem_cons, Event.command.injEq, reduceCtorEq, false_and, List.not_mem_nil, or_false] at member
        exact failed member.2.2.2.1.symm
  | multiple arg r1 count countR1 stop stopR1 counted stopped loop several shape =>
      have code : commandAccepted (programCode size) frames := by
        rw [programCode, if_neg several]
        exact multiple.mpr ⟨arg, false, r1, by simp⟩
      have token : programToken size = spiStartBlkMulWrite := if_neg several
      have sent : dataBlocks frames = saidBlocks loop := by
        rw [data]
        simp only [said_blocks_append]
        exact List.append_nil _
      rcases shape with all | ⟨k, response, early, refused, last⟩
      · exact .complete code (by rw [sent, all, token, said_blocks_accepted, blocks])
      · have ends := ProgramSaid.stopped k response code (by rw [← blocks]; exact early) refused (by
          rw [sent, last, token, ← said_blocks_accepted, Nat.zero_add]
          exact said_blocks_append [.sentBlock spiStartBlkMulWrite _ response] _)
        rw [if_neg several] at ends
        exact ends

end SDCardFs.Driver
