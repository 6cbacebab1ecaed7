import SDCardFs.Littlefs.Scan
import SDCardFs.Wrapper.Task

set_option autoImplicit false

namespace SDCardFs.Wrapper

open SDCardFs.Littlefs

section
variable {Media : Type}

-- Ticks with no other call in between, until the mount operation is over.
def World.ticks : Nat → World Media → Option (World Media)
  | 0, world => some world
  | turns + 1, world => if world.fs.curOperation = 1 then world.taskRun.bind (World.ticks turns) else some world

def World.called (world : World Media) (iter : AsyncIter) (lfs : Lfs) (rcache : Cache) : World Media :=
  { world with fs := ({ world.fs with lfs := lfs, rcache := rcache } : LittleFS Media).setIter iter }

def World.mounted (world : World Media) (answer : Int32 × AsyncIter) (lfs : Lfs) (rcache : Cache) : World Media :=
  { world with fs := ((world.called answer.2 lfs rcache).fs.failed answer.1).finished }

theorem ticks_over (turns : Nat) (world : World Media) (ended : world.fs.curOperation ≠ 1) : world.ticks turns = some world := by
  cases turns with
  | zero => rfl
  | succ turns => rw [World.ticks, if_neg ended]

theorem mount_tick (world : World Media) (mounting : world.fs.curOperation = 1) :
    world.taskRun = (exec world.fs.config world.device (lfsMountAsync world.fs.config true world.fs.iter) world.fs.lfs world.fs.rcache).map
      fun ran => world.mounted ran.1 ran.2.1 ran.2.2 := by
  rw [World.taskRun, if_pos mounting, World.onLfs, Option.map_map]
  rfl

theorem traverse_tick (world : World Media) (traversing : world.fs.curOperation = 6) :
    world.taskRun = (exec world.fs.config world.device (lfsTraverseAsync world.fs.config world.files world.fs.iter)
      world.fs.lfs world.fs.rcache).map fun ran => world.mounted (0, ran.1.2) ran.2.1 ran.2.2 := by
  have other : ¬ world.fs.curOperation = 1 := by
    rw [traversing]
    decide
  rw [World.taskRun, if_neg other, if_pos traversing, World.onLfs, Option.map_map]
  rfl

theorem finished_keeps (fs : LittleFS Media) (err : Int32) :
    (fs.failed err).finished.lfs = fs.lfs ∧ (fs.failed err).finished.rcache = fs.rcache ∧
      (fs.failed err).finished.config = fs.config ∧ (fs.failed err).finished.context = fs.context := by
  have failed : (fs.failed err).lfs = fs.lfs ∧ (fs.failed err).rcache = fs.rcache ∧ (fs.failed err).config = fs.config ∧
      (fs.failed err).context = fs.context := by
    by_cases refused : err = 0
    · simp [LittleFS.failed, refused]
    · simp [LittleFS.failed, refused]
  by_cases ended : (fs.failed err).curOperationState = 3
  · rw [LittleFS.finished, if_pos ended]
    exact failed
  · rw [LittleFS.finished, if_neg ended]
    exact failed

theorem device_same (before after : World Media) (context : after.fs.context = before.fs.context) (media : after.media = before.media) :
    after.device = before.device := by
  rw [World.device, World.device, context, media]

theorem mounted_keeps (world : World Media) (answer : Int32 × AsyncIter) (lfs : Lfs) (rcache : Cache) :
    (world.mounted answer lfs rcache).fs.lfs = lfs ∧ (world.mounted answer lfs rcache).fs.rcache = rcache ∧
      (world.mounted answer lfs rcache).fs.config = world.fs.config ∧ (world.mounted answer lfs rcache).device = world.device := by
  obtain ⟨lfsKept, rcacheKept, config, context⟩ := finished_keeps (world.called answer.2 lfs rcache).fs answer.1
  exact ⟨lfsKept, rcacheKept, config, device_same world _ context rfl⟩

theorem mounted_over (world : World Media) (answer : Int32 × AsyncIter) (lfs : Lfs) (rcache : Cache)
    (stops : failedErr answer.1 = true ∨ answer.2.over = true) : (world.mounted answer lfs rcache).fs.curOperation ≠ 1 := by
  by_cases failed : answer.1 = 0
  · have ended : answer.2.state = 3 := by simpa [failedErr, failed, AsyncIter.over] using stops
    simp [World.mounted, World.called, LittleFS.setIter, LittleFS.failed, LittleFS.finished, failed, ended]
  · simp [World.mounted, World.called, LittleFS.setIter, LittleFS.failed, LittleFS.finished, failed]

theorem mounted_going (world : World Media) (answer : Int32 × AsyncIter) (lfs : Lfs) (rcache : Cache)
    (going : ¬ (failedErr answer.1 = true ∨ answer.2.over = true)) :
    world.mounted answer lfs rcache = world.called answer.2 lfs rcache := by
  have parts : answer.1 = 0 ∧ ¬ answer.2.state = 3 := by simpa [failedErr, AsyncIter.over] using going
  simp [World.mounted, World.called, LittleFS.setIter, LittleFS.failed, LittleFS.finished, parts.1, parts.2]

theorem ticks_drive (turns : Nat) : ∀ (world : World Media), world.fs.curOperation = 1 →
    match exec world.fs.config world.device (Lib.drive (lfsMountAsync world.fs.config true) failedErr AsyncIter.over turns world.fs.iter)
      world.fs.lfs world.fs.rcache with
    | none => world.ticks turns = none
    | some (some answer, lfs, rcache) => world.ticks turns = some (world.mounted answer lfs rcache)
    | some (none, _) => True := by
  induction turns with
  | zero =>
      intro world mounting
      trivial
  | succ turns ih =>
      intro world mounting
      rw [exec_drive, World.ticks, if_pos mounting, mount_tick world mounting]
      cases exec world.fs.config world.device (lfsMountAsync world.fs.config true world.fs.iter) world.fs.lfs world.fs.rcache with
      | none => rfl
      | some ran =>
          obtain ⟨answer, lfs, rcache⟩ := ran
          simp only [Option.map_some, Option.bind_some]
          by_cases stops : failedErr answer.1 = true ∨ answer.2.over = true
          · rw [if_pos stops]
            exact ticks_over turns _ (mounted_over world answer lfs rcache stops)
          · rw [if_neg stops, mounted_going world answer lfs rcache stops]
            exact ih (world.called answer.2 lfs rcache) mounting

structure Outcome where
  lfs : Lfs
  rcache : Cache
  curOperation : UInt8
  curOperationState : UInt8
  mounted : Bool
  err : Int32

def World.outcome (world : World Media) : Outcome :=
  ⟨world.fs.lfs, world.fs.rcache, world.fs.curOperation, world.fs.curOperationState, world.fs.mounted, world.fs.err⟩

-- lfs_mount on the same _lfs and _config: success starts the traversal, an
-- error is reported in _err.
def World.freshMount (world : World Media) : Option Outcome :=
  (exec world.fs.config world.device (lfsMount world.fs.config) world.fs.lfs world.fs.rcache).map fun (err, lfs, rcache) =>
    if err = 0 then ⟨lfs, rcache, 6, 0, true, world.fs.err⟩ else ⟨lfs, rcache, 0, 0, false, err⟩

theorem ticks_fresh_mount (world : World Media) (mounting : world.fs.curOperation = 1) (idle : world.fs.curOperationState = 0) :
    (world.ticks (asyncCalls world.fs.config)).map World.outcome = world.freshMount := by
  have program := mount_calls_program world.fs.config world.fs.workdir world.fs.workblock
  have same := congrArg (exec world.fs.config world.device · world.fs.lfs world.fs.rcache) program
  have ticked := ticks_drive (asyncCalls world.fs.config) world mounting
  have stopped := exec_drive_stops world.fs.config world.device (lfsMountAsync world.fs.config true) failedErr AsyncIter.over
    (asyncCalls world.fs.config) world.fs.iter world.fs.lfs world.fs.rcache
  rw [LittleFS.iter, idle] at ticked stopped
  rw [lfsMountCalls, exec_map, exec_map] at same
  rw [World.freshMount]
  cases driven : exec world.fs.config world.device (Lib.drive (lfsMountAsync world.fs.config true) failedErr AsyncIter.over
      (asyncCalls world.fs.config) ⟨0, world.fs.workdir, world.fs.workblock⟩) world.fs.lfs world.fs.rcache with
  | none =>
      rw [driven] at ticked same
      rw [Option.map_eq_none_iff.mp same.symm]
      exact congrArg (Option.map World.outcome) ticked
  | some ran =>
      obtain ⟨answer, lfs, rcache⟩ := ran
      rw [driven] at ticked same
      obtain ⟨⟨err, left⟩, fresh, known⟩ := Option.map_eq_some_iff.mp same.symm
      cases answer with
      | none => cases known
      | some answer =>
          obtain ⟨result, iter⟩ := answer
          obtain ⟨rfl, rfl⟩ : err = result ∧ left = (lfs, rcache) := by simpa using known
          have stops := stopped (err, iter) (lfs, rcache) driven
          have ended : world.ticks (asyncCalls world.fs.config) = some (world.mounted (err, iter) lfs rcache) := ticked
          rw [ended, fresh]
          by_cases failed : err = 0
          · have ended : iter.state = 3 := by simpa [failedErr, failed, AsyncIter.over] using stops
            simp [World.outcome, World.mounted, World.called, LittleFS.setIter, LittleFS.failed, LittleFS.finished, failed, ended]
          · simp [World.outcome, World.mounted, World.called, LittleFS.setIter, LittleFS.failed, LittleFS.finished, failed]

def MountsFresh (before : World Media) (card : SdCard Media) : Prop :=
  ∀ started, before.mountAsync card = (0, started) →
    (started.ticks (asyncCalls started.fs.config)).map World.outcome = started.freshMount

-- The operations a run can be at, and that a finished one leaves state 0.
def LittleFS.TaskSound (fs : LittleFS Media) : Prop :=
  (fs.curOperation = 0 ∧ fs.curOperationState = 0) ∨ fs.curOperation = 1 ∨ fs.curOperation = 6

theorem finished_sound (fs : LittleFS Media) (err : Int32) (sound : fs.curOperation = 1 ∨ fs.curOperation = 6) :
    ((fs.failed err).finished).TaskSound := by
  by_cases failed : err = 0
  · by_cases ended : fs.curOperationState = 3
    · simp [LittleFS.TaskSound, LittleFS.failed, LittleFS.finished, failed, ended]
    · simpa [LittleFS.TaskSound, LittleFS.failed, LittleFS.finished, failed, ended] using Or.inr sound
  · simp [LittleFS.TaskSound, LittleFS.failed, LittleFS.finished, failed]

theorem same_task_sound (before after : LittleFS Media) (same : SameTask before after) (sound : before.TaskSound) : after.TaskSound := by
  rw [LittleFS.TaskSound, same.curOperation, same.curOperationState]
  exact sound

theorem tick_task_sound (before after : World Media) (sound : before.fs.TaskSound) (notified : before.notified = true)
    (ticked : before.taskRun = some after) : after.fs.TaskSound := by
  rw [World.taskRun] at ticked
  rcases sound with ⟨stopped, -⟩ | mounting | traversing
  · rw [World.notified, stopped] at notified
    cases notified
  · rw [if_pos mounting] at ticked
    obtain ⟨⟨answer, called⟩, ran, rfl⟩ := Option.map_eq_some_iff.mp ticked
    have kept := on_lfs_members _ _ _ _ ran
    exact finished_sound _ _ (Or.inl (kept.curOperation.trans mounting))
  · have other : ¬ before.fs.curOperation = 1 := by
      rw [traversing]
      decide
    rw [if_neg other, if_pos traversing] at ticked
    obtain ⟨⟨answer, called⟩, ran, rfl⟩ := Option.map_eq_some_iff.mp ticked
    have kept := on_lfs_members _ _ _ _ ran
    exact finished_sound _ _ (Or.inr (kept.curOperation.trans traversing))

theorem mount_async_sound (world : World Media) (card : SdCard Media) (sound : world.fs.TaskSound) :
    (world.mountAsync card).2.fs.TaskSound := by
  by_cases failed : (card.init world.media).1 = 0
  · simp only [World.mountAsync, failed, ne_eq, not_true_eq_false, ↓reduceIte]
    exact Or.inr (Or.inl rfl)
  · simp only [World.mountAsync, failed, ne_eq, not_false_eq_true, ↓reduceIte]
    exact sound

theorem step_task_sound (lfsFormat : FormatCall Media) (before : World Media) (input : Act Media × Int32) (after : World Media)
    (sound : before.fs.TaskSound) (stepped : Step lfsFormat before input after) : after.fs.TaskSound := by
  obtain ⟨act, result⟩ := input
  by_cases tick : act.isTick = true
  · obtain ⟨notified, ran⟩ := tick_ran lfsFormat before after act result tick stepped
    exact tick_task_sound before after sound notified ran
  · have noTick : act.isTick = false := by simpa using tick
    cases act with
    | mountAsync card =>
        have mounted := mount_async_sound before card sound
        rw [Option.some.inj stepped] at mounted
        exact mounted
    | mount card => exact same_task_sound _ _ (sync_task lfsFormat before after _ stepped rfl noTick) sound
    | unmount => exact same_task_sound _ _ (sync_task lfsFormat before after _ stepped rfl noTick) sound
    | format card lookahead => exact same_task_sound _ _ (sync_task lfsFormat before after _ stepped rfl noTick) sound
    | operation call => exact same_task_sound _ _ (sync_task lfsFormat before after _ stepped rfl noTick) sound
    | tick => cases noTick

theorem mount_async_accepted (before started : World Media) (card : SdCard Media) (accepted : before.mountAsync card = (0, started)) :
    started.fs.curOperation = 1 ∧ started.fs.curOperationState = before.fs.curOperationState := by
  rw [World.mountAsync] at accepted
  by_cases failed : (card.init before.media).1 = 0
  · simp only [failed, ne_eq, not_true_eq_false, ↓reduceIte] at accepted
    cases accepted
    exact ⟨rfl, rfl⟩
  · simp only [failed, ne_eq, not_false_eq_true, ↓reduceIte] at accepted
    exact absurd (Prod.mk.inj accepted).1 failed

-- No operation is under way: none at all, or one whose first step has not run.
def LittleFS.Idle (fs : LittleFS Media) : Prop := fs.curOperation = 0 ∨ fs.curOperationState = 0

theorem idle_mounts_fresh (lfsFormat : FormatCall Media) (start before : World Media) (inputs : List (Act Media × Int32))
    (constructed : start.Constructed) (ran : Lib.Run (Step lfsFormat) start inputs before) (idle : before.fs.Idle)
    (card : SdCard Media) : MountsFresh before card := by
  have sound : before.fs.TaskSound := by
    apply Lib.run_invariant (fun world : World Media => world.fs.TaskSound) (step_task_sound lfsFormat) ran
    obtain ⟨_, _, _, _, _, _, same⟩ := constructed
    rw [same]
    exact Or.inr (Or.inl rfl)
  have rested : before.fs.curOperationState = 0 := by
    rcases idle with stopped | rested
    · rcases sound with ⟨-, rested⟩ | mounting | traversing
      · exact rested
      · rw [stopped] at mounting
        cases mounting
      · rw [stopped] at traversing
        cases traversing
    · exact rested
  intro started accepted
  obtain ⟨mounting, kept⟩ := mount_async_accepted before started card accepted
  exact ticks_fresh_mount started mounting (kept.trans rested)

theorem mount_async_step (lfsFormat : FormatCall Media) (world : World Media) (card : SdCard Media)
    (accepted : (world.mountAsync card).1 = 0) : Step lfsFormat world (.mountAsync card, 0) (world.mountAsync card).2 := by
  simp only [Step, World.act, ← accepted]

theorem tick_step (lfsFormat : FormatCall Media) (world : World Media) (notified : world.notified = true)
    (returned : world.taskRun.isSome = true) : Step lfsFormat world (.tick, 0) (world.taskRun.getD world) := by
  obtain ⟨after, ran⟩ := Option.isSome_iff_exists.mp returned
  simp [Step, World.act, notified, ran]

end

def sdCard (image : Image) : SdCard Unit :=
  { init := fun media => (0, media)
    deinit := fun media => (0, media)
    size := fun _ => 8192
    device := fun _ => imageDevice image }

def freshWorld : World Unit := ⟨LittleFS.construct (Mdir.ofTail ⟨0, 0⟩) 0 512 512 512 8192, (), noFiles⟩

def mountingWorld : Nat → World Unit
  | 0 => (freshWorld.mountAsync (sdCard formattedImage)).2
  | ticks + 1 => (mountingWorld ticks).taskRun.getD (mountingWorld ticks)

def noFormat : FormatCall Unit := fun _ _ _ _ => none

theorem mounting_run (ticks : Nat) (going : ∀ turn, turn < ticks →
    (mountingWorld turn).notified = true ∧ (mountingWorld turn).taskRun.isSome = true) :
    ∃ inputs, Lib.Run (Step noFormat) freshWorld inputs (mountingWorld ticks) := by
  induction ticks with
  | zero => exact ⟨_, .snoc _ _ _ [] _ (.nil _) (mount_async_step noFormat freshWorld (sdCard formattedImage) (by decide))⟩
  | succ ticks ih =>
      obtain ⟨inputs, ran⟩ := ih fun turn before => going turn (by omega)
      obtain ⟨notified, returned⟩ := going ticks (by omega)
      exact ⟨_, .snoc _ _ _ inputs (.tick, 0) ran (tick_step noFormat _ notified returned)⟩

def blankSd : SdCard Unit := sdCard fun _ _ => 0xff

def swappedWorld : World Unit := ((mountingWorld 3).mountAsync blankSd).2

-- Three ticks leave curOperationState at 2; a blank card mounted then is taken
-- for the formatted one.
theorem interrupted_mount_not_fresh : ∃ start before inputs, start.Constructed ∧ Lib.Run (Step noFormat) start inputs before ∧
    ¬ MountsFresh before blankSd := by
  obtain ⟨inputs, ran⟩ := mounting_run 3 (by decide +kernel)
  have accepted : ((mountingWorld 3).mountAsync blankSd).1 = 0 := by decide +kernel
  have ticked : ((swappedWorld.ticks (asyncCalls swappedWorld.fs.config)).map World.outcome).map Outcome.curOperation = some 6 := by
    decide +kernel
  have refused : swappedWorld.freshMount.map Outcome.curOperation = some 0 := by decide +kernel
  refine ⟨freshWorld, mountingWorld 3, inputs, ⟨_, _, _, _, _, _, rfl⟩, ran, ?_⟩
  intro fresh
  have same := fresh swappedWorld (Prod.ext accepted rfl)
  rw [same, refused] at ticked
  cases ticked

theorem remount_fresh : ∃ inputs, Lib.Run (Step noFormat) freshWorld inputs (mountingWorld 4) ∧
    (mountingWorld 4).fs.curOperation = 6 ∧ MountsFresh (mountingWorld 4) blankSd := by
  obtain ⟨inputs, ran⟩ := mounting_run 4 (by decide +kernel)
  have traversing : (mountingWorld 4).fs.curOperation = 6 := by decide +kernel
  have idle : (mountingWorld 4).fs.Idle := Or.inr (by decide +kernel)
  exact ⟨inputs, ran, traversing, idle_mounts_fresh noFormat freshWorld _ inputs ⟨_, _, _, _, _, _, rfl⟩ ran idle blankSd⟩

end SDCardFs.Wrapper
