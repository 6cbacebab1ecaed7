import SDCardFs.Wrapper.Frame

set_option autoImplicit false

namespace SDCardFs.Wrapper

open SDCardFs.Littlefs

theorem async_state (cfg : Config) (device : Device) (files : Nat → LfsFile) (includeorphans : Bool) (iter next : AsyncIter) (base : LfsBase)
    (seed : UInt32) (rcache : Cache) (left : List UInt32 × UInt32 × Cache)
    (ran : reports cfg device (lfsFsTraverserawAsync cfg files includeorphans iter) base seed rcache = some ((0, next), left)) :
    next.state = 3 ↔ iter.state = 2 ∨ iter.state = 3 := by
  rw [lfsFsTraverserawAsync] at ran
  by_cases first : iter.state = 0
  · rw [if_pos first, reports_pure] at ran
    cases ran
    simp [first]
  rw [if_neg first] at ran
  by_cases scanning : iter.state = 1
  · rw [if_pos scanning] at ran
    by_cases ended : lfsPairIsnull iter.dir.tail = true
    · rw [if_pos ended, reports_pure] at ran
      cases ran
      simp [scanning]
    rw [if_neg ended] at ran
    by_cases full : iter.cycle ≥ cfg.blockCount / 2
    · rw [if_pos full, reports_pure] at ran
      cases ran
    rw [if_neg full, reports_bind] at ran
    obtain ⟨⟨⟨err, dir⟩, rest⟩, _, returned⟩ := Option.bind_eq_some_iff.mp ran
    rw [reports_pure] at returned
    cases returned
    simp [scanning]
  rw [if_neg scanning] at ran
  by_cases openFiles : iter.state = 2
  · rw [if_pos openFiles, reports_bind] at ran
    obtain ⟨⟨err, rest⟩, _, returned⟩ := Option.bind_eq_some_iff.mp ran
    by_cases refused : err = 0
    · simp only [refused, ne_eq, not_true_eq_false, ↓reduceIte, reports_pure] at returned
      cases returned
      simp [openFiles]
    · simp only [refused, ne_eq, not_false_eq_true, ↓reduceIte, reports_pure] at returned
      cases returned
      exact absurd rfl refused
  · rw [if_neg openFiles, reports_pure] at ran
    cases ran
    simp [openFiles]

theorem traverse_async_state (cfg : Config) (device : Device) (files : Nat → LfsFile) (iter next : AsyncIter) (lfs after : Lfs)
    (rcache last : Cache) (ran : exec cfg device (lfsTraverseAsync cfg files iter) lfs rcache = some ((0, next), after, last)) :
    next.state = 3 ↔ iter.state = 2 ∨ iter.state = 3 := by
  rw [traverse_async_exec] at ran
  obtain ⟨⟨⟨err, reached⟩, left⟩, reported, same⟩ := Option.map_eq_some_iff.mp ran
  obtain ⟨answered, _⟩ := Prod.mk.inj same
  cases answered
  exact async_state cfg device files true iter next lfs.toLfsBase lfs.seed rcache left reported

section
variable {Media : Type}

-- What the function of the asynchronous step of this tick returns.
def World.asyncStep (world : World Media) : Option (Int32 × AsyncIter) :=
  if world.fs.curOperation = 1 then
    (world.onLfs (lfsMountAsync world.fs.config true world.fs.iter)).map Prod.fst
  else if world.fs.curOperation = 6 then
    (world.onLfs (lfsTraverseAsync world.fs.config world.files world.fs.iter)).map Prod.fst
  else
    none

theorem mount_step_ticked (before after : World Media) (mounting : before.fs.curOperation = 1) (ticked : before.taskRun = some after) :
    ∃ answer lfs rcache, before.asyncStep = some answer ∧ after = before.mounted answer lfs rcache := by
  rw [mount_tick before mounting] at ticked
  obtain ⟨⟨answer, lfs, rcache⟩, called, same⟩ := Option.map_eq_some_iff.mp ticked
  refine ⟨answer, lfs, rcache, ?_, same.symm⟩
  rw [World.asyncStep, if_pos mounting, World.onLfs, called]
  rfl

theorem traverse_step_ticked (before after : World Media) (traversing : before.fs.curOperation = 6) (ticked : before.taskRun = some after) :
    ∃ answer lfs rcache, before.asyncStep = some answer ∧ after = before.mounted (0, answer.2) lfs rcache ∧
      (answer.1 = 0 → (answer.2.state = 3 ↔ before.fs.curOperationState = 2 ∨ before.fs.curOperationState = 3)) := by
  have other : ¬ before.fs.curOperation = 1 := by
    rw [traversing]
    decide
  rw [traverse_tick before traversing] at ticked
  obtain ⟨⟨⟨err, next⟩, lfs, rcache⟩, called, same⟩ := Option.map_eq_some_iff.mp ticked
  refine ⟨(err, next), lfs, rcache, ?_, same.symm, ?_⟩
  · rw [World.asyncStep, if_neg other, if_pos traversing, World.onLfs, called]
    rfl
  · rintro rfl
    exact traverse_async_state _ _ _ _ _ _ _ _ _ called

theorem mounted_failed (world : World Media) (answer : Int32 × AsyncIter) (lfs : Lfs) (rcache : Cache) (failed : answer.1 ≠ 0) :
    (world.mounted answer lfs rcache).fs.curOperation = 0 ∧ (world.mounted answer lfs rcache).fs.curOperationState = 0 ∧
      (world.mounted answer lfs rcache).fs.mounted = false ∧ (world.mounted answer lfs rcache).fs.err = answer.1 := by
  simp [World.mounted, World.called, LittleFS.setIter, LittleFS.failed, LittleFS.finished, failed]

theorem mounted_ended (world : World Media) (iter : AsyncIter) (lfs : Lfs) (rcache : Cache) (ended : iter.state = 3) :
    (world.mounted (0, iter) lfs rcache).fs.curOperation = 6 ∧ (world.mounted (0, iter) lfs rcache).fs.curOperationState = 0 ∧
      (world.mounted (0, iter) lfs rcache).fs.mounted = true := by
  simp [World.mounted, World.called, LittleFS.setIter, LittleFS.failed, LittleFS.finished, ended]

theorem mounted_kept (world : World Media) (iter : AsyncIter) (lfs : Lfs) (rcache : Cache) (going : iter.state ≠ 3) :
    (world.mounted (0, iter) lfs rcache).fs.curOperation = world.fs.curOperation ∧
      (world.mounted (0, iter) lfs rcache).fs.curOperationState = iter.state ∧
      (world.mounted (0, iter) lfs rcache).fs.mounted = world.fs.mounted := by
  simp [World.mounted, World.called, LittleFS.setIter, LittleFS.failed, LittleFS.finished, going]

-- How a tick has to leave the object, by what its asynchronous step returned.
structure EndsOperation (before : World Media) (answer : Int32 × AsyncIter) (after : World Media) : Prop where
  failed : answer.1 ≠ 0 → after.fs.curOperation = 0 ∧ after.fs.curOperationState = 0 ∧ after.fs.mounted = false ∧ after.fs.err = answer.1
  traversed : before.fs.curOperation = 6 → answer.2.state = 3 → after.fs.curOperation = 0 ∧ after.notified = false

theorem traverse_tick_stays (world : World Media) (iter : AsyncIter) (lfs : Lfs) (rcache : Cache) (traversing : world.fs.curOperation = 6) :
    (world.mounted (0, iter) lfs rcache).fs.curOperation = 6 := by
  by_cases ended : iter.state = 3
  · exact (mounted_ended world iter lfs rcache ended).1
  · exact (mounted_kept world iter lfs rcache ended).1.trans traversing

-- The mount ends as it should; the traversal goes on after an error and from
-- its last state.
theorem tick_ends_operation_iff (before after : World Media) (answer : Int32 × AsyncIter) (stepped : before.asyncStep = some answer)
    (ticked : before.taskRun = some after) : EndsOperation before answer after ↔
      (before.fs.curOperation = 6 → answer.1 = 0 ∧ before.fs.curOperationState ≠ 2 ∧ before.fs.curOperationState ≠ 3) := by
  by_cases mounting : before.fs.curOperation = 1
  · obtain ⟨known, lfs, rcache, same, rfl⟩ := mount_step_ticked before after mounting ticked
    obtain rfl := Option.some.inj (stepped.symm.trans same)
    have other : before.fs.curOperation ≠ 6 := by
      rw [mounting]
      decide
    exact ⟨fun _ traversing => absurd traversing other, fun _ =>
      ⟨mounted_failed before answer lfs rcache, fun traversing => absurd traversing other⟩⟩
  by_cases traversing : before.fs.curOperation = 6
  · obtain ⟨known, lfs, rcache, same, rfl, state⟩ := traverse_step_ticked before after traversing ticked
    obtain rfl := Option.some.inj (stepped.symm.trans same)
    have stays := traverse_tick_stays before answer.2 lfs rcache traversing
    constructor
    · rintro ⟨failed, traversed⟩ _
      have passed : answer.1 = 0 := by
        by_contra refused
        exact absurd (stays.symm.trans (failed refused).1) (by decide)
      have going : ¬ answer.2.state = 3 := fun ended => absurd (stays.symm.trans (traversed traversing ended).1) (by decide)
      rw [state passed, not_or] at going
      exact ⟨passed, going⟩
    · intro condition
      obtain ⟨passed, first, second⟩ := condition traversing
      refine ⟨fun refused => absurd passed refused, fun _ ended => ?_⟩
      rcases (state passed).mp ended with two | three
      · exact absurd two first
      · exact absurd three second
  · simp [World.asyncStep, mounting, traversing] at stepped

-- What _mounted stands for: the last mount request was completed and nothing
-- has undone it since. pending is an asynchronous request not yet ended.
structure MountStatus where
  pending : Bool
  complete : Bool

def MountStatus.none : MountStatus := ⟨false, false⟩

def MountStatus.afterTick (status : MountStatus) (before : World Media) (answer : Int32 × AsyncIter) : MountStatus :=
  if answer.1 ≠ 0 then .none
  else if before.fs.curOperation = 1 ∧ answer.2.state = 3 then ⟨false, status.pending || status.complete⟩
  else status

def MountStatus.after (status : MountStatus) (before : World Media) (act : Act Media) (result : Int32) : MountStatus :=
  match act with
  | .mountAsync _ => ⟨result = 0, false⟩
  | .mount _ => ⟨false, result = 0⟩
  | .unmount => { status with complete := false }
  | .format _ _ => { status with complete := false }
  | .operation _ => status
  | .tick => (before.asyncStep.map (status.afterTick before)).getD status

structure Tracked (Media : Type) where
  world : World Media
  status : MountStatus

def Tracked.act (lfsFormat : FormatCall Media) (tracked : Tracked Media) (act : Act Media) : Option (Int32 × Tracked Media) :=
  (tracked.world.act lfsFormat act).map fun ran => (ran.1, ⟨ran.2, tracked.status.after tracked.world act ran.1⟩)

-- Only the task writes _mounted: the other calls come while it needs no change,
-- a mount step is one that was asked for, and no traversal step fails.
def Tracked.heeds (tracked : Tracked Media) (act : Act Media) (result : Int32) : Bool :=
  match act with
  | .mountAsync _ => ! tracked.world.fs.mounted
  | .mount _ => ! tracked.world.fs.mounted && result ≠ 0
  | .unmount => ! tracked.world.fs.mounted
  | .format _ _ => ! tracked.world.fs.mounted
  | .operation _ => true
  | .tick =>
      (tracked.world.fs.curOperation ≠ 1 || tracked.status.pending || tracked.world.fs.config.readSize = 0) &&
        (tracked.world.fs.curOperation ≠ 6 || tracked.world.asyncStep.all fun answer => answer.1 = 0)

def Tracked.Step (lfsFormat : FormatCall Media) (before : Tracked Media) (input : Act Media × Int32) (after : Tracked Media) : Prop :=
  before.act lfsFormat input.1 = some (input.2, after)

def HeedingStep (lfsFormat : FormatCall Media) (before : Tracked Media) (input : Act Media × Int32) (after : Tracked Media) : Prop :=
  before.Step lfsFormat input after ∧ before.heeds input.1 input.2 = true

def Tracked.advance (lfsFormat : FormatCall Media) (tracked : Tracked Media) (act : Act Media) : Option (Tracked Media) :=
  (tracked.act lfsFormat act).bind fun ran => if tracked.heeds act ran.1 then some ran.2 else none

structure FlagSound (tracked : Tracked Media) : Prop where
  flag : tracked.world.fs.mounted = tracked.status.complete
  task : tracked.world.fs.TaskSound
  traversing : tracked.world.fs.curOperation = 6 → tracked.world.fs.mounted = true
  early : tracked.world.fs.config.readSize = 0 → tracked.world.fs.Unrequested

theorem same_unrequested (before after : LittleFS Media) (same : SameMembers before after)
    (early : before.config.readSize = 0 → before.Unrequested) (unset : after.config.readSize = 0) : after.Unrequested := by
  rcases same.config with config | sized
  · rw [LittleFS.Unrequested, same.curOperation, same.curOperationState]
    exact early (config ▸ unset)
  · exact absurd unset sized

theorem sync_flag (before after : Tracked Media) (sound : FlagSound before) (same : SameMembers before.world.fs after.world.fs)
    (complete : after.status.complete = before.world.fs.mounted) : FlagSound after :=
  ⟨same.mounted.trans complete.symm, same_task_sound _ _ same.toSameTask sound.task,
    fun traversing => same.mounted.trans (sound.traversing (same.curOperation.symm.trans traversing)),
    same_unrequested _ _ same sound.early⟩

theorem mount_async_members (world : World Media) (card : SdCard Media) :
    (world.mountAsync card).1 ≠ 0 ∧ SameMembers world.fs (world.mountAsync card).2.fs ∨
      (world.mountAsync card).2.fs.curOperation = 1 ∧ (world.mountAsync card).2.fs.mounted = world.fs.mounted ∧
        (world.mountAsync card).2.fs.config.readSize ≠ 0 := by
  by_cases failed : (card.init world.media).1 = 0
  · simp only [World.mountAsync, failed, ne_eq, not_true_eq_false, ↓reduceIte]
    exact Or.inr ⟨trivial, rfl, card_config_read_size world.fs _ _⟩
  · simp only [World.mountAsync, failed, ne_eq, not_false_eq_true, ↓reduceIte]
    exact Or.inl ⟨trivial, ⟨rfl, rfl⟩, rfl, rfl, Or.inl rfl⟩

theorem mount_async_flag (before : Tracked Media) (card : SdCard Media) (sound : FlagSound before) (clear : before.world.fs.mounted = false) :
    FlagSound ⟨(before.world.mountAsync card).2, before.status.after before.world (.mountAsync card) (before.world.mountAsync card).1⟩ := by
  rcases mount_async_members before.world card with ⟨_, same⟩ | ⟨mounting, kept, sized⟩
  · exact sync_flag before _ sound same clear.symm
  · refine ⟨kept.trans clear, mount_async_sound before.world card sound.task, fun traversing => ?_, fun unset => absurd unset sized⟩
    exact absurd (mounting.symm.trans traversing) (by decide)

theorem refused_flag (before : Tracked Media) (answer : Int32 × AsyncIter) (lfs : Lfs) (rcache : Cache) (failed : answer.1 ≠ 0) :
    FlagSound ⟨before.world.mounted answer lfs rcache, before.status.afterTick before.world answer⟩ := by
  obtain ⟨stopped, rested, cleared, _⟩ := mounted_failed before.world answer lfs rcache failed
  refine ⟨?_, Or.inl ⟨stopped, rested⟩, fun traversing => absurd (stopped.symm.trans traversing) (by decide), fun _ => Or.inr stopped⟩
  rw [MountStatus.afterTick, if_pos failed]
  exact cleared

theorem early_step_refused (before : World Media) (answer : Int32 × AsyncIter) (lfs : Lfs) (rcache : Cache)
    (mounting : before.fs.curOperation = 1) (unrequested : before.fs.Unrequested) (notified : before.notified = true)
    (unset : before.fs.config.readSize = 0) (ticked : before.taskRun = some (before.mounted answer lfs rcache)) : answer.1 ≠ 0 := by
  intro passed
  obtain ⟨err, next⟩ := answer
  obtain rfl : err = 0 := passed
  have stopped := (early_tick before _ unrequested notified unset ticked).2
  by_cases ended : next.state = 3
  · exact absurd ((mounted_ended before next lfs rcache ended).1.symm.trans stopped) (by decide)
  · exact absurd (mounting.symm.trans ((mounted_kept before next lfs rcache ended).1.symm.trans stopped)) (by decide)

theorem mount_step_flag (before : Tracked Media) (next : AsyncIter) (lfs : Lfs) (rcache : Cache) (sound : FlagSound before)
    (mounting : before.world.fs.curOperation = 1) (asked : before.status.pending = true) (sized : before.world.fs.config.readSize ≠ 0) :
    FlagSound ⟨before.world.mounted (0, next) lfs rcache, before.status.afterTick before.world (0, next)⟩ := by
  obtain ⟨-, -, config, -⟩ := mounted_keeps before.world (0, next) lfs rcache
  have early : (before.world.mounted (0, next) lfs rcache).fs.config.readSize = 0 → (before.world.mounted (0, next) lfs rcache).fs.Unrequested :=
    fun unset => absurd (config ▸ unset) sized
  by_cases ended : next.state = 3
  · obtain ⟨traversing, rested, set⟩ := mounted_ended before.world next lfs rcache ended
    refine ⟨?_, Or.inr (Or.inr traversing), fun _ => set, early⟩
    simpa [MountStatus.afterTick, mounting, ended, asked] using set
  · obtain ⟨still, _, kept⟩ := mounted_kept before.world next lfs rcache ended
    refine ⟨?_, Or.inr (Or.inl (still.trans mounting)), fun traversing => ?_, early⟩
    · simpa [MountStatus.afterTick, ended] using kept.trans sound.flag
    · exact absurd (mounting.symm.trans (still.symm.trans traversing)) (by decide)

theorem traverse_step_flag (before : Tracked Media) (next : AsyncIter) (lfs : Lfs) (rcache : Cache) (sound : FlagSound before)
    (traversing : before.world.fs.curOperation = 6) :
    FlagSound ⟨before.world.mounted (0, next) lfs rcache, before.status.afterTick before.world (0, next)⟩ := by
  obtain ⟨-, -, config, -⟩ := mounted_keeps before.world (0, next) lfs rcache
  have stays := traverse_tick_stays before.world next lfs rcache traversing
  have set : (before.world.mounted (0, next) lfs rcache).fs.mounted = true := by
    by_cases ended : next.state = 3
    · exact (mounted_ended before.world next lfs rcache ended).2.2
    · exact (mounted_kept before.world next lfs rcache ended).2.2.trans (sound.traversing traversing)
  refine ⟨?_, Or.inr (Or.inr stays), fun _ => set, fun unset => ?_⟩
  · have complete := sound.flag.symm.trans (sound.traversing traversing)
    simpa [MountStatus.afterTick, traversing, complete] using set
  · rcases sound.early (config ▸ unset) with ⟨mounting, _⟩ | stopped
    · exact absurd (traversing.symm.trans mounting) (by decide)
    · exact absurd (traversing.symm.trans stopped) (by decide)

theorem tick_flag (before : Tracked Media) (after : World Media) (result : Int32) (sound : FlagSound before)
    (notified : before.world.notified = true) (ticked : before.world.taskRun = some after) (heeds : before.heeds .tick result = true) :
    FlagSound ⟨after, before.status.after before.world .tick result⟩ := by
  rcases sound.task with ⟨stopped, _⟩ | mounting | traversing
  · rw [World.notified, stopped] at notified
    cases notified
  · obtain ⟨answer, lfs, rcache, stepped, rfl⟩ := mount_step_ticked before.world after mounting ticked
    rw [MountStatus.after, stepped, Option.map_some, Option.getD_some]
    by_cases failed : answer.1 = 0
    · have sized : before.world.fs.config.readSize ≠ 0 := fun unset =>
        early_step_refused before.world answer lfs rcache mounting (sound.early unset) notified unset ticked failed
      have asked : before.status.pending = true := by simpa [Tracked.heeds, mounting, sized] using heeds
      obtain ⟨err, next⟩ := answer
      obtain rfl : err = 0 := failed
      exact mount_step_flag before next lfs rcache sound mounting asked sized
    · exact refused_flag before answer lfs rcache failed
  · obtain ⟨⟨err, next⟩, lfs, rcache, stepped, rfl, _⟩ := traverse_step_ticked before.world after traversing ticked
    rw [MountStatus.after, stepped, Option.map_some, Option.getD_some]
    obtain rfl : err = 0 := by simpa [Tracked.heeds, traversing, stepped] using heeds
    exact traverse_step_flag before next lfs rcache sound traversing

theorem heeding_step_flag (lfsFormat : FormatCall Media) (before : Tracked Media) (input : Act Media × Int32) (after : Tracked Media)
    (sound : FlagSound before) (stepped : HeedingStep lfsFormat before input after) : FlagSound after := by
  obtain ⟨act, result⟩ := input
  obtain ⟨acted, heeds⟩ := stepped
  obtain ⟨⟨_, world⟩, ran, same⟩ := Option.map_eq_some_iff.mp acted
  cases same
  have step : Step lfsFormat before.world (act, result) world := ran
  have kept := sync_members lfsFormat before.world world (act, result) step
  cases act with
  | mountAsync card =>
      obtain ⟨rfl, rfl⟩ := Prod.mk.inj (Option.some.inj ran)
      exact mount_async_flag before card sound (by simpa [Tracked.heeds] using heeds)
  | mount card =>
      obtain ⟨clear, failed⟩ : before.world.fs.mounted = false ∧ result ≠ 0 := by simpa [Tracked.heeds] using heeds
      exact sync_flag before _ sound (kept rfl rfl) (by simp [MountStatus.after, failed, clear])
  | unmount => exact sync_flag before _ sound (kept rfl rfl) (by simpa [Tracked.heeds, MountStatus.after] using heeds)
  | format card lookahead => exact sync_flag before _ sound (kept rfl rfl) (by simpa [Tracked.heeds, MountStatus.after] using heeds)
  | operation call => exact sync_flag before _ sound (kept rfl rfl) sound.flag.symm
  | tick =>
      obtain ⟨notified, ticked⟩ := tick_ran lfsFormat before.world world .tick result rfl step
      exact tick_flag before world result sound notified ticked heeds

theorem constructed_flag (start : World Media) (constructed : start.Constructed) : FlagSound ⟨start, .none⟩ := by
  obtain ⟨_, _, _, _, _, _, same⟩ := constructed
  constructor
  · rw [same]
    rfl
  · rw [same]
    exact Or.inr (Or.inl rfl)
  · rw [same]
    intro impossible
    cases impossible
  · rw [same]
    exact fun _ => Or.inl ⟨rfl, rfl⟩

theorem heeding_runs_flag_tells (lfsFormat : FormatCall Media) (start : World Media) (after : Tracked Media) (inputs : List (Act Media × Int32))
    (constructed : start.Constructed) (ran : Lib.Run (HeedingStep lfsFormat) ⟨start, .none⟩ inputs after) :
    after.world.fs.mounted = after.status.complete :=
  (Lib.run_invariant FlagSound (heeding_step_flag lfsFormat) ran (constructed_flag start constructed)).flag

theorem advance_run (lfsFormat : FormatCall Media) (acts : List (Act Media)) : ∀ (start after : Tracked Media),
    acts.foldlM (Tracked.advance lfsFormat) start = some after → ∃ inputs, Lib.Run (HeedingStep lfsFormat) start inputs after := by
  induction acts with
  | nil =>
      intro start after ran
      cases ran
      exact ⟨[], .nil start⟩
  | cons act acts ih =>
      intro start after ran
      rw [List.foldlM_cons] at ran
      obtain ⟨between, first, rest⟩ := Option.bind_eq_some_iff.mp ran
      obtain ⟨⟨result, reached⟩, acted, heeded⟩ := Option.bind_eq_some_iff.mp first
      obtain ⟨inputs, whole⟩ := ih between after rest
      by_cases heeds : start.heeds act result = true
      · rw [if_pos heeds] at heeded
        cases heeded
        exact ⟨(act, result) :: inputs, Lib.run_cons ⟨acted, heeds⟩ whole⟩
      · rw [if_neg heeds] at heeded
        cases heeded

end

-- The mounted object, told to mount a blank card instead.
def remountWorld : Nat → World Unit
  | 0 => ((mountingWorld 4).mountAsync blankSd).2
  | ticks + 1 => (remountWorld ticks).taskRun.getD (remountWorld ticks)

theorem failed_mount_ends : ∃ inputs answer after, Lib.Run (Step noFormat) freshWorld inputs (remountWorld 1) ∧
    (remountWorld 1).fs.mounted = true ∧ (remountWorld 1).asyncStep = some answer ∧ (remountWorld 1).taskRun = some after ∧
    answer.1 = lfsErrCorrupt ∧ after.fs.curOperation = 0 ∧ after.fs.curOperationState = 0 ∧ after.fs.mounted = false ∧
    after.fs.err = lfsErrCorrupt := by
  obtain ⟨inputs, ran⟩ := mounting_run 4 (by decide +kernel)
  have asked := mount_async_step noFormat (mountingWorld 4) blankSd (by decide +kernel)
  have ticking := tick_step noFormat (remountWorld 0) (by decide +kernel) (by decide +kernel)
  have refused : (remountWorld 1).asyncStep.map Prod.fst = some lfsErrCorrupt := by decide +kernel
  obtain ⟨answer, stepped, failed⟩ := Option.map_eq_some_iff.mp refused
  obtain ⟨after, ticked⟩ := Option.isSome_iff_exists.mp (by decide +kernel : (remountWorld 1).taskRun.isSome = true)
  have mounting : (remountWorld 1).fs.curOperation = 1 := by decide +kernel
  have ends := (tick_ends_operation_iff (remountWorld 1) after answer stepped ticked).mpr fun traversing =>
    absurd (mounting.symm.trans traversing) (by decide)
  obtain ⟨operation, state, flag, err⟩ := ends.failed (by rw [failed]; decide)
  exact ⟨_, answer, after, .snoc _ _ _ _ _ (.snoc _ _ _ inputs _ ran asked) ticking, by decide +kernel, stepped, ticked, failed, operation, state,
    flag, err.trans failed⟩

-- The tick that reaches the end of the traversal leaves it to start again.
theorem traversal_never_ends : ∃ start before inputs after answer, start.Constructed ∧ Lib.Run (Step noFormat) start inputs before ∧
    before.notified = true ∧ before.asyncStep = some answer ∧ before.taskRun = some after ∧ ¬ EndsOperation before answer after := by
  obtain ⟨inputs, ran⟩ := mounting_run 7 (by decide +kernel)
  have ended : (mountingWorld 7).asyncStep.map (fun answer => answer.2.state) = some 3 := by decide +kernel
  have again : (mountingWorld 7).taskRun.map (fun after => after.fs.curOperation) = some 6 := by decide +kernel
  obtain ⟨answer, stepped, state⟩ := Option.map_eq_some_iff.mp ended
  obtain ⟨after, ticked, operation⟩ := Option.map_eq_some_iff.mp again
  refine ⟨freshWorld, mountingWorld 7, inputs, after, answer, ⟨_, _, _, _, _, _, rfl⟩, ran, by decide +kernel, stepped, ticked, ?_⟩
  intro ends
  have stopped := (ends.traversed (by decide +kernel) state).1
  exact absurd (operation.symm.trans stopped) (by decide)

theorem mounted_flag_stays_clear : ∃ (start : World Unit) (after : Tracked Unit) (inputs : List (Act Unit × Int32)), start.Constructed ∧
    Lib.Run (Tracked.Step noFormat) ⟨start, .none⟩ inputs after ∧ after.world.fs.mounted ≠ after.status.complete := by
  have evaluated : ((⟨freshWorld, .none⟩ : Tracked Unit).act noFormat (.mount (sdCard formattedImage))).map
      (fun ran => (ran.1, ran.2.world.fs.mounted, ran.2.status.complete)) = some (0, false, true) := by
    decide +kernel
  obtain ⟨⟨result, after⟩, acted, same⟩ := Option.map_eq_some_iff.mp evaluated
  obtain ⟨-, flag, complete⟩ : result = 0 ∧ after.world.fs.mounted = false ∧ after.status.complete = true := by simpa using same
  refine ⟨freshWorld, after, [(.mount (sdCard formattedImage), result)], ⟨_, _, _, _, _, _, rfl⟩,
    .snoc _ _ _ [] _ (.nil _) acted, ?_⟩
  rw [flag, complete]
  decide

def asyncMount : List (Act Unit) := [.mountAsync (sdCard formattedImage), .tick, .tick, .tick, .tick, .tick]

theorem async_mount_flag : ∃ inputs after, Lib.Run (HeedingStep noFormat) ⟨freshWorld, .none⟩ inputs after ∧
    after.status.complete = true ∧ after.world.fs.mounted = after.status.complete := by
  have evaluated : (asyncMount.foldlM (Tracked.advance noFormat) ⟨freshWorld, .none⟩).map (fun after => after.status.complete) = some true := by
    decide +kernel
  obtain ⟨after, advanced, complete⟩ := Option.map_eq_some_iff.mp evaluated
  obtain ⟨inputs, ran⟩ := advance_run noFormat asyncMount _ _ advanced
  exact ⟨inputs, after, ran, complete, heeding_runs_flag_tells noFormat freshWorld after inputs ⟨_, _, _, _, _, _, rfl⟩ ran⟩

end SDCardFs.Wrapper
