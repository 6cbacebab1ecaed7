import SDCardFs.Wrapper.MountAsync

set_option autoImplicit false

namespace SDCardFs.Wrapper

open SDCardFs.Littlefs

section
variable {Media : Type}

-- The object without the members that only the task uses.
def LittleFS.calm (fs : LittleFS Media) : LittleFS Media :=
  { fs with workdir := Mdir.ofTail ⟨0, 0⟩, workblock := 0, mounted := false, err := 0, curOperation := 0, curOperationState := 0 }

def World.calm (world : World Media) : World Media := { world with fs := world.fs.calm }

theorem calm_lfs (left right : World Media) (same : left.calm = right.calm) : left.fs.lfs = right.fs.lfs :=
  congrArg (fun world => world.fs.lfs) same

theorem mount_calm (world : World Media) (card : SdCard Media) :
    world.calm.mount card = (world.mount card).map fun ran => (ran.1, ran.2.calm) := by
  by_cases failed : (card.init world.media).1 = 0
  · have inside : (card.init world.calm.media).1 = 0 := failed
    simp only [World.mount, failed, inside, ne_eq, not_true_eq_false, ↓reduceIte, World.onLfs, Option.map_map]
    apply congrFun
    apply congrArg
    funext ran
    by_cases refused : ran.1 = 0
    · simp [refused, World.calm, LittleFS.calm, LittleFS.configured, LittleFS.cardConfig]
    · simp [refused, World.calm, LittleFS.calm, LittleFS.configured, LittleFS.cardConfig]
  · have inside : ¬ (card.init world.calm.media).1 = 0 := failed
    simp only [World.mount, failed, inside, ne_eq, not_false_eq_true, ↓reduceIte, Option.map_some]
    rfl

theorem format_calm (lfsFormat : FormatCall Media) (world : World Media) (card : SdCard Media) (lookahead : UInt32) :
    world.calm.format lfsFormat card lookahead = (world.format lfsFormat card lookahead).map fun ran => (ran.1, ran.2.calm) := by
  by_cases failed : (card.init world.media).1 = 0
  · have inside : (card.init world.calm.media).1 = 0 := failed
    simp only [World.format, failed, inside, ne_eq, not_true_eq_false, ↓reduceIte, Option.map_map]
    apply congrFun
    apply congrArg
    funext ran
    by_cases refused : ran.1 = 0
    · simp [refused, World.calm, LittleFS.calm, LittleFS.configured, LittleFS.cardConfig]
    · simp [refused, World.calm, LittleFS.calm, LittleFS.configured, LittleFS.cardConfig]
  · have inside : ¬ (card.init world.calm.media).1 = 0 := failed
    simp only [World.format, failed, inside, ne_eq, not_false_eq_true, ↓reduceIte, Option.map_some]
    rfl

theorem unmount_calm (world : World Media) : world.calm.unmount = (world.unmount.1, world.unmount.2.calm) := by
  have same : world.calm.fs.bd = world.fs.bd := rfl
  rw [World.unmount, World.unmount, same]
  cases world.fs.bd with
  | none => rfl
  | some card => rfl

theorem operate_calm (world : World Media) (call : Operation Media) :
    world.calm.operate call = (world.operate call).map fun ran => (ran.1, ran.2.calm) := by
  simp only [World.operate, Option.map_map]
  rfl

theorem act_calm (lfsFormat : FormatCall Media) (world : World Media) (act : Act Media) (noAsync : act.isMountAsync = false)
    (noTick : act.isTick = false) : world.calm.act lfsFormat act = (world.act lfsFormat act).map fun ran => (ran.1, ran.2.calm) := by
  cases act with
  | mountAsync card => cases noAsync
  | mount card => exact mount_calm world card
  | unmount => exact congrArg some (unmount_calm world)
  | format card lookahead => exact format_calm lfsFormat world card lookahead
  | operation call => exact operate_calm world call
  | tick => cases noTick

theorem step_calm (lfsFormat : FormatCall Media) (before after other : World Media) (input : Act Media × Int32)
    (stepped : Step lfsFormat before input after) (noAsync : input.1.isMountAsync = false) (noTick : input.1.isTick = false)
    (same : other.calm = before.calm) : ∃ last, Step lfsFormat other input last ∧ last.calm = after.calm := by
  have left := act_calm lfsFormat before input.1 noAsync noTick
  have right := act_calm lfsFormat other input.1 noAsync noTick
  rw [same, left, stepped] at right
  obtain ⟨⟨result, last⟩, acted, known⟩ := Option.map_eq_some_iff.mp right.symm
  obtain ⟨rfl, calm⟩ := Prod.mk.inj known
  exact ⟨last, acted, calm⟩

-- Without a request the task is at its first mount step, or done for good.
def LittleFS.Unrequested (fs : LittleFS Media) : Prop := (fs.curOperation = 1 ∧ fs.curOperationState = 0) ∨ fs.curOperation = 0

theorem early_tick (world after : World Media) (unrequested : world.fs.Unrequested) (notified : world.notified = true)
    (early : world.fs.config.readSize = 0) (ticked : world.taskRun = some after) :
    after.calm = world.calm ∧ after.fs.curOperation = 0 := by
  rcases unrequested with ⟨mounting, rested⟩ | stopped
  · have refused : lfsMountAsync world.fs.config true world.fs.iter = pure (lfsErrNomem, world.fs.iter) := by
      simp [lfsMountAsync, LittleFS.iter, rested, lfsInit, early, lfsErrNomem]
    rw [mount_tick world mounting, refused, exec_pure] at ticked
    cases ticked
    exact ⟨rfl, rfl⟩
  · rw [World.notified, stopped] at notified
    cases notified

-- A run without mount_async, each tick of which comes before any mount or
-- format has filled in _config.
def EarlyStep (lfsFormat : FormatCall Media) (before : World Media) (input : Act Media × Int32) (after : World Media) : Prop :=
  Step lfsFormat before input after ∧ input.1.isMountAsync = false ∧ (input.1.isTick = true → before.fs.config.readSize = 0)

theorem early_ticks_leave_no_trace (lfsFormat : FormatCall Media) (start after : World Media) (inputs : List (Act Media × Int32))
    (constructed : start.Constructed) (ran : Lib.Run (EarlyStep lfsFormat) start inputs after) :
    ∃ quiet, Lib.Run (Step lfsFormat) start (inputs.filter fun input => ! input.1.isTick) quiet ∧ quiet.calm = after.calm := by
  have both : after.fs.Unrequested ∧
      ∃ quiet, Lib.Run (Step lfsFormat) start (inputs.filter fun input => ! input.1.isTick) quiet ∧ quiet.calm = after.calm := by
    induction ran with
    | nil =>
        obtain ⟨_, _, _, _, _, _, same⟩ := constructed
        refine ⟨?_, _, .nil _, rfl⟩
        rw [same]
        exact Or.inl ⟨rfl, rfl⟩
    | snoc before after inputs input _ stepped ih =>
        obtain ⟨unrequested, quiet, replayed, same⟩ := ih
        obtain ⟨acted, noAsync, early⟩ := stepped
        rw [List.filter_append]
        by_cases tick : input.1.isTick = true
        · obtain ⟨notified, ticked⟩ := tick_ran lfsFormat before after input.1 input.2 tick acted
          obtain ⟨calm, stopped⟩ := early_tick before after unrequested notified (early tick) ticked
          refine ⟨Or.inr stopped, quiet, ?_, same.trans calm.symm⟩
          simpa [tick] using replayed
        · have noTick : input.1.isTick = false := by simpa using tick
          have kept := sync_task lfsFormat before after input acted noAsync noTick
          obtain ⟨last, replay, calm⟩ := step_calm lfsFormat before after quiet input acted noAsync noTick same
          refine ⟨?_, last, ?_, calm⟩
          · rw [LittleFS.Unrequested, kept.curOperation, kept.curOperationState]
            exact unrequested
          · have more := Lib.Run.snoc start quiet last _ input replayed replay
            simpa [noTick] using more
  exact both.2

end

def syncWorld : World Unit := ((freshWorld.mount (sdCard formattedImage)).getD (0, freshWorld)).2

-- A tick after a synchronous mount starts a mount of its own on the live _lfs.
theorem tick_after_mount_resets : ∃ start after inputs, start.Constructed ∧ Lib.Run (Step noFormat) start inputs after ∧
    (∀ input ∈ inputs, input.1.isMountAsync = false) ∧
    ¬ ∃ quiet, Lib.Run (Step noFormat) start (inputs.filter fun input => ! input.1.isTick) quiet ∧ quiet.calm = after.calm := by
  have mounted : (freshWorld.mount (sdCard formattedImage)).map Prod.fst = some 0 := by decide +kernel
  have root : syncWorld.fs.lfs.root = ⟨0, 1⟩ := by decide +kernel
  have reset : (syncWorld.taskRun.getD syncWorld).fs.lfs.root = ⟨lfsBlockNull, lfsBlockNull⟩ := by decide +kernel
  have ticking := tick_step noFormat syncWorld (by decide +kernel) (by decide +kernel)
  obtain ⟨⟨result, world⟩, ran, zero⟩ := Option.map_eq_some_iff.mp mounted
  obtain rfl : result = 0 := zero
  have same : syncWorld = world := by rw [syncWorld, ran, Option.getD_some]
  have first : Step noFormat freshWorld (.mount (sdCard formattedImage), 0) syncWorld := same ▸ ran
  refine ⟨freshWorld, syncWorld.taskRun.getD syncWorld, [(.mount (sdCard formattedImage), 0), (.tick, 0)],
    ⟨_, _, _, _, _, _, rfl⟩, .snoc _ _ _ [_] _ (.snoc _ _ _ [] _ (.nil _) first) ticking, by simp [Act.isMountAsync], ?_⟩
  rintro ⟨quiet, replayed, calm⟩
  have replay : Step noFormat freshWorld (.mount (sdCard formattedImage), 0) quiet := Lib.run_single replayed
  have kept : (0, quiet) = ((0 : Int32), world) := Option.some.inj (replay.symm.trans ran)
  have roots := congrArg (fun lfs : Lfs => lfs.root) (calm_lfs _ _ calm)
  have quietRoot : quiet.fs.lfs.root = ⟨0, 1⟩ := by rw [(Prod.mk.inj kept).2, ← same, root]
  simp only [quietRoot, reset] at roots
  exact absurd roots (by decide)

def tickedWorld : World Unit := freshWorld.taskRun.getD freshWorld

theorem tick_before_mount : ∃ after quiet, Lib.Run (EarlyStep noFormat) freshWorld
      [(.tick, 0), (.mount (sdCard formattedImage), 0)] after ∧
    Lib.Run (Step noFormat) freshWorld [(.mount (sdCard formattedImage), 0)] quiet ∧ quiet.calm = after.calm := by
  have ticking := tick_step noFormat freshWorld (by decide +kernel) (by decide +kernel)
  have mounted : (tickedWorld.mount (sdCard formattedImage)).map Prod.fst = some 0 := by decide +kernel
  obtain ⟨⟨result, world⟩, ran, zero⟩ := Option.map_eq_some_iff.mp mounted
  obtain rfl : result = 0 := zero
  have whole : Lib.Run (EarlyStep noFormat) freshWorld [(.tick, 0), (.mount (sdCard formattedImage), 0)] world :=
    .snoc _ tickedWorld _ [_] _ (.snoc _ _ _ [] _ (.nil _) ⟨ticking, rfl, fun _ => rfl⟩) ⟨ran, rfl, fun impossible => by cases impossible⟩
  obtain ⟨quiet, replayed, calm⟩ := early_ticks_leave_no_trace noFormat freshWorld world _ ⟨_, _, _, _, _, _, rfl⟩ whole
  exact ⟨world, quiet, whole, replayed, calm⟩

end SDCardFs.Wrapper
