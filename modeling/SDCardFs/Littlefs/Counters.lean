import SDCardFs.Lib.Runs
import SDCardFs.Littlefs.Refill
import SDCardFs.Littlefs.Returns

set_option autoImplicit false

namespace SDCardFs.Littlefs

-- What holds of the four registers between two calls, whatever the buffer holds.
structure Counted (cfg : Config) (free : Free) : Prop where
  cursor : free.i.toNat ≤ free.size.toNat
  window : free.size.toNat ≤ 8 * cfg.lookaheadSize.toNat
  left : free.size.toNat - free.i.toNat ≤ free.ack.toNat
  acked : free.ack.toNat ≤ cfg.blockCount.toNat

-- The word that holds the bit lies in the first lookahead_size bytes.
def InBuffer (cfg : Config) (index : UInt32) : Prop := 4 * (index / 32).toNat + 4 ≤ cfg.lookaheadSize.toNat

-- The window at the start of each turn of the two loops that search it: a turn
-- tests the bit of i, and counts ack down unless it ends the second loop.
def skipTurns : Nat → Free → List Free
  | 0, _ => []
  | turns + 1, free => free :: if free.bit free.i then skipTurns turns (free.skip 1) else []

def windowTurns : Nat → Free → List Free
  | 0, _ => []
  | turns + 1, free => free :: if free.bit free.i then windowTurns turns (free.skip 1) else skipTurns turns (free.skip 1)

theorem skip_turns_state (turns : Nat) : ∀ (free turn : Free), turn ∈ skipTurns turns free → ∃ steps, steps < turns ∧ turn = free.skip steps := by
  induction turns with
  | zero => exact fun _ _ member => absurd member List.not_mem_nil
  | succ turns ih =>
      intro free turn member
      rcases List.mem_cons.mp member with rfl | later
      · exact ⟨0, by omega, (skip_zero turn).symm⟩
      · by_cases taken : free.bit free.i = true
        · rw [if_pos taken] at later
          obtain ⟨steps, within, rfl⟩ := ih _ _ later
          exact ⟨1 + steps, by omega, skip_skip free 1 steps⟩
        · rw [if_neg taken] at later
          exact absurd later List.not_mem_nil

theorem window_turns_state (turns : Nat) : ∀ (free turn : Free), turn ∈ windowTurns turns free →
    ∃ steps, steps < turns ∧ turn = free.skip steps := by
  induction turns with
  | zero => exact fun _ _ member => absurd member List.not_mem_nil
  | succ turns ih =>
      intro free turn member
      rcases List.mem_cons.mp member with rfl | later
      · exact ⟨0, by omega, (skip_zero turn).symm⟩
      · have one : ∃ steps, steps < turns ∧ turn = (free.skip 1).skip steps := by
          by_cases taken : free.bit free.i = true
          · rw [if_pos taken] at later
            exact ih _ _ later
          · rw [if_neg taken] at later
            exact skip_turns_state turns _ _ later
        obtain ⟨steps, within, rfl⟩ := one
        exact ⟨1 + steps, by omega, skip_skip free 1 steps⟩

section
variable {cfg : Config} {free : Free}

theorem counted_skip (counted : Counted cfg free) (steps : Nat) (within : steps ≤ free.size.toNat - free.i.toNat) :
    Counted cfg (free.skip steps) := by
  have cursor := counted.cursor
  have left := counted.left
  have acked := counted.acked
  have i := skip_cursor free steps cursor within
  have ack := skip_acked free steps (Nat.le_trans within left)
  have size : (free.skip steps).size = free.size := rfl
  refine ⟨?_, counted.window, ?_, ?_⟩
  · rw [i, size]
    omega
  · rw [i, ack, size]
    omega
  · rw [ack]
    omega

theorem counted_ack (counted : Counted cfg free) : Counted cfg (lfsAllocAck cfg free) :=
  ⟨counted.cursor, counted.window, Nat.le_trans counted.left counted.acked, Nat.le_refl _⟩

theorem counted_reset (cfg : Config) (lfs : Lfs) : Counted cfg (lfsAllocReset cfg lfs).free :=
  ⟨Nat.le_refl _, Nat.zero_le _, Nat.zero_le _, Nat.le_refl _⟩

theorem counted_advance (counted : Counted cfg free) : Counted cfg (freeAdvance cfg free) := by
  obtain ⟨lookahead, ack⟩ := lfsMin_le (8 * cfg.lookaheadSize) free.ack
  rw [UInt32.le_iff_toNat_le] at lookahead ack
  rw [UInt32.toNat_mul] at lookahead
  have whole : (freeAdvance cfg free).size.toNat ≤ 8 * cfg.lookaheadSize.toNat :=
    Nat.le_trans lookahead (Nat.mod_le _ _)
  exact ⟨Nat.zero_le _, whole, Nat.le_trans (Nat.sub_le _ _) ack, counted.acked⟩

theorem counted_marks (counted : Counted cfg free) (log : List UInt32) : Counted cfg (marks cfg log free) := by
  obtain ⟨-, size, i, ack⟩ := marks_registers cfg log free
  refine ⟨?_, ?_, ?_, ?_⟩
  · rw [i, size]
    exact counted.cursor
  · rw [size]
    exact counted.window
  · rw [size, i, ack]
    exact counted.left
  · rw [ack]
    exact counted.acked

theorem counted_in_buffer (counted : Counted cfg free) (words : cfg.lookaheadSize % 8 = 0) (index : UInt32)
    (inside : index.toNat < free.size.toNat) : InBuffer cfg index := by
  have window := counted.window
  have whole := congrArg UInt32.toNat words
  rw [InBuffer, UInt32.toNat_div]
  simp only [UInt32.toNat_mod, UInt32.reduceToNat] at whole ⊢
  omega

-- No decrement of ack wraps, and no bit outside the buffer is tested.
theorem counted_turn (counted : Counted cfg free) (words : cfg.lookaheadSize % 8 = 0) (turn : Free)
    (taken : turn ∈ windowTurns (free.size - free.i).toNat free) :
    turn.i.toNat < turn.size.toNat ∧ 0 < turn.ack.toNat ∧ InBuffer cfg turn.i := by
  have left := counted.left
  have turns : (free.size - free.i).toNat = free.size.toNat - free.i.toNat :=
    UInt32.toNat_sub_of_le _ _ (UInt32.le_iff_toNat_le.mpr counted.cursor)
  obtain ⟨steps, within, rfl⟩ := window_turns_state _ _ _ taken
  have i := skip_cursor free steps counted.cursor (by omega)
  have ack := skip_acked free steps (by omega)
  have inside : (free.skip steps).i.toNat < (free.skip steps).size.toNat := by
    rw [i]
    exact (by omega : free.i.toNat + steps < free.size.toNat)
  exact ⟨inside, by omega, counted_in_buffer (counted_skip counted steps (by omega)) words _ inside⟩

-- No word behind the lookahead_size bytes differs.
def SameBehind (cfg : Config) (before after : Free) : Prop :=
  ∀ word, (cfg.lookaheadSize / 4).toNat ≤ word → after.buffer word = before.buffer word

theorem behind_trans (first second third : Free) (one : SameBehind cfg first second) (two : SameBehind cfg second third) :
    SameBehind cfg first third :=
  fun word beyond => (two word beyond).trans (one word beyond)

theorem behind_advance (free : Free) : SameBehind cfg free (freeAdvance cfg free) := by
  intro word beyond
  exact if_neg (Nat.not_lt.mpr beyond)

theorem behind_lookahead (counted : Counted cfg free) (words : cfg.lookaheadSize % 8 = 0) (block : UInt32) :
    SameBehind cfg free (lfsAllocLookahead cfg free block) := by
  intro word beyond
  rw [lfsAllocLookahead]
  split
  · rename_i inside
    have within := counted_in_buffer counted words _ (UInt32.lt_iff_toNat_lt.mp inside)
    rw [InBuffer] at within
    rw [UInt32.toNat_div] at beyond
    simp only [UInt32.reduceToNat] at beyond
    exact if_neg (by omega)
  · rfl

theorem behind_marks (words : cfg.lookaheadSize % 8 = 0) (log : List UInt32) :
    ∀ (free : Free), Counted cfg free → SameBehind cfg free (marks cfg log free) := by
  induction log with
  | nil => exact fun _ _ _ _ => rfl
  | cons block log ih =>
      intro free counted
      exact behind_trans _ _ _ (behind_lookahead counted words block) (ih _ (counted_marks counted [block]))

end

-- The states of one lfs_alloc in which it starts to search a window, and the
-- read cache there: each scan that succeeds leads from one to the next.
inductive AllocRound (cfg : Config) (device : Device) (files : Nat → LfsFile) : Lfs → Cache → Lfs → Cache → Prop where
  | here (lfs : Lfs) (rcache : Cache) : AllocRound cfg device files lfs rcache lfs rcache
  | refill (lfs round : Lfs) (rcache between cache : Cache) (free : Free) (log : List UInt32) (stirred : UInt32) :
      allocWindow cfg (lfs.free.size - lfs.free.i).toNat lfs.free = (none, free) → free.ack ≠ 0 →
      reports cfg device (lfsFsTraverseraw cfg files true) lfs.toLfsBase lfs.seed rcache = some (0, log, stirred, between) →
      AllocRound cfg device files { lfs with seed := stirred, free := marks cfg log (freeAdvance cfg free) } between round cache →
      AllocRound cfg device files lfs rcache round cache

-- A block of the device, or an error.
def AllocAnswer (cfg : Config) (err : Int32) (found : Option UInt32) : Prop :=
  (err = 0 ∧ ∃ block, found = some block ∧ block < cfg.blockCount) ∨ (err ≠ 0 ∧ found = none)

section
variable {cfg : Config} {device : Device} {files : Nat → LfsFile} {free : Free}

-- The window when a search has used it up.
def Free.passed (free : Free) : Free := free.skip (free.size.toNat - free.i.toNat)

theorem counted_passed (counted : Counted cfg free) : Counted cfg free.passed := counted_skip counted _ (Nat.le_refl _)

theorem searched_window (counted : Counted cfg free) :
    allocWindow cfg (free.size - free.i).toNat free = (none, free.passed) ∨
      ∃ block steps, block < cfg.blockCount ∧ steps ≤ free.size.toNat - free.i.toNat ∧
        allocWindow cfg (free.size - free.i).toNat free = (some block, free.skip steps) := by
  have left := counted.left
  have acked := counted.acked
  have turns : (free.size - free.i).toNat = free.size.toNat - free.i.toNat :=
    UInt32.toNat_sub_of_le _ _ (UInt32.le_iff_toNat_le.mpr counted.cursor)
  rw [turns]
  rcases alloc_window_steps cfg (free.size.toNat - free.i.toNat) free with ended | ⟨found, steps, before, within, -, ran⟩
  · exact Or.inl ended
  · right
    refine ⟨_, steps, ?_, within, ran⟩
    rw [UInt32.lt_iff_toNat_lt, UInt32.toNat_mod]
    exact Nat.mod_lt _ (by omega)

theorem round_counted (lfs round : Lfs) (rcache cache : Cache) (rounds : AllocRound cfg device files lfs rcache round cache) :
    Counted cfg lfs.free → Counted cfg round.free := by
  induction rounds with
  | here lfs rcache => exact id
  | refill lfs round rcache between cache free log stirred searched unspent reported later ih =>
      intro counted
      apply ih
      rcases searched_window counted with ended | ⟨block, steps, -, -, found⟩
      · obtain rfl := (Prod.mk.inj (searched.symm.trans ended)).2
        exact counted_marks (counted_advance (counted_passed counted)) log
      · cases (Prod.mk.inj (searched.symm.trans found)).1

theorem alloc_rounds_counts (words : cfg.lookaheadSize % 8 = 0) (rounds : Nat) :
    ∀ (lfs after : Lfs) (rcache last : Cache) (err : Int32) (found : Option UInt32), Counted cfg lfs.free →
      exec cfg device (allocRounds cfg files rounds) lfs rcache = some ((err, found), after, last) →
      Counted cfg after.free ∧ SameBehind cfg lfs.free after.free ∧ AllocAnswer cfg err found := by
  induction rounds with
  | zero =>
      intro lfs after rcache last err found _ ran
      cases ran
  | succ rounds ih =>
      intro lfs after rcache last err found counted ran
      rcases searched_window counted with searched | ⟨block, steps, inside, within, searched⟩
      · rw [alloc_rounds_exec _ rounds lfs rcache _ _ searched, if_neg (by simp)] at ran
        have kept := counted_passed counted
        by_cases spent : lfs.free.passed.ack = 0
        · rw [if_pos spent] at ran
          cases ran
          exact ⟨kept, fun _ _ => rfl, Or.inr ⟨by decide, rfl⟩⟩
        · rw [if_neg spent] at ran
          obtain ⟨⟨failed, log, stirred, between⟩, reported, rest⟩ := Option.bind_eq_some_iff.mp ran
          have advanced := counted_advance kept
          have behind := behind_trans lfs.free _ _ (behind_advance lfs.free.passed) (behind_marks words log _ advanced)
          by_cases refused : failed = 0
          · rw [if_neg (by simpa using refused)] at rest
            obtain ⟨final, same, answer⟩ := ih { lfs with seed := stirred, free := marks cfg log _ } after between last err found
              (counted_marks advanced log) rest
            exact ⟨final, behind_trans _ _ _ behind same, answer⟩
          · rw [if_pos refused] at rest
            cases rest
            exact ⟨counted_reset cfg _, behind, Or.inr ⟨refused, rfl⟩⟩
      · rw [alloc_rounds_exec _ rounds lfs rcache _ _ searched, if_pos (by simp)] at ran
        cases ran
        exact ⟨counted_skip counted steps within, fun _ _ => rfl, Or.inl ⟨rfl, block, rfl, inside⟩⟩

-- The rounds still to come: one for each block left to ack, and one more for
-- a window that is used up before the first.
def roundsLeft (free : Free) : Nat := free.ack.toNat + if free.i.toNat = free.size.toNat then 1 else 0

theorem refill_size (cfg : Config) (free : Free) (positive : cfg.lookaheadSize ≠ 0) (fits : cfg.lookaheadSize ≤ 8192) (unspent : free.ack ≠ 0) :
    0 < (freeAdvance cfg free).size.toNat := by
  have size : (freeAdvance cfg free).size = lfsMin (8 * cfg.lookaheadSize) free.ack := rfl
  have some : free.ack.toNat ≠ 0 := fun zero => unspent (UInt32.toNat_inj.mp zero)
  have bytes : cfg.lookaheadSize.toNat ≠ 0 := fun zero => positive (UInt32.toNat_inj.mp zero)
  rw [UInt32.le_iff_toNat_le] at fits
  rw [size, lfs_min_toNat, UInt32.toNat_mul]
  simp only [UInt32.reduceToNat] at fits ⊢
  omega

theorem rounds_left_refill (counted : Counted cfg free) (positive : cfg.lookaheadSize ≠ 0) (fits : cfg.lookaheadSize ≤ 8192)
    (unspent : free.passed.ack ≠ 0) (log : List UInt32) : roundsLeft (marks cfg log (freeAdvance cfg free.passed)) < roundsLeft free := by
  have window := refill_size cfg free.passed positive fits unspent
  have cursor := counted.cursor
  have left : free.passed.ack.toNat = free.ack.toNat - (free.size.toNat - free.i.toNat) := skip_acked free _ counted.left
  have spent : free.passed.ack.toNat ≠ 0 := fun zero => unspent (UInt32.toNat_inj.mp zero)
  have start : (freeAdvance cfg free.passed).i.toNat = 0 := rfl
  have kept : (freeAdvance cfg free.passed).ack = free.passed.ack := rfl
  obtain ⟨-, size, i, ack⟩ := marks_registers cfg log (freeAdvance cfg free.passed)
  rw [roundsLeft, roundsLeft, size, i, ack, kept, start, if_neg (by omega)]
  split
  · omega
  · omega

-- lfs_alloc goes on only as long as its scans return.
theorem alloc_rounds_end (positive : cfg.lookaheadSize ≠ 0) (fits : cfg.lookaheadSize ≤ 8192) (rounds : Nat) :
    ∀ (lfs : Lfs) (rcache : Cache), Counted cfg lfs.free → roundsLeft lfs.free < rounds →
      exec cfg device (allocRounds cfg files rounds) lfs rcache = none →
      ∃ round cache free, AllocRound cfg device files lfs rcache round cache ∧
        allocWindow cfg (round.free.size - round.free.i).toNat round.free = (none, free) ∧ free.ack ≠ 0 ∧
        reports cfg device (lfsFsTraverseraw cfg files true) round.toLfsBase round.seed cache = none := by
  induction rounds with
  | zero => exact fun _ _ _ few => absurd few (Nat.not_lt_zero _)
  | succ rounds ih =>
      intro lfs rcache counted few ran
      rcases searched_window counted with searched | ⟨block, steps, -, -, searched⟩
      · rw [alloc_rounds_exec _ rounds lfs rcache _ _ searched, if_neg (by simp)] at ran
        by_cases spent : lfs.free.passed.ack = 0
        · rw [if_pos spent] at ran
          cases ran
        · rw [if_neg spent] at ran
          cases reported : reports cfg device (lfsFsTraverseraw cfg files true) lfs.toLfsBase lfs.seed rcache with
          | none => exact ⟨lfs, rcache, _, .here lfs rcache, searched, spent, reported⟩
          | some scanned =>
              obtain ⟨failed, log, stirred, between⟩ := scanned
              rw [reported, Option.bind_some] at ran
              by_cases refused : failed = 0
              · rw [if_neg (by simpa using refused)] at ran
                rw [refused] at reported
                have fewer := rounds_left_refill counted positive fits spent log
                obtain ⟨round, cache, free, later, found⟩ := ih { lfs with seed := stirred, free := marks cfg log _ } between
                  (counted_marks (counted_advance (counted_passed counted)) log) (Nat.lt_of_lt_of_le fewer (Nat.le_of_lt_succ few)) ran
                exact ⟨round, cache, free, .refill _ _ _ _ _ _ _ _ searched spent reported later, found⟩
              · rw [if_pos refused] at ran
                cases ran
      · rw [alloc_rounds_exec _ rounds lfs rcache _ _ searched, if_pos (by simp)] at ran
        cases ran

theorem reports_return (readable : Readable cfg) (returns : device.Returns) (base : LfsBase) (seed : UInt32) (rcache : Cache) :
    (reports cfg device (lfsFsTraverseraw cfg files true) base seed rcache).isSome := by
  have servable := readable_servable readable
  have scans := traverseraw_always servable files true base fun _ _ => Or.inl readable.units
  obtain ⟨result, after, ran, -⟩ := Lib.Prog.run_always_kept (fun request state => server_answers servable returns logBlock request state)
    _ (rcache, []) (Lib.Prog.always_handle seedHandler _ seed scans) (Or.inl readable.units)
  rw [reports, ran]
  rfl

-- What every lfs_alloc from a state does: turn by turn, when it returns, and
-- whether it does.
structure Allocates (cfg : Config) (device : Device) (files : Nat → LfsFile) (lfs : Lfs) (rcache : Cache) : Prop where
  turns : ∀ round cache, AllocRound cfg device files lfs rcache round cache →
    Counted cfg round.free ∧ ∀ turn ∈ windowTurns (round.free.size - round.free.i).toNat round.free,
      turn.i.toNat < turn.size.toNat ∧ 0 < turn.ack.toNat ∧ InBuffer cfg turn.i
  answers : ∀ err found after last, exec cfg device (lfsAlloc cfg files) lfs rcache = some ((err, found), after, last) →
    AllocAnswer cfg err found
  ends : exec cfg device (lfsAlloc cfg files) lfs rcache = none → ∃ round cache free, AllocRound cfg device files lfs rcache round cache ∧
    allocWindow cfg (round.free.size - round.free.i).toNat round.free = (none, free) ∧ free.ack ≠ 0 ∧
    reports cfg device (lfsFsTraverseraw cfg files true) round.toLfsBase round.seed cache = none
  returns : Readable cfg → device.Returns → (exec cfg device (lfsAlloc cfg files) lfs rcache).isSome

theorem counted_allocates (lfs : Lfs) (rcache : Cache) (counted : Counted cfg lfs.free) (positive : cfg.lookaheadSize ≠ 0)
    (words : cfg.lookaheadSize % 8 = 0) (fits : cfg.lookaheadSize ≤ 8192) : Allocates cfg device files lfs rcache := by
  have few : roundsLeft lfs.free < 2 ^ 32 + 1 := by
    have ack := lfs.free.ack.toNat_lt
    rw [roundsLeft]
    split
    · omega
    · omega
  have ends := @alloc_rounds_end cfg device files positive fits (2 ^ 32 + 1) lfs rcache counted few
  refine ⟨?_, ?_, ends, ?_⟩
  · intro round cache rounds
    have reached := round_counted lfs round rcache cache rounds counted
    exact ⟨reached, counted_turn reached words⟩
  · intro err found after last ran
    exact (alloc_rounds_counts words _ lfs after rcache last err found counted ran).2.2
  · intro readable returns
    cases ran : exec cfg device (lfsAlloc cfg files) lfs rcache with
    | some ended => rfl
    | none =>
        obtain ⟨round, cache, free, -, -, -, endless⟩ := ends ran
        have scanned := @reports_return cfg device files readable returns round.toLfsBase round.seed cache
        rw [endless] at scanned
        cases scanned

theorem async_counts (words : cfg.lookaheadSize % 8 = 0) (iter next : AsyncIter) (lfs after : Lfs) (rcache last : Cache) (err : Int32)
    (counted : Counted cfg lfs.free)
    (ran : exec cfg device (lfsTraverseAsync cfg files iter) lfs rcache = some ((err, next), after, last)) :
    Counted cfg after.free ∧ SameBehind cfg lfs.free after.free := by
  have called : Counted cfg (callWindow cfg iter lfs.free) ∧ SameBehind cfg lfs.free (callWindow cfg iter lfs.free) := by
    rw [callWindow]
    split
    · exact ⟨counted_advance counted, behind_advance lfs.free⟩
    · exact ⟨counted, fun _ _ => rfl⟩
  rw [traverse_async_exec] at ran
  obtain ⟨⟨⟨failed, iter⟩, log, seed, between⟩, _, same⟩ := Option.map_eq_some_iff.mp ran
  have behind := behind_trans _ _ _ called.2 (behind_marks words log _ called.1)
  by_cases refused : failed = 0
  · simp only [refused, ne_eq, not_true_eq_false, ↓reduceIte] at same
    cases same
    exact ⟨counted_marks called.1 log, behind⟩
  · simp only [refused, ne_eq, not_false_eq_true, ↓reduceIte] at same
    cases same
    exact ⟨counted_reset cfg _, behind⟩

end

-- What rewrites the registers: the allocator's own functions with any device,
-- files, read cache and iterator, and what leaves them alone.
inductive AllocatorCall where
  | alloc (device : Device) (files : Nat → LfsFile) (rcache : Cache)
  | ack
  | reset
  | traverseAsync (device : Device) (files : Nat → LfsFile) (rcache : Cache) (iter : AsyncIter)
  | other

def AllocatorStep (cfg : Config) (before : Lfs) : AllocatorCall → Lfs → Prop
  | .alloc device files rcache, after => ∃ answer last, exec cfg device (lfsAlloc cfg files) before rcache = some (answer, after, last)
  | .ack, after => after = { before with free := lfsAllocAck cfg before.free }
  | .reset, after => after = lfsAllocReset cfg before
  | .traverseAsync device files rcache iter, after =>
      ∃ answer last, exec cfg device (lfsTraverseAsync cfg files iter) before rcache = some (answer, after, last)
  | .other, after => after.free = before.free

theorem allocator_step_counts (cfg : Config) (words : cfg.lookaheadSize % 8 = 0) (before after : Lfs) (call : AllocatorCall)
    (counted : Counted cfg before.free) (stepped : AllocatorStep cfg before call after) :
    Counted cfg after.free ∧ SameBehind cfg before.free after.free := by
  cases call with
  | alloc device files rcache =>
      obtain ⟨⟨err, found⟩, last, ran⟩ := stepped
      obtain ⟨kept, behind, -⟩ := alloc_rounds_counts words _ before after rcache last err found counted ran
      exact ⟨kept, behind⟩
  | ack =>
      obtain rfl : after = _ := stepped
      exact ⟨counted_ack counted, fun _ _ => rfl⟩
  | reset =>
      obtain rfl : after = _ := stepped
      exact ⟨counted_reset cfg before, fun _ _ => rfl⟩
  | traverseAsync device files rcache iter =>
      obtain ⟨⟨err, next⟩, last, ran⟩ := stepped
      exact async_counts words iter next before after rcache last err counted ran
  | other =>
      have same : after.free = before.free := stepped
      rw [same]
      exact ⟨counted, fun _ _ => rfl⟩

-- A mount that succeeded, in one call or in steps.
inductive MountedBy (cfg : Config) : Lfs → Prop where
  | mount (device : Device) (before start : Lfs) (rcache last : Cache) :
      exec cfg device (lfsMount cfg) before rcache = some (0, start, last) → MountedBy cfg start
  | mountAsync (device : Device) (findglobalState : Bool) (calls : Nat) (dir : Mdir) (cycle : UInt32) (iter : AsyncIter) (before start : Lfs)
      (rcache last : Cache) : exec cfg device (Lib.drive (lfsMountAsync cfg findglobalState) failedErr AsyncIter.over calls ⟨0, dir, cycle⟩)
        before rcache = some (some (0, iter), start, last) → MountedBy cfg start

theorem iter_unfinished (dir : Mdir) (cycle : UInt32) (state : UInt8) (other : state ≠ 3) : AsyncIter.over ⟨state, dir, cycle⟩ = false := by
  simpa [AsyncIter.over] using other

theorem mount_scan_unfinished (cfg : Config) (device : Device) (findglobalState : Bool) (iter next : AsyncIter) (lfs after : Lfs)
    (rcache last : Cache) (scanning : iter.state = 1)
    (ran : exec cfg device (lfsMountAsync cfg findglobalState iter) lfs rcache = some ((0, next), after, last)) : next.over = false := by
  have starting : ¬ iter.state = 0 := by
    rw [scanning]
    decide
  rw [lfsMountAsync, if_neg starting, if_pos scanning] at ran
  by_cases tail : lfsPairIsnull iter.dir.tail = true
  · rw [if_pos tail] at ran
    cases ran
    exact iter_unfinished _ _ _ (by decide)
  · rw [if_neg tail] at ran
    by_cases full : iter.cycle ≥ cfg.blockCount / 2
    · rw [if_pos full] at ran
      cases ran
    · rw [if_neg full, exec_bind] at ran
      obtain ⟨⟨⟨err, found, dir⟩, paired, cache⟩, _, rest⟩ := Option.bind_eq_some_iff.mp ran
      dsimp only at rest
      by_cases refused : err = 0
      · rw [if_neg (by simpa using refused)] at rest
        by_cases stops : found = true ∧ ¬ findglobalState = true
        · rw [if_pos stops] at rest
          cases rest
          exact iter_unfinished _ _ _ (by decide)
        · rw [if_neg stops, exec_bind] at rest
          obtain ⟨⟨failed, state, between⟩, _, last⟩ := Option.bind_eq_some_iff.mp rest
          cases last
          exact iter_unfinished _ _ _ (by rw [scanning]; decide)
      · rw [if_pos refused] at rest
        cases rest
        exact absurd rfl refused

-- A call of lfs_mount_async that ends the mount resets the allocator.
theorem mount_call_ends (cfg : Config) (device : Device) (findglobalState : Bool) (iter next : AsyncIter) (lfs after : Lfs)
    (rcache last : Cache) (going : iter.over = false)
    (ran : exec cfg device (lfsMountAsync cfg findglobalState iter) lfs rcache = some ((0, next), after, last)) :
    (iter.state = 0 → Accepted cfg) ∧ (next.over = true → ∃ before, after = lfsAllocReset cfg before) := by
  by_cases starting : iter.state = 0
  · rw [lfsMountAsync, if_pos starting, exec_bind] at ran
    obtain ⟨⟨err, mounting, cache⟩, inited, rest⟩ := Option.bind_eq_some_iff.mp ran
    obtain ⟨answer, started, zero, init, accepted, -⟩ := init_exec cfg device lfs rcache
    obtain ⟨rfl, rfl, rfl⟩ : answer = err ∧ started = mounting ∧ zero = cache := by simpa [init] using inited
    by_cases refused : answer = 0
    · rw [if_neg (by simpa using refused)] at rest
      cases rest
      exact ⟨fun _ => accepted.mp refused, fun ended => absurd ended (Bool.eq_false_iff.mp (iter_unfinished _ _ _ (by decide)))⟩
    · rw [if_pos refused] at rest
      cases rest
      exact absurd rfl refused
  · refine ⟨fun zero => absurd zero starting, fun ended => ?_⟩
    by_cases scanning : iter.state = 1
    · have unfinished := mount_scan_unfinished cfg device findglobalState iter next lfs after rcache last scanning ran
      exact absurd ended (Bool.eq_false_iff.mp unfinished)
    · rw [lfsMountAsync, if_neg starting, if_neg scanning] at ran
      by_cases finishing : iter.state = 2
      · rw [if_pos finishing, exec_bind] at ran
        obtain ⟨⟨err, finished, cache⟩, finish, rest⟩ := Option.bind_eq_some_iff.mp ran
        by_cases refused : err = 0
        · rw [if_neg (by simpa using refused)] at rest
          cases rest
          rw [refused] at finish
          exact finish_exec cfg device lfs _ rcache _ finish
        · rw [if_pos refused] at rest
          cases rest
          exact absurd rfl refused
      · rw [if_neg finishing] at ran
        cases ran
        rw [going] at ended
        cases ended

theorem drive_mount_resets (cfg : Config) (device : Device) (findglobalState : Bool) (calls : Nat) :
    ∀ (iter last : AsyncIter) (lfs after : Lfs) (rcache cache : Cache), iter.over = false →
      exec cfg device (Lib.drive (lfsMountAsync cfg findglobalState) failedErr AsyncIter.over calls iter) lfs rcache =
        some (some (0, last), after, cache) →
      (iter.state = 0 → Accepted cfg) ∧ ∃ before, after = lfsAllocReset cfg before := by
  induction calls with
  | zero =>
      intro iter last lfs after rcache cache _ ran
      cases ran
  | succ calls ih =>
      intro iter last lfs after rcache cache going ran
      rw [exec_drive] at ran
      obtain ⟨⟨⟨err, next⟩, between, kept⟩, called, rest⟩ := Option.bind_eq_some_iff.mp ran
      by_cases failed : err = 0
      · rw [failed] at called
        obtain ⟨accepted, resets⟩ := mount_call_ends cfg device findglobalState iter next lfs between rcache kept going called
        by_cases ended : next.over = true
        · rw [if_pos (Or.inr ended)] at rest
          cases rest
          exact ⟨accepted, resets ended⟩
        · have on : ¬ (failedErr err = true ∨ next.over = true) := by simp [failedErr, failed, ended]
          rw [if_neg on] at rest
          exact ⟨accepted, (ih next last between after kept cache (by simpa using ended) rest).2⟩
      · rw [if_pos (Or.inl (by simpa [failedErr] using failed))] at rest
        cases rest
        exact absurd rfl failed

theorem mounted_resets (cfg : Config) (start : Lfs) (mounted : MountedBy cfg start) :
    Accepted cfg ∧ ∃ before, start = lfsAllocReset cfg before := by
  cases mounted with
  | mount device before start rcache last ran =>
      obtain ⟨accepted, reset, -⟩ := mount_resets cfg device before start rcache last ran
      exact ⟨accepted, reset⟩
  | mountAsync device findglobalState calls dir cycle iter before start rcache last ran =>
      obtain ⟨accepted, reset⟩ := drive_mount_resets cfg device findglobalState calls _ iter before start rcache last rfl ran
      exact ⟨accepted rfl, reset⟩

theorem counters_bounded (cfg : Config) (start after : Lfs) (calls : List AllocatorCall) (mounted : MountedBy cfg start)
    (fits : cfg.lookaheadSize ≤ 8192) (ran : Lib.Run (AllocatorStep cfg) start calls after) :
    Counted cfg after.free ∧ SameBehind cfg start.free after.free ∧
      ∀ device files rcache, Allocates cfg device files after rcache := by
  obtain ⟨accepted, before, rfl⟩ := mounted_resets cfg start mounted
  have positive : cfg.lookaheadSize ≠ 0 := fun zero => accepted.words (Or.inl zero)
  have words : cfg.lookaheadSize % 8 = 0 := Decidable.not_not.mp fun odd => accepted.words (Or.inr odd)
  have kept := Lib.run_invariant (fun lfs => Counted cfg lfs.free ∧ SameBehind cfg (lfsAllocReset cfg before).free lfs.free)
    (fun earlier call later holds stepped => by
      obtain ⟨counted, behind⟩ := allocator_step_counts cfg words earlier later call holds.1 stepped
      exact ⟨counted, behind_trans _ _ _ holds.2 behind⟩) ran ⟨counted_reset cfg before, fun _ _ => rfl⟩
  exact ⟨kept.1, kept.2, fun device files rcache => counted_allocates after rcache kept.1 positive words fits⟩

theorem mounted_card (blockCount : UInt32)
    (mounts : (exec (sectorConfig blockCount) formattedCard (lfsMount (sectorConfig blockCount)) zeroLfs zeroCache).map Prod.fst = some 0) :
    MountedBy (sectorConfig blockCount) (mountedCard blockCount).1 := by
  obtain ⟨⟨err, start, last⟩, ran, rfl⟩ := Option.map_eq_some_iff.mp mounts
  have same : (mountedCard blockCount).1 = start := by rw [mountedCard, ran, Option.map_some, Option.getD_some]
  rw [same]
  exact .mount formattedCard zeroLfs start zeroCache last ran

theorem small_card_counters : ∃ after calls, calls.length = 3 ∧ Lib.Run (AllocatorStep (sectorConfig 16)) (mountedCard 16).1 calls after ∧
    Counted (sectorConfig 16) after.free ∧ SameBehind (sectorConfig 16) (mountedCard 16).1.free after.free ∧
    (exec (sectorConfig 16) formattedCard (lfsAlloc (sectorConfig 16) noFiles) after zeroCache).isSome := by
  have called : ((exec (sectorConfig 16) formattedCard (lfsAlloc (sectorConfig 16) noFiles) (mountedCard 16).1 zeroCache).bind fun allocated =>
      exec (sectorConfig 16) formattedCard (lfsTraverseAsync (sectorConfig 16) noFiles ⟨1, Mdir.ofTail ⟨0, 1⟩, 0⟩) allocated.2.1 zeroCache).isSome := by
    decide +kernel
  obtain ⟨⟨status, scanned, last⟩, both⟩ := Option.isSome_iff_exists.mp called
  obtain ⟨⟨answer, allocated, cache⟩, alloc, async⟩ := Option.bind_eq_some_iff.mp both
  have ran : Lib.Run (AllocatorStep (sectorConfig 16)) (mountedCard 16).1
      [.alloc formattedCard noFiles zeroCache, .traverseAsync formattedCard noFiles zeroCache ⟨1, Mdir.ofTail ⟨0, 1⟩, 0⟩, .ack]
      { scanned with free := lfsAllocAck (sectorConfig 16) scanned.free } :=
    Lib.run_cons ⟨answer, cache, alloc⟩ (Lib.run_cons ⟨status, last, async⟩ (Lib.run_cons rfl (.nil _)))
  obtain ⟨counted, behind, allocates⟩ := counters_bounded (sectorConfig 16) (mountedCard 16).1 _ _ (mounted_card 16 (by decide +kernel))
    (by decide) ran
  exact ⟨_, _, rfl, ran, counted, behind,
    (allocates formattedCard noFiles zeroCache).returns ⟨by decide, by decide, by decide, by decide⟩ fun _ _ _ => rfl⟩

end SDCardFs.Littlefs
