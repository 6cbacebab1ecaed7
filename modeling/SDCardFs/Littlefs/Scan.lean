import SDCardFs.Littlefs.Lookahead
import SDCardFs.Littlefs.Mount

set_option autoImplicit false

namespace SDCardFs.Littlefs

def lfsTraverseCalls (cfg : Config) (files : Nat → LfsFile) (calls : Nat) (iter : AsyncIter) : LfsM (Option (Int32 × AsyncIter)) :=
  Lib.drive (lfsTraverseAsync cfg files) failedErr AsyncIter.over calls iter

def Free.window (free : Free) : UInt32 × UInt32 × UInt32 := (free.off, free.size, free.ack)

theorem marks_window (cfg : Config) (log : List UInt32) (free : Free) : (marks cfg log free).window = free.window := by
  obtain ⟨off, size, -, ack⟩ := marks_registers cfg log free
  rw [Free.window, off, size, ack, Free.window]

theorem advance_window (cfg : Config) (free other : Free) (same : free.window = other.window) :
    (freeAdvance cfg free).window = (freeAdvance cfg other).window := by
  obtain ⟨off, rest⟩ := Prod.mk.inj same
  obtain ⟨size, ack⟩ := Prod.mk.inj rest
  simp only [Free.window, freeAdvance, off, size, ack]

theorem advances_window (cfg : Config) (turns : Nat) (free other : Free) (same : free.window = other.window) :
    ((freeAdvance cfg)^[turns] free).window = ((freeAdvance cfg)^[turns] other).window := by
  induction turns generalizing free other with
  | zero => exact same
  | succ turns ih => exact ih _ _ (advance_window cfg free other same)

section
variable (cfg : Config) (device : Device) (files : Nat → LfsFile)

def callWindow (iter : AsyncIter) (free : Free) : Free := if iter.state = 1 then freeAdvance cfg free else free

theorem traverse_async_exec (iter : AsyncIter) (lfs : Lfs) (rcache : Cache) :
    exec cfg device (lfsTraverseAsync cfg files iter) lfs rcache =
      (reports cfg device (lfsFsTraverserawAsync cfg files true iter) lfs.toLfsBase lfs.seed rcache).map fun ran =>
        (ran.1, if ran.1.1 ≠ 0 then lfsAllocReset cfg { lfs with seed := ran.2.2.1, free := marks cfg ran.2.1 (callWindow cfg iter lfs.free) }
          else { lfs with seed := ran.2.2.1, free := marks cfg ran.2.1 (callWindow cfg iter lfs.free) }, ran.2.2.2) := by
  have marked : ∀ lfs, exec cfg device (marking cfg (lfsFsTraverserawAsync cfg files true iter) >>= fun got =>
        if got.1 ≠ 0 then modify (lfsAllocReset cfg) >>= fun _ => pure (got.1, got.2) else pure (0, got.2)) lfs rcache =
      (reports cfg device (lfsFsTraverserawAsync cfg files true iter) lfs.toLfsBase lfs.seed rcache).map fun ran =>
        (ran.1, if ran.1.1 ≠ 0 then lfsAllocReset cfg { lfs with seed := ran.2.2.1, free := marks cfg ran.2.1 lfs.free }
          else { lfs with seed := ran.2.2.1, free := marks cfg ran.2.1 lfs.free }, ran.2.2.2) := by
    intro lfs
    rw [exec_bind, marking_exec]
    cases reports cfg device (lfsFsTraverserawAsync cfg files true iter) lfs.toLfsBase lfs.seed rcache with
    | none => rfl
    | some ran =>
        obtain ⟨⟨err, next⟩, log, seed, between⟩ := ran
        by_cases failed : err = 0
        · simp only [failed, Option.map_some, Option.bind_some, ne_eq, not_true_eq_false, ↓reduceIte, exec_pure]
        · simp only [failed, Option.map_some, Option.bind_some, ne_eq, not_false_eq_true, ↓reduceIte, exec_bind, exec_modify, exec_pure]
  by_cases scanning : iter.state = 1
  · simp only [lfsTraverseAsync, callWindow, if_pos scanning]
    rw [exec_bind, exec_modify, Option.bind_some]
    exact marked _
  · simp only [lfsTraverseAsync, callWindow, if_neg scanning]
    exact marked lfs

theorem traverse_calls_exec (calls : Nat) (iter : AsyncIter) (lfs : Lfs) (rcache : Cache) :
    exec cfg device (lfsTraverseCalls cfg files (calls + 1) iter) lfs rcache =
      (exec cfg device (lfsTraverseAsync cfg files iter) lfs rcache).bind fun ran =>
        if failedErr ran.1.1 ∨ ran.1.2.over then some (some ran.1, ran.2)
        else exec cfg device (lfsTraverseCalls cfg files calls ran.1.2) ran.2.1 ran.2.2 :=
  exec_drive cfg device _ _ _ calls iter lfs rcache

theorem calls_open_files (calls : Nat) (dir : Mdir) (cycle : UInt32) (lfs : Lfs) (rcache : Cache) :
    exec cfg device (lfsTraverseCalls cfg files (calls + 1) ⟨2, dir, cycle⟩) lfs rcache =
      (reports cfg device (traverseOpenFiles cfg files) lfs.toLfsBase lfs.seed rcache).map fun ran =>
        if ran.1 ≠ 0 then (some (ran.1, ⟨2, dir, cycle⟩), lfsAllocReset cfg { lfs with seed := ran.2.2.1, free := marks cfg ran.2.1 lfs.free }, ran.2.2.2)
        else (some (0, ⟨3, dir, cycle⟩), { lfs with seed := ran.2.2.1, free := marks cfg ran.2.1 lfs.free }, ran.2.2.2) := by
  rw [traverse_calls_exec, traverse_async_exec, async_open_files, reports_bind]
  cases reports cfg device (traverseOpenFiles cfg files) lfs.toLfsBase lfs.seed rcache with
  | none => rfl
  | some ran =>
      obtain ⟨err, log, seed, cache⟩ := ran
      by_cases failed : err = 0
      · simp [failed, reports_pure, callWindow, AsyncIter.over]
      · simp [failed, reports_pure, callWindow, failedErr]

theorem calls_ended (calls left : Nat) (dir : Mdir) (lfs : Lfs) (rcache : Cache) (ended : lfsPairIsnull dir.tail = true) :
    exec cfg device (lfsTraverseCalls cfg files (calls + 1) (AsyncIter.atPair cfg left dir)) lfs rcache =
      exec cfg device (lfsTraverseCalls cfg files calls ⟨2, dir, turnsTaken cfg left⟩)
        { lfs with free := freeAdvance cfg lfs.free } rcache := by
  rw [traverse_calls_exec, traverse_async_exec, async_ended _ _ _ _ _ ended, reports_pure]
  simp [failedErr, AsyncIter.over, callWindow, AsyncIter.atPair, marks]

theorem calls_full (calls : Nat) (dir : Mdir) (lfs : Lfs) (rcache : Cache) (tail : ¬ lfsPairIsnull dir.tail = true) :
    ∃ after, exec cfg device (lfsTraverseCalls cfg files (calls + 1) (AsyncIter.atPair cfg 0 dir)) lfs rcache =
      some (some (lfsErrCorrupt, AsyncIter.atPair cfg 0 dir), after) := by
  rw [traverse_calls_exec, traverse_async_exec, async_full _ _ _ _ tail, reports_pure]
  exact ⟨_, rfl⟩

theorem calls_pair (calls left : Nat) (dir : Mdir) (lfs : Lfs) (rcache : Cache) (within : left + 1 ≤ (cfg.blockCount / 2).toNat)
    (tail : ¬ lfsPairIsnull dir.tail = true) :
    exec cfg device (lfsTraverseCalls cfg files (calls + 1) (AsyncIter.atPair cfg (left + 1) dir)) lfs rcache =
      (reports cfg device (traversePair cfg true dir) lfs.toLfsBase lfs.seed rcache).bind fun ran =>
        if ran.1.1 ≠ 0 then
          some (some (ran.1.1, AsyncIter.atPair cfg left ran.1.2),
            lfsAllocReset cfg { lfs with seed := ran.2.2.1, free := marks cfg ran.2.1 (freeAdvance cfg lfs.free) }, ran.2.2.2)
        else
          exec cfg device (lfsTraverseCalls cfg files calls (AsyncIter.atPair cfg left ran.1.2))
            { lfs with seed := ran.2.2.1, free := marks cfg ran.2.1 (freeAdvance cfg lfs.free) } ran.2.2.2 := by
  rw [traverse_calls_exec, traverse_async_exec, async_pair _ _ _ _ _ within tail, reports_bind]
  cases reports cfg device (traversePair cfg true dir) lfs.toLfsBase lfs.seed rcache with
  | none => rfl
  | some ran =>
      obtain ⟨⟨err, next⟩, log, seed, cache⟩ := ran
      by_cases failed : err = 0
      · simp [failed, failedErr, reports_pure, callWindow, AsyncIter.over, AsyncIter.atPair]
      · simp [failed, failedErr, reports_pure, callWindow, AsyncIter.atPair]

-- The two parts of a traversal that came to its end, and the blocks each
-- reported, those of the metadata pairs first.
structure Reported (left : Nat) (dir : Mdir) (lfs : Lfs) (rcache : Cache) (onDisk openFiles : List UInt32) : Prop where
  parts : ∃ between cache seed last,
    reports cfg device (traverseMetadata cfg true (left + 1) dir (turnsTaken cfg left)) lfs.toLfsBase lfs.seed rcache =
      some (0, onDisk, between, cache) ∧
    reports cfg device (traverseOpenFiles cfg files) lfs.toLfsBase between cache = some (0, openFiles, seed, last)

theorem scan_ended (left calls : Nat) (dir : Mdir) (lfs after : Lfs) (rcache last : Cache) (iter : AsyncIter)
    (tail : lfsPairIsnull dir.tail = true)
    (ended : exec cfg device (lfsTraverseCalls cfg files (calls + 1) (AsyncIter.atPair cfg left dir)) lfs rcache =
      some (some (0, iter), after, last))
    (going : ∃ going, exec cfg device (lfsTraverseCalls cfg files calls (AsyncIter.atPair cfg left dir)) lfs rcache = some (none, going)) :
    ∃ pairs onDisk openFiles free, calls = pairs + 1 ∧
      Reported cfg device files left dir lfs rcache onDisk openFiles ∧
      free.window = ((freeAdvance cfg)^[pairs] lfs.free).window ∧ after.free = marks cfg openFiles (freeAdvance cfg free) := by
  rw [calls_ended cfg device files calls left dir lfs rcache tail] at ended
  cases calls with
  | zero => cases ended
  | succ calls =>
      rw [calls_open_files] at ended
      cases opened : reports cfg device (traverseOpenFiles cfg files) lfs.toLfsBase lfs.seed rcache with
      | none => simp [opened] at ended
      | some ran =>
          obtain ⟨err, log, seed, cache⟩ := ran
          by_cases failed : err = 0
          · simp only [opened, failed, Option.map_some, ne_eq, not_true_eq_false, ↓reduceIte, Option.some.injEq, Prod.mk.injEq] at ended
            obtain ⟨-, rfl, rfl⟩ := ended
            have first : calls = 0 := by
              cases calls with
              | zero => rfl
              | succ calls =>
                  obtain ⟨between, unfinished⟩ := going
                  rw [calls_ended cfg device files _ left dir lfs rcache tail, calls_open_files, opened] at unfinished
                  simp [failed] at unfinished
            have metadata : reports cfg device (traverseMetadata cfg true (left + 1) dir (turnsTaken cfg left)) lfs.toLfsBase lfs.seed rcache =
                some (0, [], lfs.seed, rcache) := by
              rw [metadata_ended _ _ _ _ tail, reports_pure]
            rw [failed] at opened
            exact ⟨0, [], log, lfs.free, by rw [first], ⟨_, _, _, _, metadata, opened⟩, rfl, rfl⟩
          · simp [opened, failed] at ended

theorem scan_from_pair (left : Nat) : ∀ (calls : Nat) (dir : Mdir) (lfs after : Lfs) (rcache last : Cache) (iter : AsyncIter),
    left ≤ (cfg.blockCount / 2).toNat →
    exec cfg device (lfsTraverseCalls cfg files (calls + 1) (AsyncIter.atPair cfg left dir)) lfs rcache = some (some (0, iter), after, last) →
    (∃ going, exec cfg device (lfsTraverseCalls cfg files calls (AsyncIter.atPair cfg left dir)) lfs rcache = some (none, going)) →
    ∃ pairs onDisk openFiles free, calls = pairs + 1 ∧
      Reported cfg device files left dir lfs rcache onDisk openFiles ∧
      free.window = ((freeAdvance cfg)^[pairs] lfs.free).window ∧ after.free = marks cfg openFiles (freeAdvance cfg free) := by
  induction left with
  | zero =>
      intro calls dir lfs after rcache last iter within ended going
      by_cases tail : lfsPairIsnull dir.tail = true
      · exact scan_ended cfg device files 0 calls dir lfs after rcache last iter tail ended going
      · obtain ⟨corrupt, full⟩ := calls_full cfg device files calls dir lfs rcache tail
        rw [full] at ended
        cases ended
  | succ left ih =>
      intro calls dir lfs after rcache last iter within ended going
      by_cases tail : lfsPairIsnull dir.tail = true
      · exact scan_ended cfg device files (left + 1) calls dir lfs after rcache last iter tail ended going
      · rw [calls_pair cfg device files calls left dir lfs rcache within tail] at ended
        cases turn : reports cfg device (traversePair cfg true dir) lfs.toLfsBase lfs.seed rcache with
        | none => simp [turn] at ended
        | some ran =>
            obtain ⟨⟨err, next⟩, log, seed, cache⟩ := ran
            by_cases failed : err = 0
            · simp only [turn, failed, Option.bind_some, ne_eq, not_true_eq_false, ↓reduceIte] at ended
              obtain ⟨between, unfinished⟩ := going
              cases calls with
              | zero => cases ended
              | succ calls =>
                  rw [calls_pair cfg device files calls left dir lfs rcache within tail] at unfinished
                  simp only [turn, failed, Option.bind_some, ne_eq, not_true_eq_false, ↓reduceIte] at unfinished
                  obtain ⟨pairs, onDisk, openFiles, free, counted, parts, window, marked⟩ :=
                    ih calls next _ after cache last iter (by omega) ended ⟨between, unfinished⟩
                  obtain ⟨middle, memory, stirred, final, metadata, opened⟩ := parts
                  have whole : reports cfg device (traverseMetadata cfg true (left + 1 + 1) dir (turnsTaken cfg (left + 1)))
                      lfs.toLfsBase lfs.seed rcache = some (0, log ++ onDisk, middle, memory) := by
                    rw [metadata_pair _ _ _ _ within tail, reports_bind, turn]
                    simp [failed, metadata]
                  refine ⟨pairs + 1, log ++ onDisk, openFiles, free, by rw [counted], ⟨_, _, _, _, whole, opened⟩, ?_, marked⟩
                  rw [window, Function.iterate_succ_apply]
                  exact advances_window cfg pairs _ _ (marks_window cfg log _)
            · simp [turn, failed] at ended

theorem Reported.log {left : Nat} {dir : Mdir} {lfs : Lfs} {rcache : Cache} {onDisk openFiles : List UInt32}
    (parts : Reported cfg device files left dir lfs rcache onDisk openFiles) :
    ∃ rest, reports cfg device (traverseFrom cfg files true left dir) lfs.toLfsBase lfs.seed rcache =
      some (0, onDisk ++ openFiles, rest) := by
  obtain ⟨between, cache, seed, last, metadata, opened⟩ := parts
  refine ⟨(seed, last), ?_⟩
  rw [traverseFrom, reports_bind, metadata]
  simp [opened]

theorem Reported.same {left : Nat} {dir : Mdir} {lfs : Lfs} {rcache : Cache} {onDisk openFiles blocks opened : List UInt32}
    (parts : Reported cfg device files left dir lfs rcache onDisk openFiles)
    (others : Reported cfg device files left dir lfs rcache blocks opened) : onDisk = blocks ∧ openFiles = opened := by
  obtain ⟨between, cache, seed, last, metadata, files⟩ := parts
  obtain ⟨second, memory, stirred, final, again, filesAgain⟩ := others
  rw [metadata] at again
  obtain ⟨rfl, rfl, rfl⟩ := by simpa using again
  rw [files] at filesAgain
  obtain ⟨rfl, -⟩ := by simpa using filesAgain
  exact ⟨rfl, rfl⟩

-- A scan of that many metadata pairs, its calls all returning 0: one call to
-- begin with, one a pair, one at the end of the tail list, one for the files.
def ScanEnds (lfs : Lfs) (rcache : Cache) (pairs : Nat) (after : Lfs) : Prop :=
  ∃ dir cycle iter last going,
    exec cfg device (lfsTraverseCalls cfg files (pairs + 3) ⟨0, dir, cycle⟩) lfs rcache = some (some (0, iter), after, last) ∧
    exec cfg device (lfsTraverseCalls cfg files (pairs + 2) ⟨0, dir, cycle⟩) lfs rcache = some (none, going)

def ScanExact (lfs : Lfs) (rcache : Cache) (after : Lfs) : Prop :=
  ∃ log rest, reports cfg device (lfsFsTraverseraw cfg files true) lfs.toLfsBase lfs.seed rcache = some (0, log, rest) ∧
    WindowExact cfg after.free log

-- The window advances at every call that finds state 1, one more often than
-- there are pairs. No block of the tail list's part of the traversal may be in
-- the last one, unless the open files' part reports one with the same index.
def OnDiskShadowed (lfs : Lfs) (rcache : Cache) (pairs : Nat) : Prop :=
  ∃ onDisk openFiles,
    Reported cfg device files (cfg.blockCount / 2).toNat (Mdir.ofTail ⟨0, 1⟩) lfs rcache onDisk openFiles ∧
    ∀ block ∈ onDisk, lookaheadOff cfg ((freeAdvance cfg)^[pairs + 1] lfs.free).off block < ((freeAdvance cfg)^[pairs + 1] lfs.free).size →
      ∃ other ∈ openFiles, lookaheadOff cfg ((freeAdvance cfg)^[pairs + 1] lfs.free).off other =
        lookaheadOff cfg ((freeAdvance cfg)^[pairs + 1] lfs.free).off block

theorem scan_parts (lfs after : Lfs) (rcache : Cache) (pairs : Nat) (ended : ScanEnds cfg device files lfs rcache pairs after) :
    ∃ onDisk openFiles free,
      Reported cfg device files (cfg.blockCount / 2).toNat (Mdir.ofTail ⟨0, 1⟩) lfs rcache onDisk openFiles ∧
      free.window = ((freeAdvance cfg)^[pairs] lfs.free).window ∧ after.free = marks cfg openFiles (freeAdvance cfg free) := by
  obtain ⟨dir, cycle, iter, last, going, finished, unfinished⟩ := ended
  have first : ∀ calls, exec cfg device (lfsTraverseCalls cfg files (calls + 1) ⟨0, dir, cycle⟩) lfs rcache =
      exec cfg device (lfsTraverseCalls cfg files calls (AsyncIter.atPair cfg (cfg.blockCount / 2).toNat (Mdir.ofTail ⟨0, 1⟩))) lfs rcache := by
    intro calls
    rw [traverse_calls_exec, traverse_async_exec, async_start, reports_pure, AsyncIter.atPair, turns_start]
    simp [failedErr, AsyncIter.over, callWindow, marks]
  rw [first] at finished unfinished
  obtain ⟨counted, onDisk, openFiles, free, same, parts, window, marked⟩ :=
    scan_from_pair cfg device files _ _ _ lfs after rcache last iter (Nat.le_refl _) finished ⟨going, unfinished⟩
  obtain rfl : pairs = counted := by omega
  exact ⟨onDisk, openFiles, free, parts, window, marked⟩

theorem shadowed_exact (free : Free) (onDisk openFiles : List UInt32) (words : cfg.lookaheadSize % 8 = 0) :
    WindowExact cfg (marks cfg openFiles (freeAdvance cfg free)) (onDisk ++ openFiles) ↔
      ∀ block ∈ onDisk, lookaheadOff cfg (freeAdvance cfg free).off block < (freeAdvance cfg free).size →
        ∃ other ∈ openFiles, lookaheadOff cfg (freeAdvance cfg free).off other = lookaheadOff cfg (freeAdvance cfg free).off block := by
  obtain ⟨off, size, -, -⟩ := marks_registers cfg openFiles (freeAdvance cfg free)
  have filled := refill_exact cfg free openFiles words
  rw [WindowExact, off, size] at filled ⊢
  constructor
  · intro exact block member inside
    rw [← filled _ inside, exact _ inside]
    exact ⟨block, List.mem_append_left _ member, rfl⟩
  · intro covered index inside
    rw [filled index inside]
    constructor
    · rintro ⟨block, member, same⟩
      exact ⟨block, List.mem_append_right _ member, same⟩
    · rintro ⟨block, member, rfl⟩
      rcases List.mem_append.mp member with stored | opened
      · exact covered block stored inside
      · exact ⟨block, opened, rfl⟩

theorem scan_exact_iff (lfs after : Lfs) (rcache : Cache) (pairs : Nat) (words : cfg.lookaheadSize % 8 = 0)
    (ended : ScanEnds cfg device files lfs rcache pairs after) :
    ScanExact cfg device files lfs rcache after ↔ OnDiskShadowed cfg device files lfs rcache pairs := by
  obtain ⟨onDisk, openFiles, free, parts, window, marked⟩ := scan_parts cfg device files lfs after rcache pairs ended
  obtain ⟨last, log⟩ := Reported.log cfg device files parts
  rw [traverse_from_start] at log
  have final : (freeAdvance cfg free).window = ((freeAdvance cfg)^[pairs + 1] lfs.free).window := by
    rw [Function.iterate_succ_apply']
    exact advance_window cfg _ _ window
  obtain ⟨off, rest⟩ := Prod.mk.inj final
  obtain ⟨size, -⟩ := Prod.mk.inj rest
  have shadowed := shadowed_exact cfg free onDisk openFiles words
  rw [off, size, ← marked] at shadowed
  constructor
  · rintro ⟨blocks, left, reported, exact⟩
    rw [log] at reported
    obtain rfl : onDisk ++ openFiles = blocks := (Prod.mk.inj (Prod.mk.inj (Option.some.inj reported)).2).1
    exact ⟨onDisk, openFiles, parts, shadowed.mp exact⟩
  · rintro ⟨blocks, opened, others, covered⟩
    obtain ⟨rfl, rfl⟩ := Reported.same cfg device files parts others
    exact ⟨onDisk ++ openFiles, _, log, shadowed.mpr covered⟩

end

-- A freshly formatted card: one commit with the superblock in block 0.
def superblockCommit : List UInt8 := [
  0x04, 0x00, 0x00, 0x00, 0xbf, 0xef, 0xff, 0xff, 0x4f, 0xe0, 0x00, 0x08, 0x6c, 0x69, 0x74, 0x74, 0x6c, 0x65, 0x66, 0x73,
  0x2f, 0xe0, 0x00, 0x10, 0x00, 0x00, 0x02, 0x00, 0x00, 0x02, 0x00, 0x00, 0x10, 0x00, 0x00, 0x00, 0xff, 0x00, 0x00, 0x00,
  0xff, 0xff, 0xff, 0x7f, 0xfe, 0x03, 0x00, 0x00, 0x70, 0x1f, 0xfd, 0xd4, 0x80, 0xdb, 0x3b, 0x71]

def formattedImage : Image := fun block off => if block = 0 then superblockCommit.getD off.toNat 0xff else 0xff

def formattedCard : Device := imageDevice formattedImage

def sectorConfig (blockCount : UInt32) : Config := ⟨512, 512, 512, blockCount, -1, 512, 8, 0, 0, 0⟩

def noFiles : Nat → LfsFile := fun _ => ⟨0, 0, 0, 0, 0, 0, zeroCache⟩

def mountedCard (blockCount : UInt32) : Lfs × Cache :=
  ((exec (sectorConfig blockCount) formattedCard (lfsMount (sectorConfig blockCount)) zeroLfs zeroCache).map Prod.snd).getD (zeroLfs, zeroCache)

def formattedCalls (blockCount : UInt32) (calls : Nat) : Option (Option (Int32 × AsyncIter) × Lfs × Cache) :=
  exec (sectorConfig blockCount) formattedCard (lfsTraverseCalls (sectorConfig blockCount) noFiles calls ⟨0, Mdir.ofTail ⟨0, 0⟩, 0⟩)
    (mountedCard blockCount).1 (mountedCard blockCount).2

theorem formatted_scan (blockCount : UInt32) (ended : (formattedCalls blockCount 4).map (fun ran => ran.1.map Prod.fst) = some (some 0))
    (going : (formattedCalls blockCount 3).map (fun ran => ran.1.map Prod.fst) = some none) :
    ∃ iter after last, formattedCalls blockCount 4 = some (some (0, iter), after, last) ∧
      ScanEnds (sectorConfig blockCount) formattedCard noFiles (mountedCard blockCount).1 (mountedCard blockCount).2 1 after := by
  obtain ⟨⟨answer, after, last⟩, finished, same⟩ := Option.map_eq_some_iff.mp ended
  obtain ⟨⟨err, iter⟩, rfl, rfl⟩ := Option.map_eq_some_iff.mp same
  obtain ⟨⟨answered, between⟩, unfinished, waiting⟩ := Option.map_eq_some_iff.mp going
  obtain rfl := Option.map_eq_none_iff.mp waiting
  exact ⟨iter, after, last, finished, Mdir.ofTail ⟨0, 0⟩, 0, iter, last, between, finished, unfinished⟩

theorem formatted_reports (blockCount : UInt32) (known : blockCount = 16 ∨ blockCount = 1024) :
    ∃ rest, reports (sectorConfig blockCount) formattedCard (lfsFsTraverseraw (sectorConfig blockCount) noFiles true)
      (mountedCard blockCount).1.toLfsBase (mountedCard blockCount).1.seed (mountedCard blockCount).2 = some (0, [0, 1], rest) := by
  have evaluated : (reports (sectorConfig blockCount) formattedCard (lfsFsTraverseraw (sectorConfig blockCount) noFiles true)
      (mountedCard blockCount).1.toLfsBase (mountedCard blockCount).1.seed (mountedCard blockCount).2).map (fun ran => (ran.1, ran.2.1)) = some (0, [0, 1]) := by
    rcases known with rfl | rfl
    · decide +kernel
    · decide +kernel
  obtain ⟨⟨err, log, rest⟩, reported, same⟩ := Option.map_eq_some_iff.mp evaluated
  obtain ⟨rfl, rfl⟩ := Prod.mk.inj same
  exact ⟨rest, reported⟩

theorem scan_forgets_superblock : ∃ after,
    ScanEnds (sectorConfig 16) formattedCard noFiles (mountedCard 16).1 (mountedCard 16).2 1 after ∧
      ¬ ScanExact (sectorConfig 16) formattedCard noFiles (mountedCard 16).1 (mountedCard 16).2 after := by
  obtain ⟨iter, after, last, ran, ended⟩ := formatted_scan 16 (by decide +kernel) (by decide +kernel)
  refine ⟨after, ended, ?_⟩
  rintro ⟨log, rest, reported, exact⟩
  obtain ⟨others, known⟩ := formatted_reports 16 (Or.inl rfl)
  rw [known] at reported
  obtain rfl : [0, 1] = log := (Prod.mk.inj (Prod.mk.inj (Option.some.inj reported)).2).1
  have evaluated : (formattedCalls 16 4).map (fun ran => (ran.2.1.free.off, ran.2.1.free.size, ran.2.1.free.bit 0)) = some (0, 16, false) := by
    decide +kernel
  rw [ran] at evaluated
  simp only [Option.map_some, Option.some.injEq, Prod.mk.injEq] at evaluated
  obtain ⟨off, size, clear⟩ := evaluated
  have set := (exact 0 (by rw [size]; decide)).mpr ⟨0, by decide, by rw [off]; decide⟩
  rw [clear] at set
  cases set

theorem formatted_scan_exact : ∃ after,
    ScanEnds (sectorConfig 1024) formattedCard noFiles (mountedCard 1024).1 (mountedCard 1024).2 1 after ∧
      ScanExact (sectorConfig 1024) formattedCard noFiles (mountedCard 1024).1 (mountedCard 1024).2 after := by
  obtain ⟨iter, after, last, ran, ended⟩ := formatted_scan 1024 (by decide +kernel) (by decide +kernel)
  refine ⟨after, ended, (scan_exact_iff _ _ _ _ _ _ _ (by decide) ended).mpr ?_⟩
  obtain ⟨onDisk, openFiles, free, parts, -, -⟩ := scan_parts _ _ _ _ _ _ _ ended
  obtain ⟨cache, log⟩ := Reported.log _ _ _ parts
  obtain ⟨others, known⟩ := formatted_reports 1024 (Or.inr rfl)
  rw [traverse_from_start, known] at log
  have blocks : [0, 1] = onDisk ++ openFiles := (Prod.mk.inj (Prod.mk.inj (Option.some.inj log)).2).1
  have window : ((freeAdvance (sectorConfig 1024))^[1 + 1] (mountedCard 1024).1.free).off = 448 ∧
      ((freeAdvance (sectorConfig 1024))^[1 + 1] (mountedCard 1024).1.free).size = 64 := by
    decide +kernel
  refine ⟨onDisk, openFiles, parts, ?_⟩
  intro block member inside
  have superblock : block = 0 ∨ block = 1 := by
    have known := List.mem_append_left openFiles member
    rw [← blocks] at known
    simpa using known
  have outside : ¬ lookaheadOff (sectorConfig 1024) 448 block < 64 := by
    rcases superblock with rfl | rfl
    · decide
    · decide
  rw [window.1, window.2] at inside
  exact absurd inside outside

end SDCardFs.Littlefs
