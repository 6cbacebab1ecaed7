import SDCardFs.Littlefs.InUse
import SDCardFs.Littlefs.Scan
import SDCardFs.Littlefs.Window

set_option autoImplicit false

namespace SDCardFs.Littlefs

section
variable {α : Type} {cfg : Config} {image : Image} {files : Nat → LfsFile}

theorem exec_coherent (call : LfsM α) (lfs after : Lfs) (rcache last : Cache) (result : α) (coherent : Coherent cfg image rcache)
    (ran : exec cfg (imageDevice image) call lfs rcache = some (result, after, last)) : Coherent cfg image last := by
  obtain ⟨⟨answer, left, data⟩, served, same⟩ := Option.map_eq_some_iff.mp ran
  cases same
  exact (cached_run_direct cfg image noCallback (call lfs) rcache left () data answer coherent served).2

-- A round of lfs_alloc, by how its search of the window ends.
theorem alloc_rounds_exec (device : Device) (rounds : Nat) (lfs : Lfs) (rcache : Cache) (found : Option UInt32) (free : Free)
    (searched : allocWindow cfg (lfs.free.size - lfs.free.i).toNat lfs.free = (found, free)) :
    exec cfg device (allocRounds cfg files (rounds + 1)) lfs rcache =
      if found.isSome then some ((0, found), { lfs with free := free }, rcache)
      else if free.ack = 0 then some ((lfsErrNospc, none), { lfs with free := free }, rcache)
      else (reports cfg device (lfsFsTraverseraw cfg files true) lfs.toLfsBase lfs.seed rcache).bind fun ran =>
        if ran.1 ≠ 0 then
          some ((ran.1, none), lfsAllocReset cfg { lfs with seed := ran.2.2.1, free := marks cfg ran.2.1 (freeAdvance cfg free) }, ran.2.2.2)
        else
          exec cfg device (allocRounds cfg files rounds) { lfs with seed := ran.2.2.1, free := marks cfg ran.2.1 (freeAdvance cfg free) }
            ran.2.2.2 := by
  have fetched : exec cfg device (get : LfsM Lfs) lfs rcache = some (lfs, lfs, rcache) := rfl
  have stored : exec cfg device (set { lfs with free := free } : LfsM PUnit) lfs rcache = some (⟨⟩, { lfs with free := free }, rcache) := rfl
  rw [allocRounds, exec_bind, fetched, Option.bind_some, searched]
  dsimp only
  rw [exec_bind, stored, Option.bind_some]
  by_cases some : found.isSome = true
  · rw [if_pos some, if_pos some, exec_pure]
  · rw [if_neg some, if_neg some]
    by_cases spent : free.ack = 0
    · rw [if_pos spent, if_pos spent, exec_pure]
    · rw [if_neg spent, if_neg spent, exec_bind, exec_modify, Option.bind_some, exec_bind, marking_exec]
      cases reports cfg device (lfsFsTraverseraw cfg files true) lfs.toLfsBase lfs.seed rcache with
      | none => rfl
      | some ran =>
          by_cases failed : ran.1 = 0
          · simp only [failed, Option.map_some, Option.bind_some, ne_eq, not_true_eq_false, ↓reduceIte]
          · simp only [failed, Option.map_some, Option.bind_some, ne_eq, not_false_eq_true, ↓reduceIte, exec_bind, exec_modify, exec_pure]

-- Whatever part of the blocks in use the window knows, a refill knows it too.
structure AllocKeeps (cfg : Config) (used : UInt32 → Prop) (lfs : Lfs) (handed : List UInt32) (found : Option UInt32) (after : Lfs) :
    Prop where
  base : after.toLfsBase = lfs.toLfsBase
  unused : ∀ block, found = some block → ¬ used block ∧ block ∉ handed
  sound : Sound cfg after.free used (handedAfter after.free handed found)

theorem alloc_rounds_keeps (small : cfg.blockCount.toNat ≤ 2 ^ 31) (words : cfg.lookaheadSize % 8 = 0) (used : UInt32 → Prop) (rounds : Nat) :
    ∀ (lfs after : Lfs) (rcache last : Cache) (handed : List UInt32) (err : Int32) (found : Option UInt32),
    Sound cfg lfs.free used handed → (∀ block, used block → InUse cfg image lfs.toLfsBase files block) → Coherent cfg image rcache →
    exec cfg (imageDevice image) (allocRounds cfg files rounds) lfs rcache = some ((err, found), after, last) →
    AllocKeeps cfg used lfs handed found after := by
  induction rounds with
  | zero =>
      intro lfs after rcache last handed err found _ _ _ ran
      cases ran
  | succ rounds ih =>
      intro lfs after rcache last handed err found sound inUse coherent ran
      have cursor := sound.cursor
      have turns : (lfs.free.size - lfs.free.i).toNat = lfs.free.size.toNat - lfs.free.i.toNat :=
        UInt32.toNat_sub_of_le _ _ (UInt32.le_iff_toNat_le.mpr cursor)
      rcases alloc_window_steps cfg (lfs.free.size - lfs.free.i).toNat lfs.free with searched | ⟨index, steps, before, within, clear, searched⟩
      · rw [alloc_rounds_exec _ rounds lfs rcache _ _ searched, turns] at ran
        have kept := sound_skip sound _ (Nat.le_refl _)
        by_cases spent : (lfs.free.skip (lfs.free.size.toNat - lfs.free.i.toNat)).ack = 0
        · rw [if_neg (by simp), if_pos spent] at ran
          cases ran
          refine ⟨rfl, fun block impossible => (nomatch impossible), ?_⟩
          simpa only [handedAfter, spent, ↓reduceIte] using kept
        · rw [if_neg (by simp), if_neg spent] at ran
          obtain ⟨⟨failed, log, stirred, between⟩, reported, rest⟩ := Option.bind_eq_some_iff.mp ran
          obtain ⟨traversed, still⟩ := reports_on_card _ _ _ _ _ _ _ _ coherent reported
          by_cases refused : failed = 0
          · have ended : (lfs.free.skip (lfs.free.size.toNat - lfs.free.i.toNat)).i = lfs.free.size := by
              apply UInt32.toNat_inj.mp
              rw [sound.skip_i _ (Nat.le_refl _)]
              omega
            rw [refused] at traversed
            have refilled := sound_refill kept small words ended log used fun block known =>
              traversal_covers cfg image lfs.toLfsBase files block log traversed (inUse block known)
            rw [if_neg (by simpa using refused)] at rest
            obtain ⟨base, unused, final⟩ := ih { lfs with seed := stirred, free := marks cfg log _ } after between last handed err found refilled inUse still rest
            exact ⟨base, unused, final⟩
          · rw [if_pos refused] at rest
            cases rest
            exact ⟨rfl, fun block impossible => (nomatch impossible), sound_reset _ _ _⟩
      · rw [alloc_rounds_exec _ rounds lfs rcache _ _ searched, if_pos (by simp)] at ran
        cases ran
        obtain ⟨unused, apart, kept⟩ := sound_found sound small index steps before (by omega) clear
        refine ⟨rfl, ?_, kept⟩
        intro block same
        cases same
        exact ⟨unused, apart⟩

end

theorem traverse_async_cases (cfg : Config) (device : Device) (files : Nat → LfsFile) (iter next : AsyncIter) (lfs after : Lfs)
    (rcache last : Cache) (err : Int32)
    (ran : exec cfg device (lfsTraverseAsync cfg files iter) lfs rcache = some ((err, next), after, last)) :
    after.toLfsBase = lfs.toLfsBase ∧ (err ≠ 0 → ∃ before, after = lfsAllocReset cfg before) ∧
      (err = 0 → ∃ log, after.free = marks cfg log (callWindow cfg iter lfs.free)) := by
  rw [traverse_async_exec] at ran
  obtain ⟨⟨⟨failed, iter⟩, log, seed, between⟩, _, same⟩ := Option.map_eq_some_iff.mp ran
  by_cases refused : failed = 0
  · simp only [refused, ne_eq, not_true_eq_false, ↓reduceIte] at same
    cases same
    exact ⟨rfl, fun impossible => absurd rfl impossible, fun _ => ⟨log, rfl⟩⟩
  · simp only [refused, ne_eq, not_false_eq_true, ↓reduceIte] at same
    cases same
    exact ⟨rfl, fun _ => ⟨_, rfl⟩, fun impossible => absurd impossible refused⟩

-- What lfs_init checks.
structure Accepted (cfg : Config) : Prop where
  reads : cfg.readSize ≠ 0
  pointers : ¬ 4 * lfsNpw2 (0xffffffff / (cfg.blockSize - 2 * 4)) > cfg.blockSize
  cycles : cfg.blockCycles ≠ 0
  words : ¬ (cfg.lookaheadSize = 0 ∨ cfg.lookaheadSize % 8 ≠ 0)
  names : ¬ cfg.nameMax > lfsNameMax
  files : ¬ cfg.fileMax > lfsFileMax

theorem init_exec (cfg : Config) (device : Device) (lfs : Lfs) (rcache : Cache) :
    ∃ err after last, exec cfg device (lfsInit cfg) lfs rcache = some (err, after, last) ∧ (err = 0 ↔ Accepted cfg) ∧
      (err = 0 → last = lfsCacheZero cfg rcache ∧ after.mlist = []) := by
  have zeroed : exec cfg device (@lift Unit (request .zeroRcache)) lfs rcache =
      some ((), lfs, lfsCacheZero cfg rcache) := rfl
  have refused (err : Int32) (after : Lfs) (last : Cache) (failed : err ≠ 0) (bad : ¬ Accepted cfg) :
      ∃ answer final kept, exec cfg device (pure err) after last = some (answer, final, kept) ∧ (answer = 0 ↔ Accepted cfg) ∧
        (answer = 0 → kept = lfsCacheZero cfg rcache ∧ final.mlist = []) :=
    ⟨err, after, last, rfl, ⟨fun done => absurd done failed, fun good => absurd good bad⟩, fun done => absurd done failed⟩
  rw [lfsInit]
  by_cases reads : cfg.readSize = 0
  · rw [if_pos reads]
    exact refused lfsErrNomem _ _ (by decide) fun good => good.reads reads
  rw [if_neg reads]
  by_cases blocks : 4 * lfsNpw2 (0xffffffff / (cfg.blockSize - 2 * 4)) > cfg.blockSize
  · rw [if_pos blocks]
    exact refused lfsErrNomem _ _ (by decide) fun good => good.pointers blocks
  rw [if_neg blocks]
  by_cases cycles : cfg.blockCycles = 0
  · rw [if_pos cycles]
    exact refused lfsErrInval _ _ (by decide) fun good => good.cycles cycles
  rw [if_neg cycles, exec_bind, zeroed, Option.bind_some, exec_bind, exec_modify, Option.bind_some]
  by_cases words : cfg.lookaheadSize = 0 ∨ cfg.lookaheadSize % 8 ≠ 0
  · rw [if_pos words]
    exact refused lfsErrNomem _ _ (by decide) fun good => good.words words
  rw [if_neg words]
  by_cases names : cfg.nameMax > lfsNameMax
  · rw [if_pos names]
    exact refused lfsErrNbig _ _ (by decide) fun good => good.names names
  rw [if_neg names, exec_bind, exec_modify, Option.bind_some]
  by_cases files : cfg.fileMax > lfsFileMax
  · rw [if_pos files]
    exact refused lfsErrFbig _ _ (by decide) fun good => good.files files
  rw [if_neg files]
  exact ⟨0, _, _, rfl, ⟨fun _ => ⟨reads, blocks, cycles, words, names, files⟩, fun _ => rfl⟩, fun _ => ⟨rfl, rfl⟩⟩

theorem finish_exec (cfg : Config) (device : Device) (lfs after : Lfs) (rcache last : Cache)
    (ran : exec cfg device (mountFinish cfg) lfs rcache = some (0, after, last)) : ∃ before, after = lfsAllocReset cfg before := by
  have fetched : exec cfg device (get : LfsM Lfs) lfs rcache = some (lfs, lfs, rcache) := rfl
  rw [mountFinish, exec_bind, fetched, Option.bind_some] at ran
  by_cases null : lfsPairIsnull lfs.root = true
  · rw [if_pos null] at ran
    cases ran
  rw [if_neg null] at ran
  cases ran
  exact ⟨_, rfl⟩

theorem mount_resets (cfg : Config) (device : Device) (lfs after : Lfs) (rcache last : Cache)
    (ran : exec cfg device (lfsMount cfg) lfs rcache = some (0, after, last)) :
    Accepted cfg ∧ (∃ before, after = lfsAllocReset cfg before) ∧
      ∃ mounting, exec cfg device (do
        let err ← mountLoop cfg ((cfg.blockCount / 2).toNat + 1) (Mdir.ofTail ⟨0, 1⟩) 0
        if err ≠ 0 then return err
        mountFinish cfg) mounting (lfsCacheZero cfg rcache) = some (0, after, last) := by
  rw [lfsMount, exec_bind] at ran
  obtain ⟨⟨err, mounting, cache⟩, inited, scan⟩ := Option.bind_eq_some_iff.mp ran
  by_cases refused : err = 0
  · obtain ⟨answer, started, zero, init, accepted, zeroed⟩ := init_exec cfg device lfs rcache
    obtain ⟨rfl, rfl, rfl⟩ : answer = err ∧ started = mounting ∧ zero = cache := by simpa [init] using inited
    obtain ⟨rfl, -⟩ := zeroed refused
    simp only [refused, ne_eq, not_true_eq_false, ↓reduceIte] at scan
    refine ⟨accepted.mp refused, ?_, started, scan⟩
    rw [exec_bind] at scan
    obtain ⟨⟨failed, scanned, between⟩, _, finish⟩ := Option.bind_eq_some_iff.mp scan
    by_cases bad : failed = 0
    · simp only [bad, not_true_eq_false, ↓reduceIte] at finish
      exact finish_exec cfg _ _ _ _ _ finish
    · simp only [bad, not_false_eq_true, ↓reduceIte, exec_pure] at finish
      cases finish
      exact absurd rfl bad
  · simp only [refused, ne_eq, not_false_eq_true, ↓reduceIte, exec_pure] at scan
    cases scan
    exact absurd rfl refused

theorem mount_exec (cfg : Config) (image : Image) (lfs after : Lfs) (rcache last : Cache)
    (ran : exec cfg (imageDevice image) (lfsMount cfg) lfs rcache = some (0, after, last)) :
    cfg.lookaheadSize % 8 = 0 ∧ Coherent cfg image last ∧ ∃ before, after = lfsAllocReset cfg before := by
  obtain ⟨accepted, reset, mounting, scan⟩ := mount_resets cfg _ lfs after rcache last ran
  have words := accepted.words
  refine ⟨by simpa using fun odd => words (Or.inr odd), exec_coherent _ _ _ _ _ _ (cache_zero_coherent cfg image rcache) scan, reset⟩

end SDCardFs.Littlefs
