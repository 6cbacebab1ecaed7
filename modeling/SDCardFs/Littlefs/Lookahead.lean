import SDCardFs.Littlefs.Alloc

set_option autoImplicit false

namespace SDCardFs.Littlefs

def logBlock : Callback (List UInt32) := fun log block => (0, log ++ [block])

def noCallback : Callback Unit := fun data _ => (0, data)

def exec {α : Type} (cfg : Config) (device : Device) (call : LfsM α) (lfs : Lfs) (rcache : Cache) : Option (α × Lfs × Cache) :=
  ((call lfs).run (cachedServer cfg device noCallback) (rcache, ())).map fun ran => (ran.1.1, ran.1.2, ran.2.1)

-- The same for a traversal, with the blocks it reports; it leaves a seed only.
def reports {α : Type} (cfg : Config) (device : Device) (call : BaseM α) (base : LfsBase) (seed : UInt32) (rcache : Cache) :
    Option (α × List UInt32 × UInt32 × Cache) :=
  (((call base).handle seedHandler seed).run (cachedServer cfg device logBlock) (rcache, [])).map fun ran =>
    (ran.1.1, ran.2.2, ran.1.2, ran.2.1)

section
variable {α β : Type} (cfg : Config) (device : Device)

theorem exec_pure (result : α) (lfs : Lfs) (rcache : Cache) : exec cfg device (pure result) lfs rcache = some (result, lfs, rcache) := rfl

theorem exec_modify (change : Lfs → Lfs) (lfs : Lfs) (rcache : Cache) :
    exec cfg device (modify change) lfs rcache = some ((), change lfs, rcache) := rfl

theorem exec_bind (call : LfsM α) (rest : α → LfsM β) (lfs : Lfs) (rcache : Cache) :
    exec cfg device (call >>= rest) lfs rcache =
      (exec cfg device call lfs rcache).bind fun ran => exec cfg device (rest ran.1) ran.2.1 ran.2.2 := by
  have split : (call >>= rest) lfs = call lfs >>= fun ran => rest ran.1 ran.2 := rfl
  rw [exec, exec, split, Lib.Prog.run_bind]
  cases (call lfs).run (cachedServer cfg device noCallback) (rcache, ()) with
  | none => rfl
  | some ran => rfl

theorem exec_drive {σ ε : Type} (call : σ → LfsM (ε × σ)) (failed : ε → Bool) (ended : σ → Bool) (calls : Nat) (memory : σ) (lfs : Lfs)
    (rcache : Cache) : exec cfg device (Lib.drive call failed ended (calls + 1) memory) lfs rcache =
      (exec cfg device (call memory) lfs rcache).bind fun ran =>
        if failed ran.1.1 ∨ ended ran.1.2 then some (some ran.1, ran.2)
        else exec cfg device (Lib.drive call failed ended calls ran.1.2) ran.2.1 ran.2.2 := by
  rw [Lib.drive_call, exec_bind]
  apply congrArg
  funext ran
  split
  · rfl
  · rfl

theorem exec_drive_stops {σ ε : Type} (call : σ → LfsM (ε × σ)) (failed : ε → Bool) (ended : σ → Bool) (calls : Nat) :
    ∀ (memory : σ) (lfs : Lfs) (rcache : Cache) (answer : ε × σ) (rest : Lfs × Cache),
    exec cfg device (Lib.drive call failed ended calls memory) lfs rcache = some (some answer, rest) →
    failed answer.1 = true ∨ ended answer.2 = true := by
  induction calls with
  | zero =>
      intro memory lfs rcache answer rest ran
      cases ran
  | succ calls ih =>
      intro memory lfs rcache answer rest ran
      rw [exec_drive] at ran
      obtain ⟨⟨first, after, last⟩, _, tail⟩ := Option.bind_eq_some_iff.mp ran
      by_cases stops : failed first.1 = true ∨ ended first.2 = true
      · rw [if_pos stops] at tail
        cases tail
        exact stops
      · rw [if_neg stops] at tail
        exact ih _ _ _ _ _ tail

theorem exec_map (change : α → β) (call : LfsM α) (lfs : Lfs) (rcache : Cache) :
    exec cfg device (change <$> call) lfs rcache = (exec cfg device call lfs rcache).map fun ran => (change ran.1, ran.2) := by
  rw [map_eq_pure_bind, exec_bind]
  cases exec cfg device call lfs rcache with
  | none => rfl
  | some ran => rfl

theorem server_data {δ ε : Type} (cb : Callback δ) (other : Callback ε) (image : δ → ε)
    (same : ∀ data block, other (image data) block = ((cb data block).1, image (cb data block).2)) (asked : Request) (state : Cache × δ) :
    cachedServer cfg device other asked (state.1, image state.2) =
      (cachedServer cfg device cb asked state).map fun served => (served.1, (served.2.1, image served.2.2)) := by
  cases asked with
  | read hint block off data => simp [cachedServer, Option.map_map, Function.comp_def]
  | readThrough pcache hint block data short => simp [cachedServer, Option.map_map, Function.comp_def]
  | zeroRcache => rfl
  | report block => simp [cachedServer, same]
  | stir crc => rfl

theorem server_keeps_data {δ : Type} (cb : Callback δ) (asked : Request) (state after : Cache × δ) (answer : asked.Response)
    (silent : ∀ block, asked ≠ .report block) (served : cachedServer cfg device cb asked state = some (answer, after)) :
    after.2 = state.2 := by
  cases asked with
  | report block => exact absurd rfl (silent block)
  | zeroRcache =>
      obtain rfl := (Prod.mk.inj (Option.some.inj served)).2
      rfl
  | stir crc =>
      obtain rfl := (Prod.mk.inj (Option.some.inj served)).2
      rfl
  | read hint block off data =>
      obtain ⟨read, _, same⟩ := Option.map_eq_some_iff.mp served
      obtain rfl := (Prod.mk.inj same).2
      rfl
  | readThrough pcache hint block data short =>
      obtain ⟨read, _, same⟩ := Option.map_eq_some_iff.mp served
      obtain rfl := (Prod.mk.inj same).2
      rfl

theorem log_before (program : Lib.Prog Request Request.Response α) (rcache : Cache) (log : List UInt32) :
    program.run (cachedServer cfg device logBlock) (rcache, log) =
      (program.run (cachedServer cfg device logBlock) (rcache, [])).map fun ran => (ran.1, (ran.2.1, log ++ ran.2.2)) := by
  have shifted := Lib.Prog.run_same _ (server_data cfg device logBlock logBlock (log ++ ·) (fun tail block => by simp [logBlock]))
    program (rcache, [])
  simpa using shifted

theorem reports_pure (result : α) (base : LfsBase) (seed : UInt32) (rcache : Cache) :
    reports cfg device (pure result) base seed rcache = some (result, [], seed, rcache) := rfl

theorem reports_bind (call : BaseM α) (rest : α → BaseM β) (base : LfsBase) (seed : UInt32) (rcache : Cache) :
    reports cfg device (call >>= rest) base seed rcache = (reports cfg device call base seed rcache).bind fun ran =>
      (reports cfg device (rest ran.1) base ran.2.2.1 ran.2.2.2).map fun last => (last.1, ran.2.1 ++ last.2.1, last.2.2) := by
  have split : (call >>= rest) base = call base >>= fun result => rest result base := rfl
  rw [reports, reports, split, Lib.Prog.handle_bind, Lib.Prog.run_bind]
  cases ((call base).handle seedHandler seed).run (cachedServer cfg device logBlock) (rcache, []) with
  | none => rfl
  | some ran =>
      simp only [Option.bind_some, Option.map_some, reports]
      rw [log_before]
      simp only [Option.map_map]
      rfl

def marks (log : List UInt32) (free : Free) : Free := log.foldl (lfsAllocLookahead cfg) free

-- Reports that go into a state the traversal carries along.
def reportHandler {κ : Type} (update : κ → UInt32 → κ) : Lib.Prog.Handler Request Request.Response κ
  | .report block => some fun state => ((0 : Int32), update state block)
  | _ => none

theorem reporting_run {κ : Type} (update : κ → UInt32 → κ) (start : κ) (traversal : BaseM α) (base : LfsBase) (seed : UInt32) (rcache : Cache) :
    (((traversal base).handle seedHandler seed).handle (reportHandler update) start).run (cachedServer cfg device noCallback) (rcache, ()) =
      (reports cfg device traversal base seed rcache).map fun ran =>
        (((ran.1, ran.2.2.1), ran.2.1.foldl update start), (ran.2.2.2, ())) := by
  have handled : ∀ asked answer (state : Cache × List UInt32), reportHandler update asked = some answer →
      ∃ after, cachedServer cfg device logBlock asked state = some ((answer (state.2.foldl update start)).1, after) ∧
        after.2.foldl update start = (answer (state.2.foldl update start)).2 ∧ (after.1, ()) = (state.1, ()) := by
    rintro (_ | _ | _ | block | _) answer state known <;> simp only [reportHandler, Option.some.injEq, reduceCtorEq] at known
    subst known
    exact ⟨(state.1, state.2 ++ [block]), rfl, by simp, rfl⟩
  have passed : ∀ asked (state : Cache × List UInt32), reportHandler update asked = none →
      cachedServer cfg device noCallback asked (state.1, ()) =
          (cachedServer cfg device logBlock asked state).map (fun served => (served.1, (served.2.1, ()))) ∧
        ∀ answer after, cachedServer cfg device logBlock asked state = some (answer, after) →
          after.2.foldl update start = state.2.foldl update start := by
    intro asked state unknown
    constructor
    · exact server_data cfg device logBlock noCallback (fun _ => ()) (fun _ _ => rfl) asked state
    · intro answer after served
      have silent : ∀ block, asked ≠ .report block := by
        rintro block rfl
        cases unknown
      rw [server_keeps_data cfg device logBlock asked state after answer silent served]
  have ran := Lib.Prog.run_handle (fun state => state.2.foldl update start) (fun state : Cache × List UInt32 => (state.1, ()))
    handled passed ((traversal base).handle seedHandler seed) (rcache, [])
  have kept : ([] : List UInt32).foldl update start = start := rfl
  rw [kept] at ran
  rw [ran, reports]
  simp only [Option.map_map]
  rfl

theorem lookahead_handler_eq : lookaheadHandler cfg = reportHandler (lfsAllocLookahead cfg) := by
  funext asked
  cases asked with
  | _ => rfl

theorem marking_exec (traversal : BaseM α) (lfs : Lfs) (rcache : Cache) :
    exec cfg device (marking cfg traversal) lfs rcache = (reports cfg device traversal lfs.toLfsBase lfs.seed rcache).map fun ran =>
      (ran.1, { lfs with seed := ran.2.2.1, free := marks cfg ran.2.1 lfs.free }, ran.2.2.2) := by
  rw [exec, marking, Lib.Prog.run_map, lookahead_handler_eq, reporting_run]
  simp only [Option.map_map]
  rfl

end

theorem lookahead_registers (cfg : Config) (free : Free) (block : UInt32) :
    (lfsAllocLookahead cfg free block).off = free.off ∧ (lfsAllocLookahead cfg free block).size = free.size ∧
      (lfsAllocLookahead cfg free block).i = free.i ∧ (lfsAllocLookahead cfg free block).ack = free.ack := by
  rw [lfsAllocLookahead]
  split
  · exact ⟨rfl, rfl, rfl, rfl⟩
  · exact ⟨rfl, rfl, rfl, rfl⟩

theorem marks_registers (cfg : Config) (log : List UInt32) (free : Free) :
    (marks cfg log free).off = free.off ∧ (marks cfg log free).size = free.size ∧
      (marks cfg log free).i = free.i ∧ (marks cfg log free).ack = free.ack := by
  induction log generalizing free with
  | nil => exact ⟨rfl, rfl, rfl, rfl⟩
  | cons block log ih =>
      obtain ⟨off, size, i, ack⟩ := ih (lfsAllocLookahead cfg free block)
      obtain ⟨offKept, sizeKept, iKept, ackKept⟩ := lookahead_registers cfg free block
      exact ⟨off.trans offKept, size.trans sizeKept, i.trans iKept, ack.trans ackKept⟩

theorem lookahead_bit (cfg : Config) (free : Free) (block index : UInt32) (inside : index < free.size) :
    (lfsAllocLookahead cfg free block).bit index = true ↔ lookaheadOff cfg free.off block = index ∨ free.bit index = true := by
  by_cases window : lookaheadOff cfg free.off block < free.size
  · rw [lfsAllocLookahead, if_pos window, Free.bit, Lib.Bitmap.setBit_bit, eq_comm, Free.bit]
  · have apart : lookaheadOff cfg free.off block ≠ index := fun same => window (same ▸ inside)
    simp only [lfsAllocLookahead, if_neg window, apart, false_or]

theorem marks_bit (cfg : Config) (log : List UInt32) (free : Free) (index : UInt32) (inside : index < free.size) :
    (marks cfg log free).bit index = true ↔ (∃ block ∈ log, lookaheadOff cfg free.off block = index) ∨ free.bit index = true := by
  induction log generalizing free with
  | nil => simp [marks]
  | cons block log ih =>
      obtain ⟨offKept, sizeKept, -, -⟩ := lookahead_registers cfg free block
      have rest := ih (lfsAllocLookahead cfg free block) (by rw [sizeKept]; exact inside)
      rw [offKept, lookahead_bit cfg free block index inside] at rest
      rw [marks, List.foldl_cons, ← marks, rest]
      simp only [List.mem_cons, exists_eq_or_imp]
      rw [or_left_comm, or_assoc]

theorem lfsMin_le (left right : UInt32) : lfsMin left right ≤ left ∧ lfsMin left right ≤ right := by
  rw [lfsMin]
  split
  · rename_i less
    exact ⟨UInt32.le_refl _, UInt32.le_of_lt less⟩
  · rename_i notLess
    exact ⟨UInt32.not_lt.mp notLess, UInt32.le_refl _⟩

theorem advance_bit (cfg : Config) (free : Free) (index : UInt32) (words : cfg.lookaheadSize % 8 = 0)
    (inside : index < (freeAdvance cfg free).size) : (freeAdvance cfg free).bit index = false := by
  apply Lib.Bitmap.clear_bit
  have window : index < 8 * cfg.lookaheadSize := UInt32.lt_of_lt_of_le inside (lfsMin_le _ _).1
  have whole := congrArg UInt32.toNat words
  rw [UInt32.lt_iff_toNat_lt] at window
  simp only [UInt32.toNat_mul, UInt32.toNat_mod, UInt32.toNat_div, UInt32.reduceToNat] at *
  omega

-- Every block in the window that was reported has its bit, and no other bit is set.
def WindowExact (cfg : Config) (free : Free) (log : List UInt32) : Prop :=
  ∀ index, index < free.size → (free.bit index = true ↔ ∃ block ∈ log, lookaheadOff cfg free.off block = index)

theorem refill_exact (cfg : Config) (free : Free) (log : List UInt32) (words : cfg.lookaheadSize % 8 = 0) :
    WindowExact cfg (marks cfg log (freeAdvance cfg free)) log := by
  intro index inside
  obtain ⟨off, size, -, -⟩ := marks_registers cfg log (freeAdvance cfg free)
  rw [size] at inside
  rw [off, marks_bit cfg log _ index inside, advance_bit cfg free index words inside]
  simp

end SDCardFs.Littlefs
