import SDCardFs.Littlefs.Access
import SDCardFs.Littlefs.Coherent

set_option autoImplicit false

namespace SDCardFs.Littlefs

-- Pages of 512 bytes to read, program and cache, and blocks of whole pages.
structure Paged (cfg : Config) : Prop where
  readSize : cfg.readSize = 512
  progSize : cfg.progSize = 512
  cacheSize : cfg.cacheSize = 512
  pages : cfg.blockSize.toNat % 512 = 0
  small : cfg.blockSize.toNat < 2 ^ 30

-- A stretch of whole pages of one block of the device.
structure Span (cfg : Config) (block off : UInt32) (size : Nat) : Prop where
  block : block < cfg.blockCount
  positive : 0 < size
  pages : size % 512 = 0
  start : off.toNat % 512 = 0
  within : off.toNat + size ≤ cfg.blockSize.toNat

def Access.Spans (cfg : Config) : Access → Prop
  | .read block off size => Span cfg block off size
  | .prog block off data => Span cfg block off data.length

-- A cache of a block of the device starts at a page of it and holds some of
-- that page. Open, it may hold nothing yet.
structure Opened (cfg : Config) (cache : Cache) : Prop where
  start : cache.off.toNat % 512 = 0
  within : cache.off.toNat + 512 ≤ cfg.blockSize.toNat
  few : cache.size.toNat ≤ 512

def Aligned (cfg : Config) (cache : Cache) : Prop := cache.block < cfg.blockCount → Opened cfg cache ∧ 0 < cache.size.toNat

theorem aligned_beyond (cfg : Config) (cache : Cache) (beyond : cache.block = lfsBlockNull) : Aligned cfg cache := by
  intro impossible
  rw [beyond, UInt32.lt_iff_toNat_lt] at impossible
  have small := cfg.blockCount.toNat_lt
  have top : lfsBlockNull.toNat = 2 ^ 32 - 1 := rfl
  omega

theorem aligndown_toNat (a alignment : UInt32) : (lfsAligndown a alignment).toNat = a.toNat - a.toNat % alignment.toNat := by
  have le : a % alignment ≤ a := by
    rw [UInt32.le_iff_toNat_le, UInt32.toNat_mod]
    exact Nat.mod_le _ _
  rw [lfsAligndown, UInt32.toNat_sub_of_le _ _ le, UInt32.toNat_mod]

theorem aligndown_page (a : UInt32) : (lfsAligndown a 512).toNat = a.toNat - a.toNat % 512 := aligndown_toNat a 512

theorem alignup_toNat (a : UInt32) : (lfsAlignup a 512).toNat = (a.toNat + 511) % 2 ^ 32 - (a.toNat + 511) % 2 ^ 32 % 512 := by
  rw [lfsAlignup, aligndown_page]
  have sum : (a + 512 - 1).toNat = (a.toNat + 511) % 2 ^ 32 := by
    rw [UInt32.toNat_sub, UInt32.toNat_add]
    simp only [UInt32.reduceToNat]
    omega
  rw [sum]

theorem lfs_min_toNat (a b : UInt32) : (lfsMin a b).toNat = min a.toNat b.toNat := by
  rw [lfsMin]
  split
  · rename_i less
    rw [UInt32.lt_iff_toNat_lt] at less
    omega
  · rename_i more
    rw [UInt32.lt_iff_toNat_lt] at more
    omega

theorem max_toNat (a b : UInt32) : (max a b).toNat = max a.toNat b.toNat := by
  change (if a ≤ b then b else a).toNat = _
  split
  · rename_i less
    rw [UInt32.le_iff_toNat_le] at less
    omega
  · rename_i more
    rw [UInt32.le_iff_toNat_le] at more
    omega

-- The hints for which the end of the load does not wrap around to its start.
def Hinting (hint : UInt32) : Prop := 1 ≤ hint.toNat ∧ hint.toNat ≤ 2 ^ 32 - 1023

theorem rcache_load_window (cfg : Config) (rcache : Cache) (hint block off : UInt32) (paged : Paged cfg) (hinting : Hinting hint)
    (inside : off.toNat < cfg.blockSize.toNat) :
    (rcacheLoad cfg rcache hint block off).off.toNat = off.toNat - off.toNat % 512 ∧
      (rcacheLoad cfg rcache hint block off).size.toNat = 512 := by
  have small := paged.small
  have pages := paged.pages
  obtain ⟨positive, bounded⟩ := hinting
  have start := aligndown_page off
  have sum : (off + hint).toNat = (off.toNat + hint.toNat) % 2 ^ 32 := UInt32.toNat_add off hint
  have up := alignup_toNat (off + hint)
  rw [sum] at up
  refine ⟨by rw [rcacheLoad, paged.readSize]; exact start, ?_⟩
  rw [rcacheLoad, paged.readSize, paged.cacheSize]
  simp only [lfs_min_toNat, UInt32.toNat_sub, start, up]
  simp only [UInt32.reduceToNat]
  omega

def Hit (pcache : Option Cache) (rcache : Cache) (block off : UInt32) : Prop :=
  (∃ held, pcache = some held ∧ held.covers block off = true ∧ off ≥ held.off) ∨ (rcache.covers block off = true ∧ off ≥ rcache.off)

def TurnAligned (cfg : Config) (pcache : Option Cache) (rcache : Cache) (block off : UInt32) (size : Nat) : BdTurn → Prop
  | .copy _ _ diff => 0 < diff ∧ diff ≤ size
  | .bypass diff => Span cfg block off diff ∧ diff ≤ size ∧ ¬ Hit pcache rcache block off
  | .load => ¬ Hit pcache rcache block off

theorem covers_window (cfg : Config) (cache : Cache) (block off : UInt32) (paged : Paged cfg) (valid : block < cfg.blockCount)
    (aligned : Aligned cfg cache) (covered : cache.covers block off = true) :
    cache.off.toNat % 512 = 0 ∧ off.toNat < cache.off.toNat + cache.size.toNat := by
  obtain ⟨same, less⟩ : block = cache.block ∧ off < cache.off + cache.size := by simpa [Cache.covers] using covered
  obtain ⟨opened, -⟩ := aligned (same ▸ valid)
  have few := opened.few
  have within := opened.within
  have small := paged.small
  rw [UInt32.lt_iff_toNat_lt, UInt32.toNat_add] at less
  exact ⟨opened.start, by omega⟩

theorem hit_room (cache : Cache) (block off : UInt32) (covered : cache.covers block off = true) :
    0 < (cache.size - (off - cache.off)).toNat := by
  obtain ⟨-, less⟩ : block = cache.block ∧ off < cache.off + cache.size := by simpa [Cache.covers] using covered
  rw [UInt32.lt_iff_toNat_lt, UInt32.toNat_add] at less
  have sizeSmall := cache.size.toNat_lt
  have offSmall := off.toNat_lt
  have cacheSmall := cache.off.toNat_lt
  simp only [UInt32.toNat_sub]
  omega

theorem miss_before (cache : Cache) (block off : UInt32) (missed : ¬ (cache.covers block off = true ∧ off ≥ cache.off))
    (covered : cache.covers block off = true) : 0 < (cache.off - off).toNat := by
  have before : ¬ off ≥ cache.off := fun after => missed ⟨covered, after⟩
  rw [ge_iff_le, UInt32.le_iff_toNat_le] at before
  have offSmall := off.toNat_lt
  have cacheSmall := cache.off.toNat_lt
  rw [UInt32.toNat_sub]
  omega

-- A turn copies from the program cache where it holds the offset. Elsewhere it
-- is one over the read cache, that stops before the program cache's window.
theorem turn_rule {post : BdTurn → Prop} (cfg : Config) (pcache : Option Cache) (rcache : Cache) (hint block off : UInt32) (size : Nat)
    (copies : ∀ held, pcache = some held → held.covers block off = true → off ≥ held.off → post (held.copy off size))
    (turns : ∀ diff, (¬ ∃ held, pcache = some held ∧ held.covers block off = true ∧ off ≥ held.off) →
      (diff = size ∨ ∃ held, pcache = some held ∧ held.covers block off = true ∧ 0 < (held.off - off).toNat ∧
        diff = min size (held.off - off).toNat) → post (bdTurnRcache cfg rcache hint block off size diff)) :
    post (bdTurn cfg pcache rcache hint block off size) := by
  cases pcache with
  | none => exact turns size (by simp) (Or.inl rfl)
  | some held =>
      rw [bdTurn]
      by_cases hit : held.covers block off = true ∧ off ≥ held.off
      · rw [if_pos hit]
        exact copies held rfl hit.1 hit.2
      · have missed : ¬ ∃ other, some held = some other ∧ other.covers block off = true ∧ off ≥ other.off := by
          rintro ⟨other, same, found⟩
          obtain rfl := Option.some.inj same
          exact hit found
        rw [if_neg hit]
        apply turns _ missed
        by_cases covered : held.covers block off = true
        · exact Or.inr ⟨held, rfl, covered, miss_before held block off hit covered, if_pos covered⟩
        · exact Or.inl (if_neg covered)

theorem rcache_turn_aligned (cfg : Config) (pcache : Option Cache) (rcache : Cache) (hint block off : UInt32) (size diff : Nat)
    (paged : Paged cfg) (valid : block < cfg.blockCount) (aligned : Aligned cfg rcache) (inside : off.toNat + size ≤ cfg.blockSize.toNat)
    (within : diff ≤ size) (positive : 0 < diff) (pages : off.toNat % 512 = 0 → 512 ≤ size → 512 ≤ diff)
    (missed : ¬ ∃ held, pcache = some held ∧ held.covers block off = true ∧ off ≥ held.off) :
    TurnAligned cfg pcache rcache block off size (bdTurnRcache cfg rcache hint block off size diff) := by
  by_cases hit : rcache.covers block off = true ∧ off ≥ rcache.off
  · rw [bdTurnRcache, if_pos hit]
    have room := hit_room rcache block off hit.1
    exact ⟨by omega, by omega⟩
  · have miss : ¬ Hit pcache rcache block off := fun found => found.elim missed hit
    rw [bdTurnRcache, if_neg hit]
    dsimp only
    split
    · rename_i bypass
      obtain ⟨-, start, enough⟩ := bypass
      rw [paged.readSize, ← UInt32.toNat_inj, UInt32.toNat_mod] at start
      rw [paged.readSize] at enough ⊢
      simp only [UInt32.reduceToNat] at start enough ⊢
      have whole := pages start enough
      have ahead : rcache.covers block off = true → 512 ≤ (rcache.off - off).toNat := by
        intro covered
        obtain ⟨page, -⟩ := covers_window cfg rcache block off paged valid aligned covered
        have before : ¬ off ≥ rcache.off := fun after => hit ⟨covered, after⟩
        rw [ge_iff_le, UInt32.le_iff_toNat_le] at before
        rw [UInt32.toNat_sub]
        have small := rcache.off.toNat_lt
        omega
      have least : 512 ≤ (if rcache.covers block off = true then min diff (rcache.off - off).toNat else diff) := by
        split
        · rename_i covered
          have := ahead covered
          omega
        · exact whole
      have most : (if rcache.covers block off = true then min diff (rcache.off - off).toNat else diff) ≤ diff := by
        split
        · exact Nat.min_le_left _ _
        · exact Nat.le_refl _
      refine ⟨⟨valid, ?_, ?_, start, ?_⟩, ?_, miss⟩ <;> omega
    · exact miss

theorem turn_aligned (cfg : Config) (pcache : Option Cache) (rcache : Cache) (hint block off : UInt32) (size : Nat)
    (paged : Paged cfg) (valid : block < cfg.blockCount) (programs : ∀ held, pcache = some held → Aligned cfg held)
    (aligned : Aligned cfg rcache) (inside : off.toNat + size ≤ cfg.blockSize.toNat) (positive : 0 < size) :
    TurnAligned cfg pcache rcache block off size (bdTurn cfg pcache rcache hint block off size) := by
  apply turn_rule
  · intro held _ covered _
    have room := hit_room held block off covered
    exact ⟨by omega, by omega⟩
  · intro diff missed shorter
    rcases shorter with rfl | ⟨held, known, covered, before, rfl⟩
    · exact rcache_turn_aligned cfg pcache rcache hint block off diff diff paged valid aligned inside (Nat.le_refl _) positive
        (fun _ enough => enough) missed
    · obtain ⟨page, -⟩ := covers_window cfg held block off paged valid (programs held known) covered
      have after : ¬ off ≥ held.off := fun after => missed ⟨held, known, covered, after⟩
      rw [ge_iff_le, UInt32.le_iff_toNat_le] at after
      have small := held.off.toNat_lt
      have ahead : (held.off - off).toNat = held.off.toNat - off.toNat := by
        rw [UInt32.toNat_sub]
        omega
      exact rcache_turn_aligned cfg pcache rcache hint block off size _ paged valid aligned inside (Nat.min_le_left _ _)
        (by omega) (fun start enough => by omega) missed

-- A cached byte is copied in one turn, any other one after a load.
def Enough (pcache : Option Cache) (rcache : Cache) (block off : UInt32) (size fuel : Nat) : Prop :=
  2 * size ≤ fuel ∨ (Hit pcache rcache block off ∧ 2 * size ≤ fuel + 1)

theorem load_aligned (cfg : Config) (rcache : Cache) (hint block off : UInt32) (paged : Paged cfg) (hinting : Hinting hint)
    (valid : block < cfg.blockCount) (inside : off.toNat < cfg.blockSize.toNat) (buffer : Nat → UInt8) :
    Span cfg block (rcacheLoad cfg rcache hint block off).off (rcacheLoad cfg rcache hint block off).size.toNat ∧
      Aligned cfg { rcacheLoad cfg rcache hint block off with buffer := buffer } ∧
      (∀ pcache, Hit pcache { rcacheLoad cfg rcache hint block off with buffer := buffer } block off) := by
  obtain ⟨start, full⟩ := rcache_load_window cfg rcache hint block off paged hinting inside
  have pages := paged.pages
  have small := paged.small
  refine ⟨⟨valid, by omega, by omega, by omega, by omega⟩, fun _ => ⟨⟨?_, ?_, ?_⟩, ?_⟩, fun pcache => Or.inr ⟨?_, ?_⟩⟩
  · exact show _ from by simp only [start]; omega
  · exact show _ from by simp only [start]; omega
  · exact Nat.le_of_eq full
  · exact show _ from by simp only [full]; omega
  · have less : off < (rcacheLoad cfg rcache hint block off).off + (rcacheLoad cfg rcache hint block off).size := by
      rw [UInt32.lt_iff_toNat_lt, UInt32.toNat_add, start, full]
      omega
    simpa [Cache.covers] using ⟨rfl, less⟩
  · rw [ge_iff_le, UInt32.le_iff_toNat_le]
    simp only [start]
    omega

theorem read_loop_aligned (cfg : Config) (pcache : Option Cache) (hint block : UInt32) (paged : Paged cfg) (hinting : Hinting hint)
    (valid : block < cfg.blockCount) (programs : ∀ held, pcache = some held → Aligned cfg held) (fuel : Nat) :
    ∀ (off : UInt32) (data : List UInt8) (rcache : Cache), Aligned cfg rcache → off.toNat + data.length ≤ cfg.blockSize.toNat →
      Enough pcache rcache block off data.length fuel →
      (Calls.lfsBdReadLoop cfg pcache hint block fuel off data rcache).Always (Access.Spans cfg) fun ended => Aligned cfg ended.2 := by
  have small := paged.small
  induction fuel with
  | zero =>
      intro off data rcache aligned inside enough
      cases data with
      | nil => exact aligned
      | cons byte rest =>
          rw [Enough, List.length_cons] at enough
          omega
  | succ fuel ih =>
      intro off data rcache aligned inside enough
      cases data with
      | nil => exact aligned
      | cons byte rest =>
          have positive : 0 < (byte :: rest).length := by simp
          have turn := turn_aligned cfg pcache rcache hint block off (byte :: rest).length paged valid programs aligned inside positive
          have onward (diff : Nat) (some : 0 < diff) (within : diff ≤ (byte :: rest).length) :
              (Calls.lfsBdReadLoop cfg pcache hint block fuel (off + UInt32.ofNat diff) ((byte :: rest).drop diff) rcache).Always
                (Access.Spans cfg) fun ended => Aligned cfg ended.2 := by
            apply ih _ _ _ aligned
            · rw [offset_toNat off diff (by omega), List.length_drop]
              omega
            · left
              rw [List.length_drop]
              rcases enough with plenty | ⟨-, plenty⟩ <;> omega
          rw [Calls.lfsBdReadLoop]
          cases kind : bdTurn cfg pcache rcache hint block off (byte :: rest).length with
          | copy buffer start diff =>
              rw [kind] at turn
              exact Lib.Prog.always_bind _ _ (onward diff turn.1 turn.2) fun ended still => still
          | bypass diff =>
              rw [kind] at turn
              obtain ⟨span, within, -⟩ := turn
              refine ⟨span, fun result => Lib.Prog.always_ite (fun _ => aligned) fun _ => ?_⟩
              exact Lib.Prog.always_bind _ _ (onward diff span.positive within) fun ended still => still
          | load =>
              rw [kind] at turn
              have plenty : 2 * (byte :: rest).length ≤ fuel + 1 := enough.resolve_right fun found => turn found.1
              have offInside : off.toNat < cfg.blockSize.toNat := by omega
              refine Lib.Prog.always_ite (fun _ => aligned) fun _ => ⟨?_, fun result => Lib.Prog.always_ite (fun _ => ?_) fun _ => ?_⟩
              · exact (load_aligned cfg rcache hint block off paged hinting valid offInside fun _ => 0).1
              · exact (load_aligned cfg rcache hint block off paged hinting valid offInside _).2.1
              · obtain ⟨-, still, hit⟩ := load_aligned cfg rcache hint block off paged hinting valid offInside
                  (result.into (rcacheLoad cfg rcache hint block off).size.toNat (rcacheLoad cfg rcache hint block off).buffer)
                exact ih off _ _ still inside (Or.inr ⟨hit pcache, plenty⟩)

theorem bd_read_aligned (cfg : Config) (pcache : Option Cache) (rcache : Cache) (hint block off : UInt32) (data : List UInt8)
    (paged : Paged cfg) (hinting : Hinting hint) (noWrap : off.toNat + data.length < 2 ^ 32)
    (programs : ∀ held, pcache = some held → Aligned cfg held) (aligned : Aligned cfg rcache) :
    (Calls.lfsBdRead cfg pcache rcache hint block off data).Always (Access.Spans cfg) fun ended => Aligned cfg ended.2 := by
  refine Lib.Prog.always_ite (fun _ => aligned) fun checked => ?_
  have valid : block < cfg.blockCount := UInt32.not_le.mp fun beyond => checked (Or.inl beyond)
  have inside : off.toNat + data.length ≤ cfg.blockSize.toNat := by
    have fits := UInt32.not_lt.mp fun beyond => checked (Or.inr beyond)
    rwa [UInt32.le_iff_toNat_le, offset_toNat off data.length noWrap] at fits
  exact read_loop_aligned cfg pcache hint block paged hinting valid programs _ off data rcache aligned inside (Or.inl (by omega))

def Request.Hinted : Request → Prop
  | .read hint _ off data => Hinting hint ∧ off.toNat + data.length < 2 ^ 32
  | _ => False

theorem bd_cmp_hinted (base : LfsBase) (hint block off : UInt32) (buffer : List UInt8) (bounded : hint.toNat ≤ 2 ^ 32 - 1023) :
    ∀ i : UInt32, i.toNat + buffer.length ≤ hint.toNat → off.toNat + i.toNat + buffer.length < 2 ^ 32 →
      (lfsBdCmpLoop hint block off buffer i base).Always Request.Hinted fun _ => True := by
  induction buffer with
  | nil => exact fun _ _ _ => trivial
  | cons byte rest ih =>
      intro i more noWrap
      rw [List.length_cons] at more noWrap
      have left : (hint - i).toNat = hint.toNat - i.toNat := UInt32.toNat_sub_of_le _ _ (by rw [UInt32.le_iff_toNat_le]; omega)
      have moved : (off + i).toNat = off.toNat + i.toNat := by
        rw [UInt32.toNat_add]
        omega
      have next : (i + 1).toNat = i.toNat + 1 := by
        rw [UInt32.toNat_add]
        simp only [UInt32.reduceToNat]
        omega
      have single : (zeros 1).length = 1 := rfl
      refine ⟨⟨⟨by omega, by omega⟩, by omega⟩, fun answer => ?_⟩
      obtain ⟨err, data⟩ : Int32 × List UInt8 := answer
      change ((if err ≠ 0 then pure err else if data.getD 0 0 ≠ byte then pure (if data.getD 0 0 < byte then lfsCmpLt else lfsCmpGt)
        else lfsBdCmpLoop hint block off rest (i + 1) : BaseM Int32) base).Always Request.Hinted fun _ => True
      by_cases failed : err = 0
      · rw [if_neg fun other => other failed]
        by_cases same : data.getD 0 0 = byte
        · rw [if_neg fun other => other same]
          exact ih (i + 1) (by omega) (by omega)
        · rw [if_pos same]
          exact trivial
      · rw [if_pos failed]
        exact trivial

theorem bd_cmp_aligned (cfg : Config) (rcache : Cache) (hint block off : UInt32) (buffer : List UInt8) (paged : Paged cfg)
    (bounded : hint.toNat ≤ 2 ^ 32 - 1023) (more : buffer.length ≤ hint.toNat) (noWrap : off.toNat + buffer.length < 2 ^ 32)
    (aligned : Aligned cfg rcache) :
    (Calls.lfsBdCmp cfg rcache hint block off buffer).Always (Access.Spans cfg) fun ended => Aligned cfg ended.2 := by
  have hinted := bd_cmp_hinted zeroLfs.toLfsBase hint block off buffer bounded 0 (by simpa using more) (by simpa using noWrap)
  refine Lib.Prog.always_mono _ (Lib.Prog.always_through (Calls.readServer cfg) (Aligned cfg) ?_ _ rcache hinted aligned) fun ended met => met.2
  intro request state asked still
  cases request with
  | read hint block off data =>
      exact bd_read_aligned cfg none state hint block off data paged asked.1 asked.2 (fun _ impossible => nomatch impossible) still
  | readThrough pcache hint block data short => exact absurd asked id
  | zeroRcache => exact absurd asked id
  | report block => exact absurd asked id
  | stir crc => exact absurd asked id

def BothAligned (cfg : Config) (ended : Int32 × Cache × Cache) : Prop := Aligned cfg ended.2.1 ∧ Aligned cfg ended.2.2

theorem bd_flush_aligned (cfg : Config) (pcache rcache : Cache) (validate : Bool) (paged : Paged cfg) (programs : Aligned cfg pcache)
    (aligned : Aligned cfg rcache) : (Calls.lfsBdFlush cfg pcache rcache validate).Always (Access.Spans cfg) (BothAligned cfg) := by
  have zeroed : Aligned cfg (lfsCacheZero cfg pcache) := aligned_beyond cfg _ rfl
  refine Lib.Prog.always_ite (fun _ => Lib.Prog.always_ite (fun _ => ⟨programs, aligned⟩) fun present => ?_) fun _ => ⟨programs, aligned⟩
  have valid : pcache.block < cfg.blockCount := UInt32.not_le.mp present
  obtain ⟨⟨start, within, few⟩, some⟩ := programs valid
  have small := paged.small
  have page : (lfsAlignup pcache.size cfg.progSize).toNat = 512 := by
    rw [paged.progSize, alignup_toNat]
    omega
  have length : (Lib.slice pcache.buffer 0 (lfsAlignup pcache.size cfg.progSize).toNat).length = 512 := by rw [Lib.slice_length, page]
  refine ⟨⟨valid, by omega, by omega, start, by omega⟩, fun (err : Int32) => Lib.Prog.always_ite (fun _ => ⟨programs, aligned⟩) fun _ => ?_⟩
  refine Lib.Prog.always_ite (fun _ => ?_) fun _ => ⟨zeroed, aligned⟩
  have compared := bd_cmp_aligned cfg (Calls.lfsCacheDrop rcache) (lfsAlignup pcache.size cfg.progSize) pcache.block pcache.off
    (Lib.slice pcache.buffer 0 (lfsAlignup pcache.size cfg.progSize).toNat) paged (by omega) (by omega) (by omega)
    (aligned_beyond cfg _ rfl)
  refine Lib.Prog.always_bind _ _ compared fun ended still => ?_
  exact Lib.Prog.always_ite (fun _ => ⟨programs, still⟩) fun _ => Lib.Prog.always_ite (fun _ => ⟨programs, still⟩) fun _ => ⟨zeroed, still⟩

-- The byte to program next belongs to the stretch the program cache buffers.
def Fits (cfg : Config) (pcache : Cache) (block off : UInt32) : Prop :=
  block = pcache.block ∧ off ≥ pcache.off ∧ off < pcache.off + cfg.cacheSize

theorem fits_room (cfg : Config) (pcache : Cache) (block off : UInt32) (paged : Paged cfg) (fits : Fits cfg pcache block off) :
    (off - pcache.off).toNat = off.toNat - pcache.off.toNat ∧ pcache.off.toNat ≤ off.toNat ∧ off.toNat < pcache.off.toNat + 512 ∧
      (cfg.cacheSize - (off - pcache.off)).toNat = 512 - (off.toNat - pcache.off.toNat) := by
  obtain ⟨-, after, before⟩ := fits
  rw [ge_iff_le, UInt32.le_iff_toNat_le] at after
  rw [paged.cacheSize, UInt32.lt_iff_toNat_lt, UInt32.toNat_add] at before
  rw [paged.cacheSize]
  have offSmall := off.toNat_lt
  simp only [UInt32.toNat_sub, UInt32.reduceToNat] at before ⊢
  omega

theorem prog_into_aligned (cfg : Config) (pcache : Cache) (block off : UInt32) (data : List UInt8) (paged : Paged cfg)
    (fits : Fits cfg pcache block off) (opened : pcache.block < cfg.blockCount → Opened cfg pcache) (positive : 0 < data.length)
    (room : off.toNat - pcache.off.toNat + data.length ≤ 512) (noWrap : off.toNat + data.length < 2 ^ 32) :
    Aligned cfg (Calls.progInto pcache off data) := by
  obtain ⟨-, after, -, -⟩ := fits_room cfg pcache block off paged fits
  have reach : (off + UInt32.ofNat data.length - pcache.off).toNat = off.toNat - pcache.off.toNat + data.length := by
    have moved := offset_toNat off data.length noWrap
    rw [UInt32.toNat_sub_of_le _ _ (by rw [UInt32.le_iff_toNat_le]; omega), moved]
    omega
  have size : (Calls.progInto pcache off data).size.toNat = max pcache.size.toNat (off.toNat - pcache.off.toNat + data.length) := by
    rw [Calls.progInto, max_toNat, reach]
  intro valid
  have was := opened valid
  have few := was.few
  exact ⟨⟨was.start, was.within, by omega⟩, by omega⟩

-- The empty window that lfs_bd_prog opens at an offset takes the next byte.
theorem prog_window_opened (cfg : Config) (pcache : Cache) (block off : UInt32) (paged : Paged cfg) (inside : off.toNat < cfg.blockSize.toNat) :
    Opened cfg { pcache with block := block, off := lfsAligndown off cfg.progSize, size := 0 } ∧
      Fits cfg { pcache with block := block, off := lfsAligndown off cfg.progSize, size := 0 } block off := by
  have small := paged.small
  have pages := paged.pages
  have start : (lfsAligndown off cfg.progSize).toNat = off.toNat - off.toNat % 512 := by
    rw [paged.progSize]
    exact aligndown_page off
  refine ⟨⟨by simp only [start]; omega, by simp only [start]; omega, Nat.zero_le _⟩, rfl, ?_, ?_⟩
  · rw [ge_iff_le, UInt32.le_iff_toNat_le]
    simp only [start]
    omega
  · rw [paged.cacheSize, UInt32.lt_iff_toNat_lt, UInt32.toNat_add]
    simp only [start, UInt32.reduceToNat]
    omega

theorem prog_loop_aligned (cfg : Config) (validate : Bool) (block : UInt32) (paged : Paged cfg) (fuel : Nat) :
    ∀ (off : UInt32) (data : List UInt8) (pcache rcache : Cache), (pcache.block < cfg.blockCount → Opened cfg pcache) →
      (Aligned cfg pcache ∨ (Fits cfg pcache block off ∧ data ≠ [])) → Aligned cfg rcache →
      off.toNat + data.length ≤ cfg.blockSize.toNat →
      (2 * data.length ≤ fuel ∨ (Fits cfg pcache block off ∧ 2 * data.length ≤ fuel + 1)) →
      (Calls.lfsBdProgLoop cfg validate block fuel off data pcache rcache).Always (Access.Spans cfg) (BothAligned cfg) := by
  have small := paged.small
  have pages := paged.pages
  induction fuel with
  | zero =>
      intro off data pcache rcache opened programs aligned inside enough
      cases data with
      | nil => exact ⟨programs.resolve_right fun started => started.2 rfl, aligned⟩
      | cons byte rest =>
          rw [List.length_cons] at enough
          omega
  | succ fuel ih =>
      intro off data pcache rcache opened programs aligned inside enough
      cases data with
      | nil => exact ⟨programs.resolve_right fun started => started.2 rfl, aligned⟩
      | cons byte rest =>
          have positive : 0 < (byte :: rest).length := by simp
          rw [Calls.lfsBdProgLoop]
          refine Lib.Prog.always_ite (fun fits => ?_) fun missed => Lib.Prog.always_ite (fun _ => ?_) fun dropped => ?_
          · obtain ⟨-, after, before, room⟩ := fits_room cfg pcache block off paged fits
            generalize chosen : min (byte :: rest).length (cfg.cacheSize - (off - pcache.off)).toNat = diff
            have some : 0 < diff := by omega
            have within : diff ≤ (byte :: rest).length := by omega
            have taken : ((byte :: rest).take diff).length = diff := by
              rw [List.length_take]
              omega
            have filled := prog_into_aligned cfg pcache block off ((byte :: rest).take diff) paged fits opened (by omega) (by omega) (by omega)
            have onward (pcache rcache : Cache) (programs : Aligned cfg pcache) (aligned : Aligned cfg rcache) :
                (Calls.lfsBdProgLoop cfg validate block fuel (off + UInt32.ofNat diff) ((byte :: rest).drop diff) pcache rcache).Always
                  (Access.Spans cfg) (BothAligned cfg) := by
              refine ih _ _ _ _ (fun valid => (programs valid).1) (Or.inl programs) aligned ?_ (Or.inl ?_)
              · rw [offset_toNat off diff (by omega), List.length_drop]
                omega
              · rw [List.length_drop]
                rcases enough with plenty | ⟨-, plenty⟩ <;> omega
            refine Lib.Prog.always_ite (fun _ => ?_) fun _ => onward _ _ filled aligned
            refine Lib.Prog.always_bind _ _ (bd_flush_aligned cfg _ rcache validate paged filled aligned) fun ended both => ?_
            exact Lib.Prog.always_ite (fun _ => both) fun _ => onward _ _ both.1 both.2
          · exact ⟨programs.resolve_right fun started => missed started.1, aligned⟩
          · have plenty : 2 * (byte :: rest).length ≤ fuel + 1 := enough.resolve_right fun started => missed started.1
            obtain ⟨prepared, fits⟩ := prog_window_opened cfg pcache block off paged (by omega)
            exact ih off _ _ rcache (fun _ => prepared) (Or.inr ⟨fits, by simp⟩) aligned inside (Or.inr ⟨fits, plenty⟩)

theorem bd_prog_aligned (cfg : Config) (pcache rcache : Cache) (validate : Bool) (block off : UInt32) (data : List UInt8) (paged : Paged cfg)
    (noWrap : off.toNat + data.length < 2 ^ 32) (programs : Aligned cfg pcache) (aligned : Aligned cfg rcache) :
    (Calls.lfsBdProg cfg pcache rcache validate block off data).Always (Access.Spans cfg) (BothAligned cfg) := by
  refine Lib.Prog.always_ite (fun _ => ⟨programs, aligned⟩) fun checked => ?_
  have inside : off.toNat + data.length ≤ cfg.blockSize.toNat := by
    have fits := UInt32.not_lt.mp checked
    rwa [UInt32.le_iff_toNat_le, offset_toNat off data.length noWrap] at fits
  exact prog_loop_aligned cfg validate block paged _ off data pcache rcache (fun valid => (programs valid).1) (Or.inl programs) aligned
    inside (Or.inl (by omega))

inductive BdCall where
  | read (throughPcache : Bool) (hint block off : UInt32) (data : List UInt8)
  | prog (validate : Bool) (block off : UInt32) (data : List UInt8)
  | flush (validate : Bool)

def BdCall.Proper : BdCall → Prop
  | .read _ hint _ off data => Hinting hint ∧ off.toNat + data.length < 2 ^ 32
  | .prog _ _ off data => off.toNat + data.length < 2 ^ 32
  | .flush _ => True

def BdCall.call (cfg : Config) (pcache rcache : Cache) : BdCall → DevM (Int32 × Cache × Cache)
  | .read throughPcache hint block off data => do
      let ended ← Calls.lfsBdRead cfg (if throughPcache then some pcache else none) rcache hint block off data
      return (ended.1.1, pcache, ended.2)
  | .prog validate block off data => Calls.lfsBdProg cfg pcache rcache validate block off data
  | .flush validate => Calls.lfsBdFlush cfg pcache rcache validate

def bdCalls (cfg : Config) : List BdCall → Cache → Cache → DevM (Cache × Cache)
  | [], pcache, rcache => pure (pcache, rcache)
  | call :: rest, pcache, rcache => do
      let ended ← call.call cfg pcache rcache
      bdCalls cfg rest ended.2.1 ended.2.2

theorem bd_call_aligned (cfg : Config) (pcache rcache : Cache) (call : BdCall) (paged : Paged cfg) (proper : call.Proper)
    (programs : Aligned cfg pcache) (aligned : Aligned cfg rcache) :
    (call.call cfg pcache rcache).Always (Access.Spans cfg) (BothAligned cfg) := by
  cases call with
  | read throughPcache hint block off data =>
      have through : ∀ held, (if throughPcache then some pcache else none) = some held → Aligned cfg held := by
        intro held same
        cases throughPcache with
        | true =>
            obtain rfl : pcache = held := Option.some.inj same
            exact programs
        | false => cases same
      refine Lib.Prog.always_bind _ _ (bd_read_aligned cfg _ rcache hint block off data paged proper.1 proper.2 through aligned) ?_
      exact fun ended still => ⟨programs, still⟩
  | prog validate block off data => exact bd_prog_aligned cfg pcache rcache validate block off data paged proper programs aligned
  | flush validate => exact bd_flush_aligned cfg pcache rcache validate paged programs aligned

theorem bd_calls_aligned (cfg : Config) (calls : List BdCall) (paged : Paged cfg) (proper : ∀ call ∈ calls, call.Proper) :
    ∀ pcache rcache : Cache, Aligned cfg pcache → Aligned cfg rcache →
      (bdCalls cfg calls pcache rcache).Always (Access.Spans cfg) fun ended => Aligned cfg ended.1 ∧ Aligned cfg ended.2 := by
  induction calls with
  | nil => exact fun pcache rcache programs aligned => ⟨programs, aligned⟩
  | cons call rest ih =>
      intro pcache rcache programs aligned
      refine Lib.Prog.always_bind _ _ (bd_call_aligned cfg pcache rcache call paged (proper call List.mem_cons_self) programs aligned) ?_
      exact fun ended both => ih (fun later member => proper later (List.mem_cons_of_mem call member)) _ _ both.1 both.2

end SDCardFs.Littlefs
