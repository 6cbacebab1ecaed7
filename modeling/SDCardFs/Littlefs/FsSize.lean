import SDCardFs.Littlefs.InUse

set_option autoImplicit false

namespace SDCardFs.Littlefs

def lfsFsSizeCount (size : UInt32) (_ : UInt32) : UInt32 := size + 1

-- A traversal whose callback is lfs_fs_size_count, and the count.
def counting {α : Type} (traversal : BaseM α) : LfsM (α × UInt32) := fun lfs =>
  (fun ran => ((ran.1.1, ran.2), { lfs with seed := ran.1.2 })) <$>
    ((traversal lfs.toLfsBase).handle seedHandler lfs.seed).handle (reportHandler lfsFsSizeCount) 0

-- The count becomes an lfs_ssize_t.
def lfsFsSize (cfg : Config) (files : Nat → LfsFile) : LfsM Int32 := do
  let (err, size) ← counting (lfsFsTraverseraw cfg files false)
  if err ≠ 0 then
    return err
  return size.toInt32

theorem count_log (log : List UInt32) : log.foldl lfsFsSizeCount 0 = UInt32.ofNat log.length := by
  have counted : ∀ start, log.foldl lfsFsSizeCount start = start + UInt32.ofNat log.length := by
    induction log with
    | nil => exact fun start => (UInt32.add_zero start).symm
    | cons block log ih =>
        intro start
        rw [List.foldl_cons, ih, lfsFsSizeCount, List.length_cons, UInt32.ofNat_add, UInt32.add_assoc, UInt32.add_comm (UInt32.ofNat _)]
        rfl
  rw [counted, UInt32.zero_add]

theorem counting_exec {α : Type} (cfg : Config) (device : Device) (traversal : BaseM α) (lfs : Lfs) (rcache : Cache) :
    exec cfg device (counting traversal) lfs rcache = (reports cfg device traversal lfs.toLfsBase lfs.seed rcache).map fun ran =>
      ((ran.1, UInt32.ofNat ran.2.1.length), { lfs with seed := ran.2.2.1 }, ran.2.2.2) := by
  rw [exec, counting, Lib.Prog.run_map, reporting_run]
  simp only [Option.map_map, count_log]
  rfl

-- The blocks of a CTZ list of size bytes: its highest index, and one more.
def ctzBlocks (cfg : Config) (size : UInt32) : Nat := if size = 0 then 0 else (lfsCtzIndex cfg (size - 1)).toNat + 1

-- A committed file's list. An entry of any other kind has no blocks outside
-- the metadata.
def idBlocks (cfg : Config) (image : Image) (base : LfsBase) (dir : Mdir) (id : UInt16) : Nat :=
  (onCard cfg image base (lfsDirGet cfg dir (lfsMktag 0x700 0x3ff 0) (lfsMktag lfsTypeStruct id.toUInt32 8))).elim 0 fun found =>
    if ¬ found.1.1 < 0 ∧ lfsTagType3 found.1.1.toUInt32 = lfsTypeCtzstruct then ctzBlocks cfg (lfsPairFromle32 found.1.2).second else 0

def idsBlocks (cfg : Config) (image : Image) (base : LfsBase) (dir : Mdir) : Nat → UInt16 → Nat
  | 0, _ => 0
  | count + 1, id => idBlocks cfg image base dir id + idsBlocks cfg image base dir count (id + 1)

-- The metadata pairs of the tail list, two blocks each, and the files in them.
def tailBlocks (cfg : Config) (image : Image) (base : LfsBase) : Nat → Mdir → Nat
  | 0, _ => 0
  | pairs + 1, dir =>
      if lfsPairIsnull dir.tail then 0
      else 2 + (onCard cfg image base (lfsDirFetch cfg dir dir.tail)).elim 0 fun fetched =>
        idsBlocks cfg image base fetched.1.2 fetched.1.2.count.toNat 0 + tailBlocks cfg image base pairs fetched.1.2

-- An open file's list once if it is dirty, and what it is writing once more.
def fileBlocks (cfg : Config) (f : LfsFile) : Nat :=
  if f.type = lfsTypeReg ∧ f.flags &&& lfsFInline = 0 then
    (if f.flags &&& lfsFDirty ≠ 0 then ctzBlocks cfg f.ctzSize else 0) +
      if f.flags &&& lfsFWriting ≠ 0 then ctzBlocks cfg f.pos else 0
  else 0

-- The blocks the filesystem is made of, each list counted for itself: a block
-- in several lists counts several times.
def usedBlocks (cfg : Config) (image : Image) (base : LfsBase) (files : Nat → LfsFile) : Nat :=
  tailBlocks cfg image base (cfg.blockCount / 2).toNat (Mdir.ofTail ⟨0, 1⟩) +
    (base.mlist.map fun f => fileBlocks cfg (files f)).sum

section
variable {α : Type} (cfg : Config) (image : Image) (base : LfsBase)

-- A call that reports no block on the card, and what it returns there.
structure Silent (call : BaseM α) (post : α → Prop) : Prop where
  holds : ∀ result log, onCard cfg image base call = some (result, log) → log = [] ∧ post result

-- A call that reports so many blocks if it returns 0, and fails with a
-- negative status.
structure Tallies (call : BaseM Int32) (used : Nat) : Prop where
  holds : ∀ err log, onCard cfg image base call = some (err, log) → err ≤ 0 ∧ (err = 0 → log.length = used)

end

section
variable {α β : Type} {cfg : Config} {image : Image} {base : LfsBase}

theorem silent_pure {post : α → Prop} (result : α) (met : post result) : Silent cfg image base (pure result) post := by
  constructor
  intro answer log ran
  cases ran
  exact ⟨rfl, met⟩

theorem silent_endless {post : α → Prop} : Silent cfg image base endless post := by
  constructor
  intro answer log ran
  cases ran

theorem silent_bind {middle : α → Prop} {post : β → Prop} (call : BaseM α) (rest : α → BaseM β) (first : Silent cfg image base call middle)
    (second : ∀ result, middle result → Silent cfg image base (rest result) post) : Silent cfg image base (call >>= rest) post := by
  constructor
  intro last log ran
  obtain ⟨result, before, after, called, finished, rfl⟩ := on_card_parts cfg image base call rest last log ran
  obtain ⟨rfl, met⟩ := first.holds result before called
  obtain ⟨rfl, done⟩ := (second result met).holds last after finished
  exact ⟨rfl, done⟩

theorem silent_ite {post : α → Prop} {condition : Prop} [Decidable condition] {yes no : BaseM α}
    (positive : condition → Silent cfg image base yes post) (negative : ¬ condition → Silent cfg image base no post) :
    Silent cfg image base (if condition then yes else no) post := by
  split
  · exact positive ‹_›
  · exact negative ‹_›

theorem silent_base : Silent cfg image base (read : BaseM LfsBase) fun _ => True := by
  constructor
  intro answer log ran
  cases ran
  exact ⟨rfl, trivial⟩

theorem silent_stir (crc : UInt32) : Silent cfg image base (stir crc) fun _ => True := by
  constructor
  intro answer log ran
  cases ran
  exact ⟨rfl, trivial⟩

theorem direct_read_err (pcache : Option Cache) (block off : UInt32) (data : List UInt8) :
    (directRead cfg image pcache block off data).1 ≤ 0 := by
  rw [directRead]
  split
  · exact (by decide : lfsErrCorrupt ≤ 0)
  · exact Int32.le_refl 0

theorem silent_read (hint block off : UInt32) (data : List UInt8) :
    Silent cfg image base (bdRead hint block off data) fun answer => answer.1 ≤ 0 := by
  constructor
  intro answer log ran
  cases ran
  exact ⟨rfl, direct_read_err none block off data⟩

theorem silent_heads (pcache : Option Cache) (head : UInt32) (two : Bool) :
    Silent cfg image base (readHeads pcache head two) fun answer => answer.1 ≤ 0 := by
  have through (pcache : Cache) (hint : UInt32) (data : List UInt8) (short : data.length < 2 ^ 32) :
      Silent cfg image base (bdReadThrough pcache hint head data short) fun answer => answer.1 ≤ 0 := by
    constructor
    intro answer log ran
    cases ran
    exact ⟨rfl, direct_read_err (some pcache) head 0 data⟩
  cases pcache with
  | none =>
      cases two with
      | false => exact silent_read _ _ _ _
      | true => exact silent_read _ _ _ _
  | some pcache =>
      cases two with
      | false => exact through pcache _ _ _
      | true => exact through pcache _ _ _

theorem tallies_done : Tallies cfg image base (pure 0) 0 := by
  constructor
  intro err log ran
  cases ran
  exact ⟨by decide, fun _ => rfl⟩

theorem tallies_failed (err : Int32) (used : Nat) (negative : err ≤ 0) (failed : err ≠ 0) : Tallies cfg image base (pure err) used := by
  constructor
  intro answer log ran
  cases ran
  exact ⟨negative, fun ok => absurd ok failed⟩

theorem tallies_report (block : UInt32) : Tallies cfg image base (report block) 1 := by
  constructor
  intro err log ran
  cases ran
  exact ⟨Int32.le_refl 0, fun _ => rfl⟩

-- What follows a silent call may count on what that call finds on the card.
theorem tallies_after {post : α → Prop} (call : BaseM α) (rest : α → BaseM Int32) (used : Nat) (first : Silent cfg image base call post)
    (second : ∀ result log, onCard cfg image base call = some (result, log) → post result → Tallies cfg image base (rest result) used) :
    Tallies cfg image base (call >>= rest) used := by
  constructor
  intro err log ran
  obtain ⟨result, before, after, called, finished, rfl⟩ := on_card_parts cfg image base call rest err log ran
  obtain ⟨rfl, met⟩ := first.holds result before called
  exact (second result [] called met).holds err after finished

theorem tallies_checked (call rest : BaseM Int32) (before after : Nat) (first : Tallies cfg image base call before)
    (second : Tallies cfg image base rest after) :
    Tallies cfg image base (do
      let err ← call
      if err ≠ 0 then return err
      rest) (before + after) := by
  constructor
  intro err log ran
  obtain ⟨status, called, follows, started, finished, rfl⟩ := on_card_parts cfg image base call _ err log ran
  obtain ⟨negative, counted⟩ := first.holds status called started
  by_cases failed : status = 0
  · rw [if_neg (by simpa using failed)] at finished
    obtain ⟨still, more⟩ := second.holds err follows finished
    exact ⟨still, fun ok => by rw [List.length_append, counted failed, more ok]⟩
  · rw [if_pos failed] at finished
    cases finished
    exact ⟨negative, fun ok => absurd ok failed⟩

-- if (err) return err; after a silent call
theorem tallies_read {δ : Type} (call : BaseM (Int32 × δ)) (next : Int32 × δ → BaseM Int32) (rest : δ → BaseM Int32) (used : Nat)
    (silent : Silent cfg image base call fun answer => answer.1 ≤ 0)
    (checks : ∀ err value, next (err, value) = if err ≠ 0 then pure err else rest value)
    (second : ∀ value log, onCard cfg image base call = some ((0, value), log) → Tallies cfg image base (rest value) used) :
    Tallies cfg image base (call >>= next) used := by
  apply tallies_after call next used silent
  rintro ⟨err, value⟩ log called negative
  rw [checks]
  by_cases failed : err = 0
  · subst failed
    exact second value log called
  · rw [if_pos failed]
    exact tallies_failed err used negative failed

theorem tallies_ctz_loop (pcache : Option Cache) (fuel : Nat) : ∀ (head index : UInt32),
    Tallies cfg image base (ctzTraverseLoop pcache fuel head index) (index.toNat + 1) := by
  induction fuel with
  | zero =>
      intro head index
      constructor
      intro err log ran
      cases ran
  | succ fuel ih =>
      intro head index
      rw [ctzTraverseLoop, Nat.add_comm]
      apply tallies_checked
      · exact tallies_report head
      · by_cases ended : index = 0
        · rw [if_pos ended, ended]
          exact tallies_done
        · have positive : 0 < index.toNat := Nat.pos_of_ne_zero fun zero => ended (UInt32.toNat_inj.mp zero)
          rw [if_neg ended]
          by_cases even : index &&& 1 = 0
          · have two : 2 ≤ index.toNat := by
              have bit := congrArg UInt32.toNat even
              rw [UInt32.toNat_and] at bit
              simp only [UInt32.reduceToNat, Nat.and_one_is_mod] at bit
              omega
            rw [if_pos even]
            apply tallies_read _ _ _ _ (silent_heads pcache head true) fun _ _ => rfl
            intro heads _ _
            have rest := tallies_checked _ _ _ _ (tallies_report (lfsFromle32 heads))
              (ih (lfsFromle32 (heads.drop 4)) (index - 2))
            have total : 1 + ((index - 2).toNat + 1) = index.toNat := by
              rw [UInt32.toNat_sub_of_le _ _ ((UInt32.le_iff_toNat_le : (2 : UInt32) ≤ index ↔ _).mpr two)]
              simp only [UInt32.reduceToNat]
              omega
            rwa [total] at rest
          · rw [if_neg even]
            apply tallies_read _ _ _ _ (silent_heads pcache head false) fun _ _ => rfl
            intro heads _ _
            have rest := ih (lfsFromle32 heads) (index - 1)
            have total : (index - 1).toNat + 1 = index.toNat := by
              rw [UInt32.toNat_sub_of_le _ _ ((UInt32.le_iff_toNat_le : (1 : UInt32) ≤ index ↔ _).mpr positive)]
              exact Nat.sub_add_cancel positive
            rwa [total] at rest

theorem tallies_ctz (pcache : Option Cache) (head size : UInt32) :
    Tallies cfg image base (lfsCtzTraverse cfg pcache head size) (ctzBlocks cfg size) := by
  rw [lfsCtzTraverse, ctzBlocks]
  by_cases empty : size = 0
  · rw [if_pos empty, if_pos empty]
    exact tallies_done
  · rw [if_neg empty, if_neg empty]
    exact tallies_ctz_loop pcache _ head _

theorem tallies_writing (f : LfsFile) (outside : f.flags &&& lfsFInline = 0) :
    Tallies cfg image base
      (if f.flags &&& lfsFWriting ≠ 0 ∧ f.flags &&& lfsFInline = 0 then lfsCtzTraverse cfg (some f.cache) f.block f.pos else pure 0)
      (if f.flags &&& lfsFWriting ≠ 0 then ctzBlocks cfg f.pos else 0) := by
  by_cases writing : f.flags &&& lfsFWriting ≠ 0
  · rw [if_pos ⟨writing, outside⟩, if_pos writing]
    exact tallies_ctz (some f.cache) f.block f.pos
  · rw [if_neg fun both => writing both.1, if_neg writing]
    exact tallies_done

theorem tallies_file (f : LfsFile) : Tallies cfg image base (traverseFile cfg f) (fileBlocks cfg f) := by
  rw [traverseFile, fileBlocks]
  by_cases reg : f.type = lfsTypeReg
  · rw [if_neg (by simpa using reg)]
    dsimp only
    by_cases outside : f.flags &&& lfsFInline = 0
    · have writing := @tallies_writing cfg image base f outside
      rw [if_pos (And.intro reg outside)]
      by_cases dirty : f.flags &&& lfsFDirty ≠ 0
      · rw [if_pos (And.intro dirty outside), if_pos dirty]
        exact tallies_checked _ _ _ _ (tallies_ctz (some f.cache) f.ctzHead f.ctzSize) writing
      · rw [if_neg fun both => dirty both.1, if_neg dirty, pure_bind, if_neg (by decide), Nat.zero_add]
        exact writing
    · have within (flag : UInt32) : ¬ (f.flags &&& flag ≠ 0 ∧ f.flags &&& lfsFInline = 0) := fun both => outside both.2
      rw [if_neg (within lfsFDirty), if_neg (within lfsFWriting), if_neg fun regular => outside regular.2, pure_bind, if_neg (by decide)]
      exact tallies_done
  · rw [if_pos reg, if_neg fun regular => reg regular.1]
    exact tallies_done

theorem tallies_files (files : Nat → LfsFile) (mlist : List Nat) :
    Tallies cfg image base (traverseFiles cfg files mlist) (mlist.map fun f => fileBlocks cfg (files f)).sum := by
  induction mlist with
  | nil => exact tallies_done
  | cons f mlist ih =>
      rw [traverseFiles, List.map_cons, List.sum_cons]
      exact tallies_checked _ _ _ _ (tallies_file (files f)) ih

theorem tallies_open_files (files : Nat → LfsFile) :
    Tallies cfg image base (traverseOpenFiles cfg files) (base.mlist.map fun f => fileBlocks cfg (files f)).sum := by
  constructor
  exact (tallies_files files base.mlist).holds

-- lfs_dir_fetch matches no tag, so besttag stays as it started.
def FetchTurn.Unmatched : FetchTurn → Prop
  | .next state => state.tempbesttag = 0xffffffff ∧ state.besttag = 0xffffffff
  | .stop besttag _ => besttag = 0xffffffff
  | .fail err _ => err ≤ 0 ∧ err ≠ 0

theorem failed_unmatched (state : FetchState) (err : Int32) (best : state.besttag = 0xffffffff) (negative : err ≤ 0) (failed : err ≠ 0) :
    (state.failed err).Unmatched := by
  rw [FetchState.failed]
  split
  · exact best
  · exact ⟨negative, failed⟩

theorem fetch_entry_crc_silent (block off : UInt32) (count : Nat) : ∀ (j crc : UInt32),
    Silent cfg image base (fetchEntryCrc cfg block off count j crc) fun answer => answer.1 ≤ 0 := by
  induction count with
  | zero => exact fun _ _ => silent_pure _ (Int32.le_refl 0)
  | succ count ih =>
      intro j crc
      apply silent_bind _ _ (silent_read _ _ _ _)
      intro answer negative
      apply silent_ite
      · exact fun _ => silent_pure _ negative
      · exact fun _ => ih _ _

theorem fetch_match_silent (state : FetchState) (off tag : UInt32) (same : (FetchTurn.next state).Unmatched) :
    Silent cfg image base (fetchMatch 0xffffffff 0xffffffff (fun _ _ => endless) state off tag) FetchTurn.Unmatched := by
  apply silent_ite
  · exact fun _ => silent_pure _ same
  · intro _
    have never : Silent cfg image base (endless : BaseM Int32) fun _ => False := silent_endless
    apply silent_bind _ _ never
    exact fun _ impossible => impossible.elim

theorem fetch_crc_silent (state : FetchState) (off tag crc : UInt32) (same : (FetchTurn.next state).Unmatched) :
    Silent cfg image base (fetchCrc cfg state off tag crc) FetchTurn.Unmatched := by
  apply silent_bind _ _ (silent_read _ _ _ _)
  intro answer negative
  apply silent_ite
  · exact fun failed => silent_pure _ (failed_unmatched state _ same.2 negative failed)
  · intro _
    apply silent_ite
    · exact fun _ => silent_pure _ same.2
    · intro _
      apply silent_bind _ _ (silent_stir _)
      exact fun _ _ => silent_pure _ ⟨same.1, same.1⟩

theorem name_unmatched (state : FetchState) (tag : UInt32) (same : (FetchTurn.next state).Unmatched) :
    (FetchTurn.next (fetchName state tag)).Unmatched := by
  rw [fetchName]
  split
  · exact same
  · exact same

theorem splice_unmatched (state : FetchState) (tag : UInt32) (same : (FetchTurn.next state).Unmatched) :
    (FetchTurn.next (fetchSplice state tag)).Unmatched := by
  refine ⟨?_, same.2⟩
  rw [fetchSplice, same.1]
  dsimp only
  split
  · rfl
  · rw [if_neg fun other => other.1 rfl]

theorem fetch_tail_silent (state : FetchState) (off tag : UInt32) (same : (FetchTurn.next state).Unmatched) :
    Silent cfg image base (fetchTail cfg state off tag) fun found => (FetchTurn.next found.2).Unmatched := by
  apply silent_bind _ _ (silent_read _ _ _ _)
  intro bytes _
  apply silent_ite
  · exact fun _ => silent_pure _ same
  · exact fun _ => silent_pure _ same

theorem fetch_entry_silent (state : FetchState) (off tag crc : UInt32) (same : (FetchTurn.next state).Unmatched) :
    Silent cfg image base (fetchEntry cfg 0xffffffff 0xffffffff (fun _ _ => endless) state off tag crc) FetchTurn.Unmatched := by
  apply silent_bind _ _ (fetch_entry_crc_silent _ _ _ _ _)
  intro answer negative
  apply silent_ite
  · exact fun failed => silent_pure _ ⟨negative, failed.1⟩
  · intro _
    apply silent_ite
    · exact fun _ => fetch_match_silent _ _ _ (name_unmatched _ tag same)
    · intro _
      apply silent_ite
      · exact fun _ => fetch_match_silent _ _ _ (splice_unmatched _ tag same)
      · intro _
        apply silent_ite
        · intro _
          refine silent_bind _ _ (fetch_tail_silent _ off tag ?_) ?_
          · exact same
          · intro found still
            apply silent_ite
            · exact fun _ => fetch_match_silent _ _ _ still
            · exact fun _ => silent_pure _ still.2
        · exact fun _ => fetch_match_silent _ _ _ same

theorem fetch_tag_silent (state : FetchState) (same : (FetchTurn.next state).Unmatched) :
    Silent cfg image base (fetchTag cfg 0xffffffff 0xffffffff (fun _ _ => endless) state) FetchTurn.Unmatched := by
  apply silent_bind _ _ (silent_read _ _ _ _)
  intro answer negative
  apply silent_ite
  · exact fun failed => silent_pure _ (failed_unmatched state _ same.2 negative failed)
  · intro _
    apply silent_ite
    · exact fun _ => silent_pure _ same.2
    · intro _
      apply silent_ite
      · exact fun _ => silent_pure _ same.2
      · intro _
        apply silent_ite
        · exact fun _ => fetch_crc_silent state _ _ _ same
        · exact fun _ => fetch_entry_silent state _ _ _ same

theorem fetch_scan_silent (fuel : Nat) : ∀ (state : FetchState), (FetchTurn.next state).Unmatched →
    Silent cfg image base (fetchScan cfg 0xffffffff 0xffffffff (fun _ _ => endless) fuel state) fun scanned =>
      scanned.1 ≤ 0 ∧ (scanned.1 = 0 → scanned.2.1 = 0xffffffff) := by
  induction fuel with
  | zero => exact fun _ _ => silent_endless
  | succ fuel ih =>
      intro state same
      apply silent_bind _ _ (fetch_tag_silent state same)
      intro turn unmatched
      cases turn with
      | next later => exact ih later unmatched
      | stop besttag dir => exact silent_pure _ ⟨Int32.le_refl 0, fun _ => unmatched⟩
      | fail err dir => exact silent_pure _ ⟨unmatched.1, fun ok => absurd ok unmatched.2⟩

theorem fetch_found_unmatched (gdisk : Gstate) (dir : Mdir) : (fetchFound gdisk 0xffffffff dir).tag ≤ 0 := by
  have kept : (fetchFound gdisk 0xffffffff dir).tag = if lfsTagId 0xffffffff < dir.count.toUInt32 then lfsErrNoent else 0 := by
    have invalid : lfsTagIsvalid 0xffffffff = false := by decide
    have same : (0xffffffff : UInt32) ||| 0x80000000 = 0xffffffff := by decide
    simp [fetchFound, invalid, same]
  rw [kept]
  split
  · exact (by decide : lfsErrNoent ≤ 0)
  · exact Int32.le_refl 0

theorem fetch_blocks_silent (otherRev : UInt32) (attempts : Nat) : ∀ (dir : Mdir),
    Silent cfg image base (fetchBlocks cfg 0xffffffff 0xffffffff (fun _ _ => endless) otherRev attempts 0xffffffff dir) fun fetched =>
      fetched.tag ≤ 0 := by
  induction attempts with
  | zero => exact fun _ => silent_pure _ (by decide : lfsErrCorrupt ≤ 0)
  | succ attempts ih =>
      intro dir
      apply silent_bind _ _ (fetch_scan_silent _ _ ⟨rfl, rfl⟩)
      rintro ⟨err, besttag, scanned⟩ ⟨negative, unmatched⟩
      apply silent_ite
      · exact fun _ => silent_pure _ negative
      · intro passed
        obtain rfl : besttag = 0xffffffff := unmatched (Decidable.not_not.mp passed)
        apply silent_ite
        · intro _
          apply silent_bind _ _ (silent_base)
          exact fun lfs _ => silent_pure _ (fetch_found_unmatched lfs.gdisk scanned)
        · exact fun _ => ih _

theorem fetch_silent (dir : Mdir) (pair : Pair) : Silent cfg image base (lfsDirFetch cfg dir pair) fun answer => answer.1 ≤ 0 := by
  have matched : Silent cfg image base (lfsDirFetchmatch cfg dir pair 0xffffffff 0xffffffff fun _ _ => endless) fun fetched =>
      fetched.tag ≤ 0 := by
    apply silent_ite
    · exact fun _ => silent_pure _ (by decide : lfsErrCorrupt ≤ 0)
    · intro _
      apply silent_bind _ _ (silent_read _ _ _ _)
      intro first negative
      apply silent_ite
      · exact fun _ => silent_pure _ negative
      · intro _
        apply silent_bind _ _ (silent_read _ _ _ _)
        intro second negative
        apply silent_ite
        · exact fun _ => silent_pure _ negative
        · intro _
          apply silent_ite
          · exact fun _ => fetch_blocks_silent _ _ _
          · exact fun _ => fetch_blocks_silent _ _ _
  apply silent_bind _ _ matched
  exact fun fetched negative => silent_pure _ negative

theorem getslice_loop_silent (dir : Mdir) (gmask gtag goff : UInt32) (gsize fuel : Nat) : ∀ (off ntag gdiff : UInt32),
    Silent cfg image base (getsliceLoop cfg dir gmask gtag goff gsize fuel off ntag gdiff) fun _ => True := by
  induction fuel with
  | zero => exact fun _ _ _ => silent_pure _ trivial
  | succ fuel ih =>
      intro off ntag gdiff
      have done (answer : Int32 × List UInt8) : Silent cfg image base (pure answer) fun _ => True := silent_pure answer trivial
      apply silent_ite
      · exact fun _ => done _
      · intro _
        apply silent_bind _ _ (silent_read _ _ _ _)
        intro answer _
        apply silent_ite
        · exact fun _ => done _
        · intro _
          apply silent_ite
          · exact fun _ => done _
          · intro _
            apply silent_ite
            · intro _
              apply silent_ite
              · exact fun _ => done _
              · intro _
                apply silent_bind _ _ (silent_read _ _ _ _)
                intro data _
                apply silent_ite
                · exact fun _ => done _
                · exact fun _ => done _
            · exact fun _ => ih _ _ _

theorem dir_get_silent (dir : Mdir) (gmask gtag : UInt32) : Silent cfg image base (lfsDirGet cfg dir gmask gtag) fun _ => True := by
  apply silent_bind _ _ (silent_base)
  exact fun lfs _ => getslice_loop_silent dir gmask gtag 0 _ _ _ _ _

theorem tallies_id (dir : Mdir) (id : UInt16) :
    Tallies cfg image base (traverseId cfg false dir id) (idBlocks cfg image base dir id) := by
  apply tallies_after _ _ _ (dir_get_silent dir _ _)
  rintro ⟨tag, bytes⟩ log got _
  rw [idBlocks, got, Option.elim_some]
  dsimp only
  by_cases missing : tag < 0
  · have uncounted : ¬ (¬ tag < 0 ∧ lfsTagType3 tag.toUInt32 = lfsTypeCtzstruct) := fun found => found.1 missing
    rw [if_pos missing, if_neg uncounted]
    by_cases absent : tag = lfsErrNoent
    · rw [if_pos absent]
      exact tallies_done
    · rw [if_neg absent]
      exact tallies_failed tag 0 (Int32.le_of_lt missing) fun zero => absurd (zero ▸ missing) (by decide)
  · rw [if_neg missing]
    by_cases ctz : lfsTagType3 tag.toUInt32 = lfsTypeCtzstruct
    · rw [if_pos ctz, if_pos (And.intro missing ctz)]
      exact tallies_ctz none _ _
    · have uncounted : ¬ (¬ tag < 0 ∧ lfsTagType3 tag.toUInt32 = lfsTypeCtzstruct) := fun found => ctz found.2
      have orphans : ¬ (false = true ∧ lfsTagType3 tag.toUInt32 = lfsTypeDirstruct) := fun included => Bool.false_ne_true included.1
      rw [if_neg ctz, if_neg orphans, if_neg uncounted]
      exact tallies_done

theorem tallies_ids (dir : Mdir) (count : Nat) : ∀ (id : UInt16),
    Tallies cfg image base (traverseIds cfg false dir count id) (idsBlocks cfg image base dir count id) := by
  induction count with
  | zero => exact fun _ => tallies_done
  | succ count ih =>
      intro id
      exact tallies_checked _ _ _ _ (tallies_id dir id) (ih (id + 1))

theorem traverse_pair_then (dir : Mdir) (rest : Mdir → BaseM Int32) : (do
    let done ← traversePair cfg false dir
    if done.1 ≠ 0 then pure done.1 else rest done.2) = (do
    let err ← reportPair dir.tail
    if err ≠ 0 then return err
    let fetched ← lfsDirFetch cfg dir dir.tail
    if fetched.1 ≠ 0 then return fetched.1
    let err ← traverseIds cfg false fetched.2 fetched.2.count.toNat 0
    if err ≠ 0 then return err
    rest fetched.2) := by
  rw [traversePair, bind_assoc]
  apply congrArg (reportPair dir.tail >>= ·)
  funext err
  by_cases failed : err = 0
  · simp only [failed, ne_eq, not_true_eq_false, if_false, bind_assoc]
    apply congrArg (lfsDirFetch cfg dir dir.tail >>= ·)
    funext fetched
    by_cases failed : fetched.1 = 0
    · simp [failed]
    · simp [failed]
  · simp [failed]

theorem tallies_pair (dir : Mdir) (rest : Mdir → BaseM Int32) (used : Mdir → Nat) (later : ∀ next, Tallies cfg image base (rest next) (used next)) :
    Tallies cfg image base (do
      let done ← traversePair cfg false dir
      if done.1 ≠ 0 then pure done.1 else rest done.2)
      (2 + (onCard cfg image base (lfsDirFetch cfg dir dir.tail)).elim 0 fun fetched =>
        idsBlocks cfg image base fetched.1.2 fetched.1.2.count.toNat 0 + used fetched.1.2) := by
  have pair : Tallies cfg image base (reportPair dir.tail) 2 :=
    tallies_checked _ _ 1 1 (tallies_report _) (tallies_report _)
  have fetched : Tallies cfg image base (do
      let fetched ← lfsDirFetch cfg dir dir.tail
      if fetched.1 ≠ 0 then return fetched.1
      let err ← traverseIds cfg false fetched.2 fetched.2.count.toNat 0
      if err ≠ 0 then return err
      rest fetched.2)
      ((onCard cfg image base (lfsDirFetch cfg dir dir.tail)).elim 0 fun fetched =>
        idsBlocks cfg image base fetched.1.2 fetched.1.2.count.toNat 0 + used fetched.1.2) := by
    have after (next : Mdir) : Tallies cfg image base (do
        let err ← traverseIds cfg false next next.count.toNat 0
        if err ≠ 0 then return err
        rest next) (idsBlocks cfg image base next next.count.toNat 0 + used next) :=
      tallies_checked _ _ _ _ (tallies_ids next _ 0) (later next)
    apply tallies_read _ _ (fun next => traverseIds cfg false next next.count.toNat 0 >>= fun err =>
      if err ≠ 0 then pure err else rest next) _ (fetch_silent dir dir.tail) fun _ _ => rfl
    intro next log known
    rw [known, Option.elim_some]
    exact after next
  rw [traverse_pair_then]
  exact tallies_checked _ _ _ _ pair fetched

-- left is how many turns of the tail list cycle still allows.
theorem tallies_metadata (left : Nat) : ∀ (dir : Mdir), left ≤ (cfg.blockCount / 2).toNat →
    Tallies cfg image base (traverseMetadata cfg false (left + 1) dir (turnsTaken cfg left)) (tailBlocks cfg image base left dir) := by
  induction left with
  | zero =>
      intro dir _
      by_cases ended : lfsPairIsnull dir.tail = true
      · rw [metadata_ended cfg false dir 0 ended]
        exact tallies_done
      · rw [metadata_full cfg false dir ended]
        exact tallies_failed _ _ (by decide) (by decide)
  | succ left ih =>
      intro dir within
      rw [tailBlocks]
      by_cases ended : lfsPairIsnull dir.tail = true
      · rw [metadata_ended cfg false dir (left + 1) ended, if_pos ended]
        exact tallies_done
      · rw [metadata_pair cfg false dir left within ended, if_neg ended]
        exact tallies_pair dir _ _ fun next => ih next (by omega)

theorem tallies_traversal (files : Nat → LfsFile) :
    Tallies cfg image base (lfsFsTraverseraw cfg files false) (usedBlocks cfg image base files) := by
  have metadata := @tallies_metadata cfg image base (cfg.blockCount / 2).toNat (Mdir.ofTail ⟨0, 1⟩) (Nat.le_refl _)
  rw [turns_start] at metadata
  exact tallies_checked _ _ _ _ metadata (tallies_open_files files)

theorem fs_size_on_card (files : Nat → LfsFile) (lfs after : Lfs) (rcache last : Cache) (size : Int32) (coherent : Coherent cfg image rcache)
    (ran : exec cfg (imageDevice image) (lfsFsSize cfg files) lfs rcache = some (size, after, last)) :
    size < 0 ∨ size = (UInt32.ofNat (usedBlocks cfg image lfs.toLfsBase files)).toInt32 := by
  rw [lfsFsSize, exec_bind, counting_exec] at ran
  obtain ⟨counted, known, rest⟩ := Option.bind_eq_some_iff.mp ran
  obtain ⟨⟨err, log, stirred, cache⟩, reported, rfl⟩ := Option.map_eq_some_iff.mp known
  obtain ⟨direct, -⟩ := reports_on_card _ _ _ _ _ _ _ _ coherent reported
  obtain ⟨negative, total⟩ := (tallies_traversal files).holds err log direct
  dsimp only at rest
  by_cases failed : err = 0
  · rw [if_neg (by simpa using failed)] at rest
    cases rest
    right
    rw [total failed]
  · rw [if_pos failed] at rest
    cases rest
    left
    exact Int32.lt_of_le_of_ne negative failed

end

end SDCardFs.Littlefs
