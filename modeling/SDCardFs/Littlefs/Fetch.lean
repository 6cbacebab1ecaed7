import SDCardFs.Littlefs.Coherent
import SDCardFs.Littlefs.Tags
import SDCardFs.Littlefs.Words

set_option autoImplicit false

namespace SDCardFs.Littlefs

def blockBytes (cfg : Config) (image : Image) (block : UInt32) : List UInt8 := directBytes none image block 0 cfg.blockSize.toNat

def FetchState.summary (state : FetchState) : Summary := ⟨state.tempcount, state.temptail, state.tempsplit⟩

def FetchState.enter (state : FetchState) (off crc : UInt32) (entry : LogEntry) : FetchState :=
  { state with
    off := off
    ptag := entry.tag
    crc := crc
    tempcount := (state.summary.enter entry).count
    temptail := (state.summary.enter entry).tail
    tempsplit := (state.summary.enter entry).split }

def FetchState.commit (state : FetchState) (off tag : UInt32) : FetchState :=
  { state with
    off := off
    ptag := nextPtag tag
    crc := 0xffffffff
    besttag := state.tempbesttag
    dir := { state.dir with
      off := off + lfsTagDsize tag
      etag := nextPtag tag
      count := state.tempcount
      tail := state.temptail
      split := state.tempsplit } }

theorem enter_name (fetch : FetchState) (off crc : UInt32) (entry : LogEntry) (name : lfsTagType1 entry.tag = lfsTypeName) :
    fetchName { fetch with off := off, ptag := entry.tag, crc := crc } entry.tag = fetch.enter off crc entry := by
  have entered : fetch.summary.enter entry =
      if lfsTagId entry.tag ≥ fetch.tempcount.toUInt32 then { fetch.summary with count := (lfsTagId entry.tag + 1).toUInt16 } else fetch.summary :=
    if_pos name
  rw [FetchState.enter, entered, fetchName]
  split
  · rfl
  · rfl

theorem enter_splice (fetch : FetchState) (off crc : UInt32) (entry : LogEntry) (splice : lfsTagType1 entry.tag = lfsTypeSplice)
    (unmatched : fetch.tempbesttag = 0xffffffff) :
    fetchSplice { fetch with off := off, ptag := entry.tag, crc := crc } entry.tag = fetch.enter off crc entry := by
  have other : ¬ lfsTagType1 entry.tag = lfsTypeName := by
    rw [splice]
    decide
  have best : (if entry.tag = lfsMktag lfsTypeDelete 0 0 ||| (lfsMktag 0 0x3ff 0 &&& (0xffffffff : UInt32)) then (0xffffffff : UInt32) ||| 0x80000000
      else if (0xffffffff : UInt32) ≠ 0xffffffff ∧ lfsTagId entry.tag ≤ lfsTagId 0xffffffff then
        (0xffffffff : UInt32) + lfsMktag 0 (lfsTagSplice entry.tag) 0
      else 0xffffffff) = 0xffffffff := by
    split
    · rfl
    · exact if_neg fun differs => differs.1 rfl
  rw [FetchState.enter, Summary.enter, if_neg other, if_pos splice, fetchSplice]
  dsimp only
  rw [unmatched, best]
  rfl

theorem enter_tail (fetch : FetchState) (off crc : UInt32) (entry : LogEntry) (tail : lfsTagType1 entry.tag = lfsTypeTail) :
    ({ fetch with
      off := off
      ptag := entry.tag
      crc := crc
      tempsplit := lfsTagChunk entry.tag &&& 1 ≠ 0
      temptail := lfsPairFromle32 entry.data } : FetchState) = fetch.enter off crc entry := by
  have name : ¬ lfsTagType1 entry.tag = lfsTypeName := by
    rw [tail]
    decide
  have splice : ¬ lfsTagType1 entry.tag = lfsTypeSplice := by
    rw [tail]
    decide
  rw [FetchState.enter, Summary.enter, if_neg name, if_neg splice, if_pos tail]
  rfl

theorem enter_other (fetch : FetchState) (off crc : UInt32) (entry : LogEntry) (name : ¬ lfsTagType1 entry.tag = lfsTypeName)
    (splice : ¬ lfsTagType1 entry.tag = lfsTypeSplice) (tail : ¬ lfsTagType1 entry.tag = lfsTypeTail) :
    ({ fetch with off := off, ptag := entry.tag, crc := crc } : FetchState) = fetch.enter off crc entry := by
  rw [FetchState.enter, Summary.enter, if_neg name, if_neg splice, if_neg tail]
  rfl

-- A turn of the scan as a function of what is left of the block.
def scanTurn (cfg : Config) (state : FetchState) (raw : List UInt8) : FetchTurn :=
  let off := state.off + lfsTagDsize state.ptag
  let tag := lfsFrombe32 (raw.take 4) ^^^ state.ptag
  if raw.length < 4 then state.stop false
  else if ¬ lfsTagIsvalid tag then state.stop (lfsTagType1 state.ptag = lfsTypeCrc ∧ state.dir.off % cfg.progSize = 0)
  else if raw.length < (lfsTagDsize tag).toNat then state.stop false
  else if lfsTagType1 tag = lfsTypeCrc then
    if raw.length < 8 then state.stop false
    else if lfsCrc state.crc (raw.take 4) ≠ lfsFromle32 ((raw.drop 4).take 4) then state.stop false
    else .next (state.commit off tag)
  else if raw.length < 4 + dataLength tag then state.stop false
  else .next (state.enter off (lfsCrc state.crc (raw.take (lfsTagDsize tag).toNat)) ⟨tag, (raw.drop 4).take (dataLength tag)⟩)

-- The scan is at a tag, with raw behind it in the block.
structure Scanning (cfg : Config) (image : Image) (state : FetchState) (raw : List UInt8) : Prop where
  present : state.dir.pair.first < cfg.blockCount
  inside : state.off.toNat + (lfsTagDsize state.ptag).toNat ≤ cfg.blockSize.toNat
  raw : raw = (blockBytes cfg image state.dir.pair.first).drop (state.off.toNat + (lfsTagDsize state.ptag).toNat)
  unmatched : state.tempbesttag = 0xffffffff ∧ state.besttag = 0xffffffff

theorem block_bytes_length (cfg : Config) (image : Image) (block : UInt32) : (blockBytes cfg image block).length = cfg.blockSize.toNat :=
  direct_bytes_length _ _ _ _ _

section
variable {δ : Type} (cfg : Config) (image : Image) (cb : Callback δ) (small : cfg.blockSize.toNat < 2 ^ 31)

theorem block_bytes_part (block : UInt32) (place length : Nat) (inside : place + length ≤ cfg.blockSize.toNat) :
    ((blockBytes cfg image block).drop place).take length = directBytes none image block (UInt32.ofNat place) length := by
  obtain ⟨rest, whole⟩ : ∃ rest, cfg.blockSize.toNat = place + (length + rest) := ⟨cfg.blockSize.toNat - place - length, by omega⟩
  have before : (directBytes none image block 0 place).length = place := direct_bytes_length _ _ _ _ _
  have taken : (directBytes none image block (0 + UInt32.ofNat place) length).length = length := direct_bytes_length _ _ _ _ _
  rw [blockBytes, whole, direct_bytes_add, List.drop_left' before, direct_bytes_add, List.take_left' taken, UInt32.zero_add]

-- The pattern lfs_dir_fetch looks for matches no tag.
theorem fetch_match_run (match_ : TagMatch) (fetch : FetchState) (off tag : UInt32) (lfs : LfsBase) (state : δ) (valid : lfsTagIsvalid tag = true) :
    (fetchMatch 0xffffffff 0xffffffff match_ fetch off tag lfs).run (directServer cfg image cb) state = some (.next fetch, state) := by
  have differs : (0xffffffff : UInt32) &&& tag ≠ 0xffffffff &&& 0xffffffff := by
    intro same
    have top : tag &&& 0x80000000 = 0 := of_decide_eq_true valid
    have bit := congrArg (fun word => word &&& 0x80000000) same
    rw [UInt32.and_assoc, top, UInt32.and_zero] at bit
    exact absurd bit (by decide)
  rw [fetchMatch, if_pos differs]
  rfl

include small

theorem tag_read_run (hint block off : UInt32) (data : List UInt8) (lfs : LfsBase) (state : δ) (present : block < cfg.blockCount)
    (inside : off.toNat ≤ cfg.blockSize.toNat) (short : data.length < 2 ^ 31) :
    (bdRead hint block off data lfs).run (directServer cfg image cb) state =
      some (if ((blockBytes cfg image block).drop off.toNat).length < data.length then (lfsErrCorrupt, data)
        else (0, ((blockBytes cfg image block).drop off.toNat).take data.length), state) := by
  have ran : (bdRead hint block off data lfs).run (directServer cfg image cb) state = some (directRead cfg image none block off data, state) := rfl
  have sum := offset_toNat off data.length (by omega)
  have absent : ¬ block ≥ cfg.blockCount := UInt32.not_le.mpr present
  rw [ran, List.length_drop, block_bytes_length, directRead]
  by_cases beyond : cfg.blockSize.toNat - off.toNat < data.length
  · have outside : block ≥ cfg.blockCount ∨ off + UInt32.ofNat data.length > cfg.blockSize := by
      refine Or.inr (UInt32.lt_iff_toNat_lt.mpr ?_)
      omega
    rw [if_pos beyond, if_pos outside]
  · have within : ¬ (block ≥ cfg.blockCount ∨ off + UInt32.ofNat data.length > cfg.blockSize) := by
      rintro (outside | more)
      · exact absent outside
      · have more := UInt32.lt_iff_toNat_lt.mp more
        omega
    rw [if_neg beyond, if_neg within, block_bytes_part cfg image block _ _ (by omega), UInt32.ofNat_toNat]

theorem entry_crc_run (block off : UInt32) (present : block < cfg.blockCount) (lfs : LfsBase) (state : δ) (count : Nat) :
    ∀ (j crc : UInt32), off.toNat + j.toNat + count ≤ cfg.blockSize.toNat →
    (fetchEntryCrc cfg block off count j crc lfs).run (directServer cfg image cb) state =
      some ((0, lfsCrc crc (((blockBytes cfg image block).drop (off.toNat + j.toNat)).take count)), state) := by
  induction count with
  | zero =>
      intro j crc _
      rw [List.take_zero]
      rfl
  | succ count ih =>
      intro j crc inside
      have place : (off + j).toNat = off.toNat + j.toNat := by
        rw [UInt32.toNat_add]
        omega
      have next : (j + 1).toNat = j.toNat + 1 := by
        rw [UInt32.toNat_add, UInt32.toNat_one]
        omega
      have one : (zeros 1).length = 1 := rfl
      have long : ¬ ((blockBytes cfg image block).drop (off + j).toNat).length < (zeros 1).length := by
        rw [List.length_drop, block_bytes_length, place, one]
        omega
      have got := tag_read_run cfg image cb small cfg.blockSize block (off + j) (zeros 1) lfs state present (by omega) (by decide)
      rw [if_neg long, one, place] at got
      have rest := ih (j + 1) (lfsCrc crc (((blockBytes cfg image block).drop (off.toNat + j.toNat)).take 1)) (by omega)
      rw [fetchEntryCrc]
      refine (Lib.Prog.run_bind (directServer cfg image cb) (bdRead cfg.blockSize block (off + j) (zeros 1) lfs) _ state).trans ?_
      rw [got]
      refine rest.trans ?_
      rw [next, ← Nat.add_assoc, crc_append, Nat.add_comm count 1, List.take_add, List.drop_drop]

theorem fetch_crc_run (fetch : FetchState) (off tag crc : UInt32) (lfs : LfsBase) (state : δ) (present : fetch.dir.pair.first < cfg.blockCount)
    (inside : off.toNat + 4 ≤ cfg.blockSize.toNat) :
    (fetchCrc cfg fetch off tag crc lfs).run (directServer cfg image cb) state =
      some (if ((blockBytes cfg image fetch.dir.pair.first).drop off.toNat).length < 8 then fetch.stop false
        else if crc ≠ lfsFromle32 ((((blockBytes cfg image fetch.dir.pair.first).drop off.toNat).drop 4).take 4) then fetch.stop false
        else .next (fetch.commit off tag), state) := by
  have next : (off + 4).toNat = off.toNat + 4 := offset_toNat off 4 (by omega)
  have four : (zeros 4).length = 4 := rfl
  have got := tag_read_run cfg image cb small cfg.blockSize fetch.dir.pair.first (off + 4) (zeros 4) lfs state present (by omega) (by decide)
  rw [fetchCrc]
  refine (Lib.Prog.run_bind (directServer cfg image cb) (bdRead cfg.blockSize fetch.dir.pair.first (off + 4) (zeros 4) lfs) _ state).trans ?_
  rw [got, Option.bind_some, next, four, ← List.drop_drop]
  by_cases short : ((blockBytes cfg image fetch.dir.pair.first).drop off.toNat).length < 8
  · have cut : (((blockBytes cfg image fetch.dir.pair.first).drop off.toNat).drop 4).length < 4 := by
      rw [List.length_drop]
      omega
    rw [if_pos short, if_pos cut]
    rfl
  · have whole : ¬ (((blockBytes cfg image fetch.dir.pair.first).drop off.toNat).drop 4).length < 4 := by
      rw [List.length_drop]
      omega
    rw [if_neg short, if_neg whole]
    dsimp only
    rw [if_neg (fun failed => failed rfl)]
    by_cases same : crc = lfsFromle32 ((((blockBytes cfg image fetch.dir.pair.first).drop off.toNat).drop 4).take 4)
    · rw [if_neg (fun differs => differs same), if_neg (fun differs => differs same)]
      rfl
    · rw [if_pos same, if_pos same]
      rfl

theorem fetch_tail_run (fetch : FetchState) (off tag : UInt32) (lfs : LfsBase) (state : δ) (present : fetch.dir.pair.first < cfg.blockCount)
    (inside : off.toNat + 4 ≤ cfg.blockSize.toNat) :
    (fetchTail cfg fetch off tag lfs).run (directServer cfg image cb) state =
      some (if ((blockBytes cfg image fetch.dir.pair.first).drop off.toNat).length < 12 then (false, { fetch with tempsplit := lfsTagChunk tag &&& 1 ≠ 0 })
        else (true, { fetch with
          tempsplit := lfsTagChunk tag &&& 1 ≠ 0
          temptail := lfsPairFromle32 ((((blockBytes cfg image fetch.dir.pair.first).drop off.toNat).drop 4).take 8) }), state) := by
  have next : (off + 4).toNat = off.toNat + 4 := offset_toNat off 4 (by omega)
  have eight : (lfsTole32 fetch.temptail.first ++ lfsTole32 fetch.temptail.second).length = 8 := rfl
  have got := tag_read_run cfg image cb small cfg.blockSize fetch.dir.pair.first (off + 4)
    (lfsTole32 fetch.temptail.first ++ lfsTole32 fetch.temptail.second) lfs state present (by omega) (by rw [eight]; decide)
  rw [fetchTail]
  refine (Lib.Prog.run_bind (directServer cfg image cb) (bdRead cfg.blockSize fetch.dir.pair.first (off + 4)
    (lfsTole32 fetch.temptail.first ++ lfsTole32 fetch.temptail.second) lfs) _ state).trans ?_
  rw [got, Option.bind_some, next, eight, ← List.drop_drop]
  by_cases short : ((blockBytes cfg image fetch.dir.pair.first).drop off.toNat).length < 12
  · have cut : (((blockBytes cfg image fetch.dir.pair.first).drop off.toNat).drop 4).length < 8 := by
      rw [List.length_drop]
      omega
    rw [if_pos short, if_pos cut]
    rfl
  · have whole : ¬ (((blockBytes cfg image fetch.dir.pair.first).drop off.toNat).drop 4).length < 8 := by
      rw [List.length_drop]
      omega
    rw [if_neg short, if_neg whole]
    rfl

theorem fetch_entry_run (match_ : TagMatch) (fetch : FetchState) (off tag crc : UInt32) (lfs : LfsBase) (state : δ)
    (present : fetch.dir.pair.first < cfg.blockCount) (unmatched : fetch.tempbesttag = 0xffffffff) (valid : lfsTagIsvalid tag = true)
    (inside : off.toNat + (lfsTagDsize tag).toNat ≤ cfg.blockSize.toNat) :
    (fetchEntry cfg 0xffffffff 0xffffffff match_ fetch off tag crc lfs).run (directServer cfg image cb) state =
      some (if ((blockBytes cfg image fetch.dir.pair.first).drop off.toNat).length < 4 + dataLength tag then fetch.stop false
        else .next (fetch.enter off
          (lfsCrc crc ((((blockBytes cfg image fetch.dir.pair.first).drop off.toNat).drop 4).take ((lfsTagDsize tag).toNat - 4)))
          ⟨tag, (((blockBytes cfg image fetch.dir.pair.first).drop off.toNat).drop 4).take (dataLength tag)⟩), state) := by
  have least := (tag_dsize_bounds tag).1
  have four : (lfsTagDsize tag - 4).toNat = (lfsTagDsize tag).toNat - 4 :=
    UInt32.toNat_sub_of_le _ _ (UInt32.le_iff_toNat_le.mpr least)
  have word : (4 : UInt32).toNat = 4 := rfl
  have got := entry_crc_run cfg image cb small fetch.dir.pair.first off present lfs state ((lfsTagDsize tag).toNat - 4) 4 crc (by omega)
  rw [word, ← List.drop_drop] at got
  rw [fetchEntry]
  refine (Lib.Prog.run_bind (directServer cfg image cb) (fetchEntryCrc cfg fetch.dir.pair.first off (lfsTagDsize tag - 4).toNat 4 crc lfs) _ state).trans ?_
  rw [four, got, Option.bind_some]
  dsimp only
  rw [if_neg (fun failed => failed.1 rfl)]
  have plain : lfsTagType1 tag ≠ lfsTypeTail →
      ¬ ((blockBytes cfg image fetch.dir.pair.first).drop off.toNat).length < 4 + dataLength tag := by
    intro other
    rw [dataLength, if_neg other, List.length_drop, block_bytes_length]
    omega
  by_cases name : lfsTagType1 tag = lfsTypeName
  · have other : lfsTagType1 tag ≠ lfsTypeTail := by
      rw [name]
      decide
    rw [if_neg (plain other), if_pos name]
    refine (fetch_match_run cfg image cb match_ _ off tag lfs state valid).trans ?_
    exact congrArg (fun fetch => some (FetchTurn.next fetch, state)) (enter_name fetch off _ ⟨tag, _⟩ name)
  · rw [if_neg name]
    by_cases splice : lfsTagType1 tag = lfsTypeSplice
    · have other : lfsTagType1 tag ≠ lfsTypeTail := by
        rw [splice]
        decide
      rw [if_neg (plain other), if_pos splice]
      refine (fetch_match_run cfg image cb match_ _ off tag lfs state valid).trans ?_
      exact congrArg (fun fetch => some (FetchTurn.next fetch, state)) (enter_splice fetch off _ ⟨tag, _⟩ splice unmatched)
    · rw [if_neg splice]
      by_cases tail : lfsTagType1 tag = lfsTypeTail
      · have data : dataLength tag = 8 := if_pos tail
        have found := fetch_tail_run cfg image cb small { fetch with
          off := off
          ptag := tag
          crc := lfsCrc crc ((((blockBytes cfg image fetch.dir.pair.first).drop off.toNat).drop 4).take ((lfsTagDsize tag).toNat - 4)) }
          off tag lfs state present (by omega)
        rw [if_pos tail, data]
        refine (Lib.Prog.run_bind (directServer cfg image cb) (fetchTail cfg _ off tag lfs) _ state).trans ?_
        refine (congrArg (fun ran => Option.bind ran _) found).trans ?_
        by_cases short : ((blockBytes cfg image fetch.dir.pair.first).drop off.toNat).length < 12
        · rw [if_pos short]
          dsimp only
          rw [if_pos short]
          rfl
        · rw [if_neg short]
          dsimp only
          rw [if_neg short]
          refine (fetch_match_run cfg image cb match_ _ off tag lfs state valid).trans ?_
          exact congrArg (fun fetch => some (FetchTurn.next fetch, state)) (enter_tail fetch off _ ⟨tag, _⟩ tail)
      · rw [if_neg (plain tail), if_neg tail]
        refine (fetch_match_run cfg image cb match_ _ off tag lfs state valid).trans ?_
        exact congrArg (fun fetch => some (FetchTurn.next fetch, state)) (enter_other fetch off _ ⟨tag, _⟩ name splice tail)

theorem fetch_tag_run (match_ : TagMatch) (fetch : FetchState) (raw : List UInt8) (scanning : Scanning cfg image fetch raw) (lfs : LfsBase) (state : δ) :
    (fetchTag cfg 0xffffffff 0xffffffff match_ fetch lfs).run (directServer cfg image cb) state = some (scanTurn cfg fetch raw, state) := by
  obtain ⟨present, inside, rfl, unmatched, -⟩ := scanning
  have place : (fetch.off + lfsTagDsize fetch.ptag).toNat = fetch.off.toNat + (lfsTagDsize fetch.ptag).toNat := by
    rw [UInt32.toNat_add]
    omega
  have four : (zeros 4).length = 4 := rfl
  have got := tag_read_run cfg image cb small cfg.blockSize fetch.dir.pair.first (fetch.off + lfsTagDsize fetch.ptag) (zeros 4) lfs state present
    (by omega) (by decide)
  rw [fetchTag, scanTurn, ← place]
  dsimp only
  generalize fetch.off + lfsTagDsize fetch.ptag = off at place got ⊢
  have length : ((blockBytes cfg image fetch.dir.pair.first).drop off.toNat).length = cfg.blockSize.toNat - off.toNat := by
    rw [List.length_drop, block_bytes_length]
  generalize known : (blockBytes cfg image fetch.dir.pair.first).drop off.toNat = raw at got length ⊢
  rw [four] at got
  refine (Lib.Prog.run_bind (directServer cfg image cb) (bdRead cfg.blockSize fetch.dir.pair.first off (zeros 4) lfs) _ state).trans ?_
  rw [got, Option.bind_some]
  by_cases short : raw.length < 4
  · rw [if_pos short, if_pos short]
    rfl
  · rw [if_neg short, if_neg short]
    dsimp only
    rw [if_neg (fun failed => failed rfl)]
    generalize lfsFrombe32 (raw.take 4) ^^^ fetch.ptag = tag
    by_cases valid : lfsTagIsvalid tag = true
    · obtain ⟨least, most⟩ := tag_dsize_bounds tag
      have sum : (off + lfsTagDsize tag).toNat = off.toNat + (lfsTagDsize tag).toNat := by
        rw [UInt32.toNat_add]
        omega
      have beyond : off + lfsTagDsize tag > cfg.blockSize ↔ raw.length < (lfsTagDsize tag).toNat := by
        rw [gt_iff_lt, UInt32.lt_iff_toNat_lt, sum]
        omega
      have sound : ¬ ¬ lfsTagIsvalid tag = true := fun other => other valid
      rw [if_neg sound, if_neg sound]
      by_cases long : raw.length < (lfsTagDsize tag).toNat
      · rw [if_pos (beyond.mpr long), if_pos long]
        rfl
      · rw [if_neg (fun more => long (beyond.mp more)), if_neg long]
        by_cases crc : lfsTagType1 tag = lfsTypeCrc
        · rw [if_pos crc, if_pos crc, ← known]
          exact fetch_crc_run cfg image cb small fetch off tag _ lfs state present (by omega)
        · have whole : raw.take (lfsTagDsize tag).toNat = raw.take 4 ++ (raw.drop 4).take ((lfsTagDsize tag).toNat - 4) := by
            rw [← List.take_add, Nat.add_sub_cancel' least]
          rw [if_neg crc, if_neg crc, whole, ← crc_append, ← known]
          exact fetch_entry_run cfg image cb small match_ fetch off tag _ lfs state present unmatched valid (by omega)
    · rw [if_pos valid, if_pos valid]
      rfl

end

-- What comes next reads as not programmed.
def Blank (ptag : UInt32) (raw : List UInt8) : Prop := 4 ≤ raw.length ∧ ¬ lfsTagIsvalid (lfsFrombe32 (raw.take 4) ^^^ ptag) = true

instance (ptag : UInt32) (raw : List UInt8) : Decidable (Blank ptag raw) := inferInstanceAs (Decidable (_ ∧ _))

theorem blank_ended {ptag crc : UInt32} {raw : List UInt8} (blank : Blank ptag raw) : Ended ptag crc raw := by
  intro entries etag rest commit
  cases commit with
  | crc _ _ tag _ at_ _ _ _ => exact blank.2 (by rw [at_.word]; exact at_.valid)
  | entry _ _ tag _ _ _ _ at_ _ _ _ => exact blank.2 (by rw [at_.word]; exact at_.valid)

def Mdir.scanned (cfg : Config) (dir : Mdir) (summary : Summary) (commits : List (List LogEntry)) (last : UInt32) (left : List UInt8) : Mdir :=
  if commits = [] then dir
  else { dir with
    off := UInt32.ofNat (cfg.blockSize.toNat - left.length)
    etag := last
    count := (commits.flatten.foldl Summary.enter summary).count
    tail := (commits.flatten.foldl Summary.enter summary).tail
    split := (commits.flatten.foldl Summary.enter summary).split }

theorem scanned_cons (cfg : Config) (dir : Mdir) (summary : Summary) (entries : List LogEntry) (commits : List (List LogEntry)) (etag last : UInt32)
    (rest left : List UInt8) (ends : commits = [] → etag = last ∧ rest = left) :
    (dir.scanned cfg summary [entries] etag rest).scanned cfg (entries.foldl Summary.enter summary) commits last left =
      dir.scanned cfg summary (entries :: commits) last left := by
  cases commits with
  | nil =>
      obtain ⟨rfl, rfl⟩ := ends rfl
      rfl
  | cons entries commits => simp [Mdir.scanned]

-- The scan may go on behind a log that ends with a program unit and has nothing
-- behind it.
def Mdir.stopped (cfg : Config) (dir : Mdir) (last : UInt32) (left : List UInt8) : Mdir :=
  { dir with erased := Blank last left ∧ lfsTagType1 last = lfsTypeCrc ∧ dir.off % cfg.progSize = 0 }

theorem next_ptag_dsize (tag : UInt32) : (lfsTagDsize (nextPtag tag)).toNat = (lfsTagDsize tag).toNat := by
  have low := next_ptag_low tag
  have size : (nextPtag tag).toNat % 1024 = tag.toNat % 1024 := by omega
  rw [tag_dsize_toNat, tag_dsize_toNat, size]

section
variable (cfg : Config) (image : Image) (small : cfg.blockSize.toNat < 2 ^ 31) (fetch : FetchState) (raw : List UInt8)
  (scanning : Scanning cfg image fetch raw)
include small scanning

theorem scanning_place : (fetch.off + lfsTagDsize fetch.ptag).toNat = fetch.off.toNat + (lfsTagDsize fetch.ptag).toNat ∧
    raw.length + (fetch.off.toNat + (lfsTagDsize fetch.ptag).toNat) = cfg.blockSize.toNat := by
  have inside := scanning.inside
  refine ⟨?_, ?_⟩
  · rw [UInt32.toNat_add]
    omega
  · rw [scanning.raw, List.length_drop, block_bytes_length]
    omega

theorem scanning_enter (tag crc : UInt32) (data : List UInt8) (at_ : TagAt fetch.ptag raw tag) :
    Scanning cfg image (fetch.enter (fetch.off + lfsTagDsize fetch.ptag) crc ⟨tag, data⟩) (raw.drop (lfsTagDsize tag).toNat) := by
  obtain ⟨place, length⟩ := scanning_place cfg image small fetch raw scanning
  have fits := at_.fits
  refine ⟨scanning.present, ?_, ?_, scanning.unmatched⟩
  · change (fetch.off + lfsTagDsize fetch.ptag).toNat + (lfsTagDsize tag).toNat ≤ _
    omega
  · change _ = (blockBytes cfg image fetch.dir.pair.first).drop ((fetch.off + lfsTagDsize fetch.ptag).toNat + (lfsTagDsize tag).toNat)
    rw [place, ← List.drop_drop, ← scanning.raw]

theorem scanning_commit (tag : UInt32) (at_ : TagAt fetch.ptag raw tag) :
    Scanning cfg image (fetch.commit (fetch.off + lfsTagDsize fetch.ptag) tag) (raw.drop (lfsTagDsize tag).toNat) := by
  obtain ⟨place, length⟩ := scanning_place cfg image small fetch raw scanning
  have fits := at_.fits
  refine ⟨scanning.present, ?_, ?_, scanning.unmatched.1, scanning.unmatched.1⟩
  · change (fetch.off + lfsTagDsize fetch.ptag).toNat + (lfsTagDsize (nextPtag tag)).toNat ≤ _
    rw [next_ptag_dsize]
    omega
  · change _ = (blockBytes cfg image fetch.dir.pair.first).drop ((fetch.off + lfsTagDsize fetch.ptag).toNat + (lfsTagDsize (nextPtag tag)).toNat)
    rw [next_ptag_dsize, place, ← List.drop_drop, ← scanning.raw]

theorem commit_off (tag : UInt32) (at_ : TagAt fetch.ptag raw tag) :
    fetch.off + lfsTagDsize fetch.ptag + lfsTagDsize tag = UInt32.ofNat (cfg.blockSize.toNat - (raw.drop (lfsTagDsize tag).toNat).length) := by
  obtain ⟨place, length⟩ := scanning_place cfg image small fetch raw scanning
  have fits := at_.fits
  apply UInt32.toNat_inj.mp
  rw [UInt32.toNat_add, place, UInt32.toNat_ofNat', List.length_drop]
  omega

end

theorem enter_crc (summary : Summary) (entry : LogEntry) (kind : lfsTagType1 entry.tag = lfsTypeCrc) : summary.enter entry = summary := by
  have name : ¬ lfsTagType1 entry.tag = lfsTypeName := by
    rw [kind]
    decide
  have splice : ¬ lfsTagType1 entry.tag = lfsTypeSplice := by
    rw [kind]
    decide
  have tail : ¬ lfsTagType1 entry.tag = lfsTypeTail := by
    rw [kind]
    decide
  rw [Summary.enter, if_neg name, if_neg splice, if_neg tail]

theorem turn_crc (cfg : Config) (fetch : FetchState) (raw : List UInt8) (tag : UInt32) (at_ : TagAt fetch.ptag raw tag)
    (kind : lfsTagType1 tag = lfsTypeCrc) (long : 8 ≤ raw.length) (same : lfsFromle32 ((raw.drop 4).take 4) = lfsCrc fetch.crc (raw.take 4)) :
    scanTurn cfg fetch raw = .next (fetch.commit (fetch.off + lfsTagDsize fetch.ptag) tag) := by
  have fits := at_.fits
  have sound : ¬ ¬ lfsTagIsvalid tag = true := fun other => other at_.valid
  rw [scanTurn, at_.word, if_neg (by omega), if_neg sound, if_neg (by omega), if_pos kind, if_neg (by omega),
    if_neg fun differs => differs same.symm]

theorem turn_entry (cfg : Config) (fetch : FetchState) (raw : List UInt8) (tag : UInt32) (at_ : TagAt fetch.ptag raw tag)
    (kind : lfsTagType1 tag ≠ lfsTypeCrc) (long : 4 + dataLength tag ≤ raw.length) :
    scanTurn cfg fetch raw = .next (fetch.enter (fetch.off + lfsTagDsize fetch.ptag) (lfsCrc fetch.crc (raw.take (lfsTagDsize tag).toNat))
      ⟨tag, (raw.drop 4).take (dataLength tag)⟩) := by
  have fits := at_.fits
  have sound : ¬ ¬ lfsTagIsvalid tag = true := fun other => other at_.valid
  rw [scanTurn, at_.word, if_neg (by omega), if_neg sound, if_neg (by omega), if_neg kind, if_neg (by omega)]

-- A turn of any other kind is the last.
theorem turn_last (cfg : Config) (fetch : FetchState) (raw : List UInt8)
    (crc : ¬ ∃ tag, TagAt fetch.ptag raw tag ∧ lfsTagType1 tag = lfsTypeCrc ∧ 8 ≤ raw.length ∧
      lfsFromle32 ((raw.drop 4).take 4) = lfsCrc fetch.crc (raw.take 4))
    (entry : ¬ ∃ tag, TagAt fetch.ptag raw tag ∧ lfsTagType1 tag ≠ lfsTypeCrc ∧ 4 + dataLength tag ≤ raw.length) :
    scanTurn cfg fetch raw =
      fetch.stop (Blank fetch.ptag raw ∧ lfsTagType1 fetch.ptag = lfsTypeCrc ∧ fetch.dir.off % cfg.progSize = 0) := by
  rw [scanTurn]
  generalize known : lfsFrombe32 (raw.take 4) ^^^ fetch.ptag = tag
  have programmed : lfsTagIsvalid tag = true → fetch.stop false =
      fetch.stop (Blank fetch.ptag raw ∧ lfsTagType1 fetch.ptag = lfsTypeCrc ∧ fetch.dir.off % cfg.progSize = 0) := by
    intro valid
    have blank : ¬ Blank fetch.ptag raw := fun blank => blank.2 (known ▸ valid)
    simp [blank]
  by_cases short : raw.length < 4
  · have blank : ¬ Blank fetch.ptag raw := fun blank => Nat.not_lt.mpr blank.1 short
    rw [if_pos short]
    simp [blank]
  · rw [if_neg short]
    by_cases valid : lfsTagIsvalid tag = true
    · have sound : ¬ ¬ lfsTagIsvalid tag = true := fun other => other valid
      rw [if_neg sound, ← programmed valid]
      by_cases fits : raw.length < (lfsTagDsize tag).toNat
      · rw [if_pos fits]
      · have at_ : TagAt fetch.ptag raw tag := ⟨by omega, known, valid, by omega⟩
        rw [if_neg fits]
        by_cases kind : lfsTagType1 tag = lfsTypeCrc
        · rw [if_pos kind]
          by_cases long : raw.length < 8
          · rw [if_pos long]
          · rw [if_neg long, if_pos fun same => crc ⟨tag, at_, kind, by omega, same.symm⟩]
        · rw [if_neg kind, if_pos (Nat.lt_of_not_le fun long => entry ⟨tag, at_, kind, long⟩)]
    · have blank : Blank fetch.ptag raw := ⟨by omega, known ▸ valid⟩
      rw [if_pos valid]
      simp [blank]

section
variable {δ : Type} (cfg : Config) (image : Image) (cb : Callback δ) (small : cfg.blockSize.toNat < 2 ^ 31) (match_ : TagMatch) (lfs : LfsBase)
  (state : δ)
include small

theorem scan_turn_run (fetch : FetchState) (raw : List UInt8) (scanning : Scanning cfg image fetch raw) (fuel : Nat) :
    (fetchScan cfg 0xffffffff 0xffffffff match_ (fuel + 1) fetch lfs).run (directServer cfg image cb) state =
      match scanTurn cfg fetch raw with
      | .next next => (fetchScan cfg 0xffffffff 0xffffffff match_ fuel next lfs).run (directServer cfg image cb) state
      | .stop besttag dir => some ((0, besttag, dir), state)
      | .fail err dir => some ((err, 0, dir), state) := by
  have turn := fetch_tag_run cfg image cb small match_ fetch raw scanning lfs state
  rw [fetchScan]
  refine (Lib.Prog.run_bind (directServer cfg image cb) (fetchTag cfg 0xffffffff 0xffffffff match_ fetch lfs) _ state).trans ?_
  rw [turn, Option.bind_some]
  cases scanTurn cfg fetch raw with
  | next next => rfl
  | stop besttag dir => rfl
  | fail err dir => rfl

theorem commit_run {ptag crc etag : UInt32} {raw rest : List UInt8} {entries : List LogEntry} (commit : CommitAt ptag crc raw entries etag rest) :
    ∀ (fetch : FetchState), fetch.ptag = ptag → fetch.crc = crc → Scanning cfg image fetch raw →
    ∃ next : FetchState, (∀ fuel, (fetchScan cfg 0xffffffff 0xffffffff match_ (fuel + entries.length) fetch lfs).run (directServer cfg image cb) state =
        (fetchScan cfg 0xffffffff 0xffffffff match_ fuel next lfs).run (directServer cfg image cb) state) ∧
      Scanning cfg image next rest ∧ next.ptag = etag ∧ next.crc = 0xffffffff ∧ next.summary = entries.foldl Summary.enter fetch.summary ∧
      next.dir = fetch.dir.scanned cfg fetch.summary [entries] etag rest := by
  induction commit with
  | crc ptag crc tag raw at_ kind long same =>
      rintro fetch rfl rfl scanning
      have turn := turn_crc cfg fetch raw tag at_ kind long same
      have same : [⟨tag, (raw.drop 4).take (dataLength tag)⟩].foldl Summary.enter fetch.summary = fetch.summary := enter_crc fetch.summary _ kind
      refine ⟨_, fun fuel => ?_, scanning_commit cfg image small fetch raw scanning tag at_, rfl, rfl, same.symm, ?_⟩
      · rw [List.length_singleton, scan_turn_run cfg image cb small match_ lfs state fetch raw scanning, turn]
      · rw [Mdir.scanned, if_neg (List.cons_ne_nil _ _), ← commit_off cfg image small fetch raw scanning tag at_, List.flatten_singleton, same]
        rfl
  | entry ptag crc tag etag raw rest entries at_ kind long _ ih =>
      rintro fetch rfl rfl scanning
      have turn := turn_entry cfg fetch raw tag at_ kind long
      obtain ⟨next, ran, scanned, last, crc, summary, dir⟩ := ih _ rfl rfl (scanning_enter cfg image small fetch raw scanning tag _ _ at_)
      refine ⟨next, fun fuel => ?_, scanned, last, crc, summary, dir⟩
      rw [List.length_cons, ← Nat.add_assoc, scan_turn_run cfg image cb small match_ lfs state fetch raw scanning, turn]
      exact ran fuel

theorem ended_run (fuel : Nat) : ∀ (fetch : FetchState) (raw : List UInt8), Scanning cfg image fetch raw → Ended fetch.ptag fetch.crc raw →
    raw.length < fuel → (fetchScan cfg 0xffffffff 0xffffffff match_ fuel fetch lfs).run (directServer cfg image cb) state =
      some ((0, 0xffffffff, fetch.dir.stopped cfg fetch.ptag raw), state) := by
  induction fuel with
  | zero => exact fun _ _ _ _ none => absurd none (Nat.not_lt_zero _)
  | succ fuel ih =>
      intro fetch raw scanning ended enough
      rw [scan_turn_run cfg image cb small match_ lfs state fetch raw scanning]
      by_cases entry : ∃ tag, TagAt fetch.ptag raw tag ∧ lfsTagType1 tag ≠ lfsTypeCrc ∧ 4 + dataLength tag ≤ raw.length
      · obtain ⟨tag, at_, kind, long⟩ := entry
        have least := (tag_dsize_bounds tag).1
        have fits := at_.fits
        have blank : ¬ Blank fetch.ptag raw := fun blank => blank.2 (by rw [at_.word]; exact at_.valid)
        have rest := ih _ _ (scanning_enter cfg image small fetch raw scanning tag (lfsCrc fetch.crc (raw.take (lfsTagDsize tag).toNat))
          ((raw.drop 4).take (dataLength tag)) at_) (fun entries etag rest commit => ended _ _ _ (.entry _ _ _ _ _ _ _ at_ kind long commit))
          (by rw [List.length_drop]; omega)
        rw [turn_entry cfg fetch raw tag at_ kind long]
        refine rest.trans ?_
        have stays : (fetch.enter (fetch.off + lfsTagDsize fetch.ptag) (lfsCrc fetch.crc (raw.take (lfsTagDsize tag).toNat))
            ⟨tag, (raw.drop 4).take (dataLength tag)⟩).dir = fetch.dir := rfl
        have last : (fetch.enter (fetch.off + lfsTagDsize fetch.ptag) (lfsCrc fetch.crc (raw.take (lfsTagDsize tag).toNat))
            ⟨tag, (raw.drop 4).take (dataLength tag)⟩).ptag = tag := rfl
        rw [stays, last, Mdir.stopped, Mdir.stopped]
        simp [blank, kind]
      · have crc : ¬ ∃ tag, TagAt fetch.ptag raw tag ∧ lfsTagType1 tag = lfsTypeCrc ∧ 8 ≤ raw.length ∧
            lfsFromle32 ((raw.drop 4).take 4) = lfsCrc fetch.crc (raw.take 4) := by
          rintro ⟨tag, at_, kind, long, same⟩
          exact ended _ _ _ (.crc _ _ _ _ at_ kind long same)
        rw [turn_last cfg fetch raw crc entry, FetchState.stop]
        dsimp only
        rw [scanning.unmatched.2]
        rfl

theorem log_run {ptag crc last next : UInt32} {raw left : List UInt8} {commits : List (List LogEntry)}
    (log : LogAt ptag crc raw commits last next left) (ended : Ended last next left) : ∀ (fetch : FetchState) (fuel : Nat), fetch.ptag = ptag →
    fetch.crc = crc → Scanning cfg image fetch raw → raw.length < fuel →
    (fetchScan cfg 0xffffffff 0xffffffff match_ fuel fetch lfs).run (directServer cfg image cb) state =
      some ((0, 0xffffffff, (fetch.dir.scanned cfg fetch.summary commits last left).stopped cfg last left), state) := by
  induction log with
  | nil ptag crc raw =>
      rintro fetch fuel rfl rfl scanning enough
      exact ended_run cfg image cb small match_ lfs state fuel fetch raw scanning ended enough
  | cons ptag crc etag last next raw rest left entries commits commit more ih =>
      rintro fetch fuel rfl rfl scanning enough
      have shorter := commit_at_shorter commit
      obtain ⟨after, ran, scanned, tag, crc, summary, dir⟩ := commit_run cfg image cb small match_ lfs state commit fetch rfl rfl scanning
      obtain ⟨turns, rfl⟩ : ∃ turns, fuel = turns + entries.length := ⟨fuel - entries.length, by omega⟩
      have ends : commits = [] → etag = last ∧ rest = left := by
        rintro rfl
        cases more
        exact ⟨rfl, rfl⟩
      rw [ran turns, ih ended after turns tag crc scanned (by omega), dir, summary, scanned_cons cfg _ _ _ _ _ _ _ _ ends]

end

def blockRev (cfg : Config) (image : Image) (block : UInt32) : UInt32 := lfsFromle32 ((blockBytes cfg image block).take 4)

-- The commits of a block, its revision count in front of them.
def BlockLog (cfg : Config) (image : Image) (block : UInt32) (commits : List (List LogEntry)) (last : UInt32) (left : List UInt8) : Prop :=
  WholeLog 0xffffffff (lfsCrc 0xffffffff ((blockBytes cfg image block).take 4)) ((blockBytes cfg image block).drop 4) commits last left

-- The block of a pair that was written last, and the other one.
def newestFirst (cfg : Config) (image : Image) (pair : Pair) : Pair :=
  if lfsScmp (blockRev cfg image pair.second) (blockRev cfg image pair.first) > 0 then ⟨pair.second, pair.first⟩ else pair

-- The lfs_mdir_t of a block with these commits, the last of them behind etag
-- last and in front of left.
def logMdir (cfg : Config) (pair : Pair) (rev : UInt32) (commits : List (List LogEntry)) (last : UInt32) (left : List UInt8) : Mdir where
  pair := pair
  rev := rev
  off := UInt32.ofNat (cfg.blockSize.toNat - left.length)
  etag := last
  count := (commits.flatten.foldl Summary.enter Summary.start).count
  erased := Blank last left ∧ lfsTagType1 last = lfsTypeCrc ∧ UInt32.ofNat (cfg.blockSize.toNat - left.length) % cfg.progSize = 0
  split := (commits.flatten.foldl Summary.enter Summary.start).split
  tail := (commits.flatten.foldl Summary.enter Summary.start).tail

-- Every id of a pair is less than the id of no file.
def foundTag (dir : Mdir) : Int32 := if 0x3ff < dir.count.toUInt32 then lfsErrNoent else 0

theorem found_unmatched (gdisk : Gstate) (dir : Mdir) :
    (fetchFound gdisk 0xffffffff dir).tag = foundTag dir ∧ (fetchFound gdisk 0xffffffff dir).dir = dir := by
  have id : lfsTagId 0xffffffff = 0x3ff := by decide
  have best : (if lfsGstateHasmovehere gdisk dir.pair then
      if lfsTagId gdisk.tag = lfsTagId 0xffffffff then (0xffffffff : UInt32) ||| 0x80000000
      else if (0xffffffff : UInt32) ≠ 0xffffffff ∧ lfsTagId gdisk.tag < lfsTagId 0xffffffff then 0xffffffff - lfsMktag 0 1 0
      else 0xffffffff
    else 0xffffffff) = 0xffffffff := by
    split
    · split
      · rfl
      · exact if_neg fun differs => differs.1 rfl
    · rfl
  refine ⟨?_, rfl⟩
  have invalid : ¬ lfsTagIsvalid 0xffffffff = true := by decide
  rw [fetchFound, best, foundTag, id]
  dsimp only
  rw [if_neg invalid]

section
variable {δ : Type} (cfg : Config) (image : Image) (cb : Callback δ) (small : cfg.blockSize.toNat < 2 ^ 31) (large : 4 ≤ cfg.blockSize.toNat)
  (match_ : TagMatch) (lfs : LfsBase) (state : δ)
include small large

theorem block_scan_run (dir : Mdir) (present : dir.pair.first < cfg.blockCount) (rev : dir.rev = blockRev cfg image dir.pair.first)
    {commits : List (List LogEntry)} {last : UInt32} {left : List UInt8} (log : BlockLog cfg image dir.pair.first commits last left) :
    (fetchScan cfg 0xffffffff 0xffffffff match_ cfg.blockSize.toNat
      { off := 0
        ptag := 0xffffffff
        tempcount := 0
        temptail := ⟨lfsBlockNull, lfsBlockNull⟩
        tempsplit := false
        tempbesttag := 0xffffffff
        crc := lfsCrc 0xffffffff (lfsTole32 dir.rev)
        besttag := 0xffffffff
        dir := dir } lfs).run (directServer cfg image cb) state =
      some ((0, 0xffffffff, (dir.scanned cfg Summary.start commits last left).stopped cfg last left), state) := by
  obtain ⟨next, log, ended⟩ := log
  have four : ((blockBytes cfg image dir.pair.first).take 4).length = 4 := by
    rw [List.length_take, block_bytes_length]
    omega
  have start : lfsTole32 dir.rev = (blockBytes cfg image dir.pair.first).take 4 := by rw [rev, blockRev, tole32_fromle32 _ four]
  have first : (lfsTagDsize 0xffffffff).toNat = 4 := by decide
  refine log_run cfg image cb small match_ lfs state log ended _ _ rfl ?_ ⟨present, ?_, ?_, rfl, rfl⟩ ?_
  · rw [start]
  · change 0 + (lfsTagDsize 0xffffffff).toNat ≤ _
    rw [first]
    exact large
  · change _ = (blockBytes cfg image dir.pair.first).drop (0 + (lfsTagDsize 0xffffffff).toNat)
    rw [first]
  · rw [List.length_drop, block_bytes_length]
    omega

theorem block_log_off {block : UInt32} {commits : List (List LogEntry)} {last : UInt32} {left : List UInt8}
    (log : BlockLog cfg image block commits last left) (some : commits ≠ []) :
    8 ≤ (UInt32.ofNat (cfg.blockSize.toNat - left.length)).toNat := by
  obtain ⟨next, log, -⟩ := log
  have shorter := log_at_shorter log
  have positive := List.length_pos_iff.mpr some
  rw [List.length_drop, block_bytes_length] at shorter
  rw [UInt32.toNat_ofNat']
  omega

theorem blocks_turn_run (dir : Mdir) (otherRev : UInt32) (attempts : Nat) (off : dir.off = 0) (rev : dir.rev = blockRev cfg image dir.pair.first)
    (present : dir.pair.first < cfg.blockCount) {commits : List (List LogEntry)} {last : UInt32} {left : List UInt8}
    (log : BlockLog cfg image dir.pair.first commits last left) :
    (commits ≠ [] → ∃ fetched, (fetchBlocks cfg 0xffffffff 0xffffffff match_ otherRev (attempts + 1) 0xffffffff dir lfs).run (directServer cfg image cb) state =
        some (fetched, state) ∧ fetched.dir = logMdir cfg dir.pair dir.rev commits last left ∧ fetched.tag = foundTag fetched.dir) ∧
      (commits = [] → ∃ erased, (fetchBlocks cfg 0xffffffff 0xffffffff match_ otherRev (attempts + 1) 0xffffffff dir lfs).run (directServer cfg image cb) state =
        (fetchBlocks cfg 0xffffffff 0xffffffff match_ otherRev attempts 0xffffffff
          { dir with erased := erased, pair := ⟨dir.pair.second, dir.pair.first⟩, rev := otherRev } lfs).run (directServer cfg image cb) state) := by
  have scan := block_scan_run cfg image cb small large match_ lfs state dir present rev log
  refine ⟨fun some => ?_, fun none => ?_⟩
  · have found := found_unmatched lfs.gdisk (logMdir cfg dir.pair dir.rev commits last left)
    have dirs : (dir.scanned cfg Summary.start commits last left).stopped cfg last left = logMdir cfg dir.pair dir.rev commits last left := by
      rw [Mdir.scanned, if_neg some]
      rfl
    have positive : (logMdir cfg dir.pair dir.rev commits last left).off > 0 := by
      have least := block_log_off cfg image small large log some
      rw [gt_iff_lt, UInt32.lt_iff_toNat_lt]
      exact Nat.lt_of_lt_of_le (by decide) least
    refine ⟨fetchFound lfs.gdisk 0xffffffff (logMdir cfg dir.pair dir.rev commits last left), ?_, found.2, found.1.trans (by rw [found.2])⟩
    rw [fetchBlocks]
    refine (Lib.Prog.run_bind (directServer cfg image cb) (fetchScan cfg 0xffffffff 0xffffffff match_ cfg.blockSize.toNat _ lfs) _ state).trans ?_
    rw [scan, dirs, Option.bind_some]
    dsimp only
    rw [if_neg (fun failed => failed rfl), if_pos positive]
    rfl
  · refine ⟨((dir.scanned cfg Summary.start commits last left).stopped cfg last left).erased, ?_⟩
    have zero : ¬ ((dir.scanned cfg Summary.start commits last left).stopped cfg last left).off > 0 := by
      rw [none]
      change ¬ dir.off > 0
      rw [off]
      decide
    rw [fetchBlocks]
    refine (Lib.Prog.run_bind (directServer cfg image cb) (fetchScan cfg 0xffffffff 0xffffffff match_ cfg.blockSize.toNat _ lfs) _ state).trans ?_
    rw [scan, Option.bind_some]
    dsimp only
    rw [if_neg (fun failed => failed rfl), if_neg zero]
    rw [none]
    rfl

theorem rev_read_run (block : UInt32) (present : block < cfg.blockCount) :
    (bdRead 4 block 0 (lfsTole32 0) lfs).run (directServer cfg image cb) state = some ((0, (blockBytes cfg image block).take 4), state) := by
  have word : (lfsTole32 0).length = 4 := rfl
  have got := tag_read_run cfg image cb small 4 block 0 (lfsTole32 0) lfs state present (Nat.zero_le _) (by decide)
  have long : ¬ ((blockBytes cfg image block).drop (0 : UInt32).toNat).length < (lfsTole32 0).length := by
    rw [List.length_drop, block_bytes_length, UInt32.toNat_zero, word]
    omega
  rw [got, if_neg long, word]
  rfl

-- What a fetch returns of two blocks with these commits, the first of them
-- tried first.
structure PairFetched (cfg : Config) (image : Image) (pair : Pair) (commits others : List (List LogEntry)) (last final : UInt32)
    (left rest : List UInt8) (tag : Int32) (fetched : Mdir) : Prop where
  newer : commits ≠ [] → fetched = logMdir cfg pair (blockRev cfg image pair.first) commits last left ∧ tag = foundTag fetched
  older : commits = [] → others ≠ [] →
    fetched = logMdir cfg ⟨pair.second, pair.first⟩ (blockRev cfg image pair.second) others final rest ∧ tag = foundTag fetched
  none : commits = [] → others = [] → tag = lfsErrCorrupt

theorem fetch_blocks_run (dir : Mdir) (off : dir.off = 0) (rev : dir.rev = blockRev cfg image dir.pair.first)
    (present : dir.pair.first < cfg.blockCount ∧ dir.pair.second < cfg.blockCount)
    {commits others : List (List LogEntry)} {last final : UInt32} {left rest : List UInt8}
    (log : BlockLog cfg image dir.pair.first commits last left) (other : BlockLog cfg image dir.pair.second others final rest) :
    ∃ fetched, (fetchBlocks cfg 0xffffffff 0xffffffff match_ (blockRev cfg image dir.pair.second) 2 0xffffffff dir lfs).run (directServer cfg image cb)
        state = some (fetched, state) ∧ PairFetched cfg image dir.pair commits others last final left rest fetched.tag fetched.dir := by
  obtain ⟨first, again⟩ := blocks_turn_run cfg image cb small large match_ lfs state dir (blockRev cfg image dir.pair.second) 1 off rev present.1 log
  by_cases some : commits = []
  · obtain ⟨erased, next⟩ := again some
    obtain ⟨second, last⟩ := blocks_turn_run cfg image cb small large match_ lfs state
      { dir with erased := erased, pair := ⟨dir.pair.second, dir.pair.first⟩, rev := blockRev cfg image dir.pair.second }
      (blockRev cfg image dir.pair.second) 0 off rfl present.2 other
    by_cases more : others = []
    · obtain ⟨erased, ends⟩ := last more
      exact ⟨_, next.trans ends, fun differs => absurd some differs, fun _ differs => absurd more differs, fun _ _ => rfl⟩
    · obtain ⟨fetched, ran, found, tag⟩ := second more
      exact ⟨fetched, next.trans ran, fun differs => absurd some differs, fun _ _ => ⟨found, tag⟩, fun _ none => absurd none more⟩
  · obtain ⟨fetched, ran, found, tag⟩ := first some
    rw [rev] at found
    exact ⟨fetched, ran, fun _ => ⟨found, tag⟩, fun none => absurd none some, fun none => absurd none some⟩

theorem dir_fetch_run (dir : Mdir) (pair : Pair) (present : pair.first < cfg.blockCount ∧ pair.second < cfg.blockCount)
    {commits others : List (List LogEntry)} {last final : UInt32} {left rest : List UInt8}
    (log : BlockLog cfg image (newestFirst cfg image pair).first commits last left)
    (other : BlockLog cfg image (newestFirst cfg image pair).second others final rest) :
    ∃ tag fetched, (lfsDirFetch cfg dir pair lfs).run (directServer cfg image cb) state = some ((tag, fetched), state) ∧
      PairFetched cfg image (newestFirst cfg image pair) commits others last final left rest tag fetched := by
  have absent : ¬ (pair.first ≥ cfg.blockCount ∨ pair.second ≥ cfg.blockCount) := by
    rintro (beyond | beyond)
    · exact UInt32.not_le.mpr present.1 beyond
    · exact UInt32.not_le.mpr present.2 beyond
  have first := rev_read_run cfg image cb small large lfs state pair.first present.1
  have second := rev_read_run cfg image cb small large lfs state pair.second present.2
  have matched : ∀ next, next = newestFirst cfg image pair → ∃ fetched,
      (fetchBlocks cfg 0xffffffff 0xffffffff (fun _ _ => endless) (blockRev cfg image next.second) 2 0xffffffff
        { dir with pair := next, rev := blockRev cfg image next.first, off := 0 } lfs).run (directServer cfg image cb) state = some (fetched, state) ∧
      PairFetched cfg image (newestFirst cfg image pair) commits others last final left rest fetched.tag fetched.dir := by
    rintro next rfl
    refine fetch_blocks_run cfg image cb small large _ lfs state
      { dir with pair := newestFirst cfg image pair, rev := blockRev cfg image (newestFirst cfg image pair).first, off := 0 } rfl rfl ?_ log other
    rw [newestFirst]
    split
    · exact ⟨present.2, present.1⟩
    · exact present
  have ran : ∃ fetched, (lfsDirFetchmatch cfg dir pair 0xffffffff 0xffffffff (fun _ _ => endless) lfs).run (directServer cfg image cb) state =
      some (fetched, state) ∧ PairFetched cfg image (newestFirst cfg image pair) commits others last final left rest fetched.tag fetched.dir := by
    have fine : ¬ ((0 : Int32) ≠ 0 ∧ (0 : Int32) ≠ lfsErrCorrupt) := fun failed => failed.1 rfl
    have reads : (lfsDirFetchmatch cfg dir pair 0xffffffff 0xffffffff (fun _ _ => endless) lfs).run (directServer cfg image cb) state =
        (fetchBlocks cfg 0xffffffff 0xffffffff (fun _ _ => endless) (blockRev cfg image (newestFirst cfg image pair).second) 2 0xffffffff
          { dir with
            pair := newestFirst cfg image pair
            rev := blockRev cfg image (newestFirst cfg image pair).first
            off := 0 } lfs).run (directServer cfg image cb) state := by
      rw [lfsDirFetchmatch, if_neg absent]
      refine (Lib.Prog.run_bind (directServer cfg image cb) (bdRead 4 pair.first 0 (lfsTole32 0) lfs) _ state).trans ?_
      rw [first, Option.bind_some]
      dsimp only
      rw [if_neg fine]
      refine (Lib.Prog.run_bind (directServer cfg image cb) (bdRead 4 pair.second 0 (lfsTole32 0) lfs) _ state).trans ?_
      rw [second, Option.bind_some]
      dsimp only
      rw [if_neg fine, newestFirst]
      by_cases later : lfsScmp (blockRev cfg image pair.second) (blockRev cfg image pair.first) > 0
      · have newer : (0 : Int32) ≠ lfsErrCorrupt ∧
            lfsScmp (lfsFromle32 ((blockBytes cfg image pair.second).take 4)) (lfsFromle32 ((blockBytes cfg image pair.first).take 4)) > 0 :=
          ⟨by decide, later⟩
        rw [if_pos newer, if_pos later]
        rfl
      · rw [if_neg fun newer => later newer.2, if_neg later]
        rfl
    rw [reads]
    exact matched _ rfl
  obtain ⟨fetched, went, known⟩ := ran
  refine ⟨fetched.tag, fetched.dir, ?_, known⟩
  rw [lfsDirFetch]
  refine (Lib.Prog.run_bind (directServer cfg image cb) (lfsDirFetchmatch cfg dir pair 0xffffffff 0xffffffff (fun _ _ => endless) lfs) _ state).trans ?_
  rw [went]
  rfl

-- Whatever the blocks of a pair hold: lfs_dir_fetch returns the pair as the
-- longest run of whole commits of the newer block has it, where that has none
-- the one of the other block, and an error where neither has any.
theorem dir_fetch_exact (dir : Mdir) (pair : Pair) (present : pair.first < cfg.blockCount ∧ pair.second < cfg.blockCount) :
    ∃ commits others last final left rest tag fetched, BlockLog cfg image (newestFirst cfg image pair).first commits last left ∧
      BlockLog cfg image (newestFirst cfg image pair).second others final rest ∧
      (lfsDirFetch cfg dir pair lfs).run (directServer cfg image cb) state = some ((tag, fetched), state) ∧
      PairFetched cfg image (newestFirst cfg image pair) commits others last final left rest tag fetched := by
  obtain ⟨commits, last, left, log⟩ := whole_log_exists _ 0xffffffff _ _ (Nat.le_refl _)
  obtain ⟨others, final, rest, other⟩ := whole_log_exists _ 0xffffffff _ _ (Nat.le_refl _)
  obtain ⟨tag, fetched, ran, known⟩ := dir_fetch_run cfg image cb small large lfs state dir pair present log other
  exact ⟨commits, others, last, final, left, rest, tag, fetched, log, other, ran, known⟩

end

-- A pair with one commit in its first block, of one page, and a page that is
-- not written behind it.
def pairConfig : Config := ⟨512, 512, 1024, 16, -1, 512, 8192, 0, 0, 0⟩

def pairCommit : List UInt8 := [0x01, 0x00, 0x00, 0x00, 0xaf, 0xf0, 0x02, 0x07, 0xaa, 0xad, 0xe9, 0x5a]

def pairImage : Image := fun block off => if block = 0 then pairCommit.getD off.toNat 0xff else 0xff

def pairEntry : LogEntry := ⟨0x500ffdf8, [0xaa, 0xad, 0xe9, 0x5a] ++ List.replicate 500 0xff⟩

theorem pair_log : BlockLog pairConfig pairImage 0 [[pairEntry]] 0x500ffdf8 (List.replicate 512 0xff) := by
  have read : readCommit 2 0xffffffff (lfsCrc 0xffffffff ((blockBytes pairConfig pairImage 0).take 4)) ((blockBytes pairConfig pairImage 0).drop 4) =
      some ([pairEntry], 0x500ffdf8, List.replicate 512 0xff) := by decide +kernel
  have blank : Blank 0x500ffdf8 (List.replicate 512 0xff) := by decide +kernel
  exact ⟨0xffffffff, .cons _ _ _ _ _ _ _ _ _ _ (read_commit_at 2 _ _ _ _ _ _ read) (.nil _ _ _), blank_ended blank⟩

theorem pair_newest : newestFirst pairConfig pairImage ⟨0, 1⟩ = ⟨0, 1⟩ := by decide +kernel

theorem pair_fetched : ∃ fetched, (lfsDirFetch pairConfig (Mdir.ofTail ⟨0, 1⟩) ⟨0, 1⟩ zeroLfs.toLfsBase).run
      (directServer pairConfig pairImage fun (log : List UInt32) block => (0, log ++ [block])) [] = some ((0, fetched), []) ∧
    fetched.rev = 1 ∧ fetched.off = 512 ∧ fetched.erased = true ∧ fetched.count = 0 := by
  obtain ⟨commits, others, last, final, left, rest, tag, fetched, log, -, ran, known⟩ :=
    dir_fetch_exact pairConfig pairImage (fun (log : List UInt32) block => (0, log ++ [block])) (by decide) (by decide) zeroLfs.toLfsBase []
      (Mdir.ofTail ⟨0, 1⟩) ⟨0, 1⟩ (by decide)
  rw [pair_newest] at log known
  obtain ⟨rfl, rfl, rfl⟩ := whole_log_unique log pair_log
  obtain ⟨rfl, rfl⟩ := known.newer (List.cons_ne_nil _ _)
  have tag : foundTag (logMdir pairConfig ⟨0, 1⟩ (blockRev pairConfig pairImage 0) [[pairEntry]] 0x500ffdf8 (List.replicate 512 0xff)) = 0 := by
    decide +kernel
  rw [tag] at ran
  exact ⟨_, ran, by decide +kernel⟩

end SDCardFs.Littlefs
