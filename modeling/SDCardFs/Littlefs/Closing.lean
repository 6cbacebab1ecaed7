import SDCardFs.Littlefs.Committing
import SDCardFs.Littlefs.Fetch

set_option autoImplicit false

namespace SDCardFs.Littlefs

-- The word behind a commit, 0xffffffff behind the end of the block.
def erasedWord (cfg : Config) (image : Image) (block off : UInt32) : UInt32 :=
  lfsFrombe32 (directRead cfg image none block off (lfsTole32 0xffffffff)).2

-- Whether the top bit of the next tag is to be inverted.
def resetBit (cfg : Config) (image : Image) (block off : UInt32) : UInt32 := (~~~ erasedWord cfg image block off) >>> 31

def closingTag (cfg : Config) (image : Image) (block off last : UInt32) : UInt32 :=
  lfsMktag (lfsTypeCrc + resetBit cfg image block last) 0x3ff (last - (off + 4))

theorem reset_toNat (cfg : Config) (image : Image) (block off : UInt32) :
    (resetBit cfg image block off).toNat = 1 - (erasedWord cfg image block off).toNat / 2 ^ 31 := by
  have small := (erasedWord cfg image block off).toNat_lt
  rw [resetBit, shift_toNat _ 31 (by decide), UInt32.toNat_not]
  have steps : (31 : UInt32).toNat = 31 := rfl
  have words : UInt32.size = 2 ^ 32 := rfl
  rw [steps, words]
  omega

theorem closing_type (cfg : Config) (image : Image) (block last : UInt32) :
    (lfsTypeCrc + resetBit cfg image block last).toNat = 1280 + (resetBit cfg image block last).toNat ∧
      (lfsTypeCrc + resetBit cfg image block last).toNat < 2 ^ 11 := by
  have reset := reset_toNat cfg image block last
  have number : lfsTypeCrc.toNat = 1280 := rfl
  rw [UInt32.toNat_add, number]
  omega

section
variable (cfg : Config) (image : Image) (block off last : UInt32) (room : off.toNat + 8 ≤ last.toNat) (near : last.toNat < off.toNat + 1000)
include room near

theorem closing_size : (last - (off + 4)).toNat = last.toNat - off.toNat - 4 := by
  have four : (off + 4).toNat = off.toNat + 4 := by
    have small := last.toNat_lt
    rw [UInt32.toNat_add]
    simp only [UInt32.reduceToNat]
    omega
  rw [UInt32.toNat_sub_of_le _ _ (by rw [UInt32.le_iff_toNat_le]; omega), four]
  omega

theorem closing_toNat : (closingTag cfg image block off last).toNat =
    (1280 + (resetBit cfg image block last).toNat) * 2 ^ 20 + 1023 * 2 ^ 10 + (last.toNat - off.toNat - 4) := by
  have reset := reset_toNat cfg image block last
  have size := closing_size off last room near
  obtain ⟨type, narrow⟩ := closing_type cfg image block last
  rw [closingTag, mktag_toNat _ _ _ narrow (by decide) (by omega), type, size]
  rfl

theorem closing_tag (padding : List UInt8) (length : off.toNat + 8 + padding.length = last.toNat) : Closing (closingTag cfg image block off last) padding := by
  have number := closing_toNat cfg image block off last room near
  have reset := reset_toNat cfg image block last
  refine ⟨?_, ?_, ?_⟩
  · rw [tag_valid_iff, number]
    omega
  · apply UInt32.toNat_inj.mp
    rw [tag_type1_toNat, number]
    have crc : lfsTypeCrc.toNat = 1280 := rfl
    omega
  · rw [tag_dsize_toNat, number]
    split
    · omega
    · omega

-- The next tag as the bytes behind have it is none.
theorem closing_blank : nextPtag (closingTag cfg image block off last) = closingTag cfg image block off last ^^^ (resetBit cfg image block last <<< 31) ∧
    ¬ lfsTagIsvalid (erasedWord cfg image block last ^^^ nextPtag (closingTag cfg image block off last)) = true := by
  have number := closing_toNat cfg image block off last room near
  have reset := reset_toNat cfg image block last
  have small := (erasedWord cfg image block last).toNat_lt
  have chunk : lfsTagChunk (closingTag cfg image block off last) &&& 1 = resetBit cfg image block last := by
    apply UInt32.toNat_inj.mp
    have one : (1 : UInt32).toNat = 1 := rfl
    rw [UInt32.toNat_and, tag_chunk_toNat, number, one, Nat.and_one_is_mod]
    omega
  refine ⟨by rw [nextPtag, chunk], ?_⟩
  have shift : (31 : UInt32).toNat % 32 = 31 := rfl
  have high : (resetBit cfg image block last <<< 31).toNat = (resetBit cfg image block last).toNat * 2 ^ 31 := by
    rw [UInt32.toNat_shiftLeft, shift, Nat.shiftLeft_eq]
    omega
  rw [tag_valid_iff, nextPtag, chunk]
  intro valid
  have top : (erasedWord cfg image block last ^^^ (closingTag cfg image block off last ^^^ resetBit cfg image block last <<< 31)).toNat / 2 ^ 31 = 0 := by
    omega
  have low : (closingTag cfg image block off last).toNat / 2 ^ 31 = 0 := by
    rw [number]
    omega
  rw [UInt32.toNat_xor, UInt32.toNat_xor, Nat.xor_div_two_pow, Nat.xor_div_two_pow, high, low, Nat.mul_div_cancel _ (by decide), Nat.zero_xor] at top
  have same := Nat.xor_eq_zero_iff.mp top
  omega

end

section
variable {σ : Type} (cfg : Config) (below : Below σ) (contents : σ → Image) (paged : Paged cfg) (stores : below.Stores contents)
  (holds : below.Holds contents) (image : Image) (block : UInt32) (begin : Nat) (present : block < cfg.blockCount) (ordinary : block ≠ lfsBlockInline)

include paged in
theorem page_end (off : UInt32) (room : off.toNat + 8 ≤ cfg.blockSize.toNat) :
    (lfsAlignup (off + 8) cfg.progSize).toNat = off.toNat + 519 - (off.toNat + 519) % 512 ∧
      (lfsAlignup (off + 8) cfg.progSize).toNat ≤ cfg.blockSize.toNat := by
  have blocks := paged.small
  have pages := paged.pages
  have behind : (off + 8).toNat = off.toNat + 8 := by
    rw [UInt32.toNat_add]
    simp only [UInt32.reduceToNat]
    omega
  rw [paged.progSize, alignup_toNat, behind]
  omega

include paged stores holds present ordinary in
-- One CRC tag fills what is left of a page.
theorem commit_crc_tags_run (bytes : List UInt8) (commit : Commit) (caches : Caches) (card : σ) (fuel : Nat)
    (reached : Reached cfg block begin bytes commit) (room : commit.off.toNat + 8 ≤ cfg.blockSize.toNat)
    (writing : Writing cfg image block begin bytes caches (contents card)) :
    ∃ caches' after,
      (commitCrcTags cfg (lfsAlignup (commit.off + 8) cfg.progSize) (fuel + 2) commit caches).run below.access card =
        some (((0, { commit with
          off := lfsAlignup (commit.off + 8) cfg.progSize
          ptag := nextPtag (closingTag cfg image block commit.off (lfsAlignup (commit.off + 8) cfg.progSize))
          crc := 0xffffffff }), caches'), after) ∧
      Writing cfg image block begin
        (bytes ++ crcBytes commit.ptag commit.crc (closingTag cfg image block commit.off (lfsAlignup (commit.off + 8) cfg.progSize))) caches'
        (contents after) := by
  have blocks := paged.small
  obtain ⟨number, within⟩ := page_end cfg paged commit.off room
  generalize lfsAlignup (commit.off + 8) cfg.progSize = last at number within ⊢
  have off := reached.off
  have four : (commit.off + 4).toNat = commit.off.toNat + 4 := by
    rw [UInt32.toNat_add]
    simp only [UInt32.reduceToNat]
    omega
  have near : last.toNat < commit.off.toNat + 1000 := by omega
  have size := closing_size commit.off last (by omega) near
  have closing := closing_tag cfg image block commit.off last (by omega) near (List.replicate (last.toNat - commit.off.toNat - 8) 0)
    (by rw [List.length_replicate]; omega)
  have blank := closing_blank cfg image block commit.off last (by omega) near
  have before : commit.off < last := by
    rw [UInt32.lt_iff_toNat_lt]
    omega
  have noff : lfsMin (last - (commit.off + 4)) 0x3fe + (commit.off + 4) = last := by
    have all : lfsMin (last - (commit.off + 4)) 0x3fe = last - (commit.off + 4) := by
      apply UInt32.toNat_inj.mp
      rw [lfs_min_toNat, size]
      simp only [UInt32.reduceToNat]
      omega
    rw [all, UInt32.sub_add_cancel]
  have ends : ¬ last < last := UInt32.lt_irrefl last
  have word : (lfsTole32 0xffffffff).length = 4 := rfl
  have fresh : ∀ p, p < (lfsTole32 0xffffffff).length → ¬ Programmed block begin bytes.length block (last + UInt32.ofNat p) := by
    rintro p less ⟨-, -, before⟩
    rw [word] at less
    rw [offset_toNat last p (by omega)] at before
    omega
  obtain ⟨between, middle, read, -, still⟩ := cache_read_run cfg below contents paged holds image block begin bytes 4 block last
    (lfsTole32 0xffffffff) caches card ⟨by decide, by decide⟩ (by rw [word]; omega) fresh writing
  have erased : lfsFrombe32 (directRead cfg image none block last (lfsTole32 0xffffffff)).2 = erasedWord cfg image block last := rfl
  have fine : (directRead cfg image none block last (lfsTole32 0xffffffff)).1 = 0 ∨
      (directRead cfg image none block last (lfsTole32 0xffffffff)).1 = lfsErrCorrupt := by
    rw [directRead]
    split
    · exact Or.inr rfl
    · exact Or.inl rfl
  generalize directRead cfg image none block last (lfsTole32 0xffffffff) = got at read erased fine
  obtain ⟨err, word⟩ := got
  have sound : ¬ (err ≠ 0 ∧ err ≠ lfsErrCorrupt) := by
    rintro ⟨failed, other⟩
    rcases fine with none | corrupt
    · exact failed none
    · exact other corrupt
  dsimp only at erased sound
  have bit : (~~~ lfsFrombe32 word) >>> 31 = resetBit cfg image block last := by rw [erased, resetBit]
  have tagged : lfsMktag (lfsTypeCrc + resetBit cfg image block last) 0x3ff (last - (commit.off + 4)) = closingTag cfg image block commit.off last := rfl
  have footer : lfsTobe32 (closingTag cfg image block commit.off last ^^^ commit.ptag) ++
      lfsTole32 (lfsCrc commit.crc (lfsTobe32 (closingTag cfg image block commit.off last ^^^ commit.ptag))) =
      crcBytes commit.ptag commit.crc (closingTag cfg image block commit.off last) := rfl
  have long := crc_bytes_length commit.ptag commit.crc (closingTag cfg image block commit.off last)
  obtain ⟨caches', after, progd, writing'⟩ := cache_prog_run cfg below contents paged stores image block commit.off begin bytes
    (crcBytes commit.ptag commit.crc (closingTag cfg image block commit.off last)) between middle present ordinary off (by omega) still
  have moved : commit.off + 4 + lfsTagSize (closingTag cfg image block commit.off last) = last := by
    have three := (mktag_fields (lfsTypeCrc + resetBit cfg image block last) 0x3ff (last - (commit.off + 4))
      (closing_type cfg image block last).2 (by decide) (by omega)).2.2
    rw [← tagged, three, UInt32.add_comm, UInt32.sub_add_cancel]
  refine ⟨caches', after, ?_, writing'⟩
  rw [commitCrcTags, if_pos before]
  dsimp only
  rw [noff, if_neg ends, reached.block, bd_bind_run below.access _ _ caches between card middle _ read]
  dsimp only
  rw [if_neg sound, bit, tagged, footer, bd_bind_run below.access _ _ between caches' middle after _ progd, if_neg fun failed => failed rfl, moved, commitCrcTags]
  dsimp only
  rw [if_neg ends, blank.1]
  rfl

-- With nothing on its way to the device the image is what is on it.
def Idle (cfg : Config) (image : Image) (caches : Caches) : Prop :=
  caches.pcache.block = lfsBlockNull ∧ CoherentBut cfg image (fun _ _ => False) caches.rcache ∧ Aligned cfg caches.rcache

include paged holds in
theorem idle_read_run (hint other off : UInt32) (data : List UInt8) (caches : Caches) (card : σ) (hinting : Hinting hint)
    (noWrap : off.toNat + data.length < 2 ^ 32) (idle : Idle cfg (contents card) caches) :
    ∃ caches' after, (cacheRead cfg hint other off data caches).run below.access card =
        some ((directRead cfg (contents card) none other off data, caches'), after) ∧
      contents after = contents card ∧ Idle cfg (contents after) caches' := by
  obtain ⟨null, coherent, aligned⟩ := idle
  obtain ⟨rcache, ran, coherent, aligned⟩ := bd_read_but cfg (contents card) (fun _ _ => False) (contents card) (fun _ _ _ => rfl) paged caches.rcache
    hint other off data hinting noWrap coherent aligned (fun _ _ => id)
  obtain ⟨after, went, kept⟩ := card_run below contents holds _ (bd_read_reads cfg none caches.rcache hint other off data) card _ ran
  refine ⟨{ caches with rcache := rcache }, after, ?_, kept, null, by rw [kept]; exact coherent, aligned⟩
  refine (Lib.Prog.run_bind below.access (Calls.lfsBdRead cfg none caches.rcache hint other off data) _ card).trans ?_
  rw [went]
  rfl

include paged holds present in
theorem check_crc_run (off1 crc1 noff : UInt32) (reach : noff.toNat + 4 ≤ cfg.blockSize.toNat) (count : Nat) :
    ∀ (i crc : UInt32) (caches : Caches) (card : σ), i.toNat + count = noff.toNat + 4 →
    (∀ k, k < count → i + UInt32.ofNat k = off1 → lfsCrc crc (directBytes none (contents card) block i k) = crc1) → Idle cfg (contents card) caches →
    ∃ caches' after, (checkCrc cfg block off1 crc1 noff count i crc caches).run below.access card =
        some (((0, lfsCrc crc (directBytes none (contents card) block i count)), caches'), after) ∧
      contents after = contents card ∧ Idle cfg (contents after) caches' := by
  have blocks := paged.small
  induction count with
  | zero => exact fun i crc caches card _ _ idle => ⟨caches, card, rfl, rfl, idle⟩
  | succ count ih =>
      intro i crc caches card place guard idle
      have hint : (noff + 4 - i).toNat = count + 1 := by
        have four : (noff + 4).toNat = noff.toNat + 4 := by
          rw [UInt32.toNat_add]
          simp only [UInt32.reduceToNat]
          omega
        rw [UInt32.toNat_sub_of_le _ _ (by rw [UInt32.le_iff_toNat_le]; omega), four]
        omega
      obtain ⟨between, middle, read, same, still⟩ := idle_read_run cfg below contents paged holds (noff + 4 - i) block i [0] caches card
        ⟨by omega, by omega⟩ (by rw [List.length_singleton]; omega) idle
      have got : directRead cfg (contents card) none block i [0] = (0, directBytes none (contents card) block i 1) := by
        rw [directRead, if_neg]
        · rfl
        · rintro (beyond | beyond)
          · exact UInt32.not_le.mpr present beyond
          · rw [gt_iff_lt, UInt32.lt_iff_toNat_lt, offset_toNat i _ (by rw [List.length_singleton]; omega), List.length_singleton] at beyond
            omega
      rw [got] at read
      have next : (i + 1).toNat = i.toNat + 1 := offset_toNat i 1 (by omega)
      have split (k : Nat) : lfsCrc (lfsCrc crc (directBytes none (contents card) block i 1)) (directBytes none (contents card) block (i + 1) k) =
          lfsCrc crc (directBytes none (contents card) block i (k + 1)) := by
        rw [crc_append, Nat.add_comm k, direct_bytes_add]
        rfl
      have later : ∀ k, k < count → i + 1 + UInt32.ofNat k = off1 →
          lfsCrc (lfsCrc crc (directBytes none (contents card) block i 1)) (directBytes none (contents middle) block (i + 1) k) = crc1 := by
        intro k less here
        rw [same, split]
        refine guard (k + 1) (by omega) ?_
        rw [Nat.add_comm, UInt32.ofNat_add, ← UInt32.add_assoc]
        exact here
      obtain ⟨caches', after, rest, kept, last⟩ := ih (i + 1) (lfsCrc crc (directBytes none (contents card) block i 1)) between middle (by omega) later still
      have passed : ¬ (i = off1 ∧ crc ≠ crc1) := by
        rintro ⟨here, other⟩
        refine other (guard 0 (by omega) ?_)
        rw [here]
        exact UInt32.add_zero off1
      refine ⟨caches', after, ?_, kept.trans same, last⟩
      rw [checkCrc, if_neg passed, bd_bind_run below.access _ _ caches between card middle _ read]
      dsimp only
      rw [if_neg fun failed => failed rfl, rest, same, split]

include paged holds present in
theorem check_commits_run (off1 crc1 last start : UInt32) (fuel : Nat) (caches : Caches) (card : σ) (before : start.toNat ≤ off1.toNat)
    (room : off1.toNat + 8 ≤ last.toNat) (near : last.toNat < off1.toNat + 1000) (within : last.toNat ≤ cfg.blockSize.toNat)
    (front : lfsCrc 0xffffffff (directBytes none (contents card) block start (off1.toNat - start.toNat)) = crc1)
    (whole : lfsCrc 0xffffffff (directBytes none (contents card) block start (off1.toNat + 8 - start.toNat)) = 0) (idle : Idle cfg (contents card) caches) :
    ∃ caches' after, (checkCommits cfg block off1 crc1 last (fuel + 2) start (off1 + 4) caches).run below.access card =
        some ((0, caches'), after) ∧
      contents after = contents card ∧ Idle cfg (contents after) caches' := by
  have blocks := paged.small
  have first : (off1 + 4).toNat = off1.toNat + 4 := by
    rw [UInt32.toNat_add]
    simp only [UInt32.reduceToNat]
    omega
  have second : (off1 + 4 + 4).toNat = off1.toNat + 8 := by
    rw [UInt32.toNat_add, first]
    simp only [UInt32.reduceToNat]
    omega
  have noff : lfsMin (last - (off1 + 4)) 0x3fe + (off1 + 4) = last := by
    have all : lfsMin (last - (off1 + 4)) 0x3fe = last - (off1 + 4) := by
      apply UInt32.toNat_inj.mp
      rw [lfs_min_toNat, closing_size off1 last room near]
      simp only [UInt32.reduceToNat]
      omega
    rw [all, UInt32.sub_add_cancel]
  have guard : ∀ k, k < off1.toNat + 8 - start.toNat → start + UInt32.ofNat k = off1 →
      lfsCrc 0xffffffff (directBytes none (contents card) block start k) = crc1 := by
    intro k less here
    have place : (start + UInt32.ofNat k).toNat = start.toNat + k := offset_toNat start k (by omega)
    rw [here] at place
    have same : k = off1.toNat - start.toNat := by omega
    rw [same]
    exact front
  obtain ⟨caches', after, ran, kept, still⟩ := check_crc_run cfg below contents paged holds block present off1 crc1 (off1 + 4) (by omega)
    (off1.toNat + 8 - start.toNat) start 0xffffffff caches card (by omega) guard idle
  rw [whole] at ran
  have inside : start < last := by
    rw [UInt32.lt_iff_toNat_lt]
    omega
  have ends : ¬ last < last := UInt32.lt_irrefl last
  refine ⟨caches', after, ?_, kept, still⟩
  rw [checkCommits, if_pos inside, second, bd_bind_run below.access _ _ caches caches' card after _ ran]
  dsimp only
  rw [if_neg fun failed => failed rfl, if_neg fun failed => failed rfl, noff, if_neg ends, checkCommits, if_neg ends]
  rfl

theorem written_bytes (off : UInt32) (data : List UInt8) (count : Nat) (here : off.toNat = begin) (inside : count ≤ data.length)
    (noWrap : begin + count < 2 ^ 32) : directBytes none (image.write block begin data) block off count = data.take count := by
  apply List.ext_getElem
  · rw [direct_bytes_length, List.length_take]
    omega
  · intro p first second
    rw [direct_bytes_length] at first
    have place : (off + UInt32.ofNat p).toNat = begin + p := by rw [offset_toNat off p (by omega), here]
    simp only [directBytes, Lib.slice, List.getElem_map, List.getElem_range, Nat.zero_add, byteAt, Image.write, List.getElem_take]
    have there : True ∧ begin ≤ (off + UInt32.ofNat p).toNat ∧ (off + UInt32.ofNat p).toNat < begin + data.length := ⟨trivial, by omega, by omega⟩
    rw [if_pos there, place, Nat.add_sub_cancel_left, List.getD_eq_getElem _ _ (by omega)]

include paged stores holds present ordinary in
-- The end of a commit: all of it is on the device, and read back there.
theorem commitcrc_run (bytes : List UInt8) (commit : Commit) (caches : Caches) (card : σ) (reached : Reached cfg block begin bytes commit)
    (room : commit.off.toNat + 8 ≤ cfg.blockSize.toNat) (writing : Writing cfg image block begin bytes caches (contents card)) :
    ∃ padding commit' caches' after, (lfsDirCommitcrc cfg commit caches).run below.access card = some (((0, commit'), caches'), after) ∧
      commit'.off = lfsAlignup (commit.off + 8) cfg.progSize ∧
      commit'.ptag = nextPtag (closingTag cfg image block commit.off (lfsAlignup (commit.off + 8) cfg.progSize)) ∧
      commit.off.toNat + 8 + padding.length = (lfsAlignup (commit.off + 8) cfg.progSize).toNat ∧
      contents after = image.write block begin (bytes ++
        crcBytes commit.ptag commit.crc (closingTag cfg image block commit.off (lfsAlignup (commit.off + 8) cfg.progSize)) ++ padding) ∧
      Idle cfg (contents after) caches' := by
  have blocks := paged.small
  obtain ⟨number, within⟩ := page_end cfg paged commit.off room
  have fuel : cfg.blockSize.toNat + 1 = cfg.blockSize.toNat - 1 + 2 := by omega
  obtain ⟨between, middle, tagged, writing'⟩ := commit_crc_tags_run cfg below contents paged stores holds image block begin present ordinary bytes commit
    caches card (cfg.blockSize.toNat - 1) reached room writing
  rw [← fuel] at tagged
  rw [lfsDirCommitcrc]
  dsimp only
  generalize lfsAlignup (commit.off + 8) cfg.progSize = last at number within tagged writing' ⊢
  generalize made : closingTag cfg image block commit.off last = tag at tagged writing' ⊢
  have long := crc_bytes_length commit.ptag commit.crc tag
  obtain ⟨⟨sent, unflushed⟩, -, -⟩ := writing'
  have page := unflushed.page
  obtain ⟨padding, pcache, synced, ran, null, few, pages, stored⟩ := sync_run cfg below contents stores image paged block begin sent _ between.pcache
    between.rcache middle present ordinary unflushed
  have off := reached.off
  have start := reached.start
  rw [List.length_append, List.length_append, long] at pages
  have sync : (cacheSync cfg between).run below.access middle = some ((0, ⟨Calls.lfsCacheDrop between.rcache, pcache⟩), synced) := by
    refine (Lib.Prog.run_bind below.access (Calls.lfsBdSync cfg between.pcache between.rcache false) _ middle).trans ?_
    rw [ran]
    rfl
  have idle : Idle cfg (contents synced) ⟨Calls.lfsCacheDrop between.rcache, pcache⟩ :=
    ⟨null, fun here => absurd here (null_beyond cfg), aligned_beyond cfg _ rfl⟩
  have whole := written_bytes image block begin commit.begin (bytes ++ crcBytes commit.ptag commit.crc tag ++ padding)
  have front : lfsCrc 0xffffffff (directBytes none (contents synced) block commit.begin (commit.off.toNat - commit.begin.toNat)) = commit.crc := by
    have part : commit.off.toNat - commit.begin.toNat = bytes.length := by omega
    rw [part, stored, whole bytes.length start (by simp only [List.length_append]; omega) (by omega), List.append_assoc, List.take_left, reached.crc]
  have all : lfsCrc 0xffffffff (directBytes none (contents synced) block commit.begin (commit.off.toNat + 8 - commit.begin.toNat)) = 0 := by
    have part : commit.off.toNat + 8 - commit.begin.toNat = (bytes ++ crcBytes commit.ptag commit.crc tag).length := by
      rw [List.length_append]
      omega
    rw [part, stored, whole _ start (by simp only [List.length_append]; omega) (by simp only [List.length_append]; omega), List.take_left, ← crc_append,
      ← reached.crc, crcBytes, ← crc_append, crc_own]
  obtain ⟨caches', after, checked, kept, still⟩ := check_commits_run cfg below contents paged holds block present commit.off commit.crc last commit.begin
    (cfg.blockSize.toNat - 1) ⟨Calls.lfsCacheDrop between.rcache, pcache⟩ synced (by omega) (by omega) (by omega) within front all idle
  rw [← fuel] at checked
  refine ⟨padding, { commit with off := last, ptag := nextPtag tag, crc := 0xffffffff }, caches', after, ?_, rfl, rfl, by omega, kept.trans stored, still⟩
  rw [bd_bind_run below.access _ _ caches between card middle _ tagged]
  dsimp only
  rw [if_neg fun failed => failed rfl, bd_bind_run below.access _ _ between _ middle synced _ sync, if_neg fun failed => failed rfl, reached.block,
    bd_bind_run below.access _ _ _ caches' synced after _ checked]
  rfl

end

end SDCardFs.Littlefs
