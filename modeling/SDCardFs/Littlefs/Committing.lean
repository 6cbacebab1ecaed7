import SDCardFs.Littlefs.Encode
import SDCardFs.Littlefs.ProgCache

set_option autoImplicit false

namespace SDCardFs.Littlefs

-- The places of a block that were programmed.
def Programmed (block : UInt32) (begin size : Nat) (other off : UInt32) : Prop := other = block ∧ begin ≤ off.toNat ∧ off.toNat < begin + size

-- bytes were put behind begin in a block, some of them still in a cache.
structure Writing (cfg : Config) (image : Image) (block : UInt32) (begin : Nat) (bytes : List UInt8) (caches : Caches) (card : Image) : Prop where
  unflushed : ∃ sent, Unflushed image block begin bytes sent caches.pcache card
  coherent : CoherentBut cfg image (Programmed block begin bytes.length) caches.rcache
  aligned : Aligned cfg caches.rcache

-- How far a commit is.
structure Reached (cfg : Config) (block : UInt32) (begin : Nat) (bytes : List UInt8) (commit : Commit) : Prop where
  block : commit.block = block
  off : commit.off.toNat = begin + bytes.length
  crc : commit.crc = lfsCrc 0xffffffff bytes
  start : commit.begin.toNat = begin
  limit : commit.limit.toNat = cfg.blockSize.toNat - 8
  inside : begin + bytes.length ≤ cfg.blockSize.toNat

-- What the buffer of an entry with this tag has in memory, or on the device in
-- front of begin.
def Given (cfg : Config) (image : Image) (block : UInt32) (begin : Nat) (tag : UInt32) (buffer : TagBuffer) (data : List UInt8) : Prop :=
  data.length = (lfsTagDsize tag - 4).toNat ∧
    if tag &&& 0x80000000 = 0 then data = buffer.memory (lfsTagDsize tag - 4).toNat
    else buffer.place.1 < cfg.blockCount ∧ buffer.place.2.toNat + data.length ≤ (if buffer.place.1 = block then begin else cfg.blockSize.toNat) ∧
      data = directBytes none image buffer.place.1 buffer.place.2 data.length

theorem coherent_but_more (cfg : Config) (image : Image) (stale more : UInt32 → UInt32 → Prop) (rcache : Cache)
    (coherent : CoherentBut cfg image stale rcache) (sub : ∀ block off, stale block off → more block off) : CoherentBut cfg image more rcache :=
  fun present p inside fresh => coherent present p inside fun stale => fresh (sub _ _ stale)

theorem programmed_more (block : UInt32) (begin size more : Nat) (le : size ≤ more) (other off : UInt32)
    (programmed : Programmed block begin size other off) : Programmed block begin more other off :=
  ⟨programmed.1, programmed.2.1, by have less := programmed.2.2; omega⟩

theorem writing_same {cfg : Config} {image : Image} {block : UInt32} {begin : Nat} {bytes : List UInt8} {caches : Caches} {card : Image}
    (writing : Writing cfg image block begin bytes caches card) (other off : UInt32) (fresh : ¬ Programmed block begin bytes.length other off) :
    card other off = image other off := by
  obtain ⟨sent, page, part, written, -⟩ := writing.unflushed
  rw [written, Image.write, if_neg]
  rintro ⟨same, least, less⟩
  rw [List.length_take] at less
  exact fresh ⟨same, least, by omega⟩

theorem tag_room (tag : UInt32) : (lfsTagDsize tag - 4).toNat = (lfsTagDsize tag).toNat - 4 ∧ (lfsTagDsize tag).toNat < 1028 ∧ 4 ≤ (lfsTagDsize tag).toNat := by
  have bounds := tag_dsize_toNat tag
  have four : (4 : UInt32) ≤ lfsTagDsize tag := by
    rw [UInt32.le_iff_toNat_le, bounds]
    exact Nat.le_add_right 4 _
  rw [UInt32.toNat_sub_of_le _ _ four]
  refine ⟨rfl, ?_, ?_⟩
  · rw [bounds]
    split
    · omega
    · omega
  · omega

section
variable {σ : Type}

theorem bd_bind_run {α β : Type} (serve : Lib.Prog.Server Access Access.Response σ) (call : BdM α) (rest : α → BdM β) (caches between : Caches)
    (card middle : σ) (result : α) (ran : (call caches).run serve card = some ((result, between), middle)) :
    ((call >>= rest) caches).run serve card = (rest result between).run serve middle := by
  refine (Lib.Prog.run_bind serve (call caches) _ card).trans ?_
  rw [ran]
  rfl

variable (cfg : Config) (below : Below σ) (contents : σ → Image) (paged : Paged cfg)
include paged

theorem cache_prog_run (stores : below.Stores contents) (image : Image) (block off : UInt32) (begin : Nat) (bytes data : List UInt8) (caches : Caches)
    (card : σ) (present : block < cfg.blockCount) (ordinary : block ≠ lfsBlockInline) (here : off.toNat = begin + bytes.length)
    (inside : begin + bytes.length + data.length ≤ cfg.blockSize.toNat) (writing : Writing cfg image block begin bytes caches (contents card)) :
    ∃ caches' after, (cacheProg cfg block off data caches).run below.access card = some ((0, caches'), after) ∧
      Writing cfg image block begin (bytes ++ data) caches' (contents after) := by
  obtain ⟨⟨sent, unflushed⟩, coherent, aligned⟩ := writing
  obtain ⟨sent', pcache', after, ran, still⟩ :=
    bd_prog_run cfg below contents stores image paged block begin sent off data bytes caches.pcache caches.rcache card present ordinary unflushed here
      inside
  refine ⟨⟨caches.rcache, pcache'⟩, after, ?_, ⟨sent', still⟩, ?_, aligned⟩
  · refine (Lib.Prog.run_bind below.access (Calls.lfsBdProg cfg caches.pcache caches.rcache false block off data) _ card).trans ?_
    rw [ran]
    rfl
  · refine coherent_but_more cfg image _ _ _ coherent (programmed_more block begin _ _ ?_)
    rw [List.length_append]
    omega

theorem cache_read_run (holds : below.Holds contents) (image : Image) (block : UInt32) (begin : Nat) (bytes : List UInt8) (hint other off : UInt32)
    (data : List UInt8) (caches : Caches) (card : σ) (hinting : Hinting hint) (noWrap : off.toNat + data.length < 2 ^ 32)
    (fresh : ∀ p, p < data.length → ¬ Programmed block begin bytes.length other (off + UInt32.ofNat p))
    (writing : Writing cfg image block begin bytes caches (contents card)) :
    ∃ caches' after, (cacheRead cfg hint other off data caches).run below.access card = some ((directRead cfg image none other off data, caches'), after) ∧
      contents after = contents card ∧ Writing cfg image block begin bytes caches' (contents after) := by
  obtain ⟨rcache, ran, coherent, aligned⟩ := bd_read_but cfg image (Programmed block begin bytes.length) (contents card) (writing_same writing) paged
    caches.rcache hint other off data hinting noWrap writing.coherent writing.aligned fresh
  obtain ⟨after, went, kept⟩ := card_run below contents holds _ (bd_read_reads cfg none caches.rcache hint other off data) card _ ran
  refine ⟨{ caches with rcache := rcache }, after, ?_, kept, ?_, coherent, aligned⟩
  · refine (Lib.Prog.run_bind below.access (Calls.lfsBdRead cfg none caches.rcache hint other off data) _ card).trans ?_
    rw [went]
    rfl
  · rw [kept]
    exact writing.unflushed

theorem commitprog_run (stores : below.Stores contents) (image : Image) (block : UInt32) (begin : Nat) (bytes buffer : List UInt8) (commit : Commit)
    (caches : Caches) (card : σ) (present : block < cfg.blockCount) (ordinary : block ≠ lfsBlockInline) (reached : Reached cfg block begin bytes commit)
    (inside : begin + bytes.length + buffer.length ≤ cfg.blockSize.toNat) (writing : Writing cfg image block begin bytes caches (contents card)) :
    ∃ commit' caches' after, (lfsDirCommitprog cfg commit buffer caches).run below.access card = some (((0, commit'), caches'), after) ∧
      Reached cfg block begin (bytes ++ buffer) commit' ∧ commit'.ptag = commit.ptag ∧
      Writing cfg image block begin (bytes ++ buffer) caches' (contents after) := by
  have blocks := paged.small
  obtain ⟨same, off, crc, start, limit, -⟩ := reached
  obtain ⟨caches', after, ran, still⟩ :=
    cache_prog_run cfg below contents paged stores image block commit.off begin bytes buffer caches card present ordinary off inside writing
  refine ⟨{ commit with crc := lfsCrc commit.crc buffer, off := commit.off + UInt32.ofNat buffer.length }, caches', after, ?_,
    ⟨same, ?_, ?_, start, limit, by rw [List.length_append]; omega⟩, rfl, still⟩
  · rw [lfsDirCommitprog, same, bd_bind_run below.access _ _ caches caches' card after 0 ran, if_neg fun failed => failed rfl]
    rfl
  · rw [List.length_append, offset_toNat commit.off buffer.length (by omega), off]
    omega
  · rw [crc, crc_append]

variable (stores : below.Stores contents) (holds : below.Holds contents)

include stores holds in
theorem commit_from_disk_run (image : Image) (block : UInt32) (begin : Nat) (present : block < cfg.blockCount) (ordinary : block ≠ lfsBlockInline)
    (other off : UInt32) (valid : other < cfg.blockCount) (count : Nat) :
    ∀ (i : UInt32) (bytes : List UInt8) (commit : Commit) (caches : Caches) (card : σ), count < 1024 → off.toNat + i.toNat < 2 ^ 31 →
    off.toNat + i.toNat + count ≤ (if other = block then begin else cfg.blockSize.toNat) → begin + bytes.length + count ≤ cfg.blockSize.toNat →
    Reached cfg block begin bytes commit → Writing cfg image block begin bytes caches (contents card) →
    ∃ commit' caches' after, (commitFromDisk cfg other off count i commit caches).run below.access card = some (((0, commit'), caches'), after) ∧
      Reached cfg block begin (bytes ++ directBytes none image other (off + i) count) commit' ∧ commit'.ptag = commit.ptag ∧
      Writing cfg image block begin (bytes ++ directBytes none image other (off + i) count) caches' (contents after) := by
  have blocks := paged.small
  induction count with
  | zero =>
      intro i bytes commit caches card _ _ _ _ reached writing
      have nothing : directBytes none image other (off + i) 0 = [] := rfl
      rw [nothing, List.append_nil]
      exact ⟨commit, caches, card, rfl, reached, rfl, writing⟩
  | succ count ih =>
      intro i bytes commit caches card few low source inside reached writing
      have limit : (if other = block then begin else cfg.blockSize.toNat) ≤ cfg.blockSize.toNat := by
        split
        · omega
        · exact Nat.le_refl _
      have place : (off + i).toNat = off.toNat + i.toNat := by
        rw [UInt32.toNat_add]
        omega
      have hinting : Hinting (UInt32.ofNat (count + 1)) := by
        rw [Hinting, UInt32.toNat_ofNat']
        omega
      have fresh : ∀ p, p < [(0 : UInt8)].length → ¬ Programmed block begin bytes.length other (off + i + UInt32.ofNat p) := by
        rintro p less ⟨same, least, -⟩
        rw [List.length_singleton] at less
        rw [if_pos same] at source
        rw [offset_toNat (off + i) p (by omega), place] at least
        omega
      obtain ⟨between, middle, read, -, still⟩ := cache_read_run cfg below contents paged holds image block begin bytes (UInt32.ofNat (count + 1)) other
        (off + i) [0] caches card hinting (by rw [List.length_singleton]; omega) fresh writing
      have got : directRead cfg image none other (off + i) [0] = (0, directBytes none image other (off + i) 1) := by
        rw [directRead, if_neg]
        · rfl
        · rintro (beyond | beyond)
          · exact UInt32.not_le.mpr valid beyond
          · rw [gt_iff_lt, UInt32.lt_iff_toNat_lt, offset_toNat (off + i) _ (by rw [List.length_singleton]; omega), place, List.length_singleton] at beyond
            omega
      rw [got] at read
      have one := direct_bytes_length none image other (off + i) 1
      obtain ⟨commit', caches', last, progd, reached', same, writing'⟩ := commitprog_run cfg below contents paged stores image block begin bytes
        (directBytes none image other (off + i) 1) commit between middle present ordinary reached (by omega) still
      have next : (i + 1).toNat = i.toNat + 1 := offset_toNat i 1 (by omega)
      have behind : off + (i + 1) = off + i + UInt32.ofNat 1 := (UInt32.add_assoc off i 1).symm
      have whole : bytes ++ directBytes none image other (off + i) (count + 1) =
          bytes ++ directBytes none image other (off + i) 1 ++ directBytes none image other (off + (i + 1)) count := by
        rw [Nat.add_comm count, direct_bytes_add, List.append_assoc, behind]
      obtain ⟨final, caches'', after, rest, reached'', same', writing''⟩ := ih (i + 1) _ commit' caches' last (by omega) (by omega) (by omega)
        (by rw [List.length_append]; omega) reached' writing'
      rw [whole]
      refine ⟨final, caches'', after, ?_, reached'', same'.trans same, writing''⟩
      rw [commitFromDisk, bd_bind_run below.access _ _ caches between card middle _ read]
      dsimp only
      rw [if_neg fun failed => failed rfl, bd_bind_run below.access _ _ between caches' middle last _ progd]
      dsimp only
      rw [if_neg fun failed => failed rfl]
      exact rest

include stores holds in
theorem commitattr_run (image : Image) (block : UInt32) (begin : Nat) (bytes data : List UInt8) (tag : UInt32) (buffer : TagBuffer) (commit : Commit)
    (caches : Caches) (card : σ) (present : block < cfg.blockCount) (ordinary : block ≠ lfsBlockInline) (reached : Reached cfg block begin bytes commit)
    (given : Given cfg image block begin tag buffer data) (fits : ¬ commit.off + lfsTagDsize tag > commit.limit)
    (writing : Writing cfg image block begin bytes caches (contents card)) :
    ∃ commit' caches' after, (lfsDirCommitattr cfg commit tag buffer caches).run below.access card = some (((0, commit'), caches'), after) ∧
      Reached cfg block begin (bytes ++ entriesBytes commit.ptag [⟨tag &&& 0x7fffffff, data⟩]) commit' ∧ commit'.ptag = tag &&& 0x7fffffff ∧
      Writing cfg image block begin (bytes ++ entriesBytes commit.ptag [⟨tag &&& 0x7fffffff, data⟩]) caches' (contents after) := by
  have blocks := paged.small
  obtain ⟨room, few, least⟩ := tag_room tag
  obtain ⟨length, source⟩ := given
  have off := reached.off
  have limit := reached.limit
  have inside := reached.inside
  have sum : (commit.off + lfsTagDsize tag).toNat ≤ commit.limit.toNat := UInt32.le_iff_toNat_le.mp (UInt32.not_lt.mp fits)
  have number : (commit.off + lfsTagDsize tag).toNat = commit.off.toNat + (lfsTagDsize tag).toNat := by
    rw [UInt32.toNat_add]
    omega
  have four := tobe32_length ((tag &&& 0x7fffffff) ^^^ commit.ptag)
  obtain ⟨first, between, middle, tagged, reached', same, writing'⟩ := commitprog_run cfg below contents paged stores image block begin bytes
    (lfsTobe32 ((tag &&& 0x7fffffff) ^^^ commit.ptag)) commit caches card present ordinary reached (by omega) writing
  have whole : bytes ++ entriesBytes commit.ptag [⟨tag &&& 0x7fffffff, data⟩] = bytes ++ lfsTobe32 ((tag &&& 0x7fffffff) ^^^ commit.ptag) ++ data := by
    rw [entriesBytes, entriesBytes, List.append_nil, List.append_assoc]
  have behind : (bytes ++ lfsTobe32 ((tag &&& 0x7fffffff) ^^^ commit.ptag)).length = bytes.length + 4 := by rw [List.length_append, four]
  have held : ∃ second caches' after,
      (commitData cfg first tag buffer (lfsTagDsize tag - 4).toNat between).run below.access middle = some (((0, second), caches'), after) ∧
      Reached cfg block begin (bytes ++ lfsTobe32 ((tag &&& 0x7fffffff) ^^^ commit.ptag) ++ data) second ∧
      Writing cfg image block begin (bytes ++ lfsTobe32 ((tag &&& 0x7fffffff) ^^^ commit.ptag) ++ data) caches' (contents after) := by
    by_cases memory : tag &&& 0x80000000 = 0
    · rw [if_pos memory] at source
      obtain ⟨second, caches', after, ran, reached'', -, writing''⟩ := commitprog_run cfg below contents paged stores image block begin _
        (buffer.memory (lfsTagDsize tag - 4).toNat) first between middle present ordinary reached' (by rw [← source]; omega) writing'
      rw [commitData, if_pos memory, source]
      exact ⟨second, caches', after, ran, reached'', writing''⟩
    · rw [if_neg memory] at source
      obtain ⟨valid, stretch, held⟩ := source
      obtain ⟨second, caches', after, ran, reached'', -, writing''⟩ := commit_from_disk_run cfg below contents paged stores holds image block begin present
        ordinary buffer.place.1 buffer.place.2 valid data.length 0 _ first between middle (by omega)
        (by rw [UInt32.toNat_zero]; split at stretch <;> omega) (by rw [UInt32.toNat_zero]; omega) (by omega) reached' writing'
      rw [UInt32.add_zero, ← held] at reached'' writing''
      rw [commitData, if_neg memory, ← length]
      exact ⟨second, caches', after, ran, reached'', writing''⟩
  obtain ⟨second, caches', after, ran, reached'', writing''⟩ := held
  rw [whole]
  refine ⟨{ second with ptag := tag &&& 0x7fffffff }, caches', after, ?_, ⟨reached''.block, reached''.off, reached''.crc, reached''.start, reached''.limit,
    reached''.inside⟩, rfl, writing''⟩
  rw [lfsDirCommitattr, if_neg fits, bd_bind_run below.access _ _ caches between card middle _ tagged]
  dsimp only
  rw [if_neg fun failed => failed rfl, bd_bind_run below.access _ _ between caches' middle after _ ran]
  rfl

end

end SDCardFs.Littlefs
