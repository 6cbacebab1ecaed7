import SDCardFs.Littlefs.Fetch

set_option autoImplicit false

namespace SDCardFs.Littlefs

-- All that the scan takes of an entry is inside it.
def LogEntry.Snug (entry : LogEntry) : Prop :=
  4 + dataLength entry.tag ≤ (lfsTagDsize entry.tag).toNat ∧ (lfsTagType1 entry.tag = lfsTypeCrc → 8 ≤ (lfsTagDsize entry.tag).toNat)

theorem part_kept {raw other : List UInt8} {bound : Nat} (same : other.take bound = raw.take bound) (start length : Nat)
    (inside : start + length ≤ bound) : (other.drop start).take length = (raw.drop start).take length := by
  have part (bytes : List UInt8) : (bytes.drop start).take length = ((bytes.take bound).drop start).take length := by
    rw [List.drop_take, List.take_take, Nat.min_eq_left (by omega)]
  rw [part other, part raw, same]

theorem tag_kept {raw other : List UInt8} {ptag tag : UInt32} {bound : Nat} (at_ : TagAt ptag raw tag) (length : other.length = raw.length)
    (same : other.take bound = raw.take bound) (inside : 4 ≤ bound) : TagAt ptag other tag := by
  have first := part_kept same 0 4 (by omega)
  rw [List.drop_zero, List.drop_zero] at first
  exact ⟨by rw [length]; exact at_.long, by rw [first]; exact at_.word, at_.valid, by rw [length]; exact at_.fits⟩

theorem commit_at_rest {ptag crc etag : UInt32} {raw rest : List UInt8} {entries : List LogEntry}
    (commit : CommitAt ptag crc raw entries etag rest) : rest = raw.drop (raw.length - rest.length) := by
  induction commit with
  | crc ptag crc tag raw at_ _ _ _ =>
      have fits := at_.fits
      rw [List.length_drop]
      congr 1
      omega
  | entry ptag crc tag etag raw rest entries at_ _ _ commit ih =>
      have fits := at_.fits
      have shorter := (commit_at_shorter commit).1
      rw [List.length_drop] at shorter ih
      have place : (lfsTagDsize tag).toNat + (raw.length - (lfsTagDsize tag).toNat - rest.length) = raw.length - rest.length := by omega
      rw [List.drop_drop, place] at ih
      exact ih

-- A commit is what it is whatever comes behind it.
theorem commit_at_kept {ptag crc etag : UInt32} {raw rest : List UInt8} {entries : List LogEntry}
    (commit : CommitAt ptag crc raw entries etag rest) : ∀ (other : List UInt8), (∀ entry ∈ entries, entry.Snug) → other.length = raw.length →
    other.take (raw.length - rest.length) = raw.take (raw.length - rest.length) →
    CommitAt ptag crc other entries etag (other.drop (raw.length - rest.length)) := by
  induction commit with
  | crc ptag crc tag raw at_ kind long sum =>
      intro other snug length same
      have data : 4 + dataLength tag ≤ (lfsTagDsize tag).toNat := (snug _ List.mem_cons_self).1
      have enough : 8 ≤ (lfsTagDsize tag).toNat := (snug _ List.mem_cons_self).2 kind
      have fits := at_.fits
      have used : raw.length - (raw.drop (lfsTagDsize tag).toNat).length = (lfsTagDsize tag).toNat := by
        rw [List.length_drop]
        omega
      rw [used] at same ⊢
      have first := part_kept same 0 4 (by omega)
      have second := part_kept same 4 4 (by omega)
      have behind := part_kept same 4 (dataLength tag) data
      rw [List.drop_zero, List.drop_zero] at first
      rw [← behind]
      exact .crc _ _ _ _ (tag_kept at_ length same (by omega)) kind (by omega) (by rw [second, first]; exact sum)
  | entry ptag crc tag etag raw rest entries at_ kind long commit ih =>
      intro other snug length same
      have data : 4 + dataLength tag ≤ (lfsTagDsize tag).toNat := (snug _ List.mem_cons_self).1
      have shorter := (commit_at_shorter commit).1
      have least := (tag_dsize_bounds tag).1
      have fits := at_.fits
      rw [List.length_drop] at shorter
      have used : (raw.drop (lfsTagDsize tag).toNat).length - rest.length = raw.length - rest.length - (lfsTagDsize tag).toNat := by
        rw [List.length_drop]
        omega
      have whole := part_kept same 0 (lfsTagDsize tag).toNat (by omega)
      have later := part_kept same (lfsTagDsize tag).toNat (raw.length - rest.length - (lfsTagDsize tag).toNat) (by omega)
      have behind := part_kept same 4 (dataLength tag) (by omega)
      rw [List.drop_zero, List.drop_zero] at whole
      have more := ih (other.drop (lfsTagDsize tag).toNat) (fun entry member => snug entry (List.mem_cons_of_mem _ member))
        (by rw [List.length_drop, List.length_drop, length]) (by rw [used]; exact later)
      rw [used, List.drop_drop, Nat.add_sub_cancel' (by omega)] at more
      rw [← behind]
      exact .entry _ _ _ _ _ _ _ (tag_kept at_ length same (by omega)) kind (by omega) (by rw [whole]; exact more)

theorem log_at_kept {ptag crc last next : UInt32} {raw left : List UInt8} {commits : List (List LogEntry)}
    (log : LogAt ptag crc raw commits last next left) : ∀ (other : List UInt8), (∀ entry ∈ commits.flatten, entry.Snug) → other.length = raw.length →
    other.take (raw.length - left.length) = raw.take (raw.length - left.length) →
    LogAt ptag crc other commits last next (other.drop (raw.length - left.length)) := by
  induction log with
  | nil =>
      intro other _ _ _
      rw [Nat.sub_self, List.drop_zero]
      exact .nil _ _ _
  | cons ptag crc etag last next raw rest left entries commits commit log ih =>
      intro other snug length same
      have shorter := (commit_at_shorter commit).1
      have fewer := log_at_shorter log
      have first := part_kept same 0 (raw.length - rest.length) (by omega)
      have later := part_kept same (raw.length - rest.length) (rest.length - left.length) (by omega)
      rw [List.drop_zero, List.drop_zero] at first
      have here := commit_at_kept commit other (fun entry member => snug entry (List.mem_append_left _ member)) length first
      have tail := commit_at_rest commit
      have more := ih (other.drop (raw.length - rest.length)) (fun entry member => snug entry (List.mem_append_right _ member))
        (by rw [List.length_drop, length]; omega) (by rw [later, ← tail])
      rw [List.drop_drop] at more
      have sum : raw.length - rest.length + (rest.length - left.length) = raw.length - left.length := by omega
      rw [sum] at more
      exact .cons _ _ _ _ _ _ _ _ _ _ here more

theorem log_next {ptag crc last next : UInt32} {raw left : List UInt8} {commits : List (List LogEntry)}
    (log : LogAt ptag crc raw commits last next left) : commits = [] ∨ next = 0xffffffff := by
  induction log with
  | nil => exact Or.inl rfl
  | cons ptag crc etag last next raw rest left entries commits commit log ih =>
      refine Or.inr ?_
      rcases ih with rfl | same
      · cases log
        rfl
      · exact same

-- A block keeps its commits through any change behind them.
theorem block_log_front {cfg : Config} {image after : Image} {block : UInt32} {commits : List (List LogEntry)} {last : UInt32} {left : List UInt8}
    (log : BlockLog cfg image block commits last left) (large : 4 ≤ cfg.blockSize.toNat) (snug : ∀ entry ∈ commits.flatten, entry.Snug)
    (same : (blockBytes cfg after block).take (cfg.blockSize.toNat - left.length) = (blockBytes cfg image block).take (cfg.blockSize.toNat - left.length)) :
    ∃ next, (commits = [] ∨ next = 0xffffffff) ∧ LogAt 0xffffffff (lfsCrc 0xffffffff ((blockBytes cfg after block).take 4))
      ((blockBytes cfg after block).drop 4) commits last next ((blockBytes cfg after block).drop (cfg.blockSize.toNat - left.length)) := by
  obtain ⟨next, log, -⟩ := log
  have shorter := log_at_shorter log
  rw [List.length_drop, block_bytes_length] at shorter
  have head := part_kept same 0 4 (by omega)
  have body := part_kept same 4 (cfg.blockSize.toNat - 4 - left.length) (by omega)
  rw [List.drop_zero, List.drop_zero] at head
  have size : ((blockBytes cfg image block).drop 4).length = cfg.blockSize.toNat - 4 := by rw [List.length_drop, block_bytes_length]
  have kept := log_at_kept log ((blockBytes cfg after block).drop 4) snug
    (by rw [List.length_drop, List.length_drop, block_bytes_length, block_bytes_length]) (by rw [size]; exact body)
  have place : 4 + (cfg.blockSize.toNat - 4 - left.length) = cfg.blockSize.toNat - left.length := by omega
  rw [size, List.drop_drop, place] at kept
  refine ⟨next, log_next log, ?_⟩
  rw [head]
  exact kept

-- What is written behind the commits may make more of them, and nothing else.
theorem block_log_kept {cfg : Config} {image after : Image} {block : UInt32} {commits : List (List LogEntry)} {last : UInt32} {left : List UInt8}
    (log : BlockLog cfg image block commits last left) (large : 4 ≤ cfg.blockSize.toNat) (snug : ∀ entry ∈ commits.flatten, entry.Snug)
    (same : (blockBytes cfg after block).take (cfg.blockSize.toNat - left.length) = (blockBytes cfg image block).take (cfg.blockSize.toNat - left.length)) :
    ∃ more final rest, BlockLog cfg after block (commits ++ more) final rest := by
  obtain ⟨next, -, front⟩ := block_log_front log large snug same
  obtain ⟨more, final, rest, ⟨crc, others, ended⟩⟩ := whole_log_exists _ last next _ (Nat.le_refl _)
  exact ⟨more, final, rest, crc, log_at_append front others, ended⟩

theorem newest_either (cfg : Config) (image after : Image) (pair : Pair) :
    newestFirst cfg after pair = newestFirst cfg image pair ∨
      newestFirst cfg after pair = ⟨(newestFirst cfg image pair).second, (newestFirst cfg image pair).first⟩ := by
  rw [newestFirst, newestFirst]
  split
  · split
    · exact Or.inl rfl
    · exact Or.inr rfl
  · split
    · exact Or.inr rfl
    · exact Or.inl rfl

theorem newest_same (cfg : Config) (image after : Image) (pair : Pair) (first : blockRev cfg after pair.first = blockRev cfg image pair.first)
    (second : blockRev cfg after pair.second = blockRev cfg image pair.second) : newestFirst cfg after pair = newestFirst cfg image pair := by
  rw [newestFirst, newestFirst, first, second]

theorem newest_blocks (cfg : Config) (image : Image) (pair : Pair) (property : UInt32 → Prop) (first : property (newestFirst cfg image pair).first)
    (second : property (newestFirst cfg image pair).second) : property pair.first ∧ property pair.second := by
  rw [newestFirst] at first second
  split at first
  · rw [if_pos ‹_›] at second
    exact ⟨second, first⟩
  · rw [if_neg ‹_›] at second
    exact ⟨first, second⟩

-- However much of a write is on the card when it stops: behind the commits of
-- the newer block, or anywhere in the other block for as long as that one holds
-- no whole commit, it takes nothing of what was committed.
theorem commits_survive {δ : Type} (cfg : Config) (image after : Image) (cb : Callback δ) (small : cfg.blockSize.toNat < 2 ^ 31)
    (large : 4 ≤ cfg.blockSize.toNat) (lfs : LfsBase) (state : δ) (dir : Mdir) (pair : Pair)
    (present : pair.first < cfg.blockCount ∧ pair.second < cfg.blockCount) (commits : List (List LogEntry)) (last : UInt32) (left : List UInt8)
    (log : BlockLog cfg image (newestFirst cfg image pair).first commits last left) (some : commits ≠ [])
    (snug : ∀ entry ∈ commits.flatten, entry.Snug)
    (behind : (blockBytes cfg after (newestFirst cfg image pair).first).take (cfg.blockSize.toNat - left.length) =
      (blockBytes cfg image (newestFirst cfg image pair).first).take (cfg.blockSize.toNat - left.length))
    (other : blockBytes cfg after (newestFirst cfg image pair).second = blockBytes cfg image (newestFirst cfg image pair).second ∨
      BlockLog cfg after (newestFirst cfg image pair).second [] 0xffffffff ((blockBytes cfg after (newestFirst cfg image pair).second).drop 4)) :
    ∃ more final rest, BlockLog cfg after (newestFirst cfg image pair).first (commits ++ more) final rest ∧
      (lfsDirFetch cfg dir pair lfs).run (directServer cfg after cb) state =
        Option.some ((foundTag (logMdir cfg (newestFirst cfg image pair) (blockRev cfg image (newestFirst cfg image pair).first) (commits ++ more) final rest),
          logMdir cfg (newestFirst cfg image pair) (blockRev cfg image (newestFirst cfg image pair).first) (commits ++ more) final rest), state) := by
  obtain ⟨more, final, rest, kept⟩ := block_log_kept log large snug behind
  have whole : commits ++ more ≠ [] := List.append_ne_nil_of_left_ne_nil some more
  have rev : blockRev cfg after (newestFirst cfg image pair).first = blockRev cfg image (newestFirst cfg image pair).first := by
    obtain ⟨next, before, -⟩ := log
    have shorter := log_at_shorter before
    rw [List.length_drop, block_bytes_length] at shorter
    have head := part_kept behind 0 4 (by omega)
    rw [List.drop_zero, List.drop_zero] at head
    rw [blockRev, blockRev, head]
  obtain ⟨others, last', left', second⟩ := whole_log_exists _ 0xffffffff
    (lfsCrc 0xffffffff ((blockBytes cfg after (newestFirst cfg image pair).second).take 4))
    ((blockBytes cfg after (newestFirst cfg image pair).second).drop 4) (Nat.le_refl _)
  have order : newestFirst cfg after pair = newestFirst cfg image pair ∨
      newestFirst cfg after pair = ⟨(newestFirst cfg image pair).second, (newestFirst cfg image pair).first⟩ ∧
        BlockLog cfg after (newestFirst cfg image pair).second [] 0xffffffff ((blockBytes cfg after (newestFirst cfg image pair).second).drop 4) := by
    rcases other with same | none
    · obtain ⟨left, right⟩ := newest_blocks cfg image pair (fun block => blockRev cfg after block = blockRev cfg image block) rev
        (by rw [blockRev, blockRev, same])
      exact Or.inl (newest_same cfg image after pair left right)
    · exact (newest_either cfg image after pair).imp_right fun swapped => ⟨swapped, none⟩
  refine ⟨more, final, rest, kept, ?_⟩
  rcases order with same | ⟨swapped, none⟩
  · obtain ⟨tag, fetched, ran, known⟩ := dir_fetch_run cfg after cb small large lfs state dir pair present
      (by rw [same]; exact kept) (by rw [same]; exact second)
    obtain ⟨rfl, rfl⟩ := known.newer whole
    rw [ran, same, rev]
  · obtain ⟨tag, fetched, ran, known⟩ := dir_fetch_run cfg after cb small large lfs state dir pair present
      (by rw [swapped]; exact none) (by rw [swapped]; exact kept)
    obtain ⟨rfl, rfl⟩ := known.older rfl whole
    rw [ran, swapped, rev]

-- The pair with a write that stopped in the second page of its first block.
def tornImage : Image := fun block off => if block = 0 ∧ 512 ≤ off.toNat ∧ off.toNat < 700 then 0x00 else pairImage block off

theorem torn_write_survived : ∃ more final rest, BlockLog pairConfig tornImage 0 ([[pairEntry]] ++ more) final rest ∧
    (lfsDirFetch pairConfig (Mdir.ofTail ⟨0, 1⟩) ⟨0, 1⟩ zeroLfs.toLfsBase).run
        (directServer pairConfig tornImage fun (log : List UInt32) block => (0, log ++ [block])) [] =
      some ((foundTag (logMdir pairConfig ⟨0, 1⟩ 1 ([[pairEntry]] ++ more) final rest),
        logMdir pairConfig ⟨0, 1⟩ 1 ([[pairEntry]] ++ more) final rest), []) := by
  have rev : blockRev pairConfig pairImage 0 = 1 := by decide +kernel
  have snug : ∀ entry ∈ [[pairEntry]].flatten, entry.Snug := by
    intro entry member
    obtain rfl := List.mem_singleton.mp member
    exact ⟨by decide, fun _ => by decide⟩
  have survived := commits_survive pairConfig pairImage tornImage (fun (log : List UInt32) block => (0, log ++ [block])) (by decide) (by decide)
    zeroLfs.toLfsBase [] (Mdir.ofTail ⟨0, 1⟩) ⟨0, 1⟩ (by decide) [[pairEntry]] 0x500ffdf8 (List.replicate 512 0xff)
    (by rw [pair_newest]; exact pair_log) (List.cons_ne_nil _ _) snug (by rw [pair_newest]; decide +kernel)
    (Or.inl (by rw [pair_newest]; decide +kernel))
  rw [pair_newest, rev] at survived
  exact survived

end SDCardFs.Littlefs
