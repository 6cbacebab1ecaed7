import SDCardFs.Littlefs.Metadata

set_option autoImplicit false

namespace SDCardFs.Littlefs

-- A tag of a metadata log and what is behind it.
structure LogEntry where
  tag : UInt32
  data : List UInt8
deriving DecidableEq

-- Of a tail the scan takes two words, whatever size its tag has.
def dataLength (tag : UInt32) : Nat := if lfsTagType1 tag = lfsTypeTail then 8 else (lfsTagDsize tag).toNat - 4

-- The tag raw starts with, after a tag ptag.
structure TagAt (ptag : UInt32) (raw : List UInt8) (tag : UInt32) : Prop where
  long : 4 ≤ raw.length
  word : lfsFrombe32 (raw.take 4) ^^^ ptag = tag
  valid : lfsTagIsvalid tag = true
  fits : (lfsTagDsize tag).toNat ≤ raw.length

-- What the tag behind a CRC tag is combined with.
def nextPtag (tag : UInt32) : UInt32 := tag ^^^ ((lfsTagChunk tag &&& 1) <<< (31 : UInt32))

-- raw starts with the entries of a commit, the last of them the CRC of the
-- bytes of the others and of its own tag. rest is behind them.
inductive CommitAt : UInt32 → UInt32 → List UInt8 → List LogEntry → UInt32 → List UInt8 → Prop where
  | crc (ptag crc tag : UInt32) (raw : List UInt8) : TagAt ptag raw tag → lfsTagType1 tag = lfsTypeCrc → 8 ≤ raw.length →
      lfsFromle32 ((raw.drop 4).take 4) = lfsCrc crc (raw.take 4) →
      CommitAt ptag crc raw [⟨tag, (raw.drop 4).take (dataLength tag)⟩] (nextPtag tag) (raw.drop (lfsTagDsize tag).toNat)
  | entry (ptag crc tag etag : UInt32) (raw rest : List UInt8) (entries : List LogEntry) : TagAt ptag raw tag →
      lfsTagType1 tag ≠ lfsTypeCrc → 4 + dataLength tag ≤ raw.length →
      CommitAt tag (lfsCrc crc (raw.take (lfsTagDsize tag).toNat)) (raw.drop (lfsTagDsize tag).toNat) entries etag rest →
      CommitAt ptag crc raw (⟨tag, (raw.drop 4).take (dataLength tag)⟩ :: entries) etag rest

-- raw starts with these commits; etag and crc are what the scan of left would
-- go on with.
inductive LogAt : UInt32 → UInt32 → List UInt8 → List (List LogEntry) → UInt32 → UInt32 → List UInt8 → Prop where
  | nil (ptag crc : UInt32) (raw : List UInt8) : LogAt ptag crc raw [] ptag crc raw
  | cons (ptag crc etag last next : UInt32) (raw rest left : List UInt8) (entries : List LogEntry) (commits : List (List LogEntry)) :
      CommitAt ptag crc raw entries etag rest → LogAt etag 0xffffffff rest commits last next left →
      LogAt ptag crc raw (entries :: commits) last next left

-- No commit comes next.
def Ended (ptag crc : UInt32) (raw : List UInt8) : Prop := ∀ entries etag rest, ¬ CommitAt ptag crc raw entries etag rest

-- The commits of a log up to the first place where there is none.
def WholeLog (ptag crc : UInt32) (raw : List UInt8) (commits : List (List LogEntry)) (last : UInt32) (left : List UInt8) : Prop :=
  ∃ next, LogAt ptag crc raw commits last next left ∧ Ended last next left

theorem tag_at_unique {ptag first second : UInt32} {raw : List UInt8} (left : TagAt ptag raw first) (right : TagAt ptag raw second) :
    first = second := left.word.symm.trans right.word

theorem commit_at_unique {ptag crc first : UInt32} {raw rest : List UInt8} {entries : List LogEntry}
    (left : CommitAt ptag crc raw entries first rest) : ∀ {others : List LogEntry} {second : UInt32} {remains : List UInt8},
    CommitAt ptag crc raw others second remains → entries = others ∧ first = second ∧ rest = remains := by
  induction left with
  | crc ptag crc tag raw at_ kind _ _ =>
      intro others second remains right
      cases right with
      | crc _ _ other _ found _ _ _ =>
          obtain rfl := tag_at_unique at_ found
          exact ⟨rfl, rfl, rfl⟩
      | entry _ _ other _ _ _ _ found different _ _ =>
          obtain rfl := tag_at_unique at_ found
          exact absurd kind different
  | entry ptag crc tag etag raw rest entries at_ different _ _ ih =>
      intro others second remains right
      cases right with
      | crc _ _ other _ found kind _ _ =>
          obtain rfl := tag_at_unique at_ found
          exact absurd kind different
      | entry _ _ other _ _ _ _ found _ _ more =>
          obtain rfl := tag_at_unique at_ found
          obtain ⟨rfl, rfl, rfl⟩ := ih more
          exact ⟨rfl, rfl, rfl⟩

theorem commit_at_shorter {ptag crc etag : UInt32} {raw rest : List UInt8} {entries : List LogEntry}
    (commit : CommitAt ptag crc raw entries etag rest) : rest.length + 4 * entries.length ≤ raw.length ∧ 0 < entries.length := by
  induction commit with
  | crc ptag crc tag raw at_ _ _ _ =>
      have least := (tag_dsize_bounds tag).1
      have fits := at_.fits
      rw [List.length_drop, List.length_singleton]
      omega
  | entry ptag crc tag etag raw rest entries at_ _ _ _ ih =>
      have least := (tag_dsize_bounds tag).1
      have fits := at_.fits
      rw [List.length_drop] at ih
      rw [List.length_cons]
      omega

theorem log_at_shorter {ptag crc last next : UInt32} {raw left : List UInt8} {commits : List (List LogEntry)}
    (log : LogAt ptag crc raw commits last next left) : left.length + 4 * commits.length ≤ raw.length := by
  induction log with
  | nil => simp
  | cons ptag crc etag last next raw rest left entries commits commit _ ih =>
      have shorter := commit_at_shorter commit
      rw [List.length_cons]
      omega

theorem log_at_append {ptag crc middle between last next : UInt32} {raw rest left : List UInt8} {first second : List (List LogEntry)}
    (before : LogAt ptag crc raw first middle between rest) (after : LogAt middle between rest second last next left) :
    LogAt ptag crc raw (first ++ second) last next left := by
  induction before with
  | nil => exact after
  | cons ptag crc etag last next raw rest left entries commits commit _ ih => exact .cons _ _ _ _ _ _ _ _ _ _ commit (ih after)

-- A log that ends where no commit comes next has every other one in front.
theorem log_at_prefix {ptag crc first after last next : UInt32} {raw rest left : List UInt8} {some : List (List LogEntry)}
    (part : LogAt ptag crc raw some first after rest) (ended : Ended last next left) : ∀ {whole : List (List LogEntry)},
    LogAt ptag crc raw whole last next left → ∃ more, whole = some ++ more ∧ LogAt first after rest more last next left := by
  induction part with
  | nil => exact fun log => ⟨_, rfl, log⟩
  | cons ptag crc etag last' next' raw rest left' entries commits commit _ ih =>
      intro whole log
      cases log with
      | nil => exact absurd commit (ended _ _ _)
      | cons _ _ other _ _ _ remains _ others others' found more =>
          obtain ⟨rfl, rfl, rfl⟩ := commit_at_unique commit found
          obtain ⟨rest, rfl, log⟩ := ih more
          exact ⟨rest, rfl, log⟩

theorem whole_log_exists (size : Nat) : ∀ (ptag crc : UInt32) (raw : List UInt8), raw.length ≤ size →
    ∃ commits last left, WholeLog ptag crc raw commits last left := by
  induction size using Nat.strongRecOn with
  | ind size ih =>
      intro ptag crc raw short
      by_cases next : ∃ entries etag rest, CommitAt ptag crc raw entries etag rest
      · obtain ⟨entries, etag, rest, commit⟩ := next
        have shorter := commit_at_shorter commit
        obtain ⟨commits, last, left, ⟨next, log, ended⟩⟩ := ih rest.length (by omega) etag 0xffffffff rest (Nat.le_refl _)
        exact ⟨entries :: commits, last, left, ⟨next, .cons _ _ _ _ _ _ _ _ _ _ commit log, ended⟩⟩
      · exact ⟨[], ptag, raw, ⟨crc, .nil _ _ _, fun entries etag rest commit => next ⟨entries, etag, rest, commit⟩⟩⟩

theorem whole_log_unique {ptag crc first second : UInt32} {raw left right : List UInt8} {some other : List (List LogEntry)}
    (log : WholeLog ptag crc raw some first left) (others : WholeLog ptag crc raw other second right) :
    some = other ∧ first = second ∧ left = right := by
  obtain ⟨next, log, ended⟩ := log
  obtain ⟨after, others, stopped⟩ := others
  obtain ⟨more, rfl, rest⟩ := log_at_prefix log stopped others
  cases rest with
  | nil => exact ⟨(List.append_nil _).symm, rfl, rfl⟩
  | cons _ _ _ _ _ _ _ _ _ _ commit _ => exact absurd commit (ended _ _ _)

-- The commit raw starts with, for a log that is at hand; every tag is taken
-- off it as the scan takes it.
def readCommit : Nat → UInt32 → UInt32 → List UInt8 → Option (List LogEntry × UInt32 × List UInt8)
  | 0, _, _, _ => none
  | fuel + 1, ptag, crc, raw =>
      let tag := lfsFrombe32 (raw.take 4) ^^^ ptag
      let entry : LogEntry := ⟨tag, (raw.drop 4).take (dataLength tag)⟩
      let rest := raw.drop (lfsTagDsize tag).toNat
      if 4 ≤ raw.length ∧ lfsTagIsvalid tag = true ∧ (lfsTagDsize tag).toNat ≤ raw.length then
        if lfsTagType1 tag = lfsTypeCrc then
          if 8 ≤ raw.length ∧ lfsFromle32 ((raw.drop 4).take 4) = lfsCrc crc (raw.take 4) then some ([entry], nextPtag tag, rest) else none
        else if 4 + dataLength tag ≤ raw.length then
          (readCommit fuel tag (lfsCrc crc (raw.take (lfsTagDsize tag).toNat)) rest).map fun more => (entry :: more.1, more.2)
        else none
      else none

theorem read_commit_at (fuel : Nat) : ∀ (ptag crc etag : UInt32) (raw rest : List UInt8) (entries : List LogEntry),
    readCommit fuel ptag crc raw = some (entries, etag, rest) → CommitAt ptag crc raw entries etag rest := by
  induction fuel with
  | zero => exact fun _ _ _ _ _ _ impossible => (nomatch impossible)
  | succ fuel ih =>
      intro ptag crc etag raw rest entries read
      rw [readCommit] at read
      by_cases tagged : 4 ≤ raw.length ∧ lfsTagIsvalid (lfsFrombe32 (raw.take 4) ^^^ ptag) = true ∧
          (lfsTagDsize (lfsFrombe32 (raw.take 4) ^^^ ptag)).toNat ≤ raw.length
      · rw [if_pos tagged] at read
        have at_ : TagAt ptag raw (lfsFrombe32 (raw.take 4) ^^^ ptag) := ⟨tagged.1, rfl, tagged.2.1, tagged.2.2⟩
        by_cases kind : lfsTagType1 (lfsFrombe32 (raw.take 4) ^^^ ptag) = lfsTypeCrc
        · rw [if_pos kind] at read
          obtain ⟨⟨long, same⟩, read⟩ := (Option.ite_none_right_eq_some ..).mp read
          cases read
          exact .crc ptag crc _ raw at_ kind long same
        · rw [if_neg kind] at read
          obtain ⟨long, read⟩ := (Option.ite_none_right_eq_some ..).mp read
          obtain ⟨⟨more, last, left⟩, further, same⟩ := Option.map_eq_some_iff.mp read
          cases same
          exact .entry ptag crc _ _ raw _ more at_ kind long (ih _ _ _ _ _ _ further)
      · rw [if_neg tagged] at read
        cases read

-- What the entries of a log say of the metadata pair as a whole.
structure Summary where
  count : UInt16
  tail : Pair
  split : Bool
deriving DecidableEq

def Summary.start : Summary := ⟨0, ⟨lfsBlockNull, lfsBlockNull⟩, false⟩

def Summary.enter (summary : Summary) (entry : LogEntry) : Summary :=
  if lfsTagType1 entry.tag = lfsTypeName then
    if lfsTagId entry.tag ≥ summary.count.toUInt32 then { summary with count := (lfsTagId entry.tag + 1).toUInt16 } else summary
  else if lfsTagType1 entry.tag = lfsTypeSplice then { summary with count := summary.count + (lfsTagSplice entry.tag).toUInt16 }
  else if lfsTagType1 entry.tag = lfsTypeTail then
    { summary with tail := lfsPairFromle32 entry.data, split := lfsTagChunk entry.tag &&& 1 ≠ 0 }
  else summary

end SDCardFs.Littlefs
