import SDCardFs.Littlefs.Closing
import SDCardFs.Littlefs.DirTraverse
import SDCardFs.Littlefs.Lookup
import SDCardFs.Littlefs.Survival

set_option autoImplicit false

namespace SDCardFs.Littlefs

-- What lfs_dir_traverse hands over of an attribute in memory, but for one that
-- moves a file here from another directory.
def handedOver (attr : Item) : Option (List Item) :=
  if lfsTagType3 attr.1 = lfsFromNoop then some []
  else if lfsTagType3 attr.1 = lfsFromMove then none
  else if lfsTagType3 attr.1 = lfsFromUserattrs then
    match attr.2 with
    | .attrs attrs =>
        if (lfsTagSize attr.1).toNat ≤ attrs.length then
          some ((attrs.take (lfsTagSize attr.1).toNat).map fun user =>
            (lfsMktag (lfsTypeUserattr + user.type.toUInt32) (lfsTagId attr.1) user.size, .bytes user.buffer))
        else none
    | _ => none
  else some [attr]

def allHanded : List Item → Option (List Item)
  | [] => some []
  | attr :: attrs => do
      let items ← handedOver attr
      let more ← allHanded attrs
      return items ++ more

-- cb takes the items in turn up to the first one that fails.
def handAll {κ : Type} (cb : ItemCallback κ) : List Item → κ → BdM (Int32 × κ)
  | [], data => pure (0, data)
  | item :: items, data => do
      let (err, data) ← cb data item.1 item.2
      if err ≠ 0 then
        return (err, data)
      handAll cb items data

theorem hand_all_append {κ : Type} (cb : ItemCallback κ) (first second : List Item) : ∀ data,
    handAll cb (first ++ second) data = (do
      let (err, data) ← handAll cb first data
      if err ≠ 0 then
        return (err, data)
      handAll cb second data) := by
  induction first with
  | nil =>
      intro data
      rw [List.nil_append, handAll, pure_bind]
      exact (if_neg fun failed => failed rfl).symm
  | cons item items ih =>
      intro data
      rw [List.cons_append, handAll, handAll, bind_assoc]
      refine congrArg _ (funext fun answer => ?_)
      obtain ⟨err, data⟩ := answer
      dsimp only
      by_cases failed : err = 0
      · rw [if_neg (fun other => other failed), if_neg (fun other => other failed), ih]
      · rw [if_pos failed, if_pos failed, pure_bind]
        exact (if_pos failed).symm

theorem traverse_userattrs_hands {κ : Type} (cb : ItemCallback κ) (tag : UInt32) (count : Nat) :
    ∀ (attrs : List UserAttr) (data : κ), count ≤ attrs.length →
    traverseUserattrs cb tag 0 count attrs data = handAll cb ((attrs.take count).map fun user =>
      (lfsMktag (lfsTypeUserattr + user.type.toUInt32) (lfsTagId tag) user.size, .bytes user.buffer)) data := by
  have still : lfsTagId tag + (0 : Int16).toInt32.toUInt32 = lfsTagId tag := UInt32.add_zero _
  induction count with
  | zero => exact fun _ _ _ => rfl
  | succ count ih =>
      intro attrs data enough
      cases attrs with
      | nil => exact absurd enough (Nat.not_succ_le_zero _)
      | cons user attrs =>
          rw [traverseUserattrs, List.take_succ_cons, List.map_cons, handAll, still]
          refine congrArg _ (funext fun answer => ?_)
          obtain ⟨err, data⟩ := answer
          dsimp only
          rw [ih attrs data (Nat.le_of_succ_le_succ enough)]

theorem traverse_item_hands {κ : Type} (cb : ItemCallback κ) (move : Mdir → UInt16 → Int16 → κ → BdM (Int32 × κ)) (tag : UInt32)
    (buffer : TagBuffer) (items : List Item) (data : κ) (handed : handedOver (tag, buffer) = some items) :
    traverseItem cb move tag buffer 0 data = handAll cb items data := by
  unfold traverseItem
  rw [handedOver] at handed
  dsimp only at handed
  by_cases noop : lfsTagType3 tag = lfsFromNoop
  · rw [if_pos noop] at handed ⊢
    cases handed
    rfl
  · rw [if_neg noop] at handed ⊢
    by_cases moved : lfsTagType3 tag = lfsFromMove
    · rw [if_pos moved] at handed
      cases handed
    · rw [if_neg moved] at handed ⊢
      by_cases users : lfsTagType3 tag = lfsFromUserattrs
      · rw [if_pos users] at handed ⊢
        cases buffer with
        | attrs attrs =>
            obtain ⟨enough, handed⟩ := (Option.ite_none_right_eq_some ..).mp handed
            cases handed
            exact traverse_userattrs_hands cb tag _ attrs data enough
        | bytes _ => cases handed
        | mdir _ => cases handed
        | disk _ _ => cases handed
      · rw [if_neg users] at handed ⊢
        cases handed
        have still : shiftTag tag 0 = tag := by
          rw [shiftTag, show lfsMktag 0 (0 : Int16).toInt32.toUInt32 0 = 0 by decide, UInt32.add_zero]
        rw [still, handAll]
        refine (bind_pure (cb data tag buffer)).symm.trans (congrArg _ (funext fun answer => ?_))
        obtain ⟨err, data⟩ := answer
        by_cases failed : err = 0
        · rw [failed]
          rfl
        · exact (if_pos failed).symm

-- Behind the log there are the attributes alone.
theorem traverse_attrs_hands {κ : Type} (cfg : Config) (cb : ItemCallback κ) (dir : Mdir) (small : dir.off.toNat < 2 ^ 31) (ptag : UInt32)
    (begin stop : UInt16) (attrs : List Item) : ∀ (fuel : Nat) (items : List Item) (data : κ), allHanded attrs = some items → attrs.length < fuel →
    lfsDirTraverse cfg fuel cb dir dir.off ptag attrs 0 0 begin stop 0 data = handAll cb items data := by
  have behind : ¬ dir.off + lfsTagDsize ptag < dir.off := by
    have bounds := tag_dsize_bounds ptag
    rw [UInt32.lt_iff_toNat_lt, UInt32.toNat_add]
    omega
  induction attrs with
  | nil =>
      intro fuel items data handed enough
      cases handed
      cases fuel with
      | zero => exact absurd enough (Nat.lt_irrefl 0)
      | succ fuel =>
          rw [lfsDirTraverse, traverseNext, if_neg behind, pure_bind]
          rfl
  | cons attr attrs ih =>
      intro fuel all data handed enough
      obtain ⟨items, first, handed⟩ := Option.bind_eq_some_iff.mp handed
      obtain ⟨more, later, same⟩ := Option.bind_eq_some_iff.mp handed
      cases same
      cases fuel with
      | zero => exact absurd enough (Nat.not_lt_zero _)
      | succ fuel =>
          obtain ⟨tag, buffer⟩ := attr
          have masked : ¬ lfsMktag 0x7ff 0 0 &&& 0 &&& tag ≠ lfsMktag 0x7ff 0 0 &&& 0 &&& 0 := by
            rw [UInt32.and_zero, UInt32.zero_and]
            exact fun other => other rfl
          have whole : ¬ lfsTagId 0 ≠ 0 := by decide
          rw [lfsDirTraverse, traverseNext, if_neg behind]
          dsimp only
          rw [pure_bind]
          dsimp only
          rw [if_neg masked, if_neg whole, pure_bind]
          dsimp only
          rw [if_neg (by decide), if_neg fun filtered => filtered.elim (fun failed => failed rfl) fun inside => whole inside.1, hand_all_append,
            traverse_item_hands cb _ tag buffer items data first]
          refine congrArg _ (funext fun answer => ?_)
          obtain ⟨err, data⟩ := answer
          dsimp only
          rw [ih fuel more data later (Nat.lt_of_succ_lt_succ enough)]

section
variable {α β : Type} (stale : UInt32 → UInt32 → Prop)

-- A call that reads nothing stale.
structure Unstale (call : BaseM α) : Prop where
  always : ∀ base, (call base).Always (Request.Served stale) fun _ => True

variable {stale}

theorem unstale_pure (result : α) : Unstale stale (pure result) := ⟨fun _ => trivial⟩

theorem unstale_bind (call : BaseM α) (rest : α → BaseM β) (first : Unstale stale call) (second : ∀ result, Unstale stale (rest result)) :
    Unstale stale (call >>= rest) :=
  ⟨fun base => Lib.Prog.always_bind (call base) (fun result => rest result base) (first.always base) fun result _ => (second result).always base⟩

theorem unstale_ite {condition : Prop} [Decidable condition] {yes no : BaseM α} (positive : condition → Unstale stale yes)
    (negative : ¬ condition → Unstale stale no) : Unstale stale (if condition then yes else no) := by
  split
  · exact positive ‹_›
  · exact negative ‹_›

theorem unstale_read (hint block off : UInt32) (data : List UInt8) (served : Request.Served stale (.read hint block off data)) :
    Unstale stale (bdRead hint block off data) := ⟨fun _ => ⟨served, fun _ => trivial⟩⟩

variable (dir : Mdir) (small : dir.off.toNat < 2 ^ 31) (fresh : ∀ off : UInt32, off.toNat < dir.off.toNat → ¬ stale dir.pair.first off)
include small fresh

theorem log_served (hint off : UInt32) (data : List UInt8) (hinting : data = [] ∨ Hinting hint) (inside : off.toNat + data.length ≤ dir.off.toNat) :
    Request.Served stale (.read hint dir.pair.first off data) := by
  refine ⟨hinting, by omega, fun p less => fresh _ ?_⟩
  rw [offset_toNat off p (by omega)]
  omega

-- Looking back through the log reads nothing behind it.
theorem getslice_unstale (cfg : Config) (gmask gtag : UInt32) (gsize fuel : Nat) : ∀ (off ntag gdiff : UInt32), off.toNat ≤ dir.off.toNat →
    Unstale stale (getsliceLoop cfg dir gmask gtag 0 gsize fuel off ntag gdiff) := by
  induction fuel with
  | zero => exact fun _ _ _ _ => unstale_pure _
  | succ fuel ih =>
      intro off ntag gdiff inside
      have bounds := tag_dsize_bounds ntag
      rw [getsliceLoop]
      apply unstale_ite
      · exact fun _ => unstale_pure _
      · intro more
        rw [UInt32.lt_iff_toNat_lt, UInt32.toNat_add] at more
        simp only [UInt32.reduceToNat] at more
        have back : (off - lfsTagDsize ntag).toNat = off.toNat - (lfsTagDsize ntag).toNat :=
          UInt32.toNat_sub_of_le _ _ (by rw [UInt32.le_iff_toNat_le]; omega)
        have next : (off - lfsTagDsize ntag + 4 + 0).toNat = off.toNat - (lfsTagDsize ntag).toNat + 4 := by
          rw [UInt32.add_zero, UInt32.toNat_add, back]
          simp only [UInt32.reduceToNat]
          omega
        apply unstale_bind
        · exact unstale_read _ _ _ _ (log_served dir small fresh _ _ _ (Or.inr ⟨by decide, by decide⟩) (by rw [tole32_length]; omega))
        · intro answer
          apply unstale_ite
          · exact fun _ => unstale_pure _
          · intro _
            apply unstale_ite
            · exact fun _ => unstale_pure _
            · intro _
              generalize (if lfsTagId gmask ≠ 0 ∧ lfsTagType1 ntag = lfsTypeSplice ∧ lfsTagId ntag ≤ lfsTagId (gtag - gdiff) then
                gdiff + lfsMktag 0 (lfsTagSplice ntag) 0 else gdiff) = moved
              apply unstale_ite
              · intro _
                apply unstale_ite
                · exact fun _ => unstale_pure _
                · intro kept
                  have dsize := tag_dsize_toNat ntag
                  rw [if_neg fun deleted => kept ((tag_delete_iff ntag).mpr deleted), ← tag_size_toNat] at dsize
                  generalize found : min (lfsTagSize ntag).toNat gsize = diff
                  have length : (zeros diff).length = diff := List.length_replicate
                  have hint : (UInt32.ofNat diff).toNat = diff := by
                    rw [UInt32.toNat_ofNat']
                    omega
                  apply unstale_bind
                  · refine unstale_read _ _ _ _ (log_served dir small fresh _ _ _ ?_ (by omega))
                    rcases Nat.eq_zero_or_pos diff with none | some
                    · exact Or.inl (List.length_eq_zero_iff.mp (length.trans none))
                    · exact Or.inr ⟨by omega, by omega⟩
                  · intro data
                    apply unstale_ite
                    · exact fun _ => unstale_pure _
                    · exact fun _ => unstale_pure _
              · exact fun _ => ih _ _ _ (by omega)

theorem dir_getgstate_unstale (cfg : Config) (gstate : Gstate) : Unstale stale (lfsDirGetgstate cfg dir gstate) := by
  apply unstale_bind
  · exact ⟨fun base => (getslice_unstale dir small fresh cfg _ _ _ _ dir.off dir.etag _ (Nat.le_refl _)).always base⟩
  · intro answer
    apply unstale_ite
    · exact fun _ => unstale_pure _
    · intro _
      apply unstale_ite
      · exact fun _ => unstale_pure _
      · exact fun _ => unstale_pure _

end

-- The entry that an attribute in memory makes.
def itemEntry (item : Item) : LogEntry := ⟨item.1, item.2.memory (lfsTagDsize item.1 - 4).toNat⟩

def entriesSize : List LogEntry → Nat
  | [] => 0
  | entry :: entries => 4 + entry.data.length + entriesSize entries

theorem entries_bytes_length (entries : List LogEntry) : ∀ ptag, (entriesBytes ptag entries).length = entriesSize entries := by
  induction entries with
  | nil => exact fun _ => rfl
  | cons entry entries ih =>
      intro ptag
      rw [entriesBytes, List.length_append, List.length_append, tobe32_length, ih, entriesSize]

theorem entries_size_append (first second : List LogEntry) : entriesSize (first ++ second) = entriesSize first + entriesSize second := by
  induction first with
  | nil => simp [entriesSize]
  | cons entry entries ih =>
      rw [List.cons_append, entriesSize, entriesSize, ih]
      omega

theorem entries_bytes_append (first second : List LogEntry) : ∀ ptag,
    entriesBytes ptag (first ++ second) = entriesBytes ptag first ++ entriesBytes (lastTag ptag first) second := by
  induction first with
  | nil => exact fun _ => rfl
  | cons entry entries ih =>
      intro ptag
      simp only [List.cons_append, entriesBytes, lastTag, ih, List.append_assoc]

theorem last_tag_append (first second : List LogEntry) : ∀ ptag, lastTag ptag (first ++ second) = lastTag (lastTag ptag first) second := by
  induction first with
  | nil => exact fun _ => rfl
  | cons entry entries ih =>
      intro ptag
      rw [List.cons_append, lastTag, lastTag, ih]

theorem memory_length (buffer : TagBuffer) (size : Nat) : (buffer.memory size).length = size := by
  cases buffer with
  | bytes data => simp [TagBuffer.memory, Lib.slice_length]
  | mdir dir => simp [TagBuffer.memory, zeros]
  | attrs attrs => simp [TagBuffer.memory, zeros]
  | disk block off => simp [TagBuffer.memory, zeros]

theorem memory_bytes (data : List UInt8) : (TagBuffer.bytes data).memory data.length = data := by
  apply List.ext_getElem
  · exact memory_length _ _
  · intro p first second
    simp [TagBuffer.memory, Lib.slice, second]

-- The entry of the global state that comes with a commit, if there is one.
def gstateEntries (lfs : LfsBase) (commits : List (List LogEntry)) : List LogEntry :=
  if lfsGstateIszero (gstateDelta lfs) then []
  else [⟨lfsMktag lfsTypeMovestate 0x3ff 12, lfsGstateTole32 (lfsGstateXor (gstateDelta lfs) (commitsDelta commits))⟩]

theorem gstate_written (lfs : LfsBase) (commits : List (List LogEntry)) : ∀ entry ∈ gstateEntries lfs commits, entry.Written := by
  intro entry member
  rw [gstateEntries] at member
  split at member
  · cases member
  · rw [List.mem_singleton.mp member]
    have valid : lfsTagIsvalid (lfsMktag lfsTypeMovestate 0x3ff 12) = true := by decide
    have kind : lfsTagType1 (lfsMktag lfsTypeMovestate 0x3ff 12) ≠ lfsTypeCrc := by decide
    have other : lfsTagType1 (lfsMktag lfsTypeMovestate 0x3ff 12) ≠ lfsTypeTail := by decide
    have size : (lfsTagDsize (lfsMktag lfsTypeMovestate 0x3ff 12)).toNat = 16 := by decide
    exact ⟨valid, kind, size.symm, fun tail => absurd tail other⟩

def commitEntries (lfs : LfsBase) (commits : List (List LogEntry)) (items : List Item) : List LogEntry :=
  items.map itemEntry ++ gstateEntries lfs commits

theorem commit_entries_written (lfs : LfsBase) (commits : List (List LogEntry)) (items : List Item)
    (written : ∀ item ∈ items, (itemEntry item).Written) : ∀ entry ∈ commitEntries lfs commits items, entry.Written := by
  intro entry member
  rcases List.mem_append.mp member with named | global
  · obtain ⟨item, inside, rfl⟩ := List.mem_map.mp named
    exact written item inside
  · exact gstate_written lfs commits entry global

theorem write_bytes (cfg : Config) (image : Image) (block : UInt32) (begin : Nat) (data : List UInt8)
    (room : begin + data.length ≤ cfg.blockSize.toNat) :
    blockBytes cfg (image.write block begin data) block =
      (blockBytes cfg image block).take begin ++ (data ++ (blockBytes cfg image block).drop (begin + data.length)) := by
  have small := cfg.blockSize.toNat_lt
  apply List.ext_getElem
  · simp only [List.length_append, List.length_take, List.length_drop, block_bytes_length]
    omega
  · intro p first second
    have inside := first
    rw [block_bytes_length] at inside
    have place : (0 + UInt32.ofNat p).toNat = p := by
      rw [offset_toNat 0 p (by rw [UInt32.toNat_zero]; omega), UInt32.toNat_zero, Nat.zero_add]
    have byte (other : Image) (less : p < (blockBytes cfg other block).length) : (blockBytes cfg other block)[p] = other block (0 + UInt32.ofNat p) := by
      simp [blockBytes, directBytes, Lib.slice, byteAt]
    have front : ((blockBytes cfg image block).take begin).length = begin := by
      rw [List.length_take, block_bytes_length]
      omega
    rw [byte, Image.write, place]
    by_cases before : p < begin
    · rw [if_neg (by omega), List.getElem_append_left (by omega), List.getElem_take, byte]
    · rw [List.getElem_append_right (by omega)]
      simp only [front]
      by_cases here : p < begin + data.length
      · rw [if_pos ⟨trivial, by omega, here⟩, List.getElem_append_left (by omega), List.getD_eq_getElem _ _ (by omega)]
      · rw [if_neg (by omega), List.getElem_append_right (by omega), List.getElem_drop]
        have back : begin + data.length + (p - begin - data.length) = p := by omega
        simp only [back]
        rw [byte]

theorem short_ended {ptag crc : UInt32} {raw : List UInt8} (short : raw.length < 4) : Ended ptag crc raw := by
  intro entries etag rest commit
  cases commit with
  | crc _ _ _ _ at_ _ _ _ => exact Nat.not_lt.mpr at_.long short
  | entry _ _ _ _ _ _ _ at_ _ _ _ => exact Nat.not_lt.mpr at_.long short

-- The next tag is none: a closing tag sees to it.
theorem closing_ended (cfg : Config) (image : Image) (block off last : UInt32) (present : block < cfg.blockCount) (room : off.toNat + 8 ≤ last.toNat)
    (near : last.toNat < off.toNat + 1000) (within : last.toNat ≤ cfg.blockSize.toNat) (small : cfg.blockSize.toNat < 2 ^ 31) :
    Ended (nextPtag (closingTag cfg image block off last)) 0xffffffff ((blockBytes cfg image block).drop last.toNat) := by
  by_cases long : last.toNat + 4 ≤ cfg.blockSize.toNat
  · have word : ((blockBytes cfg image block).drop last.toNat).take 4 = directBytes none image block last 4 := by
      rw [block_bytes_part cfg image block last.toNat 4 long, UInt32.ofNat_toNat]
    have read : directRead cfg image none block last (lfsTole32 0xffffffff) = (0, directBytes none image block last 4) := by
      refine if_neg ?_
      rintro (beyond | beyond)
      · exact UInt32.not_le.mpr present beyond
      · rw [gt_iff_lt, UInt32.lt_iff_toNat_lt, offset_toNat last _ (by rw [tole32_length]; omega), tole32_length] at beyond
        omega
    apply blank_ended
    refine ⟨by rw [List.length_drop, block_bytes_length]; omega, ?_⟩
    have blank := (closing_blank cfg image block off last room near).2
    rwa [erasedWord, read, ← word] at blank
  · exact short_ended (by rw [List.length_drop, block_bytes_length]; omega)

-- A commit behind the log is one commit more.
theorem append_log {cfg : Config} {image : Image} {block etag : UInt32} {commits : List (List LogEntry)} {left : List UInt8}
    (log : BlockLog cfg image block commits etag left) (some : commits ≠ []) (large : 4 ≤ cfg.blockSize.toNat)
    (snug : ∀ entry ∈ commits.flatten, entry.Snug) (entries : List LogEntry) (tag : UInt32) (padding : List UInt8)
    (written : ∀ entry ∈ entries, entry.Written) (closing : Closing tag padding) (begin : Nat) (behind : begin = cfg.blockSize.toNat - left.length)
    (room : begin + (commitBytes etag 0xffffffff entries tag padding).length ≤ cfg.blockSize.toNat)
    (ended : Ended (nextPtag tag) 0xffffffff
      ((blockBytes cfg image block).drop (begin + (commitBytes etag 0xffffffff entries tag padding).length))) :
    BlockLog cfg (image.write block begin (commitBytes etag 0xffffffff entries tag padding)) block
      (commits ++ [closedEntries etag 0xffffffff entries tag padding]) (nextPtag tag)
      ((blockBytes cfg image block).drop (begin + (commitBytes etag 0xffffffff entries tag padding).length)) := by
  have shape := write_bytes cfg image block begin (commitBytes etag 0xffffffff entries tag padding) room
  have front : ((blockBytes cfg image block).take begin).length = begin := by
    rw [List.length_take, block_bytes_length]
    omega
  have same : (blockBytes cfg (image.write block begin (commitBytes etag 0xffffffff entries tag padding)) block).take (cfg.blockSize.toNat - left.length) =
      (blockBytes cfg image block).take (cfg.blockSize.toNat - left.length) := by
    rw [← behind, shape, List.take_left' front]
  obtain ⟨next, crc, kept⟩ := block_log_front log large snug same
  obtain rfl := crc.resolve_left some
  rw [← behind, shape, List.drop_left' front, ← shape] at kept
  exact ⟨0xffffffff, log_at_append kept (.cons _ _ _ _ _ _ _ _ _ _ (commit_of_bytes entries etag 0xffffffff tag padding _ written closing)
    (.nil _ _ _)), ended⟩

section
variable {σ : Type} (cfg : Config) (below : Below σ) (contents : σ → Image) (paged : Paged cfg) (stores : below.Stores contents)
  (holds : below.Holds contents) (image : Image) (block : UInt32) (begin : Nat) (present : block < cfg.blockCount) (ordinary : block ≠ lfsBlockInline)
include paged stores holds present ordinary

theorem commit_item_run (item : Item) (written : (itemEntry item).Written) (bytes : List UInt8) (commit : Commit) (caches : Caches) (card : σ)
    (room : commit.off.toNat + entriesSize [itemEntry item] + 8 ≤ cfg.blockSize.toNat) (reached : Reached cfg block begin bytes commit)
    (writing : Writing cfg image block begin bytes caches (contents card)) :
    ∃ commit' caches' after, (lfsDirCommitattr cfg commit item.1 item.2 caches).run below.access card = some (((0, commit'), caches'), after) ∧
      Reached cfg block begin (bytes ++ entriesBytes commit.ptag [itemEntry item]) commit' ∧ commit'.ptag = lastTag commit.ptag [itemEntry item] ∧
      Writing cfg image block begin (bytes ++ entriesBytes commit.ptag [itemEntry item]) caches' (contents after) := by
  have blocks := paged.small
  obtain ⟨number, few, least⟩ := tag_room item.1
  have length := written.length
  have valid : item.1 &&& 0x80000000 = 0 := of_decide_eq_true written.valid
  have limit := reached.limit
  have fits : ¬ commit.off + lfsTagDsize item.1 > commit.limit := by
    rw [gt_iff_lt, UInt32.lt_iff_toNat_lt, UInt32.toNat_add]
    rw [entriesSize, entriesSize] at room
    dsimp only [itemEntry] at length room
    omega
  have given : Given cfg image block begin item.1 item.2 (itemEntry item).data := by
    refine ⟨memory_length _ _, ?_⟩
    rw [if_pos valid]
    rfl
  have ran := commitattr_run cfg below contents paged stores holds image block begin bytes (itemEntry item).data item.1 item.2 commit caches card present
    ordinary reached given fits writing
  rw [low_valid item.1 written.valid] at ran
  exact ran

theorem hand_items_run (items : List Item) : ∀ (bytes : List UInt8) (commit : Commit) (caches : Caches) (card : σ),
    (∀ item ∈ items, (itemEntry item).Written) → commit.off.toNat + entriesSize (items.map itemEntry) + 8 ≤ cfg.blockSize.toNat →
    Reached cfg block begin bytes commit → Writing cfg image block begin bytes caches (contents card) →
    ∃ commit' caches' after, (handAll (lfsDirCommitCommit cfg) items commit caches).run below.access card = some (((0, commit'), caches'), after) ∧
      Reached cfg block begin (bytes ++ entriesBytes commit.ptag (items.map itemEntry)) commit' ∧
      commit'.ptag = lastTag commit.ptag (items.map itemEntry) ∧
      Writing cfg image block begin (bytes ++ entriesBytes commit.ptag (items.map itemEntry)) caches' (contents after) := by
  induction items with
  | nil =>
      intro bytes commit caches card _ _ reached writing
      rw [List.map_nil, entriesBytes, List.append_nil]
      exact ⟨commit, caches, card, rfl, reached, rfl, writing⟩
  | cons item items ih =>
      intro bytes commit caches card written room reached writing
      have size := entries_size_append [itemEntry item] (items.map itemEntry)
      rw [List.singleton_append] at size
      rw [List.map_cons, size] at room
      obtain ⟨first, between, middle, ran, reached', ptag, writing'⟩ := commit_item_run cfg below contents paged stores holds image block begin present
        ordinary item (written item List.mem_cons_self) bytes commit caches card (by omega) reached writing
      have off := reached.off
      have off' := reached'.off
      rw [List.length_append, entries_bytes_length] at off'
      obtain ⟨second, caches', after, rest, last⟩ := ih _ first between middle (fun other member => written other (List.mem_cons_of_mem _ member))
        (by omega) reached' writing'
      have tail := entries_bytes_append [itemEntry item] (items.map itemEntry) commit.ptag
      rw [List.singleton_append, ← ptag] at tail
      rw [List.append_assoc, ← tail, ptag, ← last_tag_append, List.singleton_append] at last
      refine ⟨second, caches', after, ?_, last⟩
      rw [handAll, bd_bind_run below.access (lfsDirCommitCommit cfg commit item.1 item.2) _ caches between card middle _ ran]
      dsimp only
      rw [if_neg fun failed => failed rfl]
      exact rest

omit stores present ordinary in
-- What lfs_dir_commit reads of the log while some of the commit is written.
theorem getgstate_run (large : 4 ≤ cfg.blockSize.toNat) (lfs : LfsBase) (dir : Mdir) (gstate : Gstate) (commits : List (List LogEntry))
    (logged : Logged cfg image dir commits) (behind : dir.off.toNat = begin) (bytes : List UInt8) (caches : Caches)
    (card : σ) (writing : Writing cfg image block begin bytes caches (contents card)) :
    ∃ caches' after, (cacheReads cfg lfs (lfsDirGetgstate cfg dir gstate) caches).run below.access card =
        some (((0, lfsGstateXor gstate (commitsDelta commits)), caches'), after) ∧
      Writing cfg image block begin bytes caches' (contents after) := by
  have blocks := paged.small
  have inside : dir.off.toNat < 2 ^ 31 := by
    obtain ⟨left, -, off⟩ := logged.log
    rw [off, UInt32.toNat_ofNat']
    omega
  have fresh : ∀ off : UInt32, off.toNat < dir.off.toNat → ¬ Programmed block begin bytes.length dir.pair.first off := by
    rintro off before ⟨-, least, -⟩
    omega
  have unstale := dir_getgstate_unstale dir inside fresh cfg gstate
  obtain ⟨result, rcache, direct, ran, coherent, aligned⟩ := through_but cfg image (Programmed block begin bytes.length) (contents card)
    (writing_same writing) paged _ caches.rcache (unstale.always lfs) writing.coherent writing.aligned
  rw [dir_getgstate_exact cfg image _ (by omega) large lfs () dir commits logged gstate] at direct
  obtain ⟨rfl, -⟩ := Prod.mk.inj (Option.some.inj direct)
  obtain ⟨after, went, kept⟩ := card_run below contents holds _ (Lib.Prog.only_through _ (read_server_reads cfg) _ _) card _ ran
  refine ⟨{ caches with rcache := rcache }, after, ?_, ?_, coherent, aligned⟩
  · refine (Lib.Prog.run_bind below.access _ _ card).trans ?_
    rw [went]
    rfl
  · rw [kept]
    exact writing.unflushed

-- The global state goes behind the attributes.
theorem commit_gstate_run (large : 4 ≤ cfg.blockSize.toNat) (lfs : LfsBase) (dir : Mdir) (commits : List (List LogEntry))
    (logged : Logged cfg image dir commits) (behind : dir.off.toNat = begin) (bytes : List UInt8) (commit : Commit) (caches : Caches) (card : σ)
    (room : commit.off.toNat + entriesSize (gstateEntries lfs commits) + 8 ≤ cfg.blockSize.toNat) (reached : Reached cfg block begin bytes commit)
    (writing : Writing cfg image block begin bytes caches (contents card)) :
    ∃ commit' caches' after, (commitGstate cfg lfs dir commit caches).run below.access card = some (((0, commit'), caches'), after) ∧
      Reached cfg block begin (bytes ++ entriesBytes commit.ptag (gstateEntries lfs commits)) commit' ∧
      commit'.ptag = lastTag commit.ptag (gstateEntries lfs commits) ∧
      Writing cfg image block begin (bytes ++ entriesBytes commit.ptag (gstateEntries lfs commits)) caches' (contents after) := by
  have written := gstate_written lfs commits
  rw [commitGstate]
  rw [gstateEntries] at room written ⊢
  by_cases none : lfsGstateIszero (gstateDelta lfs) = true
  · rw [if_pos none, if_pos none, entriesBytes, List.append_nil]
    exact ⟨commit, caches, card, rfl, reached, rfl, writing⟩
  · rw [if_neg none] at room written
    rw [if_neg none, if_neg none]
    obtain ⟨between, middle, got, still⟩ := getgstate_run cfg below contents paged holds image block begin large lfs dir (gstateDelta lfs) commits logged
      behind bytes caches card writing
    generalize lfsGstateXor (gstateDelta lfs) (commitsDelta commits) = delta at room written got ⊢
    have entry : itemEntry (lfsMktag lfsTypeMovestate 0x3ff 12, .bytes (lfsGstateTole32 delta)) =
        ⟨lfsMktag lfsTypeMovestate 0x3ff 12, lfsGstateTole32 delta⟩ := by
      have size : (lfsTagDsize (lfsMktag lfsTypeMovestate 0x3ff 12) - 4).toNat = 12 := by decide
      have words : (lfsGstateTole32 delta).length = 12 := rfl
      rw [itemEntry, size, ← words, memory_bytes]
    rw [← entry] at room written ⊢
    obtain ⟨commit', caches', after, ran, last⟩ := commit_item_run cfg below contents paged stores holds image block begin present ordinary
      (lfsMktag lfsTypeMovestate 0x3ff 12, .bytes (lfsGstateTole32 delta)) (written _ List.mem_cons_self) bytes commit between middle room reached still
    refine ⟨commit', caches', after, ?_, last⟩
    rw [bd_bind_run below.access _ _ caches between card middle _ got]
    dsimp only
    rw [if_neg fun failed => failed rfl]
    exact ran

-- The three parts of a commit put its bytes behind the log, up to the end of a
-- page, and the log ends there.
theorem try_commit_writes (large : 8 ≤ cfg.blockSize.toNat) (lfs : LfsBase) (dir : Mdir) (attrs items : List Item) (fuel : Nat)
    (commits : List (List LogEntry)) (caches : Caches) (card : σ) (here : dir.pair.first = block) (logged : Logged cfg (contents card) dir commits)
    (page : dir.off.toNat % 512 = 0) (handed : allHanded attrs = .some items) (enough : attrs.length < fuel)
    (written : ∀ item ∈ items, (itemEntry item).Written)
    (room : dir.off.toNat + entriesSize (commitEntries lfs commits items) + 8 ≤ cfg.blockSize.toNat) (idle : Idle cfg (contents card) caches) :
    ∃ tag padding off caches' after, (tryCommit cfg fuel lfs dir attrs caches).run below.access card =
        .some (((0, { dir with off := off, etag := nextPtag tag }, { lfs with gdisk := lfs.gstate, gdelta := Gstate.zero }), caches'), after) ∧
      Closing tag padding ∧ off.toNat = (dir.off.toNat + entriesSize (commitEntries lfs commits items) + 8 + 511) / 512 * 512 ∧
      contents after = (contents card).write block dir.off.toNat
        (commitBytes dir.etag 0xffffffff (commitEntries lfs commits items) tag padding) ∧
      dir.off.toNat + (commitBytes dir.etag 0xffffffff (commitEntries lfs commits items) tag padding).length = off.toNat ∧
      off.toNat ≤ cfg.blockSize.toNat ∧ Ended (nextPtag tag) 0xffffffff ((blockBytes cfg (contents card) block).drop off.toNat) ∧
      Idle cfg (contents after) caches' := by
  subst here
  have blocks := paged.small
  have sizes := entries_size_append (items.map itemEntry) (gstateEntries lfs commits)
  rw [← commitEntries] at sizes
  have limit : (cfg.blockSize - 8).toNat = cfg.blockSize.toNat - 8 :=
    UInt32.toNat_sub_of_le _ _ (by rw [UInt32.le_iff_toNat_le]; simp only [UInt32.reduceToNat]; omega)
  have reached : Reached cfg dir.pair.first dir.off.toNat [] ⟨dir.pair.first, dir.off, dir.etag, 0xffffffff, dir.off, cfg.blockSize - 8⟩ :=
    ⟨rfl, rfl, rfl, rfl, limit, by rw [List.length_nil]; omega⟩
  have writing : Writing cfg (contents card) dir.pair.first dir.off.toNat [] caches (contents card) := by
    obtain ⟨null, coherent, aligned⟩ := idle
    refine ⟨⟨0, ⟨page, rfl⟩, ⟨Nat.le_refl 0, by decide⟩, (write_nil _ _ _).symm, Or.inl ⟨null, rfl⟩⟩, ?_, aligned⟩
    exact coherent_but_more cfg _ _ _ _ coherent fun _ _ impossible => absurd impossible id
  obtain ⟨first, between, middle, ran, reached, ptag, writing⟩ := hand_items_run cfg below contents paged stores holds (contents card) dir.pair.first
    dir.off.toNat present ordinary items [] _ caches card written (by dsimp only; omega) reached writing
  rw [← traverse_attrs_hands cfg (lfsDirCommitCommit cfg) dir (by omega) dir.etag 0 0 attrs fuel items _ handed enough] at ran
  rw [List.nil_append] at reached writing
  dsimp only at ptag reached writing
  have place := reached.off
  rw [entries_bytes_length] at place
  obtain ⟨second, caches2, card2, stated, reached, last, writing⟩ := commit_gstate_run cfg below contents paged stores holds (contents card)
    dir.pair.first dir.off.toNat present ordinary (by omega) lfs dir commits logged rfl _ first between middle (by omega) reached writing
  rw [ptag, ← entries_bytes_append, ← commitEntries] at reached writing
  rw [ptag, ← last_tag_append, ← commitEntries] at last
  have place := reached.off
  rw [entries_bytes_length] at place
  obtain ⟨padding, third, caches3, after, closed, end_, etag, length, stored, idle⟩ := commitcrc_run cfg below contents paged stores holds (contents card)
    dir.pair.first dir.off.toNat present ordinary _ second caches2 card2 reached (by omega) writing
  obtain ⟨number, within⟩ := page_end cfg paged second.off (by omega)
  have near : (lfsAlignup (second.off + 8) cfg.progSize).toNat < second.off.toNat + 1000 := by omega
  have room8 : second.off.toNat + 8 ≤ (lfsAlignup (second.off + 8) cfg.progSize).toNat := by omega
  have closing := closing_tag cfg (contents card) dir.pair.first second.off _ room8 near padding length
  have ended := closing_ended cfg (contents card) dir.pair.first second.off _ present room8 near within (by omega)
  generalize lfsAlignup (second.off + 8) cfg.progSize = off' at number within end_ etag length stored near room8 closing ended
  generalize closingTag cfg (contents card) dir.pair.first second.off off' = tag at etag stored closing ended
  have whole : entriesBytes dir.etag (commitEntries lfs commits items) ++ crcBytes second.ptag second.crc tag ++ padding =
      commitBytes dir.etag 0xffffffff (commitEntries lfs commits items) tag padding := by
    rw [commitBytes, last, reached.crc]
  rw [whole] at stored
  have size : dir.off.toNat + (commitBytes dir.etag 0xffffffff (commitEntries lfs commits items) tag padding).length = off'.toNat := by
    rw [← whole, List.length_append, List.length_append, entries_bytes_length, crc_bytes_length]
    omega
  refine ⟨tag, padding, off', caches3, after, ?_, closing, by omega, stored, size, within, ended, idle⟩
  rw [tryCommit]
  dsimp only
  rw [bd_bind_run below.access _ _ caches between card middle _ ran]
  dsimp only
  rw [if_neg fun failed => failed rfl, bd_bind_run below.access _ _ between caches2 middle card2 _ stated]
  dsimp only
  rw [if_neg fun failed => failed rfl, bd_bind_run below.access _ _ caches2 caches3 card2 after _ closed]
  dsimp only
  rw [if_neg fun failed => failed rfl, end_, etag]
  rfl

-- One commit of lfs_dir_commit: the log on the device is one commit longer, and
-- dir is behind it.
theorem try_commit_run (large : 8 ≤ cfg.blockSize.toNat) (lfs : LfsBase) (dir : Mdir) (attrs items : List Item) (fuel : Nat)
    (commits : List (List LogEntry)) (caches : Caches) (card : σ) (here : dir.pair.first = block) (logged : Logged cfg (contents card) dir commits)
    (some : commits ≠ []) (snug : ∀ entry ∈ commits.flatten, entry.Snug) (page : dir.off.toNat % 512 = 0) (handed : allHanded attrs = .some items)
    (enough : attrs.length < fuel) (written : ∀ item ∈ items, (itemEntry item).Written)
    (room : dir.off.toNat + entriesSize (commitEntries lfs commits items) + 8 ≤ cfg.blockSize.toNat) (idle : Idle cfg (contents card) caches) :
    ∃ tag padding off caches' after, (tryCommit cfg fuel lfs dir attrs caches).run below.access card =
        .some (((0, { dir with off := off, etag := nextPtag tag }, { lfs with gdisk := lfs.gstate, gdelta := Gstate.zero }), caches'), after) ∧
      Closing tag padding ∧ off.toNat = (dir.off.toNat + entriesSize (commitEntries lfs commits items) + 8 + 511) / 512 * 512 ∧
      contents after = (contents card).write block dir.off.toNat
        (commitBytes dir.etag 0xffffffff (commitEntries lfs commits items) tag padding) ∧
      Logged cfg (contents after) { dir with off := off, etag := nextPtag tag }
        (commits ++ [closedEntries dir.etag 0xffffffff (commitEntries lfs commits items) tag padding]) ∧ Idle cfg (contents after) caches' := by
  subst here
  have blocks := paged.small
  obtain ⟨tag, padding, off', caches', after, ran, closing, number, stored, size, within, ended, idle'⟩ := try_commit_writes cfg below contents paged
    stores holds dir.pair.first present ordinary large lfs dir attrs items fuel commits caches card rfl logged page handed enough written room idle
  obtain ⟨left, log, off⟩ := logged.log
  have behind : dir.off.toNat = cfg.blockSize.toNat - left.length := by
    rw [off, UInt32.toNat_ofNat']
    omega
  rw [← size] at ended
  have appended := append_log log some (by omega) snug _ tag padding (commit_entries_written lfs commits items written) closing dir.off.toNat behind
    (by omega) ended
  refine ⟨tag, padding, off', caches', after, ran, closing, number, stored, ⟨present, _, by rw [stored]; exact appended, ?_⟩, idle'⟩
  apply UInt32.toNat_inj.mp
  rw [List.length_drop, block_bytes_length, UInt32.toNat_ofNat', size]
  dsimp only
  omega

end

-- Commits in turn, each with the global state that is known by then.
def commitAll (cfg : Config) (fuel : Nat) : List (LfsBase × List Item) → Mdir → BdM (Int32 × Mdir)
  | [], dir => pure (0, dir)
  | (lfs, attrs) :: rest, dir => do
      let (err, dir, _) ← tryCommit cfg fuel lfs dir attrs
      if err ≠ 0 then
        return (err, dir)
      commitAll cfg fuel rest dir

def commitSize (lfs : LfsBase) (items : List Item) : Nat :=
  entriesSize (items.map itemEntry) + if lfsGstateIszero (gstateDelta lfs) then 0 else 16

-- The attributes of every commit are in memory, and the commits fit behind off
-- with a page of its own for each.
def CommitsFit (cfg : Config) (fuel : Nat) : Nat → List (LfsBase × List Item) → Prop
  | _, [] => True
  | off, (lfs, attrs) :: rest => ∃ items, allHanded attrs = some items ∧ attrs.length < fuel ∧ (∀ item ∈ items, (itemEntry item).Written) ∧
      off + commitSize lfs items + 8 ≤ cfg.blockSize.toNat ∧ CommitsFit cfg fuel ((off + commitSize lfs items + 8 + 511) / 512 * 512) rest

-- What the log has more for these commits.
inductive Added : UInt32 → List (List LogEntry) → List (LfsBase × List Item) → List (List LogEntry) → Prop where
  | nil (etag : UInt32) (commits : List (List LogEntry)) : Added etag commits [] []
  | cons (etag tag : UInt32) (commits more : List (List LogEntry)) (lfs : LfsBase) (attrs items : List Item) (padding : List UInt8)
      (rest : List (LfsBase × List Item)) : allHanded attrs = some items → Closing tag padding →
      Added (nextPtag tag) (commits ++ [closedEntries etag 0xffffffff (commitEntries lfs commits items) tag padding]) rest more →
      Added etag commits ((lfs, attrs) :: rest) (closedEntries etag 0xffffffff (commitEntries lfs commits items) tag padding :: more)

theorem commit_entries_size (lfs : LfsBase) (commits : List (List LogEntry)) (items : List Item) :
    entriesSize (commitEntries lfs commits items) = commitSize lfs items := by
  rw [commitEntries, entries_size_append, commitSize, gstateEntries]
  split
  · rfl
  · rfl

theorem written_snug (entry : LogEntry) (written : entry.Written) : entry.Snug := by
  have data := written_data entry written
  exact ⟨by rw [data, written.length], fun crc => absurd crc written.kind⟩

theorem closed_snug (etag crc tag : UInt32) (entries : List LogEntry) (padding : List UInt8) (written : ∀ entry ∈ entries, entry.Written)
    (closing : Closing tag padding) : ∀ entry ∈ closedEntries etag crc entries tag padding, entry.Snug := by
  intro entry member
  rcases List.mem_append.mp member with inside | last
  · exact written_snug entry (written entry inside)
  · have other : lfsTagType1 tag ≠ lfsTypeTail := by
      rw [closing.kind]
      decide
    have length := closing.length
    rw [List.mem_singleton.mp last, LogEntry.Snug, dataLength, if_neg other]
    dsimp only
    exact ⟨by omega, fun _ => by omega⟩

section
variable {σ : Type} (cfg : Config) (below : Below σ) (contents : σ → Image) (paged : Paged cfg) (stores : below.Stores contents)
  (holds : below.Holds contents) (large : 8 ≤ cfg.blockSize.toNat) (fuel : Nat)
include paged stores holds large

theorem commit_all_run (batches : List (LfsBase × List Item)) : ∀ (dir : Mdir) (commits : List (List LogEntry)) (caches : Caches) (card : σ),
    dir.pair.first ≠ lfsBlockInline → Logged cfg (contents card) dir commits → commits ≠ [] → (∀ entry ∈ commits.flatten, entry.Snug) →
    dir.off.toNat % 512 = 0 → CommitsFit cfg fuel dir.off.toNat batches → Idle cfg (contents card) caches →
    ∃ more off etag caches' after, (commitAll cfg fuel batches dir caches).run below.access card =
        some (((0, { dir with off := off, etag := etag }), caches'), after) ∧
      Added dir.etag commits batches more ∧ Logged cfg (contents after) { dir with off := off, etag := etag } (commits ++ more) ∧
      (∀ block place, block ≠ dir.pair.first ∨ place.toNat < dir.off.toNat → contents after block place = contents card block place) ∧
      Idle cfg (contents after) caches' := by
  induction batches with
  | nil =>
      intro dir commits caches card _ logged _ _ _ _ idle
      exact ⟨[], dir.off, dir.etag, caches, card, rfl, .nil _ _, by rw [List.append_nil]; exact logged, fun _ _ _ => rfl, idle⟩
  | cons batch rest ih =>
      intro dir commits caches card ordinary logged some snug page fits idle
      obtain ⟨lfs, attrs⟩ := batch
      obtain ⟨items, handed, enough, written, room, fits⟩ := fits
      rw [← commit_entries_size lfs commits items] at room fits
      obtain ⟨tag, padding, off, between, middle, ran, closing, number, stored, logged', idle'⟩ := try_commit_run cfg below contents paged stores holds
        dir.pair.first logged.present ordinary large lfs dir attrs items fuel commits caches card rfl logged some snug page handed enough written room idle
      have sound := commit_entries_written lfs commits items written
      have snug' : ∀ entry ∈ (commits ++ [closedEntries dir.etag 0xffffffff (commitEntries lfs commits items) tag padding]).flatten, entry.Snug := by
        intro entry member
        rw [List.flatten_append, List.flatten_singleton] at member
        rcases List.mem_append.mp member with old | new
        · exact snug entry old
        · exact closed_snug _ _ _ _ _ sound closing entry new
      obtain ⟨more, last, etag, caches', after, went, added, logged'', kept, idle''⟩ := ih { dir with off := off, etag := nextPtag tag } _ between middle
        ordinary logged' (List.append_ne_nil_of_left_ne_nil some _) snug' (by dsimp only; omega) (by dsimp only; rw [number]; exact fits) idle'
      refine ⟨_ :: more, last, etag, caches', after, ?_, .cons _ _ _ _ _ _ _ _ _ handed closing added, ?_, fun block place outside => ?_, idle''⟩
      · rw [commitAll, bd_bind_run below.access _ _ caches between card middle _ ran]
        dsimp only
        rw [if_neg fun failed => failed rfl]
        exact went
      · rw [List.append_assoc, List.singleton_append] at logged''
        exact logged''
      · rw [kept block place (outside.imp_right fun before => by dsimp only; omega), stored, Image.write, if_neg]
        rintro ⟨same, least, -⟩
        exact outside.elim (fun other => other same) fun before => by omega

-- Commits made behind the log that lfs_dir_fetch found are what it finds next,
-- behind all those that were there, and dir is where it would say.
theorem commits_fetched {δ : Type} (batches : List (LfsBase × List Item)) (dir old : Mdir) (commits : List (List LogEntry)) (caches : Caches)
    (card : σ) (ordinary : dir.pair.first ≠ lfsBlockInline) (logged : Logged cfg (contents card) dir commits) (some : commits ≠ [])
    (snug : ∀ entry ∈ commits.flatten, entry.Snug) (page : dir.off.toNat % 512 = 0) (fits : CommitsFit cfg fuel dir.off.toNat batches)
    (idle : Idle cfg (contents card) caches) (second : dir.pair.second < cfg.blockCount)
    (newest : newestFirst cfg (contents card) dir.pair = dir.pair) (cb : Callback δ) (lfs : LfsBase) (state : δ) :
    ∃ more off etag caches' after left, (commitAll cfg fuel batches dir caches).run below.access card =
        .some (((0, { dir with off := off, etag := etag }), caches'), after) ∧
      Added dir.etag commits batches more ∧ off = UInt32.ofNat (cfg.blockSize.toNat - left.length) ∧
      (∀ block place, block ≠ dir.pair.first ∨ place.toNat < dir.off.toNat → contents after block place = contents card block place) ∧
      (lfsDirFetch cfg old dir.pair lfs).run (directServer cfg (contents after) cb) state =
        .some ((foundTag (logMdir cfg dir.pair (blockRev cfg (contents card) dir.pair.first) (commits ++ more) etag left),
          logMdir cfg dir.pair (blockRev cfg (contents card) dir.pair.first) (commits ++ more) etag left), state) := by
  have blocks := paged.small
  have behind : 8 ≤ dir.off.toNat := by
    obtain ⟨left, log, off⟩ := logged.log
    rw [off]
    exact block_log_off cfg _ (by omega) (by omega) log some
  obtain ⟨more, off, etag, caches', after, ran, added, ⟨present, left, log, place⟩, kept, -⟩ := commit_all_run cfg below contents paged stores holds
    large fuel batches dir commits caches card ordinary logged some snug page fits idle
  have rev (block : UInt32) : blockRev cfg (contents after) block = blockRev cfg (contents card) block := by
    have front (image : Image) : (blockBytes cfg image block).take 4 = directBytes none image block 0 4 :=
      block_bytes_part cfg image block 0 4 (by omega)
    rw [blockRev, blockRev, front, front]
    refine congrArg lfsFromle32 (Lib.slice_congr _ _ _ _ _ fun p less => ?_)
    refine kept block _ (Or.inr ?_)
    rw [offset_toNat 0 _ (by rw [UInt32.toNat_zero]; omega), UInt32.toNat_zero]
    omega
  have first : newestFirst cfg (contents after) dir.pair = dir.pair := by
    rw [newest_same cfg (contents card) (contents after) dir.pair (rev _) (rev _), newest]
  obtain ⟨others, final, rest, other⟩ := whole_log_exists _ 0xffffffff (lfsCrc 0xffffffff ((blockBytes cfg (contents after) dir.pair.second).take 4))
    ((blockBytes cfg (contents after) dir.pair.second).drop 4) (Nat.le_refl _)
  obtain ⟨tag, fetched, found, known⟩ := dir_fetch_run cfg (contents after) cb (by omega) (by omega) lfs state old dir.pair ⟨present, second⟩
    (by rw [first]; exact log) (by rw [first]; exact other)
  rw [first] at known
  obtain ⟨rfl, rfl⟩ := known.newer (List.append_ne_nil_of_left_ne_nil some _)
  rw [rev] at found
  exact ⟨more, off, etag, caches', after, left, ran, added, place, kept, found⟩

end

def imageCard : Below Image where
  access := fun request card =>
    match request with
    | .read block off size => some (⟨0, size, fun p => card block (off + UInt32.ofNat p)⟩, card)
    | .prog block off data => some ((0 : Int32), card.write block off.toNat data)
  erase := fun _ card => some (0, card)
  alloc := pure (lfsErrNospc, 0)
  dirCommit := fun _ dir _ => pure (lfsErrNospc, dir)
  deorphan := pure 0

theorem image_card_holds : imageCard.Holds id := fun _ _ _ card => ⟨card, rfl, rfl⟩

theorem image_card_stores : imageCard.Stores id := fun block off data card => ⟨card.write block off.toNat data, rfl, rfl⟩

-- The pair of pairImage in blocks of four pages, and two commits for it: a file
-- with the orphan flag of the global state, and an attribute of the file.
def roomyConfig : Config := { pairConfig with blockSize := 2048 }

theorem roomy_log : BlockLog roomyConfig pairImage 0 [[pairEntry]] 0x500ffdf8 (List.replicate 1536 0xff) := by
  have read : readCommit 2 0xffffffff (lfsCrc 0xffffffff ((blockBytes roomyConfig pairImage 0).take 4)) ((blockBytes roomyConfig pairImage 0).drop 4) =
      some ([pairEntry], 0x500ffdf8, List.replicate 1536 0xff) := by decide +kernel
  have blank : Blank 0x500ffdf8 (List.replicate 1536 0xff) := by decide +kernel
  exact ⟨0xffffffff, .cons _ _ _ _ _ _ _ _ _ _ (read_commit_at 2 _ _ _ _ _ _ read) (.nil _ _ _), blank_ended blank⟩

def createAttrs : List Item :=
  [(0x40100000, .bytes []), (0x00100001, .bytes [0x61]), (0x20100005, .bytes [10, 11, 12, 13, 14]), (0, .bytes [])]

def userAttrs : List Item := [(0x10200001, .attrs [⟨7, 2, [1, 2]⟩])]

def orphanLfs : LfsBase := { zeroLfs.toLfsBase with gstate := ⟨0x80000000, ⟨0, 0⟩⟩ }

def roomyBatches : List (LfsBase × List Item) := [(orphanLfs, createAttrs), (zeroLfs.toLfsBase, userAttrs)]

def createItems : List Item := createAttrs.take 3

def userItems : List Item := [(0x30700002, .bytes [1, 2])]

instance (entry : LogEntry) : Decidable entry.Written :=
  decidable_of_iff (lfsTagIsvalid entry.tag = true ∧ lfsTagType1 entry.tag ≠ lfsTypeCrc ∧
      4 + entry.data.length = (lfsTagDsize entry.tag).toNat ∧ (lfsTagType1 entry.tag = lfsTypeTail → entry.data.length = 8))
    ⟨fun all => ⟨all.1, all.2.1, all.2.2.1, all.2.2.2⟩, fun written => ⟨written.valid, written.kind, written.length, written.tail⟩⟩

theorem roomy_fits : CommitsFit roomyConfig 5 512 roomyBatches :=
  ⟨createItems, rfl, by decide, by decide +kernel, by decide +kernel, userItems, rfl, by decide, by decide +kernel, by decide +kernel, trivial⟩

def idleCaches : Caches := ⟨Calls.lfsCacheDrop zeroCache, Calls.lfsCacheDrop zeroCache⟩

theorem idle_caches (image : Image) : Idle roomyConfig image idleCaches :=
  ⟨rfl, fun present => absurd present (null_beyond roomyConfig), aligned_beyond roomyConfig _ rfl⟩

def roomyMdir : Mdir := logMdir roomyConfig ⟨0, 1⟩ 1 [[pairEntry]] 0x500ffdf8 (List.replicate 1536 0xff)

def roomyEntries : List (List LogEntry) :=
  [createItems.map itemEntry ++ [⟨0x7ffffc0c, [0, 0, 0, 0x80, 0, 0, 0, 0, 0, 0, 0, 0]⟩], userItems.map itemEntry]

theorem roomy_added (more : List (List LogEntry)) (added : Added 0x500ffdf8 [[pairEntry]] roomyBatches more) :
    more.map List.dropLast = roomyEntries := by
  have entries (etag tag : UInt32) (made : List LogEntry) (padding : List UInt8) : (closedEntries etag 0xffffffff made tag padding).dropLast = made :=
    List.dropLast_concat
  have orphans : gstateEntries orphanLfs [[pairEntry]] = [⟨0x7ffffc0c, [0, 0, 0, 0x80, 0, 0, 0, 0, 0, 0, 0, 0]⟩] := by decide +kernel
  cases added with
  | cons _ _ _ _ _ _ items _ _ handed _ added =>
      cases added with
      | cons _ _ _ _ _ _ users _ _ others _ added =>
          cases added
          obtain rfl : createItems = items := Option.some.inj handed
          obtain rfl : userItems = users := Option.some.inj others
          rw [List.map_cons, List.map_cons, entries, entries, commitEntries, orphans]
          rfl

theorem roomy_commits_fetched : ∃ more off etag caches' after left, (commitAll roomyConfig 5 roomyBatches roomyMdir idleCaches).run imageCard.access
      pairImage = some (((0, { roomyMdir with off := off, etag := etag }), caches'), after) ∧
    more.map List.dropLast = roomyEntries ∧ off = UInt32.ofNat (2048 - left.length) ∧
    (lfsDirFetch roomyConfig roomyMdir ⟨0, 1⟩ zeroLfs.toLfsBase).run (directServer roomyConfig after fun (log : List UInt32) block => (0, log ++ [block]))
      [] = some ((foundTag (logMdir roomyConfig ⟨0, 1⟩ 1 ([[pairEntry]] ++ more) etag left), logMdir roomyConfig ⟨0, 1⟩ 1 ([[pairEntry]] ++ more) etag left),
        []) := by
  have paged : Paged roomyConfig := ⟨rfl, rfl, rfl, by decide, by decide⟩
  have logged : Logged roomyConfig pairImage roomyMdir [[pairEntry]] := ⟨by decide, _, roomy_log, rfl⟩
  have snug : ∀ entry ∈ [[pairEntry]].flatten, entry.Snug := by
    unfold LogEntry.Snug
    decide +kernel
  have rev : blockRev roomyConfig pairImage 0 = 1 := by decide +kernel
  have behind : roomyMdir.off.toNat = 512 := by decide +kernel
  obtain ⟨more, off, etag, caches', after, left, ran, added, place, -, found⟩ := commits_fetched roomyConfig imageCard id paged image_card_stores
    image_card_holds (by decide) 5 roomyBatches roomyMdir roomyMdir [[pairEntry]] idleCaches pairImage (by decide) logged (List.cons_ne_nil _ _) snug
    (by rw [behind]) (by rw [behind]; exact roomy_fits) (idle_caches _) (by decide) (by decide +kernel) (fun (log : List UInt32) block => (0, log ++ [block]))
    zeroLfs.toLfsBase []
  rw [show roomyMdir.pair.first = 0 from rfl, show (id pairImage : Image) = pairImage from rfl, rev] at found
  exact ⟨more, off, etag, caches', after, left, ran, roomy_added more added, place, found⟩

end SDCardFs.Littlefs
