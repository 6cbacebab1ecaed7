import SDCardFs.Lib.Edits
import SDCardFs.Littlefs.Fetch

set_option autoImplicit false

namespace SDCardFs.Littlefs

-- An entry as a change of the files of a pair.
def LogEntry.edit (entry : LogEntry) : Lib.Edit LogEntry :=
  if lfsTagType3 entry.tag = lfsTypeCreate then .insert (lfsTagId entry.tag).toNat
  else if lfsTagType3 entry.tag = lfsTypeDelete then .remove (lfsTagId entry.tag).toNat
  else .put (lfsTagId entry.tag).toNat entry

-- The splices are creates and deletes.
def LogEntry.Plain (entry : LogEntry) : Prop :=
  lfsTagType1 entry.tag = lfsTypeSplice →
    (lfsTagType3 entry.tag = lfsTypeCreate ∧ lfsTagSize entry.tag = 0) ∨ lfsTagType3 entry.tag = lfsTypeDelete

-- A file that is to be moved from here is here no more.
def moveEdits (gdisk : Gstate) (pair : Pair) : List (Lib.Edit LogEntry) :=
  if lfsGstateHasmovehere gdisk pair then [.remove (lfsTagId gdisk.tag).toNat] else []

def dirEdits (gdisk : Gstate) (pair : Pair) (commits : List (List LogEntry)) : List (Lib.Edit LogEntry) :=
  moveEdits gdisk pair ++ commits.flatten.reverse.map LogEntry.edit

-- The entries of the file with this id, the newest first.
def fileEntries (gdisk : Gstate) (pair : Pair) (commits : List (List LogEntry)) (id : Nat) : List LogEntry :=
  Lib.rows (dirEdits gdisk pair commits) id

def LogEntry.picked (tmask gtag : UInt32) (entry : LogEntry) : Bool := tmask &&& lfsTagType3 entry.tag = tmask &&& lfsTagType3 gtag

-- What lfs_dir_get makes of the entry it is to return.
def entryAnswer (named : UInt32 → UInt32) (gsize : Nat) : Option LogEntry → Int32 × List UInt8
  | none => (lfsErrNoent, zeros gsize)
  | some entry =>
      if lfsTagIsdelete entry.tag then (lfsErrNoent, zeros gsize)
      else ((named entry.tag).toInt32, entry.data.take gsize ++ zeros (gsize - entry.data.length))

-- The tag with the id of another one.
def idOf (gtag tag : UInt32) : UInt32 := lfsMktag (lfsTagType3 tag) (lfsTagId gtag) (lfsTagSize tag)

-- The log in front of off, from its newest entry, whose tag this is.
inductive Behind (bytes : List UInt8) : Nat → UInt32 → List LogEntry → Prop where
  | start : Behind bytes 4 0x7fffffff []
  | entry (off : Nat) (ptag : UInt32) (entry : LogEntry) (entries : List LogEntry) : Behind bytes off ptag entries →
      lfsTagIsvalid entry.tag = true → off + (lfsTagDsize entry.tag).toNat ≤ bytes.length → off + 4 + dataLength entry.tag ≤ bytes.length →
      (lfsFrombe32 ((bytes.drop off).take 4) ^^^ entry.tag) &&& 0x7fffffff = ptag →
      entry.data = (bytes.drop (off + 4)).take (dataLength entry.tag) →
      Behind bytes (off + (lfsTagDsize entry.tag).toNat) entry.tag (entry :: entries)

theorem low_toNat (tag : UInt32) : (tag &&& 0x7fffffff).toNat = tag.toNat % 2 ^ 31 := by
  rw [word_field tag 0x7fffffff 0 31 rfl]
  omega

theorem low_valid (tag : UInt32) (valid : lfsTagIsvalid tag = true) : tag &&& 0x7fffffff = tag := by
  have small := (tag_valid_iff tag).mp valid
  apply UInt32.toNat_inj.mp
  rw [low_toNat, Nat.mod_eq_of_lt small]

theorem low_next (tag : UInt32) (valid : lfsTagIsvalid tag = true) : nextPtag tag &&& 0x7fffffff = tag := by
  have small := (tag_valid_iff tag).mp valid
  apply UInt32.toNat_inj.mp
  rw [low_toNat, next_ptag_low, Nat.mod_eq_of_lt small]

theorem xor_back (word ptag tag : UInt32) (made : word ^^^ ptag = tag) : word ^^^ tag = ptag := by
  rw [← made, ← UInt32.xor_assoc, UInt32.xor_self, UInt32.zero_xor]

theorem commit_behind {bytes : List UInt8} {ptag crc etag : UInt32} {raw rest : List UInt8} {entries : List LogEntry}
    (commit : CommitAt ptag crc raw entries etag rest) : ∀ (off : Nat) (past : List LogEntry), raw = bytes.drop off → off ≤ bytes.length →
    Behind bytes off (ptag &&& 0x7fffffff) past →
    rest = bytes.drop (bytes.length - rest.length) ∧ Behind bytes (bytes.length - rest.length) (etag &&& 0x7fffffff) (entries.reverse ++ past) := by
  induction commit with
  | crc ptag crc tag raw at_ kind long same =>
      rintro off past rfl inside behind
      have fits := at_.fits
      have least := (tag_dsize_bounds tag).1
      rw [List.length_drop] at fits long
      have place : bytes.length - ((bytes.drop off).drop (lfsTagDsize tag).toNat).length = off + (lfsTagDsize tag).toNat := by
        rw [List.length_drop, List.length_drop]
        omega
      have other : ¬ lfsTagType1 tag = lfsTypeTail := by
        rw [kind]
        decide
      have data : dataLength tag = (lfsTagDsize tag).toNat - 4 := if_neg other
      have room : off + (lfsTagDsize tag).toNat ≤ bytes.length := by omega
      have held : off + 4 + dataLength tag ≤ bytes.length := by omega
      rw [place, low_next tag at_.valid, List.drop_drop, List.drop_drop]
      refine ⟨rfl, .entry off _ ⟨tag, _⟩ past behind at_.valid room held ?_ rfl⟩
      rw [xor_back _ _ _ at_.word]
  | entry ptag crc tag etag raw rest entries at_ kind long commit ih =>
      rintro off past rfl inside behind
      have fits := at_.fits
      rw [List.length_drop] at fits long
      have next : Behind bytes (off + (lfsTagDsize tag).toNat) tag (⟨tag, (bytes.drop (off + 4)).take (dataLength tag)⟩ :: past) := by
        have room : off + (lfsTagDsize tag).toNat ≤ bytes.length := by omega
        have held : off + 4 + dataLength tag ≤ bytes.length := by omega
        refine .entry off _ ⟨tag, _⟩ past behind at_.valid room held ?_ rfl
        rw [xor_back _ _ _ at_.word]
      obtain ⟨same, whole⟩ := ih (off + (lfsTagDsize tag).toNat) _ (List.drop_drop ..) (by omega) (by rw [low_valid tag at_.valid]; exact next)
      rw [List.reverse_cons, List.append_assoc, List.drop_drop]
      exact ⟨same, whole⟩

theorem log_behind {bytes : List UInt8} {ptag crc last next : UInt32} {raw left : List UInt8} {commits : List (List LogEntry)}
    (log : LogAt ptag crc raw commits last next left) : ∀ (off : Nat) (past : List LogEntry), raw = bytes.drop off → off ≤ bytes.length →
    Behind bytes off (ptag &&& 0x7fffffff) past → Behind bytes (bytes.length - left.length) (last &&& 0x7fffffff) (commits.flatten.reverse ++ past) := by
  induction log with
  | nil ptag crc raw =>
      rintro off past rfl inside behind
      have place : bytes.length - (bytes.drop off).length = off := by
        rw [List.length_drop]
        omega
      rw [place]
      exact behind
  | cons ptag crc etag last next raw rest left entries commits commit _ ih =>
      intro off past here inside behind
      obtain ⟨same, whole⟩ := commit_behind commit off past here inside behind
      rw [List.flatten_cons, List.reverse_append, List.append_assoc]
      exact ih _ _ same (Nat.sub_le _ _) whole

theorem block_behind {cfg : Config} {image : Image} {block : UInt32} {commits : List (List LogEntry)} {last : UInt32} {left : List UInt8}
    (log : BlockLog cfg image block commits last left) (large : 4 ≤ cfg.blockSize.toNat) :
    Behind (blockBytes cfg image block) (cfg.blockSize.toNat - left.length) (last &&& 0x7fffffff) commits.flatten.reverse := by
  obtain ⟨next, log, -⟩ := log
  have first : Behind (blockBytes cfg image block) 4 ((0xffffffff : UInt32) &&& 0x7fffffff) [] := .start
  have whole := log_behind log 4 [] rfl (by rw [block_bytes_length]; exact large) first
  rw [block_bytes_length, List.append_nil] at whole
  exact whole

theorem behind_above {bytes : List UInt8} {off : Nat} {low : UInt32} {entries : List LogEntry} (behind : Behind bytes off low entries) :
    4 + entries.length ≤ off := by
  induction behind with
  | start => exact Nat.le_refl 4
  | entry off ptag entry entries _ _ _ _ _ _ ih =>
      have least := (tag_dsize_bounds entry.tag).1
      rw [List.length_cons]
      omega

theorem low_number (tag low : UInt32) (same : tag &&& 0x7fffffff = low) : tag.toNat % 2 ^ 31 = low.toNat := by
  rw [← low_toNat, same]

theorem low_dsize (tag low : UInt32) (same : tag &&& 0x7fffffff = low) : lfsTagDsize tag = lfsTagDsize low := by
  have number := low_number tag low same
  have size : tag.toNat % 1024 = low.toNat % 1024 := by omega
  apply UInt32.toNat_inj.mp
  rw [tag_dsize_toNat, tag_dsize_toNat, size]

theorem low_type1 (tag low : UInt32) (same : tag &&& 0x7fffffff = low) : lfsTagType1 tag = lfsTagType1 low := by
  have number := low_number tag low same
  have kind : tag.toNat / 2 ^ 28 % 8 = low.toNat / 2 ^ 28 % 8 := by omega
  apply UInt32.toNat_inj.mp
  rw [tag_type1_toNat, tag_type1_toNat, kind]

theorem low_xor (word tag low : UInt32) (same : tag &&& 0x7fffffff = low) : (word ^^^ tag) &&& 0x7fffffff = (word ^^^ low) &&& 0x7fffffff := by
  have number := low_number tag low same
  apply UInt32.toNat_inj.mp
  rw [low_toNat, low_toNat, UInt32.toNat_xor, UInt32.toNat_xor, Nat.xor_mod_two_pow, Nat.xor_mod_two_pow, number, ← number, Nat.mod_mod]

theorem type1_of_type3 (tag : UInt32) : lfsTagType1 tag = lfsTagType3 tag &&& 0x700 := by
  have mask : (0x700 : UInt32).toNat = (2 ^ 3 - 1) * 2 ^ 8 := rfl
  apply UInt32.toNat_inj.mp
  rw [tag_type1_toNat, UInt32.toNat_and, mask, Lib.and_field, tag_type3_toNat]
  omega

theorem kind_of_masked (tmask first second : UInt32) (kinds : tmask &&& 0x700 = 0x700)
    (same : tmask &&& lfsTagType3 first = tmask &&& lfsTagType3 second) : lfsTagType1 first = lfsTagType1 second := by
  have masked (tag : UInt32) : lfsTagType1 tag = (tmask &&& lfsTagType3 tag) &&& 0x700 := by
    rw [type1_of_type3, UInt32.and_comm tmask, UInt32.and_assoc, kinds]
  rw [masked, masked, same]

theorem splice_of_type3 (tag : UInt32) : lfsTagSplice tag = (lfsTagType3 tag).toUInt8.toInt8.toInt32.toUInt32 := by
  have same : (lfsTagChunk tag).toUInt8 = (lfsTagType3 tag).toUInt8 := by
    apply UInt8.toNat_inj.mp
    rw [UInt32.toNat_toUInt8, UInt32.toNat_toUInt8, tag_chunk_toNat, tag_type3_toNat]
    omega
  rw [lfsTagSplice, same]

theorem low_fields (tag low : UInt32) (same : tag &&& 0x7fffffff = low) : lfsTagId tag = lfsTagId low ∧ lfsTagType3 tag = lfsTagType3 low := by
  have number := low_number tag low same
  have id : tag.toNat / 1024 % 1024 = low.toNat / 1024 % 1024 := by omega
  have type : tag.toNat / 2 ^ 20 % 2048 = low.toNat / 2 ^ 20 % 2048 := by omega
  refine ⟨?_, ?_⟩
  · apply UInt32.toNat_inj.mp
    rw [tag_id_toNat, tag_id_toNat, id]
  · apply UInt32.toNat_inj.mp
    rw [tag_type3_toNat, tag_type3_toNat, type]

theorem data_size (tag : UInt32) (other : lfsTagType1 tag ≠ lfsTypeTail) (kept : ¬ lfsTagIsdelete tag = true) :
    dataLength tag = (lfsTagSize tag).toNat := by
  have some : tag.toNat % 1024 ≠ 1023 := fun deleted => kept ((tag_delete_iff tag).mpr deleted)
  rw [dataLength, if_neg other, tag_dsize_toNat, if_neg some, tag_size_toNat, Nat.add_sub_cancel_left]

theorem edit_insert (entry : LogEntry) (create : lfsTagType3 entry.tag = lfsTypeCreate) :
    entry.edit = .insert (lfsTagId entry.tag).toNat := if_pos create

theorem edit_remove (entry : LogEntry) (delete : lfsTagType3 entry.tag = lfsTypeDelete) :
    entry.edit = .remove (lfsTagId entry.tag).toNat := by
  have other : ¬ lfsTagType3 entry.tag = lfsTypeCreate := by
    rw [delete]
    decide
  rw [LogEntry.edit, if_neg other, if_pos delete]

theorem edit_put (entry : LogEntry) (kind : lfsTagType1 entry.tag ≠ lfsTypeSplice) : entry.edit = .put (lfsTagId entry.tag).toNat entry := by
  have create : ¬ lfsTagType3 entry.tag = lfsTypeCreate := by
    intro same
    rw [type1_of_type3, same] at kind
    exact kind (by decide)
  have delete : ¬ lfsTagType3 entry.tag = lfsTypeDelete := by
    intro same
    rw [type1_of_type3, same] at kind
    exact kind (by decide)
  rw [LogEntry.edit, if_neg create, if_neg delete]

-- The tags lfs_dir_get is asked for: no splice, no CRC and no tail.
structure Asked (tmask gtag : UInt32) : Prop where
  narrow : tmask.toNat < 2 ^ 11
  kinds : tmask &&& 0x700 = 0x700
  valid : lfsTagIsvalid gtag = true
  splice : lfsTagType1 gtag ≠ lfsTypeSplice
  crc : lfsTagType1 gtag ≠ lfsTypeCrc
  tail : lfsTagType1 gtag ≠ lfsTypeTail

inductive SliceTurn where
  | missing
  | found (gdiff : UInt32)
  | next (gdiff : UInt32)

-- A turn of the search of lfs_dir_getslice over the tag it is at.
def sliceTurn (gmask gtag tag gdiff : UInt32) : SliceTurn :=
  let splices := lfsTagId gmask ≠ 0 ∧ lfsTagType1 tag = lfsTypeSplice ∧ lfsTagId tag ≤ lfsTagId (gtag - gdiff)
  if splices ∧ tag = lfsMktag lfsTypeCreate 0 0 ||| (lfsMktag 0 0x3ff 0 &&& (gtag - gdiff)) then .missing
  else
    let gdiff := if splices then gdiff + lfsMktag 0 (lfsTagSplice tag) 0 else gdiff
    if gmask &&& tag = gmask &&& (gtag - gdiff) then if lfsTagIsdelete tag then .missing else .found gdiff
    else .next gdiff

-- The tag looked for, while its file has id cur.
def soughtTag (gtag : UInt32) (cur : Nat) : UInt32 := lfsMktag (lfsTagType3 gtag) (UInt32.ofNat cur) (lfsTagSize gtag)

theorem sought_toNat (gtag : UInt32) (cur : Nat) (few : cur < 1024) :
    (soughtTag gtag cur).toNat = (lfsTagType3 gtag).toNat * 2 ^ 20 + cur * 2 ^ 10 + (lfsTagSize gtag).toNat := by
  have id : (UInt32.ofNat cur).toNat = cur := by
    rw [UInt32.toNat_ofNat']
    omega
  rw [soughtTag, mktag_toNat _ _ _ (type3_small gtag) (by omega) (size_small gtag), id]

theorem sought_fields (gtag : UInt32) (cur : Nat) (few : cur < 1024) :
    lfsTagType3 (soughtTag gtag cur) = lfsTagType3 gtag ∧ (lfsTagId (soughtTag gtag cur)).toNat = cur := by
  have id : (UInt32.ofNat cur).toNat = cur := by
    rw [UInt32.toNat_ofNat']
    omega
  obtain ⟨type, named, -⟩ := mktag_fields (lfsTagType3 gtag) (UInt32.ofNat cur) (lfsTagSize gtag) (type3_small gtag) (by omega) (size_small gtag)
  exact ⟨type, by rw [soughtTag, named, id]⟩

theorem sought_before (gtag gdiff : UInt32) (cur : Nat) (seek : gtag - gdiff = soughtTag gtag (cur + 1)) (few : cur + 1 < 1024) :
    gtag - (gdiff + 1024) = soughtTag gtag cur := by
  have type := type3_small gtag
  have size := size_small gtag
  have number := congrArg UInt32.toNat seek
  have small := gdiff.toNat_lt
  have whole := gtag.toNat_lt
  rw [sought_toNat _ _ few, UInt32.toNat_sub] at number
  apply UInt32.toNat_inj.mp
  rw [sought_toNat _ _ (by omega), UInt32.toNat_sub, UInt32.toNat_add]
  simp only [UInt32.reduceToNat]
  omega

theorem sought_behind (gtag gdiff : UInt32) (cur : Nat) (seek : gtag - gdiff = soughtTag gtag cur) (few : cur + 1 < 1024) :
    gtag - (gdiff + 0xfffffc00) = soughtTag gtag (cur + 1) := by
  have type := type3_small gtag
  have size := size_small gtag
  have number := congrArg UInt32.toNat seek
  have small := gdiff.toNat_lt
  have whole := gtag.toNat_lt
  rw [sought_toNat _ _ (by omega), UInt32.toNat_sub] at number
  apply UInt32.toNat_inj.mp
  rw [sought_toNat _ _ few, UInt32.toNat_sub, UInt32.toNat_add]
  simp only [UInt32.reduceToNat]
  omega

theorem sought_self (gtag : UInt32) (valid : lfsTagIsvalid gtag = true) : soughtTag gtag (lfsTagId gtag).toNat = gtag := by
  rw [soughtTag, UInt32.ofNat_toNat, tag_fields gtag valid]

-- The entry that is found, under the id it was asked for with.
theorem sought_found (gtag gdiff tag : UInt32) (cur : Nat) (seek : gtag - gdiff = soughtTag gtag cur) (few : cur < 1024)
    (valid : lfsTagIsvalid gtag = true) (sound : lfsTagIsvalid tag = true) (named : (lfsTagId tag).toNat = cur) : tag + gdiff = idOf gtag tag := by
  have type := type3_small gtag
  have size := size_small gtag
  have id := id_small gtag
  have number := congrArg UInt32.toNat seek
  have whole := congrArg UInt32.toNat (tag_fields gtag valid)
  have parts := congrArg UInt32.toNat (tag_fields tag sound)
  have gdiffSmall := gdiff.toNat_lt
  have tagType := type3_small tag
  have tagSize := size_small tag
  rw [sought_toNat _ _ few, UInt32.toNat_sub] at number
  rw [mktag_toNat _ _ _ type id size] at whole
  rw [mktag_toNat _ _ _ tagType (by omega) tagSize, named] at parts
  apply UInt32.toNat_inj.mp
  rw [idOf, mktag_toNat _ _ _ tagType id tagSize, UInt32.toNat_add, ← parts]
  omega

theorem all_ids (id : UInt32) (few : id.toNat < 2 ^ 10) : (0x3ff : UInt32) &&& id = id := by
  have mask : (0x3ff : UInt32).toNat = 2 ^ 10 - 1 := rfl
  apply UInt32.toNat_inj.mp
  rw [UInt32.toNat_and, mask, Nat.and_comm, Nat.and_two_pow_sub_one_eq_mod, Nat.mod_eq_of_lt few]

theorem created_word (seek : UInt32) :
    lfsMktag lfsTypeCreate 0 0 ||| (lfsMktag 0 0x3ff 0 &&& seek) = lfsMktag lfsTypeCreate (lfsTagId seek) 0 := by
  have ten : (0 : UInt32) <<< 10 = 0 := rfl
  have twenty : (0 : UInt32) <<< 20 = 0 := rfl
  rw [mask_tag 0 0x3ff seek (by decide) (by decide), all_ids _ (id_small seek), UInt32.zero_and]
  simp only [lfsMktag, ten, twenty, UInt32.or_zero, UInt32.zero_or]

section
variable (tmask gtag tag gdiff : UInt32) (cur : Nat) (narrow : tmask.toNat < 2 ^ 11) (seek : gtag - gdiff = soughtTag gtag cur)
  (few : cur < 1024)
include narrow seek few

theorem other_kind_apart (imask : UInt32) (kinds : tmask &&& 0x700 = 0x700) (idSmall : imask.toNat < 2 ^ 10) (other : lfsTagType1 tag ≠ lfsTagType1 gtag) :
    ¬ lfsMktag tmask imask 0 &&& tag = lfsMktag tmask imask 0 &&& (gtag - gdiff) := by
  intro same
  obtain ⟨type, -⟩ := (masked_eq_iff tmask imask tag _ narrow idSmall).mp same
  rw [seek, (sought_fields gtag cur few).1] at type
  exact other (kind_of_masked tmask _ _ kinds type)

theorem turn_put (plain : lfsTagType1 tag ≠ lfsTypeSplice) :
    sliceTurn (lfsMktag tmask 0x3ff 0) gtag tag gdiff =
      if cur = (lfsTagId tag).toNat ∧ tmask &&& lfsTagType3 tag = tmask &&& lfsTagType3 gtag then
        if lfsTagIsdelete tag then .missing else .found gdiff
      else .next gdiff := by
  have ids : (0x3ff : UInt32) &&& lfsTagId tag = 0x3ff &&& lfsTagId (gtag - gdiff) ↔ cur = (lfsTagId tag).toNat := by
    rw [all_ids _ (id_small tag), all_ids _ (id_small _), ← UInt32.toNat_inj, seek, (sought_fields gtag cur few).2]
    exact ⟨Eq.symm, Eq.symm⟩
  have same := masked_eq_iff tmask 0x3ff tag (gtag - gdiff) narrow (by decide)
  rw [ids, seek, (sought_fields gtag cur few).1, ← seek] at same
  have still : ¬ (lfsTagId (lfsMktag tmask 0x3ff 0) ≠ 0 ∧ lfsTagType1 tag = lfsTypeSplice ∧ lfsTagId tag ≤ lfsTagId (gtag - gdiff)) :=
    fun splices => plain splices.2.1
  rw [sliceTurn, if_neg fun created => still created.1]
  dsimp only
  rw [if_neg still]
  by_cases picked : cur = (lfsTagId tag).toNat ∧ tmask &&& lfsTagType3 tag = tmask &&& lfsTagType3 gtag
  · rw [if_pos picked, if_pos (same.mpr ⟨picked.2, picked.1⟩)]
  · rw [if_neg picked, if_neg fun masked => picked ⟨(same.mp masked).2, (same.mp masked).1⟩]

theorem turn_insert (valid : lfsTagIsvalid tag = true) (create : lfsTagType3 tag = lfsTypeCreate) (empty : lfsTagSize tag = 0)
    (kinds : tmask &&& 0x700 = 0x700) (plain : lfsTagType1 gtag ≠ lfsTypeSplice) :
    sliceTurn (lfsMktag tmask 0x3ff 0) gtag tag gdiff =
      if cur = (lfsTagId tag).toNat then .missing else if (lfsTagId tag).toNat < cur then .next (gdiff + 1024) else .next gdiff := by
  have kind : lfsTagType1 tag = lfsTypeSplice := by
    rw [type1_of_type3, create]
    decide
  have other : lfsTagType1 tag ≠ lfsTagType1 gtag := fun same => plain (same.symm.trans kind)
  have masked : lfsTagId (lfsMktag tmask 0x3ff 0) ≠ 0 := by
    rw [(mktag_fields tmask 0x3ff 0 narrow (by decide) (by decide)).2.1]
    decide
  have step : lfsMktag 0 (lfsTagSplice tag) 0 = 1024 := by
    rw [splice_of_type3, create]
    decide
  have sought := (sought_fields gtag cur few).2
  have made : tag = lfsMktag lfsTypeCreate 0 0 ||| (lfsMktag 0 0x3ff 0 &&& (gtag - gdiff)) ↔ cur = (lfsTagId tag).toNat := by
    have whole := tag_fields tag valid
    rw [create, empty] at whole
    rw [created_word, seek]
    constructor
    · intro same
      obtain ⟨-, named, -⟩ := mktag_fields lfsTypeCreate (lfsTagId (soughtTag gtag cur)) 0 (by decide) (id_small _) (by decide)
      rw [same, named, sought]
    · intro same
      rw [UInt32.toNat_inj.mp (sought.trans same), whole]
  have before : (lfsTagId (lfsMktag tmask 0x3ff 0) ≠ 0 ∧ lfsTagType1 tag = lfsTypeSplice ∧ lfsTagId tag ≤ lfsTagId (gtag - gdiff)) ↔
      (lfsTagId tag).toNat ≤ cur := by
    rw [UInt32.le_iff_toNat_le, seek, sought]
    exact ⟨fun splices => splices.2.2, fun le => ⟨masked, kind, le⟩⟩
  rw [sliceTurn]
  dsimp only
  by_cases here : cur = (lfsTagId tag).toNat
  · rw [if_pos here, if_pos ⟨before.mpr (Nat.le_of_eq here.symm), made.mpr here⟩]
  · rw [if_neg here, if_neg fun both => here (made.mp both.2)]
    by_cases behind : (lfsTagId tag).toNat < cur
    · obtain ⟨earlier, rfl⟩ : ∃ earlier, cur = earlier + 1 := ⟨cur - 1, by omega⟩
      have back := sought_before gtag gdiff earlier seek few
      rw [if_pos behind, if_pos (before.mpr (Nat.le_of_lt behind)), step,
        if_neg (other_kind_apart tmask gtag tag (gdiff + 1024) earlier narrow back (by omega) 0x3ff kinds (by decide) other)]
    · rw [if_neg behind, if_neg (fun splices => behind (Nat.lt_of_le_of_ne (before.mp splices) (Ne.symm here))),
        if_neg (other_kind_apart tmask gtag tag gdiff cur narrow seek few 0x3ff kinds (by decide) other)]

theorem turn_remove (delete : lfsTagType3 tag = lfsTypeDelete) (kinds : tmask &&& 0x700 = 0x700) (plain : lfsTagType1 gtag ≠ lfsTypeSplice)
    (more : cur + 1 < 1024) :
    sliceTurn (lfsMktag tmask 0x3ff 0) gtag tag gdiff =
      if (lfsTagId tag).toNat ≤ cur then .next (gdiff + 0xfffffc00) else .next gdiff := by
  have kind : lfsTagType1 tag = lfsTypeSplice := by
    rw [type1_of_type3, delete]
    decide
  have other : lfsTagType1 tag ≠ lfsTagType1 gtag := fun same => plain (same.symm.trans kind)
  have masked : lfsTagId (lfsMktag tmask 0x3ff 0) ≠ 0 := by
    rw [(mktag_fields tmask 0x3ff 0 narrow (by decide) (by decide)).2.1]
    decide
  have step : lfsMktag 0 (lfsTagSplice tag) 0 = 0xfffffc00 := by
    rw [splice_of_type3, delete]
    decide
  have made : ¬ tag = lfsMktag lfsTypeCreate 0 0 ||| (lfsMktag 0 0x3ff 0 &&& (gtag - gdiff)) := by
    intro same
    have type := (mktag_fields lfsTypeCreate (lfsTagId (gtag - gdiff)) 0 (by decide) (id_small _) (by decide)).1
    rw [← created_word, ← same, delete] at type
    exact absurd type (by decide)
  have before : (lfsTagId (lfsMktag tmask 0x3ff 0) ≠ 0 ∧ lfsTagType1 tag = lfsTypeSplice ∧ lfsTagId tag ≤ lfsTagId (gtag - gdiff)) ↔
      (lfsTagId tag).toNat ≤ cur := by
    rw [UInt32.le_iff_toNat_le, seek, (sought_fields gtag cur few).2]
    exact ⟨fun splices => splices.2.2, fun le => ⟨masked, kind, le⟩⟩
  rw [sliceTurn]
  dsimp only
  rw [if_neg fun both => made both.2]
  by_cases le : (lfsTagId tag).toNat ≤ cur
  · have on := sought_behind gtag gdiff cur seek more
    rw [if_pos le, if_pos (before.mpr le), step,
      if_neg (other_kind_apart tmask gtag tag (gdiff + 0xfffffc00) (cur + 1) narrow on more 0x3ff kinds (by decide) other)]
  · rw [if_neg le, if_neg (fun splices => le (before.mp splices)),
      if_neg (other_kind_apart tmask gtag tag gdiff cur narrow seek few 0x3ff kinds (by decide) other)]

end

theorem turn_unnamed (tmask gtag tag : UInt32) (narrow : tmask.toNat < 2 ^ 11) :
    sliceTurn (lfsMktag tmask 0 0) gtag tag 0 =
      if tmask &&& lfsTagType3 tag = tmask &&& lfsTagType3 gtag then if lfsTagIsdelete tag then .missing else .found 0 else .next 0 := by
  have unmasked : ¬ (lfsTagId (lfsMktag tmask 0 0) ≠ 0 ∧ lfsTagType1 tag = lfsTypeSplice ∧ lfsTagId tag ≤ lfsTagId (gtag - 0)) :=
    fun splices => splices.1 (mktag_fields tmask 0 0 narrow (by decide) (by decide)).2.1
  have same := masked_eq_iff tmask 0 tag (gtag - 0) narrow (by decide)
  rw [UInt32.zero_and, UInt32.zero_and, UInt32.sub_zero] at same
  rw [sliceTurn]
  dsimp only
  rw [if_neg fun created => unmasked created.1, if_neg unmasked, UInt32.sub_zero]
  by_cases picked : tmask &&& lfsTagType3 tag = tmask &&& lfsTagType3 gtag
  · rw [if_pos picked, if_pos (same.mpr ⟨picked, rfl⟩)]
  · rw [if_neg picked, if_neg fun masked => picked (same.mp masked).1]

-- What the search does after a turn.
def sliceAfter (cfg : Config) (dir : Mdir) (gmask gtag : UInt32) (gsize fuel : Nat) (off tag ntag : UInt32) :
    SliceTurn → BaseM (Int32 × List UInt8)
  | .missing => pure (lfsErrNoent, zeros gsize)
  | .found gdiff => do
      let diff := min (lfsTagSize tag).toNat gsize
      let (err, data) ← bdRead (UInt32.ofNat diff) dir.pair.first (off + 4 + 0) (zeros diff)
      if err ≠ 0 then
        return (err, zeros gsize)
      return ((tag + gdiff).toInt32, data ++ zeros (gsize - diff))
  | .next gdiff => getsliceLoop cfg dir gmask gtag 0 gsize fuel off ntag gdiff

section
variable {δ : Type} (cfg : Config) (image : Image) (cb : Callback δ) (small : cfg.blockSize.toNat < 2 ^ 31) (lfs : LfsBase) (state : δ)
  (dir : Mdir) (present : dir.pair.first < cfg.blockCount)
include small present

theorem found_read_run (gmask gtag : UInt32) (gsize fuel : Nat) (off tag ntag gdiff : UInt32)
    (room : off.toNat + 4 + (lfsTagSize tag).toNat ≤ cfg.blockSize.toNat) :
    (sliceAfter cfg dir gmask gtag gsize fuel off tag ntag (.found gdiff) lfs).run (directServer cfg image cb) state =
      some (((tag + gdiff).toInt32, (((blockBytes cfg image dir.pair.first).drop (off.toNat + 4)).take (lfsTagSize tag).toNat).take gsize ++
        zeros (gsize - (lfsTagSize tag).toNat)), state) := by
  rw [sliceAfter]
  generalize (lfsTagSize tag).toNat = size at room ⊢
  dsimp only
  have place : (off + 4 + 0).toNat = off.toNat + 4 := by
    rw [UInt32.add_zero]
    exact offset_toNat off 4 (by omega)
  have length : (zeros (min size gsize)).length = min size gsize := List.length_replicate
  have got := tag_read_run cfg image cb small (UInt32.ofNat (min size gsize)) dir.pair.first (off + 4 + 0) (zeros (min size gsize)) lfs state present
    (by omega) (by omega)
  have long : ¬ ((blockBytes cfg image dir.pair.first).drop (off + 4 + 0).toNat).length < (zeros (min size gsize)).length := by
    rw [List.length_drop, block_bytes_length]
    omega
  rw [if_neg long, place, length] at got
  have parts : gsize - min size gsize = gsize - size := by omega
  refine (Lib.Prog.run_bind (directServer cfg image cb) (bdRead (UInt32.ofNat (min size gsize)) dir.pair.first (off + 4 + 0) (zeros (min size gsize)) lfs)
    _ state).trans ?_
  rw [got, Option.bind_some]
  dsimp only
  rw [if_neg (fun failed => failed rfl), parts, List.take_take, Nat.min_comm]
  rfl

theorem slice_turn_run (gmask gtag : UInt32) (gsize off fuel : Nat) (entry : LogEntry) (ptag ntag gdiff : UInt32) (above : 4 ≤ off)
    (room : off + (lfsTagDsize entry.tag).toNat ≤ cfg.blockSize.toNat) (same : ntag &&& 0x7fffffff = entry.tag)
    (word : (lfsFrombe32 (((blockBytes cfg image dir.pair.first).drop off).take 4) ^^^ entry.tag) &&& 0x7fffffff = ptag) :
    (getsliceLoop cfg dir gmask gtag 0 gsize (fuel + 1) (UInt32.ofNat (off + (lfsTagDsize entry.tag).toNat)) ntag gdiff lfs).run
        (directServer cfg image cb) state =
      (sliceAfter cfg dir gmask gtag gsize fuel (UInt32.ofNat off) ntag ptag (sliceTurn gmask gtag ntag gdiff) lfs).run
        (directServer cfg image cb) state := by
  obtain ⟨least, most⟩ := tag_dsize_bounds entry.tag
  have dsize := low_dsize ntag entry.tag same
  have start : (UInt32.ofNat (off + (lfsTagDsize entry.tag).toNat)).toNat = off + (lfsTagDsize entry.tag).toNat := by
    rw [UInt32.toNat_ofNat']
    omega
  have place : UInt32.ofNat (off + (lfsTagDsize entry.tag).toNat) - lfsTagDsize entry.tag = UInt32.ofNat off := by
    apply UInt32.toNat_inj.mp
    rw [UInt32.toNat_sub, start, UInt32.toNat_ofNat']
    omega
  have number : (UInt32.ofNat off).toNat = off := by
    rw [UInt32.toNat_ofNat']
    omega
  have inside : ¬ UInt32.ofNat (off + (lfsTagDsize entry.tag).toNat) < 4 + lfsTagDsize entry.tag := by
    have sum : (4 + lfsTagDsize entry.tag).toNat = 4 + (lfsTagDsize entry.tag).toNat := by
      rw [UInt32.toNat_add]
      simp only [UInt32.reduceToNat]
      omega
    rw [UInt32.lt_iff_toNat_lt, start, sum]
    omega
  have four : (lfsTole32 ntag).length = 4 := rfl
  have got := tag_read_run cfg image cb small 4 dir.pair.first (UInt32.ofNat off) (lfsTole32 ntag) lfs state present (by omega) (by rw [four]; decide)
  have long : ¬ ((blockBytes cfg image dir.pair.first).drop (UInt32.ofNat off).toNat).length < (lfsTole32 ntag).length := by
    rw [List.length_drop, block_bytes_length]
    omega
  rw [if_neg long, four, number] at got
  rw [getsliceLoop, dsize, if_neg inside]
  dsimp only
  rw [place]
  refine (Lib.Prog.run_bind (directServer cfg image cb) (bdRead 4 dir.pair.first (UInt32.ofNat off) (lfsTole32 ntag) lfs) _ state).trans ?_
  rw [got, Option.bind_some]
  dsimp only
  rw [if_neg (fun failed => failed rfl), low_xor _ ntag entry.tag same, word, sliceTurn]
  dsimp only
  by_cases created : (lfsTagId gmask ≠ 0 ∧ lfsTagType1 ntag = lfsTypeSplice ∧ lfsTagId ntag ≤ lfsTagId (gtag - gdiff)) ∧
      ntag = lfsMktag lfsTypeCreate 0 0 ||| (lfsMktag 0 0x3ff 0 &&& (gtag - gdiff))
  · rw [if_pos created, if_pos created]
    rfl
  · rw [if_neg created, if_neg created]
    generalize (if lfsTagId gmask ≠ 0 ∧ lfsTagType1 ntag = lfsTypeSplice ∧ lfsTagId ntag ≤ lfsTagId (gtag - gdiff) then
      gdiff + lfsMktag 0 (lfsTagSplice ntag) 0 else gdiff) = after
    by_cases picked : gmask &&& ntag = gmask &&& (gtag - after)
    · rw [if_pos picked, if_pos picked]
      by_cases deleted : lfsTagIsdelete ntag = true
      · rw [if_pos deleted, if_pos deleted]
        rfl
      · rw [if_neg deleted, if_neg deleted]
        rfl
    · rw [if_neg picked, if_neg picked]
      rfl

theorem entry_found_run (tmask gmask gtag : UInt32) (gsize fuel off : Nat) (asked : Asked tmask gtag) (entry : LogEntry) (ptag gdiff : UInt32)
    (named : UInt32 → UInt32) (held : off + 4 + dataLength entry.tag ≤ cfg.blockSize.toNat)
    (data : entry.data = ((blockBytes cfg image dir.pair.first).drop (off + 4)).take (dataLength entry.tag)) (sum : entry.tag + gdiff = named entry.tag)
    (picked : tmask &&& lfsTagType3 entry.tag = tmask &&& lfsTagType3 gtag) :
    (sliceAfter cfg dir gmask gtag gsize fuel (UInt32.ofNat off) entry.tag ptag (if lfsTagIsdelete entry.tag then .missing else .found gdiff) lfs).run
      (directServer cfg image cb) state = some (entryAnswer named gsize (some entry), state) := by
  by_cases deleted : lfsTagIsdelete entry.tag = true
  · rw [entryAnswer, if_pos deleted, if_pos deleted]
    rfl
  · have other : lfsTagType1 entry.tag ≠ lfsTypeTail := by
      rw [kind_of_masked tmask _ _ asked.kinds picked]
      exact asked.tail
    have size := data_size entry.tag other deleted
    have number : (UInt32.ofNat off).toNat = off := by
      rw [UInt32.toNat_ofNat']
      omega
    have length : entry.data.length = (lfsTagSize entry.tag).toNat := by
      rw [data, List.length_take, List.length_drop, block_bytes_length]
      omega
    rw [entryAnswer, if_neg deleted, if_neg deleted,
      found_read_run cfg image cb small lfs state dir present gmask gtag gsize fuel _ _ _ _ (by omega), sum, number, length, data, size]

theorem getslice_loop_run (tmask gtag : UInt32) (gsize : Nat) (asked : Asked tmask gtag) {off : Nat} {low : UInt32} {entries : List LogEntry}
    (behind : Behind (blockBytes cfg image dir.pair.first) off low entries) : ∀ (fuel : Nat) (ntag gdiff : UInt32) (cur : Nat),
    entries.length ≤ fuel → ntag &&& 0x7fffffff = low → (entries = [] ∨ ntag = low ∨ lfsTagType1 low = lfsTypeCrc) → gtag - gdiff = soughtTag gtag cur →
    cur + Lib.removals (entries.map LogEntry.edit) < 1024 → (∀ entry ∈ entries, entry.Plain) →
    (getsliceLoop cfg dir (lfsMktag tmask 0x3ff 0) gtag 0 gsize fuel (UInt32.ofNat off) ntag gdiff lfs).run (directServer cfg image cb) state =
      some (entryAnswer (idOf gtag) gsize (Lib.lookBack (LogEntry.picked tmask gtag) (entries.map LogEntry.edit) cur), state) := by
  induction behind with
  | start =>
      intro fuel ntag gdiff cur _ same _ _ _ _
      cases fuel with
      | zero => rfl
      | succ fuel =>
          have beyond : UInt32.ofNat 4 < 4 + lfsTagDsize ntag := by
            rw [low_dsize ntag _ same]
            decide
          rw [getsliceLoop, if_pos beyond]
          rfl
  | entry off ptag entry entries behind sound room held word data ih =>
      intro fuel ntag gdiff cur enough same top seek few plain
      rw [block_bytes_length] at room held
      obtain ⟨fuel, rfl⟩ : ∃ less, fuel = less + 1 := ⟨fuel - 1, by rw [List.length_cons] at enough; omega⟩
      have above := behind_above behind
      have masked : ptag &&& 0x7fffffff = ptag := by rw [← word, UInt32.and_assoc, UInt32.and_self]
      have rest : ∀ entry ∈ entries, entry.Plain := fun entry member => plain entry (List.mem_cons_of_mem _ member)
      have less : entries.length ≤ fuel := by
        rw [List.length_cons] at enough
        omega
      have next (after : UInt32) (place : Nat) (seek : gtag - after = soughtTag gtag place)
          (few : place + Lib.removals (entries.map LogEntry.edit) < 1024) := ih fuel ptag after place less masked (Or.inr (Or.inl rfl)) seek few rest
      rw [slice_turn_run cfg image cb small lfs state dir present _ gtag gsize off fuel entry ptag ntag gdiff (by omega) room same word, List.map_cons]
      rw [List.map_cons, Lib.removals] at few
      by_cases splice : lfsTagType1 entry.tag = lfsTypeSplice
      · have whole : ntag = entry.tag := by
          rcases top with none | whole | crc
          · exact absurd none (List.cons_ne_nil _ _)
          · exact whole
          · rw [splice] at crc
            exact absurd crc (by decide)
        rw [whole]
        rcases plain entry List.mem_cons_self splice with ⟨create, empty⟩ | delete
        · rw [turn_insert tmask gtag entry.tag gdiff cur asked.narrow seek (by omega) sound create empty asked.kinds asked.splice,
            edit_insert entry create, Lib.lookBack]
          by_cases here : cur = (lfsTagId entry.tag).toNat
          · rw [if_pos here, if_pos here]
            rfl
          · rw [if_neg here, if_neg here]
            by_cases later : (lfsTagId entry.tag).toNat < cur
            · obtain ⟨earlier, rfl⟩ : ∃ earlier, cur = earlier + 1 := ⟨cur - 1, by omega⟩
              rw [if_pos later, if_pos later]
              exact next _ earlier (sought_before gtag gdiff earlier seek (by omega)) (by omega)
            · rw [if_neg later, if_neg later]
              exact next _ cur seek (by omega)
        · have one : entry.edit.removes = 1 := by
            rw [edit_remove entry delete]
            rfl
          rw [turn_remove tmask gtag entry.tag gdiff cur asked.narrow seek (by omega) delete asked.kinds asked.splice (by omega),
            edit_remove entry delete, Lib.lookBack]
          by_cases le : (lfsTagId entry.tag).toNat ≤ cur
          · rw [if_pos le, if_pos le]
            exact next _ (cur + 1) (sought_behind gtag gdiff cur seek (by omega)) (by omega)
          · rw [if_neg le, if_neg le]
            exact next _ cur seek (by omega)
      · have kind := low_type1 ntag entry.tag same
        rw [turn_put tmask gtag ntag gdiff cur asked.narrow seek (by omega) (by rw [kind]; exact splice), edit_put entry splice, Lib.lookBack]
        by_cases found : cur = (lfsTagId entry.tag).toNat ∧ tmask &&& lfsTagType3 entry.tag = tmask &&& lfsTagType3 gtag
        · have whole : ntag = entry.tag := by
            rcases top with none | whole | crc
            · exact absurd none (List.cons_ne_nil _ _)
            · exact whole
            · exact absurd ((kind_of_masked tmask _ _ asked.kinds found.2).symm.trans crc) asked.crc
          have hit : cur = (lfsTagId entry.tag).toNat ∧ LogEntry.picked tmask gtag entry = true := ⟨found.1, decide_eq_true found.2⟩
          rw [whole, if_pos found, if_pos hit]
          exact entry_found_run cfg image cb small lfs state dir present tmask _ gtag gsize fuel off asked entry ptag gdiff (idOf gtag) held data
            (sought_found gtag gdiff entry.tag cur seek (by omega) asked.valid sound found.1.symm) found.2
        · have unpicked : ¬ (cur = (lfsTagId entry.tag).toNat ∧ LogEntry.picked tmask gtag entry = true) :=
            fun both => found ⟨both.1, of_decide_eq_true both.2⟩
          have fields : lfsTagId ntag = lfsTagId entry.tag ∧ lfsTagType3 ntag = lfsTagType3 entry.tag := low_fields ntag entry.tag same
          rw [fields.1, fields.2, if_neg found, if_neg unpicked]
          exact next _ cur seek (by omega)

-- A tag of the pair as a whole is looked for under any id.
theorem getslice_unnamed_run (tmask gtag : UInt32) (gsize : Nat) (asked : Asked tmask gtag) {off : Nat} {low : UInt32} {entries : List LogEntry}
    (behind : Behind (blockBytes cfg image dir.pair.first) off low entries) : ∀ (fuel : Nat) (ntag : UInt32), entries.length ≤ fuel →
    ntag &&& 0x7fffffff = low → (entries = [] ∨ ntag = low ∨ lfsTagType1 low = lfsTypeCrc) →
    (getsliceLoop cfg dir (lfsMktag tmask 0 0) gtag 0 gsize fuel (UInt32.ofNat off) ntag 0 lfs).run (directServer cfg image cb) state =
      some (entryAnswer id gsize (entries.find? (LogEntry.picked tmask gtag)), state) := by
  induction behind with
  | start =>
      intro fuel ntag _ same _
      cases fuel with
      | zero => rfl
      | succ fuel =>
          have beyond : UInt32.ofNat 4 < 4 + lfsTagDsize ntag := by
            rw [low_dsize ntag _ same]
            decide
          rw [getsliceLoop, if_pos beyond]
          rfl
  | entry off ptag entry entries behind sound room held word data ih =>
      intro fuel ntag enough same top
      rw [block_bytes_length] at room held
      obtain ⟨fuel, rfl⟩ : ∃ less, fuel = less + 1 := ⟨fuel - 1, by rw [List.length_cons] at enough; omega⟩
      have above := behind_above behind
      have masked : ptag &&& 0x7fffffff = ptag := by rw [← word, UInt32.and_assoc, UInt32.and_self]
      have less : entries.length ≤ fuel := by
        rw [List.length_cons] at enough
        omega
      rw [slice_turn_run cfg image cb small lfs state dir present _ gtag gsize off fuel entry ptag ntag 0 (by omega) room same word,
        turn_unnamed tmask gtag ntag asked.narrow, List.find?_cons, (low_fields ntag entry.tag same).2]
      by_cases found : tmask &&& lfsTagType3 entry.tag = tmask &&& lfsTagType3 gtag
      · have hit : LogEntry.picked tmask gtag entry = true := decide_eq_true found
        have whole : ntag = entry.tag := by
          rcases top with none | whole | crc
          · exact absurd none (List.cons_ne_nil _ _)
          · exact whole
          · exact absurd ((kind_of_masked tmask _ _ asked.kinds found).symm.trans crc) asked.crc
        rw [if_pos found, hit, whole]
        exact entry_found_run cfg image cb small lfs state dir present tmask _ gtag gsize fuel off asked entry ptag 0 id held data
          (UInt32.add_zero _) found
      · have miss : LogEntry.picked tmask gtag entry = false := decide_eq_false found
        rw [if_neg found, miss]
        exact ih fuel ptag less masked (Or.inr (Or.inl rfl))

end

-- A metadata pair as it is in memory, with these commits in its block.
structure Logged (cfg : Config) (image : Image) (dir : Mdir) (commits : List (List LogEntry)) : Prop where
  present : dir.pair.first < cfg.blockCount
  log : ∃ left, BlockLog cfg image dir.pair.first commits dir.etag left ∧ dir.off = UInt32.ofNat (cfg.blockSize.toNat - left.length)

theorem logged_behind {cfg : Config} {image : Image} {dir : Mdir} {commits : List (List LogEntry)} (logged : Logged cfg image dir commits)
    (small : cfg.blockSize.toNat < 2 ^ 31) (large : 4 ≤ cfg.blockSize.toNat) :
    Behind (blockBytes cfg image dir.pair.first) dir.off.toNat (dir.etag &&& 0x7fffffff) commits.flatten.reverse := by
  obtain ⟨left, log, off⟩ := logged.log
  have number : (UInt32.ofNat (cfg.blockSize.toNat - left.length)).toNat = cfg.blockSize.toNat - left.length := by
    rw [UInt32.toNat_ofNat']
    omega
  rw [off, number]
  exact block_behind log large

theorem commit_etag {ptag crc etag : UInt32} {raw rest : List UInt8} {entries : List LogEntry}
    (commit : CommitAt ptag crc raw entries etag rest) : lfsTagType1 (etag &&& 0x7fffffff) = lfsTypeCrc := by
  induction commit with
  | crc ptag crc tag raw at_ kind _ _ =>
      rw [low_next tag at_.valid]
      exact kind
  | entry _ _ _ _ _ _ _ _ _ _ _ ih => exact ih

theorem log_etag {ptag crc last next : UInt32} {raw left : List UInt8} {commits : List (List LogEntry)}
    (log : LogAt ptag crc raw commits last next left) : commits = [] ∨ lfsTagType1 (last &&& 0x7fffffff) = lfsTypeCrc := by
  induction log with
  | nil => exact Or.inl rfl
  | cons ptag crc etag last next raw rest left entries commits commit log ih =>
      refine Or.inr ?_
      rcases ih with rfl | kind
      · cases log
        exact commit_etag commit
      · exact kind

theorem logged_etag {cfg : Config} {image : Image} {dir : Mdir} {commits : List (List LogEntry)} (logged : Logged cfg image dir commits) :
    commits.flatten.reverse = [] ∨ dir.etag = dir.etag &&& 0x7fffffff ∨ lfsTagType1 (dir.etag &&& 0x7fffffff) = lfsTypeCrc := by
  obtain ⟨left, ⟨next, log, -⟩, -⟩ := logged.log
  rcases log_etag log with none | kind
  · exact Or.inl (by rw [none]; rfl)
  · exact Or.inr (Or.inr kind)

theorem behind_valid {bytes : List UInt8} {off : Nat} {low : UInt32} {entries : List LogEntry} (behind : Behind bytes off low entries) :
    ∀ entry ∈ entries, lfsTagIsvalid entry.tag = true := by
  induction behind with
  | start => exact fun _ member => absurd member List.not_mem_nil
  | entry off ptag entry entries _ sound _ _ _ _ ih =>
      intro other member
      rcases List.mem_cons.mp member with rfl | member
      · exact sound
      · exact ih other member

theorem valid_stag (tag : UInt32) (valid : lfsTagIsvalid tag = true) : ¬ tag.toInt32 < 0 := by
  have small := (tag_valid_iff tag).mp valid
  have number : tag.toInt32.toInt = tag.toNat := by
    rw [← Int32.toInt_toBitVec, UInt32.toBitVec_toInt32, BitVec.toInt_eq_toNat_of_lt (by rw [UInt32.toNat_toBitVec]; omega), UInt32.toNat_toBitVec]
  rw [Int32.lt_iff_toInt_lt, number, Int32.toInt_zero]
  omega

-- What a pair adds to the global state.
def commitsDelta (commits : List (List LogEntry)) : Gstate :=
  match commits.flatten.reverse.find? (LogEntry.picked 0x7ff (lfsMktag lfsTypeMovestate 0 12)) with
  | none => ⟨0, ⟨0, 0⟩⟩
  | some entry => if lfsTagIsdelete entry.tag then ⟨0, ⟨0, 0⟩⟩ else lfsGstateFromle32 (entry.data.take 12 ++ zeros (12 - entry.data.length))

section
variable {δ : Type} (cfg : Config) (image : Image) (cb : Callback δ) (small : cfg.blockSize.toNat < 2 ^ 31) (large : 4 ≤ cfg.blockSize.toNat)
  (lfs : LfsBase) (state : δ)
include small large

-- lfs_dir_get returns the newest entry of the file, under its present id, that
-- has the type asked for.
theorem dir_get_exact (dir : Mdir) (commits : List (List LogEntry)) (logged : Logged cfg image dir commits) (tmask gtag : UInt32)
    (asked : Asked tmask gtag) (plain : ∀ entry ∈ commits.flatten, entry.Plain)
    (few : (lfsTagId gtag).toNat + Lib.removals (dirEdits lfs.gdisk dir.pair commits) < 1024) :
    (lfsDirGet cfg dir (lfsMktag tmask 0x3ff 0) gtag lfs).run (directServer cfg image cb) state =
      some (entryAnswer (idOf gtag) (lfsTagSize gtag).toNat
        ((fileEntries lfs.gdisk dir.pair commits (lfsTagId gtag).toNat).find? (LogEntry.picked tmask gtag)), state) := by
  have behind := logged_behind logged small large
  have enough := behind_above behind
  have masked : lfsTagId (lfsMktag tmask 0x3ff 0) ≠ 0 := by
    rw [(mktag_fields tmask 0x3ff 0 asked.narrow (by decide) (by decide)).2.1]
    decide
  have plainBack : ∀ entry ∈ commits.flatten.reverse, entry.Plain := fun entry member => plain entry (List.mem_reverse.mp member)
  have ran (gdiff : UInt32) (cur : Nat) (seek : gtag - gdiff = soughtTag gtag cur)
      (few : cur + Lib.removals (commits.flatten.reverse.map LogEntry.edit) < 1024) :=
    getslice_loop_run cfg image cb small lfs state dir logged.present tmask gtag (lfsTagSize gtag).toNat asked behind dir.off.toNat dir.etag gdiff cur
      (by omega) rfl (logged_etag logged) seek few plainBack
  rw [UInt32.ofNat_toNat] at ran
  have start := sought_self gtag asked.valid
  rw [fileEntries, ← Lib.look_back_rows, dirEdits, moveEdits]
  rw [dirEdits, moveEdits] at few
  by_cases moved : lfsGstateHasmovehere lfs.gdisk dir.pair = true
  · rw [if_pos moved] at few ⊢
    rw [List.singleton_append, Lib.removals, Lib.Edit.removes] at few
    rw [List.singleton_append, Lib.lookBack]
    by_cases le : (lfsTagId lfs.gdisk.tag).toNat ≤ (lfsTagId gtag).toNat
    · have before : lfsGstateHasmovehere lfs.gdisk dir.pair = true ∧ lfsTagId (lfsMktag tmask 0x3ff 0) ≠ 0 ∧
          lfsTagId lfs.gdisk.tag ≤ lfsTagId gtag := ⟨moved, masked, UInt32.le_iff_toNat_le.mpr le⟩
      have zero : gtag - 0 = soughtTag gtag (lfsTagId gtag).toNat := by rw [start, UInt32.sub_zero]
      have step : (0 : UInt32) + 0xfffffc00 = 0 - lfsMktag 0 1 0 := by decide
      have seek := sought_behind gtag 0 _ zero (by omega)
      rw [step] at seek
      rw [if_pos le, lfsDirGet, lfsDirGetslice, ← ran _ _ seek (by omega)]
      exact congrArg (fun gdiff => (getsliceLoop cfg dir (lfsMktag tmask 0x3ff 0) gtag 0 (lfsTagSize gtag).toNat dir.off.toNat dir.off dir.etag gdiff
        lfs).run (directServer cfg image cb) state) (if_pos before)
    · have behindIt : ¬ (lfsGstateHasmovehere lfs.gdisk dir.pair = true ∧ lfsTagId (lfsMktag tmask 0x3ff 0) ≠ 0 ∧
          lfsTagId lfs.gdisk.tag ≤ lfsTagId gtag) := fun all => le (UInt32.le_iff_toNat_le.mp all.2.2)
      rw [if_neg le, lfsDirGet, lfsDirGetslice, ← ran 0 _ (by rw [start, UInt32.sub_zero]) (by omega)]
      exact congrArg (fun gdiff => (getsliceLoop cfg dir (lfsMktag tmask 0x3ff 0) gtag 0 (lfsTagSize gtag).toNat dir.off.toNat dir.off dir.etag gdiff
        lfs).run (directServer cfg image cb) state) (if_neg behindIt)
  · rw [if_neg moved] at few ⊢
    rw [List.nil_append] at few ⊢
    have still : ¬ (lfsGstateHasmovehere lfs.gdisk dir.pair = true ∧ lfsTagId (lfsMktag tmask 0x3ff 0) ≠ 0 ∧
          lfsTagId lfs.gdisk.tag ≤ lfsTagId gtag) := fun all => moved all.1
    rw [lfsDirGet, lfsDirGetslice, ← ran 0 _ (by rw [start, UInt32.sub_zero]) few]
    exact congrArg (fun gdiff => (getsliceLoop cfg dir (lfsMktag tmask 0x3ff 0) gtag 0 (lfsTagSize gtag).toNat dir.off.toNat dir.off dir.etag gdiff
        lfs).run (directServer cfg image cb) state) (if_neg still)

theorem dir_getgstate_exact (dir : Mdir) (commits : List (List LogEntry)) (logged : Logged cfg image dir commits) (gstate : Gstate) :
    (lfsDirGetgstate cfg dir gstate lfs).run (directServer cfg image cb) state = some ((0, lfsGstateXor gstate (commitsDelta commits)), state) := by
  have behind := logged_behind logged small large
  have enough := behind_above behind
  have asked : Asked 0x7ff (lfsMktag lfsTypeMovestate 0 12) := ⟨by decide, by decide, by decide, by decide, by decide, by decide⟩
  have size : (lfsTagSize (lfsMktag lfsTypeMovestate 0 12)).toNat = 12 := by decide
  have unmasked : ¬ (lfsGstateHasmovehere lfs.gdisk dir.pair = true ∧ lfsTagId (lfsMktag 0x7ff 0 0) ≠ 0 ∧
      lfsTagId lfs.gdisk.tag ≤ lfsTagId (lfsMktag lfsTypeMovestate 0 12)) := fun all => all.2.1 (by decide)
  have ran := getslice_unnamed_run cfg image cb small lfs state dir logged.present 0x7ff (lfsMktag lfsTypeMovestate 0 12) 12 asked behind
    dir.off.toNat dir.etag (by omega) rfl (logged_etag logged)
  rw [UInt32.ofNat_toNat] at ran
  have got : (lfsDirGet cfg dir (lfsMktag 0x7ff 0 0) (lfsMktag lfsTypeMovestate 0 12) lfs).run (directServer cfg image cb) state =
      some (entryAnswer id 12 (commits.flatten.reverse.find? (LogEntry.picked 0x7ff (lfsMktag lfsTypeMovestate 0 12))), state) := by
    rw [lfsDirGet, lfsDirGetslice, size, ← ran]
    exact congrArg (fun gdiff => (getsliceLoop cfg dir (lfsMktag 0x7ff 0 0) (lfsMktag lfsTypeMovestate 0 12) 0 12 dir.off.toNat dir.off dir.etag gdiff
      lfs).run (directServer cfg image cb) state) (if_neg unmasked)
  have still : lfsGstateXor gstate ⟨0, ⟨0, 0⟩⟩ = gstate := by
    simp only [lfsGstateXor, UInt32.xor_zero]
  rw [lfsDirGetgstate]
  refine (Lib.Prog.run_bind (directServer cfg image cb) (lfsDirGet cfg dir (lfsMktag 0x7ff 0 0) (lfsMktag lfsTypeMovestate 0 12) lfs) _ state).trans ?_
  rw [got, Option.bind_some, commitsDelta]
  cases found : commits.flatten.reverse.find? (LogEntry.picked 0x7ff (lfsMktag lfsTypeMovestate 0 12)) with
  | none =>
      dsimp only [entryAnswer]
      rw [if_neg (fun failed => failed.2 rfl), if_neg (fun other => other rfl), still]
      rfl
  | some entry =>
      dsimp only [entryAnswer]
      by_cases deleted : lfsTagIsdelete entry.tag = true
      · rw [if_pos deleted, if_pos deleted]
        dsimp only
        rw [if_neg (fun failed => failed.2 rfl), if_neg (fun other => other rfl), still]
        rfl
      · have positive := valid_stag entry.tag (behind_valid behind entry (List.mem_of_find?_eq_some found))
        have some : entry.tag.toInt32 ≠ lfsErrNoent := by
          intro same
          rw [same] at positive
          exact positive (by decide)
        rw [if_neg deleted, if_neg deleted]
        dsimp only [id]
        rw [if_neg (fun failed => positive failed.1), if_pos some]
        rfl

end

end SDCardFs.Littlefs
