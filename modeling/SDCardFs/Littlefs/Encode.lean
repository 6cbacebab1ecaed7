import SDCardFs.Littlefs.Tags

set_option autoImplicit false

namespace SDCardFs.Littlefs

-- The bytes of entries behind a tag ptag.
def entriesBytes : UInt32 → List LogEntry → List UInt8
  | _, [] => []
  | ptag, entry :: entries => lfsTobe32 (entry.tag ^^^ ptag) ++ entry.data ++ entriesBytes entry.tag entries

def lastTag : UInt32 → List LogEntry → UInt32
  | ptag, [] => ptag
  | _, entry :: entries => lastTag entry.tag entries

-- A CRC tag and the CRC of all that is in front of it and of itself.
def crcBytes (ptag crc tag : UInt32) : List UInt8 := lfsTobe32 (tag ^^^ ptag) ++ lfsTole32 (lfsCrc crc (lfsTobe32 (tag ^^^ ptag)))

structure LogEntry.Written (entry : LogEntry) : Prop where
  valid : lfsTagIsvalid entry.tag = true
  kind : lfsTagType1 entry.tag ≠ lfsTypeCrc
  length : 4 + entry.data.length = (lfsTagDsize entry.tag).toNat
  tail : lfsTagType1 entry.tag = lfsTypeTail → entry.data.length = 8

-- A CRC tag with room for the CRC and padding behind it.
structure Closing (tag : UInt32) (padding : List UInt8) : Prop where
  valid : lfsTagIsvalid tag = true
  kind : lfsTagType1 tag = lfsTypeCrc
  length : (lfsTagDsize tag).toNat = 8 + padding.length

-- The entries of a commit, and the one its CRC tag makes.
def closedEntries (ptag crc : UInt32) (entries : List LogEntry) (tag : UInt32) (padding : List UInt8) : List LogEntry :=
  entries ++ [⟨tag, lfsTole32 (lfsCrc (lfsCrc crc (entriesBytes ptag entries)) (lfsTobe32 (tag ^^^ lastTag ptag entries))) ++ padding⟩]

def commitBytes (ptag crc : UInt32) (entries : List LogEntry) (tag : UInt32) (padding : List UInt8) : List UInt8 :=
  entriesBytes ptag entries ++ crcBytes (lastTag ptag entries) (lfsCrc crc (entriesBytes ptag entries)) tag ++ padding

theorem written_data (entry : LogEntry) (written : entry.Written) : dataLength entry.tag = entry.data.length := by
  have length := written.length
  rw [dataLength]
  split
  · rename_i tail
    exact (written.tail tail).symm
  · omega

theorem tobe32_length (word : UInt32) : (lfsTobe32 word).length = 4 := rfl

theorem tole32_length (word : UInt32) : (lfsTole32 word).length = 4 := rfl

theorem crc_bytes_length (ptag crc tag : UInt32) : (crcBytes ptag crc tag).length = 8 := rfl

theorem xor_word (word ptag : UInt32) : lfsFrombe32 (lfsTobe32 (word ^^^ ptag)) ^^^ ptag = word := by
  rw [frombe32_tobe32, UInt32.xor_assoc, UInt32.xor_self, UInt32.xor_zero]

theorem closing_commit (ptag crc tag : UInt32) (padding rest : List UInt8) (closing : Closing tag padding) :
    CommitAt ptag crc (crcBytes ptag crc tag ++ padding ++ rest) [⟨tag, lfsTole32 (lfsCrc crc (lfsTobe32 (tag ^^^ ptag))) ++ padding⟩]
      (nextPtag tag) rest := by
  obtain ⟨valid, kind, length⟩ := closing
  have other : lfsTagType1 tag ≠ lfsTypeTail := by
    rw [kind]
    decide
  have data : dataLength tag = 4 + padding.length := by
    rw [dataLength, if_neg other]
    omega
  have first : (crcBytes ptag crc tag ++ padding ++ rest).take 4 = lfsTobe32 (tag ^^^ ptag) := rfl
  have second : ((crcBytes ptag crc tag ++ padding ++ rest).drop 4).take 4 = lfsTole32 (lfsCrc crc (lfsTobe32 (tag ^^^ ptag))) := rfl
  have behind : (crcBytes ptag crc tag ++ padding ++ rest).drop 4 = lfsTole32 (lfsCrc crc (lfsTobe32 (tag ^^^ ptag))) ++ padding ++ rest := rfl
  have taken : ((crcBytes ptag crc tag ++ padding ++ rest).drop 4).take (dataLength tag) =
      lfsTole32 (lfsCrc crc (lfsTobe32 (tag ^^^ ptag))) ++ padding := by
    rw [behind, List.take_left' (by rw [List.length_append, tole32_length, data])]
  have dropped : (crcBytes ptag crc tag ++ padding ++ rest).drop (lfsTagDsize tag).toNat = rest :=
    List.drop_left' (by rw [List.length_append, crc_bytes_length, length])
  have long : (crcBytes ptag crc tag ++ padding ++ rest).length = 8 + padding.length + rest.length := by
    rw [List.length_append, List.length_append, crc_bytes_length]
  have commit := CommitAt.crc ptag crc tag (crcBytes ptag crc tag ++ padding ++ rest)
    ⟨by omega, by rw [first]; exact xor_word tag ptag, valid, by omega⟩ kind (by omega) (by rw [first, second, fromle32_tole32])
  rw [taken, dropped] at commit
  exact commit

-- What is written is read back.
theorem commit_of_bytes (entries : List LogEntry) : ∀ (ptag crc tag : UInt32) (padding rest : List UInt8), (∀ entry ∈ entries, entry.Written) →
    Closing tag padding →
    CommitAt ptag crc (commitBytes ptag crc entries tag padding ++ rest) (closedEntries ptag crc entries tag padding) (nextPtag tag) rest := by
  induction entries with
  | nil => exact fun ptag crc tag padding rest _ closing => closing_commit ptag crc tag padding rest closing
  | cons entry entries ih =>
      intro ptag crc tag padding rest all closing
      have written := all entry List.mem_cons_self
      have data := written_data entry written
      obtain ⟨valid, kind, length, -⟩ := written
      have later := ih entry.tag (lfsCrc crc (lfsTobe32 (entry.tag ^^^ ptag) ++ entry.data)) tag padding rest
        (fun other member => all other (List.mem_cons_of_mem _ member)) closing
      have whole : commitBytes ptag crc (entry :: entries) tag padding ++ rest = lfsTobe32 (entry.tag ^^^ ptag) ++ (entry.data ++
          (commitBytes entry.tag (lfsCrc crc (lfsTobe32 (entry.tag ^^^ ptag) ++ entry.data)) entries tag padding ++ rest)) := by
        simp only [commitBytes, entriesBytes, lastTag, ← crc_append, List.append_assoc]
      have last : closedEntries ptag crc (entry :: entries) tag padding = entry ::
          closedEntries entry.tag (lfsCrc crc (lfsTobe32 (entry.tag ^^^ ptag) ++ entry.data)) entries tag padding := by
        simp only [closedEntries, entriesBytes, lastTag, ← crc_append, List.cons_append]
      rw [whole, last]
      generalize commitBytes entry.tag (lfsCrc crc (lfsTobe32 (entry.tag ^^^ ptag) ++ entry.data)) entries tag padding ++ rest = raw at later ⊢
      have first : (lfsTobe32 (entry.tag ^^^ ptag) ++ (entry.data ++ raw)).take 4 = lfsTobe32 (entry.tag ^^^ ptag) := rfl
      have behind : (lfsTobe32 (entry.tag ^^^ ptag) ++ (entry.data ++ raw)).drop 4 = entry.data ++ raw := rfl
      have taken : ((lfsTobe32 (entry.tag ^^^ ptag) ++ (entry.data ++ raw)).drop 4).take (dataLength entry.tag) = entry.data := by
        rw [behind, data, List.take_left]
      have front : (lfsTobe32 (entry.tag ^^^ ptag) ++ entry.data).length = (lfsTagDsize entry.tag).toNat := by
        rw [List.length_append, tobe32_length, length]
      have dropped : (lfsTobe32 (entry.tag ^^^ ptag) ++ (entry.data ++ raw)).drop (lfsTagDsize entry.tag).toNat = raw := by
        rw [← List.append_assoc, List.drop_left' front]
      have used : (lfsTobe32 (entry.tag ^^^ ptag) ++ (entry.data ++ raw)).take (lfsTagDsize entry.tag).toNat =
          lfsTobe32 (entry.tag ^^^ ptag) ++ entry.data := by
        rw [← List.append_assoc, List.take_left' front]
      have long : (lfsTobe32 (entry.tag ^^^ ptag) ++ (entry.data ++ raw)).length = 4 + (entry.data.length + raw.length) := by
        rw [List.length_append, List.length_append, tobe32_length]
      have commit := CommitAt.entry ptag crc entry.tag (nextPtag tag) (lfsTobe32 (entry.tag ^^^ ptag) ++ (entry.data ++ raw)) rest
        (closedEntries entry.tag (lfsCrc crc (lfsTobe32 (entry.tag ^^^ ptag) ++ entry.data)) entries tag padding)
        ⟨by omega, by rw [first]; exact xor_word entry.tag ptag, valid, by omega⟩ kind (by omega) (by rw [used, dropped]; exact later)
      rw [taken] at commit
      exact commit

end SDCardFs.Littlefs
