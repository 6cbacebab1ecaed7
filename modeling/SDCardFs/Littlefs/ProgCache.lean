import SDCardFs.Littlefs.Commit
import SDCardFs.Littlefs.Stored

set_option autoImplicit false

namespace SDCardFs.Littlefs

-- A card that keeps what is programmed.
def Below.Stores {σ : Type} (below : Below σ) (contents : σ → Image) : Prop :=
  ∀ block off data card, ∃ after, below.access (.prog block off data) card = some ((0 : Int32), after) ∧
    contents after = (contents card).write block off.toNat data

-- The program cache holds what bytes, which start at begin, have from sent on.
structure Held (block : UInt32) (begin : Nat) (bytes : List UInt8) (sent : Nat) (pcache : Cache) : Prop where
  block : pcache.block = block
  off : pcache.off.toNat = begin + sent
  size : pcache.size.toNat = bytes.length - sent
  buffer : ∀ p, p < bytes.length - sent → pcache.buffer p = bytes.getD (sent + p) 0

-- bytes go to a block from begin on: the first of them are on the card, in
-- whole pages, and the others in the program cache.
structure Unflushed (image : Image) (block : UInt32) (begin : Nat) (bytes : List UInt8) (sent : Nat) (pcache : Cache) (card : Image) : Prop where
  page : begin % 512 = 0 ∧ sent % 512 = 0
  some : sent ≤ bytes.length ∧ bytes.length - sent < 512
  card : card = image.write block begin (bytes.take sent)
  held : (pcache.block = lfsBlockNull ∧ sent = bytes.length) ∨ Held block begin bytes sent pcache

theorem null_beyond (cfg : Config) : ¬ lfsBlockNull < cfg.blockCount := by
  have small := cfg.blockCount.toNat_lt
  have top : lfsBlockNull.toNat = 2 ^ 32 - 1 := rfl
  rw [UInt32.lt_iff_toNat_lt]
  omega

theorem slice_bytes (buffer : Nat → UInt8) (bytes : List UInt8) (start : Nat)
    (same : ∀ p, p < bytes.length - start → buffer p = bytes.getD (start + p) 0) (inside : start ≤ bytes.length) :
    Lib.slice buffer 0 (bytes.length - start) = bytes.drop start := by
  apply List.ext_getElem
  · rw [Lib.slice_length, List.length_drop]
  · intro p first second
    rw [Lib.slice_length] at first
    have there := same p first
    rw [List.getD_eq_getElem _ _ (by omega)] at there
    simp only [Lib.slice, List.getElem_map, List.getElem_range, Nat.zero_add, List.getElem_drop]
    exact there

theorem open_held (cfg : Config) (paged : Paged cfg) (block off : UInt32) (begin : Nat) (bytes : List UInt8) (pcache : Cache)
    (here : off.toNat = begin + bytes.length) (page : off.toNat % 512 = 0) :
    Held block begin bytes bytes.length { pcache with block := block, off := lfsAligndown off cfg.progSize, size := 0 } := by
  refine ⟨rfl, ?_, (Nat.sub_self _).symm, fun p inside => absurd inside (by omega)⟩
  change (lfsAligndown off cfg.progSize).toNat = _
  rw [paged.progSize, aligndown_page, page, here]
  rfl

-- The page in the cache has the next byte, and room up to its end.
theorem held_covers (cfg : Config) (paged : Paged cfg) (block off : UInt32) (begin sent : Nat) (bytes : List UInt8) (pcache : Cache)
    (held : Held block begin bytes sent pcache) (some : sent ≤ bytes.length) (part : bytes.length - sent < 512) (here : off.toNat = begin + bytes.length)
    (small : begin + bytes.length < 2 ^ 31) :
    (block = pcache.block ∧ off ≥ pcache.off ∧ off < pcache.off + cfg.cacheSize) ∧
      (cfg.cacheSize - (off - pcache.off)).toNat = 512 - (bytes.length - sent) := by
  have start := held.off
  have place : (off - pcache.off).toNat = bytes.length - sent := by
    rw [UInt32.toNat_sub, here, start]
    omega
  have bound : (pcache.off + cfg.cacheSize).toNat = begin + sent + 512 := by
    rw [UInt32.toNat_add, start, paged.cacheSize]
    simp only [UInt32.reduceToNat]
    omega
  refine ⟨⟨held.block.symm, UInt32.le_iff_toNat_le.mpr (by omega), UInt32.lt_iff_toNat_lt.mpr (by omega)⟩, ?_⟩
  rw [UInt32.toNat_sub, place, paged.cacheSize]
  simp only [UInt32.reduceToNat]
  omega

theorem prog_held (block off : UInt32) (begin sent : Nat) (bytes chunk : List UInt8) (pcache : Cache) (held : Held block begin bytes sent pcache)
    (some : sent ≤ bytes.length) (here : off.toNat = begin + bytes.length) (small : begin + bytes.length + chunk.length < 2 ^ 32) :
    Held block begin (bytes ++ chunk) sent (Calls.progInto pcache off chunk) := by
  obtain ⟨same, start, size, buffer⟩ := held
  have place : (off - pcache.off).toNat = bytes.length - sent := by
    rw [UInt32.toNat_sub, here, start]
    omega
  have last : (off + UInt32.ofNat chunk.length - pcache.off).toNat = (bytes ++ chunk).length - sent := by
    rw [UInt32.toNat_sub, offset_toNat off chunk.length (by omega), here, start, List.length_append]
    omega
  refine ⟨same, start, ?_, fun p inside => ?_⟩
  · change (max pcache.size (off + UInt32.ofNat chunk.length - pcache.off)).toNat = _
    rw [max_toNat, size, last, List.length_append]
    omega
  · rw [List.length_append] at inside
    change (if (off - pcache.off).toNat ≤ p ∧ p < (off - pcache.off).toNat + chunk.length then chunk.getD (p - (off - pcache.off).toNat) 0
      else pcache.buffer p) = _
    rw [place]
    by_cases behind : bytes.length - sent ≤ p
    · rw [if_pos ⟨behind, by omega⟩, List.getD_append_right _ _ _ _ (by omega)]
      congr 1
      omega
    · rw [if_neg fun both => behind both.1, buffer p (by omega), List.getD_append _ _ _ _ (by omega)]

-- The next bytes that go into the page, and the page still has room.
theorem chunk_kept (cfg : Config) (image : Image) (paged : Paged cfg) (block off : UInt32) (begin sent : Nat) (bytes chunk : List UInt8) (pcache : Cache) (card : Image)
    (page : begin % 512 = 0 ∧ sent % 512 = 0) (part : sent ≤ bytes.length) (written : card = image.write block begin (bytes.take sent))
    (held : Held block begin bytes sent pcache) (here : off.toNat = begin + bytes.length) (small : begin + bytes.length + chunk.length < 2 ^ 32)
    (room : bytes.length - sent + chunk.length ≤ 512) (free : (Calls.progInto pcache off chunk).size ≠ cfg.cacheSize) :
    Unflushed image block begin (bytes ++ chunk) sent (Calls.progInto pcache off chunk) card := by
  have put := prog_held block off begin sent bytes chunk pcache held part here small
  have size := put.size
  have other : (Calls.progInto pcache off chunk).size.toNat ≠ 512 := fun same => free (by rw [paged.cacheSize]; exact UInt32.toNat_inj.mp same)
  have front : (bytes ++ chunk).take sent = bytes.take sent := List.take_append_of_le_length part
  rw [List.length_append] at size
  exact ⟨page, ⟨by rw [List.length_append]; omega, by rw [List.length_append]; omega⟩, by rw [front]; exact written, Or.inr put⟩

section
variable {σ : Type} (cfg : Config) (below : Below σ) (contents : σ → Image) (stores : below.Stores contents)
include stores

theorem flush_run (pcache rcache : Cache) (card : σ) (present : pcache.block < cfg.blockCount) (ordinary : pcache.block ≠ lfsBlockInline) :
    ∃ after, (Calls.lfsBdFlush cfg pcache rcache false).run below.access card = some ((0, lfsCacheZero cfg pcache, rcache), after) ∧
      contents after = (contents card).write pcache.block pcache.off.toNat (Lib.slice pcache.buffer 0 (lfsAlignup pcache.size cfg.progSize).toNat) := by
  have full : pcache.block ≠ lfsBlockNull := fun null => null_beyond cfg (null ▸ present)
  obtain ⟨after, progd, kept⟩ := stores pcache.block pcache.off (Lib.slice pcache.buffer 0 (lfsAlignup pcache.size cfg.progSize).toNat) card
  refine ⟨after, ?_, kept⟩
  rw [Calls.lfsBdFlush, if_pos ⟨full, ordinary⟩, if_neg (UInt32.not_le.mpr present)]
  refine (Lib.Prog.run_bind below.access (devProg _ _ _) _ card).trans ?_
  have ran : (devProg pcache.block pcache.off (Lib.slice pcache.buffer 0 (lfsAlignup pcache.size cfg.progSize).toNat)).run below.access card =
      some (0, after) := by
    change (below.access (.prog _ _ _) card).bind _ = _
    rw [progd]
    rfl
  rw [ran]
  rfl

-- A page that is full goes to the card.
theorem full_run (image : Image) (paged : Paged cfg) (block : UInt32) (begin sent : Nat) (bytes : List UInt8) (pcache rcache : Cache) (card : σ)
    (present : block < cfg.blockCount) (ordinary : block ≠ lfsBlockInline) (written : contents card = image.write block begin (bytes.take sent))
    (held : Held block begin bytes sent pcache) (some : sent ≤ bytes.length) (full : bytes.length - sent = 512) :
    ∃ after, (Calls.lfsBdFlush cfg pcache rcache false).run below.access card = Option.some ((0, lfsCacheZero cfg pcache, rcache), after) ∧
      contents after = image.write block begin bytes := by
  obtain ⟨same, start, size, buffer⟩ := held
  obtain ⟨after, ran, kept⟩ := flush_run cfg below contents stores pcache rcache card (by rw [same]; exact present) (by rw [same]; exact ordinary)
  have diff : (lfsAlignup pcache.size cfg.progSize).toNat = bytes.length - sent := by
    rw [paged.progSize, alignup_toNat, size, full]
    rfl
  have length : (bytes.take sent).length = sent := by
    rw [List.length_take]
    omega
  have whole := write_append image block begin (bytes.take sent) (bytes.drop sent)
  rw [length, List.take_append_drop] at whole
  rw [diff, slice_bytes pcache.buffer bytes sent buffer some, same, start, written, whole] at kept
  exact ⟨after, ran, kept⟩

-- Where they fill the page, it goes to the card.
theorem chunk_flushed (image : Image) (paged : Paged cfg) (block off : UInt32) (begin sent : Nat) (bytes chunk : List UInt8) (pcache rcache : Cache)
    (card : σ) (present : block < cfg.blockCount) (ordinary : block ≠ lfsBlockInline) (page : begin % 512 = 0 ∧ sent % 512 = 0)
    (part : sent ≤ bytes.length) (written : contents card = image.write block begin (bytes.take sent)) (held : Held block begin bytes sent pcache)
    (here : off.toNat = begin + bytes.length) (small : begin + bytes.length + chunk.length < 2 ^ 32)
    (full : (Calls.progInto pcache off chunk).size = cfg.cacheSize) :
    ∃ after, (Calls.lfsBdFlush cfg (Calls.progInto pcache off chunk) rcache false).run below.access card =
        some ((0, lfsCacheZero cfg (Calls.progInto pcache off chunk), rcache), after) ∧
      Unflushed image block begin (bytes ++ chunk) (bytes ++ chunk).length (lfsCacheZero cfg (Calls.progInto pcache off chunk)) (contents after) := by
  have put := prog_held block off begin sent bytes chunk pcache held part here small
  have front : (bytes ++ chunk).take sent = bytes.take sent := List.take_append_of_le_length part
  have whole : (bytes ++ chunk).length - sent = 512 := by
    rw [← put.size, full, paged.cacheSize]
    rfl
  have longer : sent ≤ (bytes ++ chunk).length := by
    rw [List.length_append]
    omega
  obtain ⟨after, flushed, stored⟩ := full_run cfg below contents stores image paged block begin sent _ _ rcache card present ordinary
    (by rw [front]; exact written) put longer whole
  exact ⟨after, flushed, ⟨page.1, by omega⟩, ⟨Nat.le_refl _, by omega⟩, by rw [List.take_length]; exact stored, Or.inl ⟨rfl, rfl⟩⟩

theorem prog_loop_run (image : Image) (paged : Paged cfg) (block : UInt32) (begin : Nat) (present : block < cfg.blockCount)
    (ordinary : block ≠ lfsBlockInline) (rcache : Cache) (fuel : Nat) :
    ∀ (off : UInt32) (data bytes : List UInt8) (sent : Nat) (pcache : Cache) (card : σ),
    Unflushed image block begin bytes sent pcache (contents card) → 2 * data.length ≤ fuel → (pcache.block = lfsBlockNull → 2 * data.length < fuel) →
    off.toNat = begin + bytes.length → begin + bytes.length + data.length ≤ cfg.blockSize.toNat →
    ∃ sent' pcache' after, (Calls.lfsBdProgLoop cfg false block fuel off data pcache rcache).run below.access card =
        some ((0, pcache', rcache), after) ∧ Unflushed image block begin (bytes ++ data) sent' pcache' (contents after) := by
  have blocks := paged.small
  induction fuel with
  | zero =>
      intro off data bytes sent pcache card pending enough opening here inside
      cases data with
      | nil =>
          rw [List.append_nil]
          exact ⟨sent, pcache, card, rfl, pending⟩
      | cons byte rest =>
          rw [List.length_cons] at enough
          omega
  | succ fuel ih =>
      intro off data bytes sent pcache card pending enough opening here inside
      cases data with
      | nil =>
          rw [List.append_nil]
          exact ⟨sent, pcache, card, rfl, pending⟩
      | cons byte rest =>
          obtain ⟨page, part, written, held⟩ := pending
          rw [Calls.lfsBdProgLoop]
          rcases held with ⟨null, all⟩ | held
          · -- The cache takes the page of off, and the next turn has it.
            have apart : ¬ (block = pcache.block ∧ off ≥ pcache.off ∧ off < pcache.off + cfg.cacheSize) := by
              rintro ⟨same, -⟩
              exact null_beyond cfg (same.trans null ▸ present)
            have opened := open_held cfg paged block off begin bytes pcache here (by omega)
            have more := opening null
            rw [if_neg apart, if_neg fun full => full null]
            refine ih off (byte :: rest) bytes bytes.length _ card ⟨⟨page.1, by omega⟩, ⟨Nat.le_refl _, by omega⟩, ?_, Or.inr opened⟩ (by omega) ?_ here
              inside
            · rw [written, all]
            · exact fun null => absurd (null ▸ present) (null_beyond cfg)
          · obtain ⟨covered, free⟩ := held_covers cfg paged block off begin sent bytes pcache held part.1 part.2 here (by omega)
            rw [if_pos covered, free]
            dsimp only
            generalize taken : min (byte :: rest).length (512 - (bytes.length - sent)) = diff
            have some : 0 < (byte :: rest).length := Nat.succ_pos _
            have chunk : ((byte :: rest).take diff).length = diff := by
              rw [List.length_take]
              omega
            have remains : ((byte :: rest).drop diff).length = (byte :: rest).length - diff := List.length_drop
            have grown : (bytes ++ (byte :: rest).take diff).length = bytes.length + diff := by rw [List.length_append, chunk]
            have next : (off + UInt32.ofNat diff).toNat = begin + (bytes ++ (byte :: rest).take diff).length := by
              rw [offset_toNat off diff (by omega), grown, here]
              omega
            have joined : (bytes ++ (byte :: rest).take diff) ++ (byte :: rest).drop diff = bytes ++ byte :: rest := by
              rw [List.append_assoc, List.take_append_drop]
            by_cases full : (Calls.progInto pcache off ((byte :: rest).take diff)).size = cfg.cacheSize
            · obtain ⟨middle, flushed, pending⟩ := chunk_flushed cfg below contents stores image paged block off begin sent bytes _ pcache rcache card
                present ordinary page part.1 written held here (by omega) full
              obtain ⟨sent', last, after, ran, done⟩ := ih (off + UInt32.ofNat diff) ((byte :: rest).drop diff) _ _ _ middle pending (by omega)
                (fun _ => by omega) next (by omega)
              rw [joined] at done
              refine ⟨sent', last, after, ?_, done⟩
              rw [if_pos full]
              refine (Lib.Prog.run_bind below.access (Calls.lfsBdFlush cfg _ rcache false) _ card).trans ?_
              rw [flushed, Option.bind_some]
              dsimp only
              rw [if_neg fun failed => failed rfl]
              exact ran
            · have pending := chunk_kept cfg image paged block off begin sent bytes ((byte :: rest).take diff) pcache (contents card) page part.1 written
                held here (by omega) (by omega) full
              have block' : (Calls.progInto pcache off ((byte :: rest).take diff)).block = block := held.block
              obtain ⟨sent', last, after, ran, done⟩ := ih (off + UInt32.ofNat diff) ((byte :: rest).drop diff) _ sent _ card pending (by omega)
                (fun null => absurd (block'.symm.trans null ▸ present) (null_beyond cfg)) next (by omega)
              rw [joined] at done
              refine ⟨sent', last, after, ?_, done⟩
              rw [if_neg full]
              exact ran

theorem bd_prog_run (image : Image) (paged : Paged cfg) (block : UInt32) (begin sent : Nat) (off : UInt32) (data bytes : List UInt8)
    (pcache rcache : Cache) (card : σ) (present : block < cfg.blockCount) (ordinary : block ≠ lfsBlockInline)
    (pending : Unflushed image block begin bytes sent pcache (contents card)) (here : off.toNat = begin + bytes.length)
    (inside : begin + bytes.length + data.length ≤ cfg.blockSize.toNat) :
    ∃ sent' pcache' after, (Calls.lfsBdProg cfg pcache rcache false block off data).run below.access card =
        some ((0, pcache', rcache), after) ∧ Unflushed image block begin (bytes ++ data) sent' pcache' (contents after) := by
  have blocks := paged.small
  have fits : ¬ off + UInt32.ofNat data.length > cfg.blockSize := by
    intro beyond
    rw [gt_iff_lt, UInt32.lt_iff_toNat_lt, offset_toNat off data.length (by omega)] at beyond
    omega
  rw [Calls.lfsBdProg, if_neg fits]
  exact prog_loop_run cfg below contents stores image paged block begin present ordinary rcache (2 * data.length + 2) off data bytes sent pcache card
    pending (by omega) (fun _ => by omega) here inside

-- What is left goes to the card with what else its page has.
theorem sync_run (image : Image) (paged : Paged cfg) (block : UInt32) (begin sent : Nat) (bytes : List UInt8) (pcache rcache : Cache) (card : σ)
    (present : block < cfg.blockCount) (ordinary : block ≠ lfsBlockInline) (pending : Unflushed image block begin bytes sent pcache (contents card)) :
    ∃ padding pcache' after, (Calls.lfsBdSync cfg pcache rcache false).run below.access card =
        some ((0, pcache', Calls.lfsCacheDrop rcache), after) ∧ pcache'.block = lfsBlockNull ∧ padding.length < 512 ∧
      (bytes ++ padding).length % 512 = 0 ∧ contents after = image.write block begin (bytes ++ padding) := by
  obtain ⟨page, part, written, held⟩ := pending
  rcases held with ⟨null, all⟩ | held
  · refine ⟨[], pcache, card, ?_, null, by decide, by rw [List.append_nil]; omega, by rw [List.append_nil, written, all, List.take_length]⟩
    have nothing : Calls.lfsBdFlush cfg pcache (Calls.lfsCacheDrop rcache) false = pure (0, pcache, Calls.lfsCacheDrop rcache) := by
      rw [Calls.lfsBdFlush, if_neg fun full => full.1 null]
    rw [Calls.lfsBdSync, nothing]
    rfl
  · obtain ⟨same, start, size, buffer⟩ := held
    obtain ⟨after, ran, kept⟩ := flush_run cfg below contents stores pcache (Calls.lfsCacheDrop rcache) card (by rw [same]; exact present)
      (by rw [same]; exact ordinary)
    have diff : (lfsAlignup pcache.size cfg.progSize).toNat = bytes.length - sent + (511 - (bytes.length - sent + 511) % 512) := by
      rw [paged.progSize, alignup_toNat, size]
      omega
    have length : (bytes.take sent).length = sent := by
      rw [List.length_take]
      omega
    have padded := Lib.slice_length pcache.buffer (bytes.length - sent) (511 - (bytes.length - sent + 511) % 512)
    have whole := write_append image block begin (bytes.take sent)
      (bytes.drop sent ++ Lib.slice pcache.buffer (bytes.length - sent) (511 - (bytes.length - sent + 511) % 512))
    rw [length, ← List.append_assoc, List.take_append_drop] at whole
    rw [diff, Lib.slice_add, slice_bytes pcache.buffer bytes sent buffer part.1, Nat.zero_add, same, start, written, whole] at kept
    refine ⟨_, lfsCacheZero cfg pcache, after, ?_, rfl, ?_, ?_, kept⟩
    · refine (Lib.Prog.run_bind below.access (Calls.lfsBdFlush cfg pcache (Calls.lfsCacheDrop rcache) false) _ card).trans ?_
      rw [ran]
      rfl
    · rw [padded]
      omega
    · rw [List.length_append, padded]
      omega

end

end SDCardFs.Littlefs
