import SDCardFs.Lib.Runs
import SDCardFs.Littlefs.CardReads
import SDCardFs.Littlefs.CtzList
import SDCardFs.Littlefs.ReadOnly

set_option autoImplicit false

namespace SDCardFs.Littlefs

theorem has_set (f : File) (flag other : FileFlag) (apart : Spared other.mask flag.mask) :
    ({ f with flags := f.flags ||| flag.mask } : File).has other = f.has other :=
  decide_eq_decide.mpr (by rw [set_spared _ _ _ apart])

theorem or_mask (flags mask : UInt32) : (flags ||| mask) &&& mask = mask := by
  rw [← UInt32.toBitVec_inj]
  ext bit
  simpa using fun masked => Or.inr masked

theorem has_set_self (f : File) (flag : FileFlag) : ({ f with flags := f.flags ||| flag.mask } : File).has flag = true := by
  have some : flag.mask ≠ 0 := by
    cases flag with
    | _ => decide
  exact decide_eq_true (by rw [or_mask]; exact some)

-- An inline file is read out of its cache, which its opening has filled.
structure InlineReads (cfg : Config) (f : File) (content : List UInt8) : Prop where
  inline : f.has .inline = true
  block : f.cache.block = lfsBlockInline
  off : f.cache.off = 0
  size : f.cache.size = cfg.cacheSize
  fits : f.ctzSize.toNat ≤ cfg.cacheSize.toNat
  content : content = Lib.slice f.cache.buffer 0 f.ctzSize.toNat
  place : f.has .reading = true → f.off = f.pos

-- Any other file is read out of the blocks of its list.
structure ListReads (cfg : Config) (image : Image) (node : Nat → UInt32) (last : Nat) (f : File) (content : List UInt8) : Prop where
  inline : f.has .inline = false
  file : CtzFile cfg none image node last f.ctzHead f.ctzSize
  content : content = (ctzData image node cfg.blockSize.toNat (last + 1)).take f.ctzSize.toNat
  coherent : Coherent cfg image f.cache
  aligned : Aligned cfg f.cache
  place : f.has .reading = true → f.off = cfg.blockSize ∨ f.block = node (lfsCtzIndex cfg f.pos).toNat ∧ f.off = lfsCtzOff cfg f.pos

structure EmptyReads (f : File) (content : List UInt8) : Prop where
  inline : f.has .inline = false
  size : f.ctzSize = 0
  content : content = []

-- A handle that is open and holds no writes of its own, as a position in the
-- bytes of its file.
structure Cursor (cfg : Config) (image : Image) (content : List UInt8) (pos : Nat) (f : File) : Prop where
  opened : f.flags &&& lfsFOpened ≠ 0
  idle : f.has .writing = false
  size : f.ctzSize.toNat = content.length
  pos : f.pos.toNat = pos
  reads : InlineReads cfg f content ∨ (∃ node last, ListReads cfg image node last f content) ∨ EmptyReads f content

-- The block at hand is the one of the position.
structure Placed (cfg : Config) (node : Nat → UInt32) (f : File) : Prop where
  reading : f.has .reading = true
  block : f.block = node (lfsCtzIndex cfg f.pos).toNat
  off : f.off = lfsCtzOff cfg f.pos

-- What a read changes of a handle.
structure Moved (f g : File) : Prop where
  flags : g.flags &&& ~~~lfsFReading = f.flags &&& ~~~lfsFReading
  head : g.ctzHead = f.ctzHead
  size : g.ctzSize = f.ctzSize

theorem moved_mask {f g : File} (moved : Moved f g) (mask : UInt32) (spared : Spared mask lfsFReading) : g.flags &&& mask = f.flags &&& mask := by
  rw [← clear_spared mask g.flags lfsFReading spared, moved.flags, clear_spared mask f.flags lfsFReading spared]

theorem moved_has {f g : File} (moved : Moved f g) (flag : FileFlag) (spared : Spared flag.mask lfsFReading) : g.has flag = f.has flag :=
  decide_eq_decide.mpr (by rw [moved_mask moved _ spared])

theorem cursor_moved {cfg : Config} {image : Image} {content : List UInt8} {pos : Nat} {f g : File} (cursor : Cursor cfg image content pos f)
    (moved : Moved f g) (next : Nat) (there : g.pos.toNat = next)
    (reads : InlineReads cfg g content ∨ (∃ node last, ListReads cfg image node last g content) ∨ EmptyReads g content) :
    Cursor cfg image content next g := by
  refine ⟨?_, (moved_has moved .writing rfl).trans cursor.idle, by rw [moved.size, cursor.size], there, reads⟩
  rw [moved_mask moved lfsFOpened rfl]
  exact cursor.opened

section
variable {σ : Type}

def File.find (f : File) (cache : Cache) (block off : UInt32) : File := { f with cache := cache, block := block, off := off }

def File.mark (f : File) (flag : FileFlag) : File := { f with flags := f.flags ||| flag.mask }

def File.advance (f : File) (cache : Cache) (length : Nat) : File :=
  { f with cache := cache, pos := f.pos + UInt32.ofNat length, off := f.off + UInt32.ofNat length }

-- A handle and the card changed, and nothing else.
def Fs.become (fs : Fs σ) (file : FileAt) (f : File) (card : σ) : Fs σ := { fs.setFile file fun _ => f with rest := card }

theorem become_file (fs : Fs σ) (file : FileAt) (f : File) (card : σ) : (fs.become file f card).files file = f := if_pos rfl

theorem become_become (fs : Fs σ) (file : FileAt) (f g : File) (card last : σ) : (fs.become file f card).become file g last = fs.become file g last := by
  have files : (fun other => if other = file then g else (fs.become file f card).files other) = (fs.become file g last).files := by
    funext other
    by_cases here : other = file
    · simp [Fs.become, Fs.setFile, here]
    · simp [Fs.become, Fs.setFile, here]
  rw [Fs.become, Fs.setFile, files]
  rfl

theorem become_self (fs : Fs σ) (file : FileAt) : fs.become file (fs.files file) fs.rest = fs := by
  have kept := @set_file_same_file σ file fs (fun _ => fs.files file) rfl
  rw [Fs.become, kept]

theorem set_file_become (fs : Fs σ) (file : FileAt) (change : File → File) :
    (setFile file change).run fs = some ((), fs.become file { change (fs.files file) with flags := (fs.files file).flags } fs.rest) := rfl

theorem set_flag_become (fs : Fs σ) (file : FileAt) (flag : FileFlag) :
    (setFlag file flag).run fs = some ((), fs.become file ((fs.files file).mark flag) fs.rest) := rfl

theorem rest_become (fs : Fs σ) (file : FileAt) (card : σ) : { fs with rest := card } = fs.become file (fs.files file) card := by
  have kept := @set_file_same_file σ file fs (fun _ => fs.files file) rfl
  rw [Fs.become, kept]

-- The requests of lfs_ctz_find are short and near the start of a block.
theorem find_hinted (target : UInt32) (lfs : LfsBase) (turns : Nat) : ∀ (current head : UInt32), turns ≠ 0 → current.toNat < turns + target.toNat →
    (ctzFindLoop target turns current head lfs).Always Request.Hinted fun _ => True := by
  induction turns with
  | zero => exact fun _ _ none => absurd rfl none
  | succ turns ih =>
      intro current head _ enough
      by_cases above : target < current
      · have less := UInt32.lt_iff_toNat_lt.mp above
        have next := find_next_toNat target current above
        have nextLess := Lib.skip_next_lt _ _ less
        have few : (findSkip target current).toNat < 32 := by
          rw [find_skip_toNat target current above]
          exact Nat.lt_of_le_of_lt (Nat.min_le_right _ _) (trailing_lt _ 32 (by omega) current.toNat_lt)
        have near : (4 * findSkip target current).toNat + (lfsTole32 head).length < 2 ^ 32 := by
          rw [UInt32.toNat_mul]
          simp only [UInt32.reduceToNat, lfsTole32, List.length_cons, List.length_nil]
          omega
        rw [find_loop_turn target turns _ _ above]
        refine ⟨⟨⟨by decide, by decide⟩, near⟩, fun answer => ?_⟩
        obtain ⟨err, bytes⟩ : Int32 × List UInt8 := answer
        change ((if err ≠ 0 then pure (err, lfsFromle32 bytes)
          else ctzFindLoop target turns (current - (1 <<< findSkip target current)) (lfsFromle32 bytes) : BaseM _) lfs).Always Request.Hinted
            fun _ => True
        by_cases failed : err = 0
        · rw [if_neg fun other => other failed]
          exact ih _ _ (by omega) (by omega)
        · rw [if_pos failed]
          trivial
      · rw [find_loop_there target turns _ _ above]
        trivial

variable (cfg : Config) (below : Below σ)

theorem card_call_run {α : Type} (call : DevM α) (fs : Fs σ) (result : α) (card : σ) (ran : call.run below.access fs.rest = some (result, card)) :
    (cardCall below call).run fs = some (result, { fs with rest := card }) := by
  have parts : (cardCall below call).run fs = (call.run below.access fs.rest).map fun ran => (ran.1, { fs with rest := ran.2 }) := rfl
  rw [parts, ran]
  rfl

variable (contents : σ → Image) (paged : Paged cfg) (holds : below.Holds contents) (file : FileAt) (fs : Fs σ)
include paged holds

theorem read_file_run (hint block off : UInt32) (data : List UInt8) (hinting : Hinting hint) (present : block < cfg.blockCount)
    (fits : off.toNat + data.length ≤ cfg.blockSize.toNat) (coherent : Coherent cfg (contents fs.rest) (fs.files file).cache)
    (aligned : Aligned cfg (fs.files file).cache) :
    ∃ cache card, (readFile cfg below file hint block off data).run fs =
        some ((0, directBytes none (contents fs.rest) block off data.length), fs.become file { fs.files file with cache := cache } card) ∧
      contents card = contents fs.rest ∧ Coherent cfg (contents fs.rest) cache ∧ Aligned cfg cache := by
  have small := cfg.blockSize.toNat_lt
  obtain ⟨cache, ran, still, kept⟩ := bd_read_run cfg (contents fs.rest) paged (fs.files file).cache hint block off data hinting (by omega)
    coherent aligned
  rw [link_read cfg (contents fs.rest) none block off data present fits] at ran
  obtain ⟨card, served, same⟩ := card_run below contents holds _ (bd_read_reads cfg none _ hint block off data) fs.rest _ ran
  have looked : (fileAt file).run fs = some (fs.files file, fs) := rfl
  refine ⟨cache, card, ?_, same, still, kept⟩
  rw [readFile, Lib.Keeping.run_bind, looked, Option.bind_some, Lib.Keeping.run_bind, card_call_run below _ fs _ card served, Option.bind_some,
    Lib.Keeping.run_bind, rest_become fs file card, set_file_become, become_file, become_become, Option.bind_some, Lib.Keeping.run_pure]
  rfl

theorem find_file_run (node : Nat → UInt32) (last : Nat) (content : List UInt8) (pos : UInt32)
    (reads : ListReads cfg (contents fs.rest) node last (fs.files file) content) (large : 128 ≤ cfg.blockSize.toNat)
    (inside : pos.toNat < (fs.files file).ctzSize.toNat) :
    ∃ cache card, (ctzFindFile cfg below file pos).run fs =
        some (0, fs.become file ((fs.files file).find cache (node (lfsCtzIndex cfg pos).toNat) (lfsCtzOff cfg pos)) card) ∧
      contents card = contents fs.rest ∧ Coherent cfg (contents fs.rest) cache ∧ Aligned cfg cache := by
  have hinted : (lfsCtzFind cfg (fs.files file).ctzHead (fs.files file).ctzSize pos fs.base).Always Request.Hinted fun _ => True := by
    rw [lfsCtzFind, if_neg reads.file.some]
    exact Lib.Prog.always_bind (ctzFindLoop _ _ _ _ fs.base) _ (find_hinted _ fs.base _ _ _ (by omega) (by omega)) fun _ _ => trivial
  obtain ⟨result, cache, direct, ran, still, kept⟩ := through_run cfg (contents fs.rest) paged _ (fs.files file).cache hinted reads.coherent
    reads.aligned
  rw [ctz_find_run cfg (contents fs.rest) _ large node last _ _ pos reads.file inside] at direct
  cases direct
  obtain ⟨card, served, same⟩ := card_run below contents holds _ (Lib.Prog.only_through _ (read_server_reads cfg) _ _) fs.rest _ ran
  have looked : (fileAt file).run fs = some (fs.files file, fs) := rfl
  have searched : (lookupWith cfg below (fs.files file).cache
      (lfsCtzFind cfg (fs.files file).ctzHead (fs.files file).ctzSize pos)).run fs =
        some (((0, node (lfsCtzIndex cfg pos).toNat, lfsCtzOff cfg pos), cache), { fs with rest := card }) := by
    rw [lookupWith, Lib.Keeping.run_bind, Lib.Keeping.run_read, Option.bind_some]
    exact card_call_run below _ fs _ card served
  refine ⟨cache, card, ?_, same, still, kept⟩
  rw [ctzFindFile, Lib.Keeping.run_bind, looked, Option.bind_some, Lib.Keeping.run_bind, searched, Option.bind_some,
    Lib.Keeping.run_bind, rest_become fs file card, set_file_become, become_file, become_become, Option.bind_some,
    if_neg (fun failed => failed rfl), Lib.Keeping.run_bind, set_file_become, become_file, become_become, Option.bind_some, Lib.Keeping.run_pure]
  rfl

theorem read_block_list_run (node : Nat → UInt32) (last : Nat) (content : List UInt8)
    (reads : ListReads cfg (contents fs.rest) node last (fs.files file) content) (large : 128 ≤ cfg.blockSize.toNat)
    (inside : (fs.files file).pos.toNat < (fs.files file).ctzSize.toNat) :
    ∃ f card, (readBlock cfg below file).run fs = some (0, fs.become file f card) ∧ contents card = contents fs.rest ∧
      ListReads cfg (contents fs.rest) node last f content ∧ Placed cfg node f ∧ Moved (fs.files file) f ∧ f.pos = (fs.files file).pos := by
  have looked : (fileAt file).run fs = some (fs.files file, fs) := rfl
  rw [readBlock, Lib.Keeping.run_bind, looked, Option.bind_some]
  by_cases placed : (fs.files file).has .reading = true ∧ (fs.files file).off ≠ cfg.blockSize
  · obtain ⟨block, off⟩ := (reads.place placed.1).resolve_left placed.2
    refine ⟨fs.files file, fs.rest, ?_, rfl, reads, ⟨placed.1, block, off⟩, ⟨rfl, rfl, rfl⟩, rfl⟩
    rw [if_pos placed, Lib.Keeping.run_pure, become_self]
  · obtain ⟨cache, card, found, same, coherent, aligned⟩ := find_file_run cfg below contents paged holds file fs node last content _ reads large inside
    have outline : ¬ (fs.files file).has .inline = true := by simp [reads.inline]
    refine ⟨((fs.files file).find cache (node (lfsCtzIndex cfg (fs.files file).pos).toNat) (lfsCtzOff cfg (fs.files file).pos)).mark .reading,
      card, ?_, same, ?_, ⟨has_set_self _ .reading, rfl, rfl⟩, ⟨?_, rfl, rfl⟩, rfl⟩
    · rw [if_neg placed, if_pos outline, Lib.Keeping.run_next found]
      dsimp only
      rw [if_neg (fun failed => failed rfl), Lib.Keeping.run_next (set_flag_become _ file .reading), become_file, become_become,
        Lib.Keeping.run_pure]
      rfl
    · refine ⟨(has_set _ .reading .inline rfl).trans reads.inline, reads.file, reads.content, coherent, aligned, fun _ => Or.inr ⟨rfl, rfl⟩⟩
    · exact set_spared _ _ _ rfl

end

section
variable {cfg : Config} {image : Image} {node : Nat → UInt32} {last : Nat} {f : File} {content : List UInt8}

theorem list_size (reads : ListReads cfg image node last f content) : content.length = f.ctzSize.toNat := by
  have positive := (size_pred_toNat _ reads.file.some).2
  have ends := reads.file.ends.2
  rw [reads.content, List.length_take, ctz_data_length]
  omega

-- Where a placed handle is in its block, and how much of the file the block
-- still holds there.
theorem placed_room (reads : ListReads cfg image node last f content) (large : 128 ≤ cfg.blockSize.toNat) (placed : Placed cfg node f)
    (inside : f.pos.toNat < f.ctzSize.toNat) :
    f.off.toNat < cfg.blockSize.toNat ∧ f.block < cfg.blockCount ∧
      ∀ length, f.off.toNat + length ≤ cfg.blockSize.toNat → f.pos.toNat + length ≤ f.ctzSize.toNat →
        directBytes none image f.block f.off length = (content.drop f.pos.toNat).take length := by
  have block := ctz_index_inside cfg large f.pos
  obtain ⟨place, least, most⟩ := (ctz_layout_exact cfg large f.pos _ _).mp ⟨rfl, rfl⟩
  have positive := (size_pred_toNat _ reads.file.some).2
  have stored : (lfsCtzIndex cfg f.pos).toNat < last + 1 := by
    have ends := reads.file.ends.2
    have start := block.1
    by_contra beyond
    have order := ctz_start_mono cfg.blockSize.toNat (last + 1) (lfsCtzIndex cfg f.pos).toNat (by omega)
    omega
  rw [placed.off, placed.block]
  refine ⟨most, reads.file.list.inside _ stored, fun length within enough => ?_⟩
  have fits : f.pos.toNat + length ≤ ctzStart cfg.blockSize.toNat ((lfsCtzIndex cfg f.pos).toNat + 1) := by
    rw [ctzStart, ctzRoom]
    omega
  have there : UInt32.ofNat (4 * pointerWords (lfsCtzIndex cfg f.pos).toNat + (f.pos.toNat - ctzStart cfg.blockSize.toNat (lfsCtzIndex cfg f.pos).toNat)) =
      lfsCtzOff cfg f.pos := by
    have start := block.1
    have small := (lfsCtzOff cfg f.pos).toNat_lt
    apply UInt32.toNat_inj.mp
    rw [UInt32.toNat_ofNat']
    omega
  rw [reads.content, List.drop_take, List.take_take, Nat.min_eq_left (by omega), ctz_data_slice image node _ _ _ _ _ block stored fits, there]

-- The handle after a stretch of its block has been read.
theorem list_advance (reads : ListReads cfg image node last f content) (large : 128 ≤ cfg.blockSize.toNat) (placed : Placed cfg node f)
    (cache : Cache) (coherent : Coherent cfg image cache) (aligned : Aligned cfg cache) (length : Nat)
    (within : f.off.toNat + length ≤ cfg.blockSize.toNat) (enough : f.pos.toNat + length ≤ f.ctzSize.toNat) :
    ListReads cfg image node last (f.advance cache length) content := by
  have bound := f.ctzSize.toNat_lt
  have blockBound := cfg.blockSize.toNat_lt
  refine ⟨reads.inline, reads.file, reads.content, coherent, aligned, fun _ => ?_⟩
  have off := offset_toNat f.off length (by omega)
  have pos := offset_toNat f.pos length (by omega)
  obtain ⟨place, least, most⟩ := (ctz_layout_exact cfg large f.pos _ _).mp ⟨rfl, rfl⟩
  rw [← placed.off] at place least most
  by_cases full : f.off.toNat + length = cfg.blockSize.toNat
  · left
    exact UInt32.toNat_inj.mp (off.trans full)
  · right
    obtain ⟨index, known⟩ := (ctz_layout_exact cfg large (f.pos + UInt32.ofNat length) (lfsCtzIndex cfg f.pos).toNat (f.off.toNat + length)).mpr
      ⟨by rw [pos]; omega, by omega, by omega⟩
    refine ⟨?_, UInt32.toNat_inj.mp (off.trans known.symm)⟩
    exact placed.block.trans (congrArg node index.symm)

end

section
variable {σ : Type} (cfg : Config) (below : Below σ) (contents : σ → Image) (file : FileAt) (fs : Fs σ) (content : List UInt8) (pos : Nat)

-- One turn of the loop of lfs_file_read gives some of the bytes that follow and
-- goes on behind them.
structure ReadTurn (data : List UInt8) (diff : Nat) (f : File) (card : σ) : Prop where
  some : 0 < diff
  within : diff ≤ data.length
  kept : contents card = contents fs.rest
  cursor : Cursor cfg (contents fs.rest) content (pos + diff) f
  moved : Moved (fs.files file) f
  goes : ∀ fuel, (readLoop cfg below file (fuel + 1) data).run fs =
    ((readLoop cfg below file fuel (data.drop diff)).run (fs.become file f card)).map fun ended =>
      ((ended.1.1, (content.drop pos).take diff ++ ended.1.2), ended.2)

theorem read_loop_turn (byte : UInt8) (rest bytes : List UInt8) (fuel : Nat) (f : File) (card last : σ) (cache : Cache) (diff : Nat)
    (inline : Bool) (kind : f.has .inline = inline)
    (room : min (byte :: rest).length (cfg.blockSize - f.off).toNat = diff)
    (block : (readBlock cfg below file).run fs = some (0, fs.become file f card))
    (got : (if inline = true then getreadFile cfg below file cfg.blockSize f.off ((byte :: rest).take diff)
      else readFile cfg below file cfg.blockSize f.block f.off ((byte :: rest).take diff)).run (fs.become file f card) =
        some ((0, bytes), fs.become file { f with cache := cache } last)) :
    (readLoop cfg below file (fuel + 1) (byte :: rest)).run fs =
      ((readLoop cfg below file fuel ((byte :: rest).drop diff)).run (fs.become file (f.advance cache diff) last)).map fun ended =>
        ((ended.1.1, bytes ++ ended.1.2), ended.2) := by
  have looked : (fileAt file).run (fs.become file f card) = some (f, fs.become file f card) := by
    have known : (fileAt file).run (fs.become file f card) = some ((fs.become file f card).files file, fs.become file f card) := rfl
    rw [become_file] at known
    exact known
  have tail : ((setFile file fun f => { f with pos := f.pos + UInt32.ofNat diff, off := f.off + UInt32.ofNat diff }) >>= fun _ =>
      readLoop cfg below file fuel ((byte :: rest).drop diff) >>= fun ended => pure (ended.1, bytes ++ ended.2) :
        FsM σ (Int32 × List UInt8)).run (fs.become file { f with cache := cache } last) =
      ((readLoop cfg below file fuel ((byte :: rest).drop diff)).run (fs.become file (f.advance cache diff) last)).map fun ended =>
        ((ended.1.1, bytes ++ ended.1.2), ended.2) := by
    rw [Lib.Keeping.run_next (set_file_become _ file _), become_file, become_become, Lib.Keeping.run_bind]
    exact Option.map_eq_bind.symm
  rw [readLoop]
  dsimp only
  rw [Lib.Keeping.run_next block, if_neg (fun failed => failed rfl), Lib.Keeping.run_next looked, room, kind]
  cases inline with
  | true =>
      rw [if_pos rfl] at got ⊢
      rw [Lib.Keeping.run_next got]
      exact tail
  | false =>
      rw [if_neg Bool.false_ne_true] at got ⊢
      rw [Lib.Keeping.run_next got]
      exact tail

theorem list_turn (paged : Paged cfg) (holds : below.Holds contents) (large : 128 ≤ cfg.blockSize.toNat) (node : Nat → UInt32) (last : Nat)
    (cursor : Cursor cfg (contents fs.rest) content pos (fs.files file)) (reads : ListReads cfg (contents fs.rest) node last (fs.files file) content)
    (byte : UInt8) (rest : List UInt8) (enough : pos + (byte :: rest).length ≤ content.length) :
    ∃ diff f card, ReadTurn cfg below contents file fs content pos (byte :: rest) diff f card := by
  have size := cursor.size
  have start := cursor.pos
  have positive : 0 < (byte :: rest).length := Nat.succ_pos _
  obtain ⟨f, card, block, kept, still, placed, moved, same⟩ :=
    read_block_list_run cfg below contents paged holds file fs node last content reads large (by omega)
  have sizeKept := congrArg UInt32.toNat moved.size
  have posKept := congrArg UInt32.toNat same
  have inside : f.pos.toNat < f.ctzSize.toNat := by omega
  obtain ⟨most, present, bytes⟩ := placed_room still large placed inside
  have room : (cfg.blockSize - f.off).toNat = cfg.blockSize.toNat - f.off.toNat :=
    UInt32.toNat_sub_of_le _ _ (UInt32.le_iff_toNat_le.mpr (Nat.le_of_lt most))
  generalize length : min (byte :: rest).length (cfg.blockSize - f.off).toNat = diff
  have taken : ((byte :: rest).take diff).length = diff := by
    rw [List.length_take]
    omega
  have small := paged.small
  obtain ⟨cache, after, got, held, coherent, aligned⟩ := read_file_run cfg below contents paged holds file (fs.become file f card)
    cfg.blockSize f.block f.off ((byte :: rest).take diff) ⟨by omega, by omega⟩ present (by rw [taken]; omega)
    (by rw [become_file]; exact kept.symm ▸ still.coherent) (by rw [become_file]; exact still.aligned)
  have image : contents (fs.become file f card).rest = contents fs.rest := kept
  rw [image] at got held coherent
  rw [become_file, become_become, taken, bytes diff (by omega) (by omega), posKept, start] at got
  have advanced : Moved (fs.files file) (f.advance cache diff) := ⟨moved.flags, moved.head, moved.size⟩
  refine ⟨diff, f.advance cache diff, after, by omega, by omega, held, ?_, advanced, fun fuel => ?_⟩
  · refine cursor_moved cursor advanced (pos + diff) ?_ (Or.inr (Or.inl ⟨node, last, ?_⟩))
    · have bound := f.ctzSize.toNat_lt
      exact (offset_toNat f.pos diff (by omega)).trans (by omega)
    · exact list_advance still large placed cache coherent aligned diff (by omega) (by omega)
  · exact read_loop_turn cfg below file fs byte rest _ fuel f card after cache diff false still.inline length block
      (by rw [if_neg Bool.false_ne_true]; exact got)

theorem read_block_inline_run (reads : InlineReads cfg (fs.files file) content) :
    ∃ f, (readBlock cfg below file).run fs = some (0, fs.become file f fs.rest) ∧ InlineReads cfg f content ∧ f.off = f.pos ∧
      Moved (fs.files file) f ∧ f.pos = (fs.files file).pos := by
  have looked : (fileAt file).run fs = some (fs.files file, fs) := rfl
  rw [readBlock, Lib.Keeping.run_next looked]
  by_cases placed : (fs.files file).has .reading = true ∧ (fs.files file).off ≠ cfg.blockSize
  · refine ⟨fs.files file, ?_, reads, reads.place placed.1, ⟨rfl, rfl, rfl⟩, rfl⟩
    rw [if_pos placed, Lib.Keeping.run_pure, become_self]
  · have inline : ¬ ¬ (fs.files file).has .inline = true := fun other => other reads.inline
    refine ⟨((fs.files file).find (fs.files file).cache lfsBlockInline (fs.files file).pos).mark .reading, ?_, ?_, rfl, ⟨?_, rfl, rfl⟩, rfl⟩
    · rw [if_neg placed, if_neg inline, Lib.Keeping.run_next (set_file_become _ file _), Lib.Keeping.run_next (Lib.Keeping.run_pure _ _)]
      dsimp only
      rw [if_neg (fun failed => failed rfl), Lib.Keeping.run_next (set_flag_become _ file .reading), become_file, become_become,
        Lib.Keeping.run_pure]
      rfl
    · exact ⟨(has_set _ .reading .inline rfl).trans reads.inline, reads.block, reads.off, reads.size, reads.fits, reads.content, fun _ => rfl⟩
    · exact set_spared _ _ _ rfl

theorem getread_file_run (paged : Paged cfg) (large : 128 ≤ cfg.blockSize.toNat) (reads : InlineReads cfg (fs.files file) content)
    (hint off : UInt32) (byte : UInt8) (rest : List UInt8) (fits : off.toNat + (byte :: rest).length ≤ (fs.files file).ctzSize.toNat) :
    (getreadFile cfg below file hint off (byte :: rest)).run fs =
      some ((0, (content.drop off.toNat).take (byte :: rest).length),
        fs.become file { fs.files file with cache := (fs.files file).cache } fs.rest) := by
  have cached := reads.fits
  have page : cfg.cacheSize.toNat = 512 := congrArg UInt32.toNat paged.cacheSize
  have pages := paged.pages
  have positive : 0 < (byte :: rest).length := Nat.succ_pos _
  have inside : ¬ off + UInt32.ofNat (byte :: rest).length > cfg.blockSize := by
    rw [gt_iff_lt, UInt32.lt_iff_toNat_lt, offset_toNat off _ (by omega)]
    omega
  have start : off - (fs.files file).cache.off = off := by rw [reads.off, UInt32.sub_zero]
  have held : (fs.files file).cache.block = lfsBlockInline ∧ off < (fs.files file).cache.off + (fs.files file).cache.size ∧
      off ≥ (fs.files file).cache.off := by
    refine ⟨reads.block, ?_, ?_⟩
    · rw [reads.off, UInt32.zero_add, reads.size, UInt32.lt_iff_toNat_lt]
      omega
    · rw [reads.off]
      exact UInt32.zero_le
  have left : ((fs.files file).cache.size - (off - (fs.files file).cache.off)).toNat = 512 - off.toNat := by
    rw [start, reads.size, UInt32.toNat_sub_of_le _ _ (UInt32.le_iff_toNat_le.mpr (by omega)), page]
  have whole : min (byte :: rest).length ((fs.files file).cache.size - (off - (fs.files file).cache.off)).toNat = (byte :: rest).length := by
    rw [left]
    omega
  have bytes : Lib.slice (fs.files file).cache.buffer (off - (fs.files file).cache.off).toNat (byte :: rest).length =
      (content.drop off.toNat).take (byte :: rest).length := by
    obtain ⟨more, same⟩ : ∃ more, (fs.files file).ctzSize.toNat = off.toNat + ((byte :: rest).length + more) :=
      ⟨(fs.files file).ctzSize.toNat - off.toNat - (byte :: rest).length, by omega⟩
    rw [start, reads.content, same, Lib.slice_add, List.drop_left' (Lib.slice_length _ _ _), Lib.slice_add,
      List.take_left' (Lib.slice_length _ _ _), Nat.zero_add]
  have node : (nodeAt (.file file)).run fs = some (fs.nodes (.file file), fs) := rfl
  have looked : (fileAt file).run fs = some (fs.files file, fs) := rfl
  have none : ∀ (dir : Mdir) (gmask gtag next : UInt32) (fuel : Nat) (cache : Cache),
      (dirGetreadLoop cfg below dir hint gmask gtag fuel next [] cache).run fs = some (((0, []), cache), fs) := by
    intro dir gmask gtag next fuel cache
    cases fuel with
    | _ => rfl
  rw [getreadFile, Lib.Keeping.run_next node, Lib.Keeping.run_next looked, lfsDirGetread, if_neg inside, dirGetreadLoop]
  dsimp only
  rw [if_pos held, whole, List.drop_length]
  rw [Lib.Keeping.run_bind, Lib.Keeping.run_next (none _ _ _ _ _ _), Lib.Keeping.run_pure, Option.bind_some,
    Lib.Keeping.run_next (set_file_become _ file _), Lib.Keeping.run_pure, bytes, List.append_nil]

theorem inline_turn (paged : Paged cfg) (large : 128 ≤ cfg.blockSize.toNat) (cursor : Cursor cfg (contents fs.rest) content pos (fs.files file))
    (reads : InlineReads cfg (fs.files file) content) (byte : UInt8) (rest : List UInt8) (enough : pos + (byte :: rest).length ≤ content.length) :
    ∃ diff f card, ReadTurn cfg below contents file fs content pos (byte :: rest) diff f card := by
  have size := cursor.size
  have start := cursor.pos
  have cached := reads.fits
  have page : cfg.cacheSize.toNat = 512 := congrArg UInt32.toNat paged.cacheSize
  have pages := paged.pages
  have positive : 0 < (byte :: rest).length := Nat.succ_pos _
  obtain ⟨f, block, still, place, moved, same⟩ := read_block_inline_run cfg below file fs content reads
  have sizeKept := congrArg UInt32.toNat moved.size
  have posKept := congrArg UInt32.toNat same
  have room : (cfg.blockSize - f.off).toNat = cfg.blockSize.toNat - f.pos.toNat := by
    rw [UInt32.toNat_sub_of_le _ _ (UInt32.le_iff_toNat_le.mpr (by rw [place]; omega)), place]
  have length : min (byte :: rest).length (cfg.blockSize - f.off).toNat = (byte :: rest).length := by omega
  have advanced : Moved (fs.files file) (f.advance f.cache (byte :: rest).length) := ⟨moved.flags, moved.head, moved.size⟩
  have got := getread_file_run cfg below file (fs.become file f fs.rest) content paged large (by rwa [become_file]) cfg.blockSize f.off byte rest
    (by rw [become_file, place]; omega)
  have offset : f.off.toNat = pos := by rw [place, posKept, start]
  rw [become_file, become_become, offset] at got
  refine ⟨(byte :: rest).length, f.advance f.cache (byte :: rest).length, fs.rest, positive, Nat.le_refl _, rfl, ?_, advanced, fun fuel => ?_⟩
  · refine cursor_moved cursor advanced _ ?_ (Or.inl ?_)
    · have bound := f.ctzSize.toNat_lt
      exact (offset_toNat f.pos _ (by omega)).trans (by omega)
    · exact ⟨still.inline, still.block, still.off, still.size, still.fits, still.content, fun _ => congrArg (· + _) place⟩
  · refine read_loop_turn cfg below file fs byte rest _ fuel f fs.rest fs.rest f.cache _ true still.inline length block ?_
    rw [if_pos rfl, List.take_length]
    exact got

-- lfs_file_read of bytes the file has, from where the handle is.
theorem read_loop_run (paged : Paged cfg) (holds : below.Holds contents) (large : 128 ≤ cfg.blockSize.toNat) (fuel : Nat) :
    ∀ (data : List UInt8) (fs : Fs σ) (pos : Nat), Cursor cfg (contents fs.rest) content pos (fs.files file) →
    pos + data.length ≤ content.length → data.length ≤ fuel →
    ∃ f card, (readLoop cfg below file fuel data).run fs = some ((0, (content.drop pos).take data.length), fs.become file f card) ∧
      contents card = contents fs.rest ∧ Cursor cfg (contents fs.rest) content (pos + data.length) f ∧ Moved (fs.files file) f := by
  induction fuel with
  | zero =>
      intro data fs pos cursor fits few
      have none : data = [] := List.length_eq_zero_iff.mp (by omega)
      subst none
      exact ⟨fs.files file, fs.rest, by rw [become_self]; rfl, rfl, cursor, ⟨rfl, rfl, rfl⟩⟩
  | succ fuel ih =>
      intro data fs pos cursor fits few
      cases data with
      | nil => exact ⟨fs.files file, fs.rest, by rw [become_self]; rfl, rfl, cursor, ⟨rfl, rfl, rfl⟩⟩
      | cons byte rest =>
          have turned : ∃ diff f card, ReadTurn cfg below contents file fs content pos (byte :: rest) diff f card := by
            rcases cursor.reads with inline | ⟨node, last, list⟩ | empty
            · exact inline_turn cfg below contents file fs content pos paged large cursor inline byte rest fits
            · exact list_turn cfg below contents file fs content pos paged holds large node last cursor list byte rest fits
            · rw [empty.content, List.length_cons, List.length_nil] at fits
              omega
          obtain ⟨diff, f, card, some, within, kept, next, moved, goes⟩ := turned
          have left : ((byte :: rest).drop diff).length = (byte :: rest).length - diff := List.length_drop
          have image : contents (fs.become file f card).rest = contents fs.rest := kept
          obtain ⟨g, last, ran, held, ends, further⟩ := ih ((byte :: rest).drop diff) (fs.become file f card) (pos + diff)
            (by rw [image, become_file]; exact next) (by omega) (by omega)
          rw [become_file] at further
          rw [become_become, left] at ran
          rw [image, left, Nat.add_assoc, Nat.add_sub_cancel' within] at ends
          refine ⟨g, last, ?_, held.trans image, ends, ⟨further.flags.trans moved.flags, further.head.trans moved.head, further.size.trans moved.size⟩⟩
          have split : (content.drop pos).take diff ++ (content.drop (pos + diff)).take ((byte :: rest).length - diff) =
              (content.drop pos).take (byte :: rest).length := by
            rw [← List.drop_drop, ← List.take_add, Nat.add_sub_cancel' within]
          rw [goes, ran, Option.map_some, split]

end

end SDCardFs.Littlefs
