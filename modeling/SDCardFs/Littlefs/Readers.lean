import SDCardFs.Littlefs.Listed
import SDCardFs.Littlefs.OpenReader

set_option autoImplicit false

namespace SDCardFs.Littlefs

section
variable {σ : Type} (cfg : Config) (below : Below σ)

def lfsFileRewind (fuel : Nat) (file : FileAt) : FsM σ Int32 := do
  let res ← lfsFileSeek cfg below fuel file 0 lfsSeekSet
  if res < 0 then
    return res
  return 0

-- The calls on a handle that leave its file as it is.
inductive ReaderCall where
  | read (buffer : List UInt8)
  | seek (off whence : Int32)
  | rewind
  | tell
  | size

-- What a call returns, and what it leaves in its buffer if it has one.
abbrev ReadAnswer : Type := Int32 × List UInt8

def ReaderCall.run (fuel : Nat) (file : FileAt) : ReaderCall → FsM σ ReadAnswer
  | .read buffer => lfsFileRead cfg below fuel file buffer
  | .seek off whence => do return (← lfsFileSeek cfg below fuel file off whence, [])
  | .rewind => do return (← lfsFileRewind cfg below fuel file, [])
  | .tell => do return (← lfsFileTell file, [])
  | .size => do return (← lfsFileSize file, [])

def readerCalls (fuel : Nat) : List (FileAt × ReaderCall) → FsM σ (List ReadAnswer)
  | [] => pure []
  | (file, call) :: rest => do
      let answer ← call.run cfg below fuel file
      let answers ← readerCalls fuel rest
      return answer :: answers

end

-- A byte string and a position in it: what a handle is for its caller.
structure Reader where
  content : List UInt8
  pos : Nat

-- Positions are integers here; one outside the file system's files is refused.
def Reader.seek (reader : Reader) (limit : Nat) (target : Int) : Int32 × Reader :=
  if 0 ≤ target ∧ target ≤ limit then (Int32.ofInt target, { reader with pos := target.toNat }) else (lfsErrInval, reader)

def Reader.target (reader : Reader) (off whence : Int32) : Int :=
  if whence = lfsSeekSet then off.toInt
  else if whence = lfsSeekCur then reader.pos + off.toInt
  else if whence = lfsSeekEnd then reader.content.length + off.toInt
  else reader.pos

def Reader.call (limit : Nat) (reader : Reader) : ReaderCall → ReadAnswer × Reader
  | .read buffer =>
      let got := (reader.content.drop reader.pos).take buffer.length
      ((Int32.ofInt got.length, got ++ buffer.drop got.length), { reader with pos := reader.pos + got.length })
  | .seek off whence => (((reader.seek limit (reader.target off whence)).1, []), (reader.seek limit (reader.target off whence)).2)
  | .rewind => ((0, []), { reader with pos := 0 })
  | .tell => ((Int32.ofInt reader.pos, []), reader)
  | .size => ((Int32.ofInt reader.content.length, []), reader)

abbrev Readers : Type := FileAt → Option Reader

def Readers.set (readers : Readers) (file : FileAt) (reader : Reader) : Readers :=
  fun other => if other = file then some reader else readers other

theorem readers_set {readers : Readers} {file other : FileAt} {next reader : Reader} (set : readers.set file next other = some reader) :
    other = file ∧ reader = next ∨ other ≠ file ∧ readers other = some reader := by
  rw [Readers.set] at set
  by_cases here : other = file
  · rw [if_pos here] at set
    exact Or.inl ⟨here, (Option.some.inj set).symm⟩
  · rw [if_neg here] at set
    exact Or.inr ⟨here, set⟩

-- A call on a handle that is none of the readers is not looked at.
def Readers.calls (limit : Nat) : List (FileAt × ReaderCall) → Readers → Option (List ReadAnswer × Readers)
  | [], readers => some ([], readers)
  | (file, call) :: rest, readers =>
      (readers file).bind fun reader =>
        (Readers.calls limit rest (readers.set file (reader.call limit call).2)).map fun ran => ((reader.call limit call).1 :: ran.1, ran.2)

theorem word_int (word : UInt32) : word.toInt32 = Int32.ofInt word.toNat := by
  apply Int32.toBitVec_inj.mp
  apply BitVec.eq_of_toNat_eq
  simp

theorem int_word (number : Int32) : (number.toUInt32.toNat : Int) = number.toInt % 2 ^ 32 := by
  have signed : number.toInt = number.toBitVec.toInt := rfl
  have word : number.toUInt32.toNat = number.toBitVec.toNat := rfl
  have small := number.toBitVec.isLt
  rw [signed, word, BitVec.toInt_eq_toNat_cond]
  split
  · omega
  · omega

-- Adding an offset to a position of 31 bits goes outside the 31 bits above
-- where the sum is negative or too large.
theorem offset_sum (base : UInt32) (off : Int32) (limit : Nat) (small : base.toNat < 2 ^ 31) (bound : limit < 2 ^ 31) :
    ((base + off.toUInt32).toNat ≤ limit ↔ 0 ≤ (base.toNat : Int) + off.toInt ∧ (base.toNat : Int) + off.toInt ≤ limit) ∧
      ((base + off.toUInt32).toNat ≤ limit → ((base + off.toUInt32).toNat : Int) = base.toNat + off.toInt) := by
  have word := int_word off
  have least := off.le_toInt
  have most := off.toInt_lt
  rw [UInt32.toNat_add]
  omega

-- What lfs_file_flush leaves of a handle without writes.
def File.unread (f : File) : File :=
  if f.has .reading then { f with
    cache := if f.has .inline then f.cache else Calls.lfsCacheDrop f.cache
    flags := f.flags &&& ~~~lfsFReading }
  else f

def File.seek (f : File) (pos : UInt32) : File := { f.unread with pos := pos }

theorem unread_moved (f : File) : Moved f f.unread ∧ f.unread.has .reading = false ∧ f.unread.pos = f.pos := by
  have cleared : f.flags &&& ~~~lfsFReading &&& lfsFReading = 0 := by
    rw [UInt32.and_assoc]
    simp
  rw [File.unread]
  cases reading : f.has .reading with
  | false => exact ⟨⟨rfl, rfl, rfl⟩, reading, rfl⟩
  | true =>
      refine ⟨⟨?_, rfl, rfl⟩, decide_eq_false fun set => set cleared, rfl⟩
      rw [if_pos rfl, UInt32.and_assoc, UInt32.and_self]

theorem unread_cache (f : File) : f.unread.cache = f.cache ∨ f.has .inline = false ∧ f.unread.cache.block = lfsBlockNull := by
  rw [File.unread]
  cases f.has .reading with
  | false => exact Or.inl rfl
  | true =>
      cases f.has .inline with
      | true => exact Or.inl rfl
      | false => exact Or.inr ⟨rfl, rfl⟩

theorem cursor_seek {cfg : Config} {image : Image} {content : List UInt8} {pos : Nat} {f : File} (cursor : Cursor cfg image content pos f)
    (next : UInt32) : Cursor cfg image content next.toNat (f.seek next) := by
  obtain ⟨moved, idle, -⟩ := unread_moved f
  have sought : Moved f (f.seek next) := ⟨moved.flags, moved.head, moved.size⟩
  have inline : (f.seek next).has .inline = f.has .inline := moved_has sought .inline rfl
  have reading : ¬ (f.seek next).has .reading = true := by
    have same : (f.seek next).has .reading = f.unread.has .reading := rfl
    rw [same, idle]
    exact Bool.false_ne_true
  refine cursor_moved cursor sought _ rfl ?_
  rcases cursor.reads with held | ⟨node, last, list⟩ | empty
  · have cache : (f.seek next).cache = f.cache := (unread_cache f).resolve_right fun other => absurd held.inline (by rw [other.1]; exact Bool.false_ne_true)
    refine Or.inl ⟨inline.trans held.inline, ?_, ?_, ?_, ?_, ?_, fun placed => absurd placed reading⟩
    · rw [cache, held.block]
    · rw [cache, held.off]
    · rw [cache, held.size]
    · rw [sought.size]
      exact held.fits
    · rw [cache, sought.size]
      exact held.content
  · have caches : Coherent cfg image (f.seek next).cache ∧ Aligned cfg (f.seek next).cache := by
      rcases unread_cache f with same | ⟨-, null⟩
      · have cache : (f.seek next).cache = f.cache := same
        rw [cache]
        exact ⟨list.coherent, list.aligned⟩
      · exact ⟨coherent_null cfg image _ null, aligned_beyond cfg _ null⟩
    refine Or.inr (Or.inl ⟨node, last, inline.trans list.inline, ?_, ?_, caches.1, caches.2, fun placed => absurd placed reading⟩)
    · rw [sought.head, sought.size]
      exact list.file
    · rw [sought.size]
      exact list.content
  · exact Or.inr (Or.inr ⟨inline.trans empty.inline, sought.size.trans empty.size, empty.content⟩)

section
variable {σ : Type} (cfg : Config) (below : Below σ) (file : FileAt) (fs : Fs σ)

theorem set_file_eq (change : File → File) : fs.setFile file change = fs.become file (change (fs.files file)) fs.rest := rfl

theorem set_flags_eq (change : UInt32 → UInt32) :
    fs.setFlags file change = fs.become file { fs.files file with flags := change (fs.files file).flags } fs.rest := rfl

theorem unread_become : fs.unread file = fs.become file (fs.files file).unread fs.rest := by
  rw [Fs.unread, File.unread]
  cases (fs.files file).has .reading with
  | false => exact (become_self fs file).symm
  | true =>
      cases (fs.files file).has .inline with
      | true => rfl
      | false =>
          change (fs.setFile file fun f => { f with cache := Calls.lfsCacheDrop f.cache }).setFlags file (fun flags => flags &&& ~~~lfsFReading) = _
          rw [set_file_eq, set_flags_eq, become_file, become_become]
          rfl

variable {contents : σ → Image} {content : List UInt8} {pos : Nat} (cursor : Cursor cfg (contents fs.rest) content pos (fs.files file))
include cursor

theorem flush_reader (fuel : Nat) (enough : 1 ≤ fuel) :
    (lfsFileFlush cfg below fuel file).run fs = some (0, fs.become file (fs.files file).unread fs.rest) := by
  have ends := flush_idle_ends cfg below fuel fs cursor.opened cursor.idle
  rw [unread_become] at ends
  exact Lib.ends_so_enough ends enough

theorem read_reader (paged : Paged cfg) (holds : below.Holds contents) (large : 128 ≤ cfg.blockSize.toNat) (fuel : Nat) (buffer : List UInt8)
    (enough : buffer.length < fuel) (short : buffer.length < 2 ^ 32) :
    ∃ f card, (lfsFileRead cfg below fuel file buffer).run fs =
        some ((Int32.ofInt ((content.drop pos).take buffer.length).length,
          (content.drop pos).take buffer.length ++ buffer.drop ((content.drop pos).take buffer.length).length), fs.become file f card) ∧
      contents card = contents fs.rest ∧ Cursor cfg (contents fs.rest) content (pos + ((content.drop pos).take buffer.length).length) f := by
  have size := cursor.size
  have start := cursor.pos
  have writing : (hasFlag file .writing).run fs = some (false, fs) := by
    rw [← cursor.idle]
    rfl
  have looked : (fileAt file).run fs = some (fs.files file, fs) := rfl
  obtain ⟨turns, rfl⟩ : ∃ turns, fuel = turns + 1 := ⟨fuel - 1, by omega⟩
  rw [lfsFileRead, readBody, Lib.Keeping.run_next (opened_run fs cursor.opened), if_neg (fun closed => closed rfl),
    Lib.Keeping.run_next (opened_run fs cursor.opened), if_neg (fun closed => closed rfl), Lib.Keeping.run_next writing,
    if_neg Bool.false_ne_true, Lib.Keeping.run_next (Lib.Keeping.run_pure _ _)]
  dsimp only
  rw [if_neg (fun failed => failed rfl), Lib.Keeping.run_next looked]
  by_cases beyond : (fs.files file).pos ≥ (fs.files file).ctzSize
  · have past := UInt32.le_iff_toNat_le.mp beyond
    have none : content.drop pos = [] := List.drop_eq_nil_of_le (by omega)
    refine ⟨fs.files file, fs.rest, ?_, rfl, ?_⟩
    · rw [if_pos beyond, Lib.Keeping.run_pure, become_self, none, List.take_nil]
      rfl
    · rw [none, List.take_nil]
      exact cursor
  · have before : (fs.files file).pos.toNat < (fs.files file).ctzSize.toNat := by
      have less : ¬ (fs.files file).ctzSize.toNat ≤ (fs.files file).pos.toNat := fun past => beyond (UInt32.le_iff_toNat_le.mpr past)
      omega
    have left : ((fs.files file).ctzSize - (fs.files file).pos).toNat = content.length - pos := by
      rw [UInt32.toNat_sub_of_le _ _ (UInt32.le_iff_toNat_le.mpr (Nat.le_of_lt before)), size, start]
    have length : ((content.drop pos).take buffer.length).length = min buffer.length (content.length - pos) := by
      rw [List.length_take, List.length_drop]
    have some : (lfsMin (UInt32.ofNat buffer.length) ((fs.files file).ctzSize - (fs.files file).pos)).toNat =
        min buffer.length (content.length - pos) := by
      rw [lfs_min_toNat, left, UInt32.toNat_ofNat']
      omega
    have data : (buffer.take (min buffer.length (content.length - pos))).length = min buffer.length (content.length - pos) := by
      rw [List.length_take]
      omega
    obtain ⟨f, card, ran, held, next, -⟩ := read_loop_run cfg below contents file content paged holds large turns
      (buffer.take (min buffer.length (content.length - pos))) fs pos cursor (by omega) (by omega)
    rw [data] at ran next
    have whole : (content.drop pos).take (min buffer.length (content.length - pos)) = (content.drop pos).take buffer.length := by
      have same := List.take_take (i := buffer.length) (j := content.length - pos) (l := content.drop pos)
      have all : (content.drop pos).take (content.length - pos) = content.drop pos := List.take_of_length_le (by rw [List.length_drop])
      rw [← same, all]
    rw [length]
    refine ⟨f, card, ?_, held, next⟩
    rw [if_neg beyond, some, Lib.Keeping.run_next ran, if_neg (fun failed => failed rfl), Lib.Keeping.run_pure, word_int, some, whole]

theorem seek_reader (limit : fs.fileMax.toNat < 2 ^ 31) (small : content.length ≤ fs.fileMax.toNat) (inside : pos ≤ fs.fileMax.toNat) (fuel : Nat)
    (enough : 1 ≤ fuel) (off whence : Int32) :
    ∃ next : UInt32, (lfsFileSeek cfg below fuel file off whence).run fs =
        some ((Reader.seek ⟨content, pos⟩ fs.fileMax.toNat (Reader.target ⟨content, pos⟩ off whence)).1,
          fs.become file ((fs.files file).seek next) fs.rest) ∧
      next.toNat = (Reader.seek ⟨content, pos⟩ fs.fileMax.toNat (Reader.target ⟨content, pos⟩ off whence)).2.pos := by
  have size := cursor.size
  have start := cursor.pos
  obtain ⟨moved, -, samePos⟩ := unread_moved (fs.files file)
  generalize place : (if whence = lfsSeekSet then off.toUInt32 else if whence = lfsSeekCur then (fs.files file).pos + off.toUInt32
    else if whence = lfsSeekEnd then (fs.files file).ctzSize + off.toUInt32 else (fs.files file).pos) = npos
  have reached : (npos.toNat ≤ fs.fileMax.toNat ↔
        0 ≤ Reader.target ⟨content, pos⟩ off whence ∧ Reader.target ⟨content, pos⟩ off whence ≤ fs.fileMax.toNat) ∧
      (npos.toNat ≤ fs.fileMax.toNat → (npos.toNat : Int) = Reader.target ⟨content, pos⟩ off whence) := by
    rw [← place, Reader.target]
    by_cases set : whence = lfsSeekSet
    · have sum := offset_sum 0 off fs.fileMax.toNat (by decide) limit
      rw [UInt32.zero_add, UInt32.toNat_zero, Int.natCast_zero, Int.zero_add] at sum
      rwa [if_pos set, if_pos set]
    · rw [if_neg set, if_neg set]
      by_cases current : whence = lfsSeekCur
      · have sum := offset_sum (fs.files file).pos off fs.fileMax.toNat (by omega) limit
        rw [start] at sum
        rwa [if_pos current, if_pos current]
      · rw [if_neg current, if_neg current]
        by_cases ending : whence = lfsSeekEnd
        · have sum := offset_sum (fs.files file).ctzSize off fs.fileMax.toNat (by omega) limit
          rw [size] at sum
          rwa [if_pos ending, if_pos ending]
        · rw [if_neg ending, if_neg ending, start]
          exact ⟨⟨fun _ => ⟨Int.natCast_nonneg _, Int.ofNat_le.mpr inside⟩, fun _ => inside⟩, fun _ => rfl⟩
  have flushed := flush_reader cfg below file fs cursor fuel enough
  have opened := opened_run fs cursor.opened
  rw [lfsFileSeek, Lib.Keeping.run_next opened, if_neg (fun closed => closed rfl), Lib.Keeping.run_next flushed,
    if_neg (fun failed => failed rfl), Lib.Keeping.run_next (Lib.Keeping.run_read _)]
  simp only [become_file, moved.size, samePos, place]
  by_cases beyond : npos > fs.fileMax
  · have out : ¬ npos.toNat ≤ fs.fileMax.toNat := by
      have more := UInt32.lt_iff_toNat_lt.mp beyond
      omega
    refine ⟨(fs.files file).pos, ?_, ?_⟩
    · rw [Reader.seek, if_neg fun fits => out (reached.1.mpr fits)]
      have kept : (fs.files file).seek (fs.files file).pos = (fs.files file).unread := by
        rw [File.seek, ← samePos]
      rw [kept]
      exact congrArg (fun call : FsM σ Int32 => call.run _) (if_pos beyond)
    · rw [Reader.seek, if_neg fun fits => out (reached.1.mpr fits), start]
  · have fits : npos.toNat ≤ fs.fileMax.toNat := UInt32.le_iff_toNat_le.mp (UInt32.not_lt.mp beyond)
    have exactly := reached.2 fits
    refine ⟨npos, ?_, ?_⟩
    · rw [Reader.seek, if_pos (reached.1.mp fits), ← exactly, ← word_int]
      refine (congrArg (fun call : FsM σ Int32 => call.run _) (if_neg beyond)).trans ?_
      rw [Lib.Keeping.run_next (set_file_become _ file _), become_file, become_become, Lib.Keeping.run_pure]
      rfl
    · rw [Reader.seek, if_pos (reached.1.mp fits), ← exactly]
      rfl

theorem tell_reader : (lfsFileTell file).run fs = some (Int32.ofInt pos, fs) := by
  have looked : (fileAt file).run fs = some (fs.files file, fs) := rfl
  rw [lfsFileTell, Lib.Keeping.run_next (opened_run fs cursor.opened), if_neg (fun closed => closed rfl), Lib.Keeping.run_next looked,
    Lib.Keeping.run_pure, word_int, cursor.pos]

theorem size_reader : (lfsFileSize file).run fs = some (Int32.ofInt content.length, fs) := by
  have looked : (fileAt file).run fs = some (fs.files file, fs) := rfl
  rw [lfsFileSize, Lib.Keeping.run_next (opened_run fs cursor.opened), if_neg (fun closed => closed rfl), Lib.Keeping.run_next looked,
    Lib.Keeping.run_pure, File.size, cursor.idle, if_neg Bool.false_ne_true, word_int, cursor.size]

end

-- Handles that are readers of their files, all on one card.
structure Reading {σ : Type} (cfg : Config) (contents : σ → Image) (readers : Readers) (fs : Fs σ) : Prop where
  limit : fs.fileMax.toNat < 2 ^ 31
  rcache : Coherent cfg (contents fs.rest) fs.rcache
  cursor : ∀ file reader, readers file = some reader → Cursor cfg (contents fs.rest) reader.content reader.pos (fs.files file)
  length : ∀ file reader, readers file = some reader → reader.content.length ≤ fs.fileMax.toNat
  inside : ∀ file reader, readers file = some reader → reader.pos ≤ fs.fileMax.toNat

def ReaderCall.Fits (fuel : Nat) : ReaderCall → Prop
  | .read buffer => buffer.length < fuel ∧ buffer.length < 2 ^ 32
  | _ => 1 ≤ fuel

section
variable {σ : Type} (cfg : Config) (below : Below σ) (contents : σ → Image) (readers : Readers) (fs : Fs σ)

theorem reading_become (reading : Reading cfg contents readers fs) (file : FileAt) (reader next : Reader) (f : File) (card : σ)
    (known : readers file = some reader) (content : next.content = reader.content) (inside : next.pos ≤ fs.fileMax.toNat)
    (kept : contents card = contents fs.rest) (cursor : Cursor cfg (contents fs.rest) next.content next.pos f) :
    Reading cfg contents (readers.set file next) (fs.become file f card) := by
  have image : contents (fs.become file f card).rest = contents fs.rest := kept
  refine ⟨reading.limit, kept ▸ reading.rcache, fun other reader set => ?_, fun other reader set => ?_, fun other reader set => ?_⟩
  · rw [image]
    rcases readers_set set with ⟨rfl, rfl⟩ | ⟨apart, before⟩
    · rwa [become_file]
    · have same : (fs.become file f card).files other = fs.files other := if_neg apart
      rw [same]
      exact reading.cursor other reader before
  · rcases readers_set set with ⟨rfl, rfl⟩ | ⟨apart, before⟩
    · rw [content]
      exact reading.length other _ known
    · exact reading.length other reader before
  · rcases readers_set set with ⟨rfl, rfl⟩ | ⟨apart, before⟩
    · exact inside
    · exact reading.inside other reader before

theorem reader_call_run (paged : Paged cfg) (holds : below.Holds contents) (large : 128 ≤ cfg.blockSize.toNat) (fuel : Nat) (file : FileAt)
    (reader : Reader) (call : ReaderCall) (reading : Reading cfg contents readers fs) (known : readers file = some reader) (fits : call.Fits fuel) :
    ∃ after, (call.run cfg below fuel file).run fs = some ((reader.call fs.fileMax.toNat call).1, after) ∧
      Reading cfg contents (readers.set file (reader.call fs.fileMax.toNat call).2) after ∧ after.fileMax = fs.fileMax := by
  have cursor := reading.cursor file reader known
  have length := reading.length file reader known
  have inside := reading.inside file reader known
  have stays : ∀ next, next.content = reader.content → next.pos = reader.pos → Reading cfg contents (readers.set file next) fs := by
    intro next content pos
    have kept := reading_become cfg contents readers fs reading file reader next (fs.files file) fs.rest known content (by rw [pos]; exact inside) rfl
      (by rw [content, pos]; exact cursor)
    rwa [become_self] at kept
  cases call with
  | read buffer =>
      obtain ⟨f, card, ran, kept, next⟩ := read_reader cfg below file fs cursor paged holds large fuel buffer fits.1 fits.2
      refine ⟨_, ran, reading_become cfg contents readers fs reading file reader _ f card known rfl ?_ kept next, rfl⟩
      have got : ((reader.content.drop reader.pos).take buffer.length).length ≤ reader.content.length - reader.pos := by
        rw [List.length_take, List.length_drop]
        omega
      exact (by omega : reader.pos + ((reader.content.drop reader.pos).take buffer.length).length ≤ fs.fileMax.toNat)
  | seek off whence =>
      obtain ⟨next, ran, place⟩ := seek_reader cfg below file fs cursor reading.limit length inside fuel fits off whence
      have content : (reader.seek fs.fileMax.toNat (reader.target off whence)).2.content = reader.content := by
        rw [Reader.seek]
        split
        · rfl
        · rfl
      have bound : (reader.seek fs.fileMax.toNat (reader.target off whence)).2.pos ≤ fs.fileMax.toNat := by
        rw [Reader.seek]
        split
        · exact (by omega : (reader.target off whence).toNat ≤ fs.fileMax.toNat)
        · exact inside
      refine ⟨fs.become file ((fs.files file).seek next) fs.rest, ?_, ?_, rfl⟩
      · rw [ReaderCall.run, Lib.Keeping.run_next ran, Lib.Keeping.run_pure]
        rfl
      · refine reading_become cfg contents readers fs reading file reader _ _ _ known content bound rfl ?_
        have sought := cursor_seek cursor next
        rw [place] at sought
        exact (congrArg (fun bytes => Cursor cfg (contents fs.rest) bytes _ _) content).mpr sought
  | rewind =>
      obtain ⟨next, ran, place⟩ := seek_reader cfg below file fs cursor reading.limit length inside fuel fits 0 lfsSeekSet
      have start : Reader.seek reader fs.fileMax.toNat (reader.target 0 lfsSeekSet) = (0, { reader with pos := 0 }) := by
        rw [Reader.target, if_pos rfl, Reader.seek, if_pos ⟨by decide, by exact Int.natCast_nonneg _⟩]
        rfl
      rw [start] at ran place
      have sought := cursor_seek cursor next
      rw [place] at sought
      have back : (lfsFileRewind cfg below fuel file).run fs = some (0, fs.become file ((fs.files file).seek next) fs.rest) := by
        rw [lfsFileRewind, Lib.Keeping.run_next ran, if_neg Int32.lt_irrefl, Lib.Keeping.run_pure]
      refine ⟨fs.become file ((fs.files file).seek next) fs.rest, ?_, ?_, rfl⟩
      · rw [ReaderCall.run, Lib.Keeping.run_next back, Lib.Keeping.run_pure]
        rfl
      · exact reading_become cfg contents readers fs reading file reader _ _ _ known rfl (Nat.zero_le _) rfl sought
  | tell =>
      refine ⟨fs, ?_, stays _ rfl rfl, rfl⟩
      rw [ReaderCall.run, Lib.Keeping.run_next (tell_reader cfg file fs cursor), Lib.Keeping.run_pure]
      rfl
  | size =>
      refine ⟨fs, ?_, stays _ rfl rfl, rfl⟩
      rw [ReaderCall.run, Lib.Keeping.run_next (size_reader cfg file fs cursor), Lib.Keeping.run_pure]
      rfl

theorem open_reading (paged : Paged cfg) (holds : below.Holds contents) (large : 128 ≤ cfg.blockSize.toNat) (fuel : Nat) (file : FileAt)
    (path : Path) (content : List UInt8) (after : Fs σ) (reading : Reading cfg contents readers fs)
    (named : PathBytes cfg (contents fs.rest) fs.base fuel (fs.nodes (.file file)).m path content) (length : content.length ≤ fs.fileMax.toNat)
    (ran : (lfsFileOpen cfg below fuel file path lfsORdonly).run fs = some (0, after)) :
    Reading cfg contents (readers.set file ⟨content, 0⟩) after := by
  obtain ⟨cursor, beyond⟩ := open_reads cfg below holds file fs after reading.rcache paged (by omega) fuel path content named ran
  have limit : after.fileMax = fs.fileMax := congrArg LfsBase.fileMax beyond.base
  refine ⟨by rw [limit]; exact reading.limit, beyond.coherent, fun other reader set => ?_, fun other reader set => ?_, fun other reader set => ?_⟩
  · rcases readers_set set with ⟨rfl, rfl⟩ | ⟨apart, before⟩
    · exact cursor
    · rw [beyond.files other apart, beyond.shown]
      exact reading.cursor other reader before
  · rw [limit]
    rcases readers_set set with ⟨rfl, rfl⟩ | ⟨apart, before⟩
    · exact length
    · exact reading.length other reader before
  · rw [limit]
    rcases readers_set set with ⟨rfl, rfl⟩ | ⟨apart, before⟩
    · exact Nat.zero_le _
    · exact reading.inside other reader before

-- A file system that is only read: mounted, its read cache true to the card,
-- and then handles opened for reading and calls on them, in any order.
inductive Session (fuel : Nat) : Readers → Fs σ → Prop where
  | mounted (fs : Fs σ) : fs.fileMax.toNat < 2 ^ 31 → Coherent cfg (contents fs.rest) fs.rcache → Session fuel (fun _ => none) fs
  | opens (readers : Readers) (before after : Fs σ) (file : FileAt) (path : Path) (content : List UInt8) : Session fuel readers before →
      PathBytes cfg (contents before.rest) before.base fuel (before.nodes (.file file)).m path content →
      content.length ≤ before.fileMax.toNat → (lfsFileOpen cfg below fuel file path lfsORdonly).run before = some (0, after) →
      Session fuel (readers.set file ⟨content, 0⟩) after
  | calls (readers : Readers) (before after : Fs σ) (file : FileAt) (reader : Reader) (call : ReaderCall) (answer : ReadAnswer) :
      Session fuel readers before → readers file = some reader → call.Fits fuel →
      (call.run cfg below fuel file).run before = some (answer, after) →
      Session fuel (readers.set file (reader.call before.fileMax.toNat call).2) after

theorem session_reading (paged : Paged cfg) (holds : below.Holds contents) (large : 128 ≤ cfg.blockSize.toNat) (fuel : Nat)
    (session : Session cfg below contents fuel readers fs) : Reading cfg contents readers fs := by
  induction session with
  | mounted fs limit coherent =>
      exact ⟨limit, coherent, fun _ _ none => (nomatch none), fun _ _ none => (nomatch none), fun _ _ none => (nomatch none)⟩
  | opens readers before after file path content _ named length ran ih =>
      exact open_reading cfg below contents readers before paged holds large fuel file path content after ih named length ran
  | calls readers before after file reader call answer _ known fits ran ih =>
      obtain ⟨between, answered, still, -⟩ := reader_call_run cfg below contents readers before paged holds large fuel file reader call ih known fits
      rw [answered] at ran
      cases ran
      exact still

end

-- Handles opened for reading on a card that answers every read: any calls on
-- any of them, in any order, return what cursors of their own over the bytes of
-- the files return, whatever is in the caches and wherever the blocks are.
theorem reader_calls_run {σ : Type} (cfg : Config) (below : Below σ) (contents : σ → Image) (paged : Paged cfg) (holds : below.Holds contents)
    (large : 128 ≤ cfg.blockSize.toNat) (fuel : Nat) (calls : List (FileAt × ReaderCall)) : ∀ (readers last : Readers) (fs : Fs σ)
    (answers : List ReadAnswer), Session cfg below contents fuel readers fs → (∀ call ∈ calls, call.2.Fits fuel) →
    Readers.calls fs.fileMax.toNat calls readers = some (answers, last) →
    ∃ after, (readerCalls cfg below fuel calls).run fs = some (answers, after) ∧ Session cfg below contents fuel last after := by
  induction calls with
  | nil =>
      intro readers last fs answers session _ ran
      cases ran
      exact ⟨fs, rfl, session⟩
  | cons call rest ih =>
      intro readers last fs answers session fits ran
      obtain ⟨file, call⟩ := call
      rw [Readers.calls] at ran
      obtain ⟨reader, known, ran⟩ := Option.bind_eq_some_iff.mp ran
      obtain ⟨⟨later, final⟩, went, same⟩ := Option.map_eq_some_iff.mp ran
      cases same
      have fit := fits _ List.mem_cons_self
      obtain ⟨between, answered, -, limit⟩ := reader_call_run cfg below contents readers fs paged holds large fuel file reader call
        (session_reading cfg below contents readers fs paged holds large fuel session) known fit
      obtain ⟨after, answeredRest, ends⟩ := ih _ final between later (.calls readers fs between file reader call _ session known fit answered)
        (fun other member => fits other (List.mem_cons_of_mem _ member)) (by rw [limit]; exact went)
      refine ⟨after, ?_, ends⟩
      rw [readerCalls, Lib.Keeping.run_next answered, Lib.Keeping.run_next answeredRest, Lib.Keeping.run_pure]

-- A card with the inline file a and the file b of three blocks.
def shelfCommit : List UInt8 := [
  0x01, 0x00, 0x00, 0x00, 0xbf, 0xef, 0xff, 0xff, 0x4f, 0xe0, 0x00, 0x08, 0x6c, 0x69, 0x74, 0x74, 0x6c, 0x65, 0x66, 0x73,
  0x2f, 0xe0, 0x00, 0x10, 0x00, 0x00, 0x02, 0x00, 0x00, 0x02, 0x00, 0x00, 0x10, 0x00, 0x00, 0x00, 0xff, 0x00, 0x00, 0x00,
  0xff, 0xff, 0xff, 0x7f, 0xfe, 0x03, 0x00, 0x00, 0x60, 0x00, 0x04, 0x18, 0x40, 0x00, 0x00, 0x01, 0x61, 0x20, 0x00, 0x00,
  0x04, 0x0a, 0x0b, 0x0c, 0x0d, 0x0e, 0x60, 0x00, 0x0c, 0x05, 0x40, 0x00, 0x00, 0x01, 0x62, 0x20, 0x30, 0x00, 0x09, 0x04,
  0x00, 0x00, 0x00, 0xb0, 0x04, 0x00, 0x00, 0x70, 0x2f, 0xf5, 0xad, 0xe6, 0xaf, 0x7b, 0x32]

def shelfImage : Image := fun block off => if block = 0 then shelfCommit.getD off.toNat 0xff else skipImage block off

def shelfBelow : Below Unit :=
  ⟨deviceServer (imageDevice shelfImage), fun _ card => some (0, card), pure (lfsErrNospc, 0), fun _ dir _ => pure (lfsErrNospc, dir), pure 0⟩

def shelfMount : Option (Int32 × Lfs × Cache) :=
  exec (sectorConfig 16) (imageDevice shelfImage) (lfsMount (sectorConfig 16)) zeroLfs (Calls.lfsCacheDrop zeroCache)

def shelfEntries : List LogEntry := [
  ⟨0x40100000, []⟩, ⟨0x0ff00008, [0x6c, 0x69, 0x74, 0x74, 0x6c, 0x65, 0x66, 0x73]⟩,
  ⟨0x20100018, [0, 0, 2, 0, 0, 2, 0, 0, 16, 0, 0, 0, 255, 0, 0, 0, 255, 255, 255, 127, 254, 3, 0, 0]⟩,
  ⟨0x40100400, []⟩, ⟨0x00100401, [0x61]⟩, ⟨0x20100405, [10, 11, 12, 13, 14]⟩,
  ⟨0x40100800, []⟩, ⟨0x00100801, [0x62]⟩, ⟨0x20200808, [4, 0, 0, 0, 176, 4, 0, 0]⟩,
  ⟨0x500ffda5, [230, 175, 123, 50] ++ List.replicate 417 0xff⟩]

theorem shelf_logged (dir : Mdir) (pair : dir.pair.first = 0) (off : dir.off = 512) (etag : dir.etag = 0x500ffda5) :
    Logged (sectorConfig 16) shelfImage dir [shelfEntries] := by
  have read : readCommit 10 0xffffffff (lfsCrc 0xffffffff ((blockBytes (sectorConfig 16) shelfImage 0).take 4))
      ((blockBytes (sectorConfig 16) shelfImage 0).drop 4) = some (shelfEntries, 0x500ffda5, []) := by decide +kernel
  have ended : Ended 0x500ffda5 0xffffffff [] := by
    intro entries etag rest commit
    cases commit with
    | crc _ _ _ _ at_ _ _ _ => exact absurd at_.long (by decide)
    | entry _ _ _ _ _ _ _ at_ _ _ _ => exact absurd at_.long (by decide)
  refine ⟨by rw [pair]; decide, [], ?_, off⟩
  rw [pair, etag]
  exact ⟨0xffffffff, .cons _ _ _ _ _ _ _ _ _ _ (read_commit_at 10 _ _ _ _ _ _ read) (.nil _ _ _), ended⟩

theorem shelf_struct (gdisk : Gstate) (dir : Mdir) (id : UInt32) (entry : LogEntry) (pair : dir.pair.first = 0) (off : dir.off = 512)
    (etag : dir.etag = 0x500ffda5) (still : lfsGstateHasmovehere gdisk dir.pair = false)
    (few : id.toNat + Lib.removals (shelfEntries.reverse.map LogEntry.edit) < 1024)
    (newest : (Lib.rows (shelfEntries.reverse.map LogEntry.edit) id.toNat).find? (LogEntry.picked 0x700 (lfsMktag lfsTypeStruct 0 0)) = some entry)
    (kept : lfsTagIsdelete entry.tag = false) : StructEntry (sectorConfig 16) shelfImage gdisk dir id [shelfEntries] entry := by
  have edits : dirEdits gdisk dir.pair [shelfEntries] = shelfEntries.reverse.map LogEntry.edit := by
    rw [dirEdits, moveEdits, if_neg (by rw [still]; exact Bool.false_ne_true), List.flatten_cons, List.flatten_nil, List.append_nil,
      List.nil_append]
  refine ⟨shelf_logged dir pair off etag, ?_, by rw [edits]; exact few, by rw [fileEntries, edits]; exact newest, kept⟩
  rw [List.flatten_cons, List.flatten_nil, List.append_nil]
  unfold LogEntry.Plain
  decide +kernel

theorem shelf_file : CtzFile (sectorConfig 16) none shelfImage skipNode 2 4 1200 := by
  obtain ⟨some, ⟨inside, -⟩, ends, starts⟩ := skip_file
  have odd : Lib.trailing 1 = 0 := Lib.trailing_odd 0
  have even : Lib.trailing 2 = 1 := (Lib.trailing_double 1 (by decide)).trans (by rw [odd])
  refine ⟨some, ⟨inside, fun current level positive within few => ?_⟩, ends, starts⟩
  interval_cases current
  · obtain rfl : level = 0 := by omega
    decide
  · rw [even] at few
    interval_cases level
    · decide
    · decide

def shelfConfig : FileConfig := ⟨some fun _ => 0, []⟩

def shelfContent : List UInt8 := (ctzData shelfImage skipNode 512 3).take 1200

def shelfOpens : ListM Unit (Int32 × Int32) := do
  let list ← lfsFileOpen (sectorConfig 16) shelfBelow 5 (.handle 0) [0x62] lfsORdonly
  let inline ← lfsFileOpen (sectorConfig 16) shelfBelow 5 (.handle 1) [0x61] lfsORdonly
  return (list, inline)

-- The id lfs_dir_find gives a path, in the one commit of the root.
def shelfFind (lfs : LfsBase) (path : Path) : Option UInt16 :=
  (onImage (sectorConfig 16) shelfImage (lfsDirFind (sectorConfig 16) 5 (Mdir.ofTail ⟨0, 0⟩) path) lfs).bind fun found =>
    if found.dir.pair.first = 0 ∧ found.dir.off = 512 ∧ found.dir.etag = 0x500ffda5 ∧ lfsGstateHasmovehere lfs.gdisk found.dir.pair = false then
      some found.id
    else none

theorem shelf_path (lfs : LfsBase) (path : Path) (id : UInt16) (entry : LogEntry) (content : List UInt8) (names : shelfFind lfs path = some id)
    (few : id.toUInt32.toNat + Lib.removals (shelfEntries.reverse.map LogEntry.edit) < 1024)
    (newest : (Lib.rows (shelfEntries.reverse.map LogEntry.edit) id.toUInt32.toNat).find?
      (LogEntry.picked 0x700 (lfsMktag lfsTypeStruct 0 0)) = some entry)
    (kept : lfsTagIsdelete entry.tag = false) (bytes : EntryBytes (sectorConfig 16) shelfImage entry content) :
    PathBytes (sectorConfig 16) shelfImage lfs 5 (Mdir.ofTail ⟨0, 0⟩) path content := by
  obtain ⟨found, named, same⟩ := Option.bind_eq_some_iff.mp names
  obtain ⟨⟨pair, off, etag, still⟩, same⟩ := (Option.ite_none_right_eq_some ..).mp same
  cases same
  exact ⟨found, [shelfEntries], entry, named, shelf_struct lfs.gdisk found.dir _ entry pair off etag still few newest kept, bytes⟩

def mixedCalls : List (FileAt × ReaderCall) :=
  [(.handle 0, .seek 1018 lfsSeekSet), (.handle 1, .read [0, 0, 0]), (.handle 0, .read [9, 9, 9, 9]), (.handle 1, .seek (-1) lfsSeekEnd),
    (.handle 0, .tell), (.handle 1, .read [7, 7]), (.handle 1, .seek (-1) lfsSeekSet), (.handle 1, .size), (.handle 1, .rewind),
    (.handle 0, .seek (-1022) lfsSeekCur)]

def mixedAnswers : List ReadAnswer :=
  [(1018, []), (3, [10, 11, 12]), (4, [0, 0, 0, 0]), (4, []), (1022, []), (1, [14, 7]), (-22, []), (5, []), (0, []), (0, [])]

theorem mixed_calls_run : ∃ lfs rcache opened after, shelfMount = some (0, lfs, rcache) ∧
    shelfOpens.run (lfs.mounted rcache (some shelfConfig) ()) = some ((0, 0), opened) ∧
    (readerCalls (sectorConfig 16) shelfBelow 5 mixedCalls).run opened = some (mixedAnswers, after) := by
  have evaluated : (shelfMount.bind fun mounted =>
      (shelfOpens.run (mounted.2.1.mounted mounted.2.2 (some shelfConfig) ())).map fun ran =>
        (mounted.1, ran.1, mounted.2.1.fileMax, shelfFind (mounted.2.1.mounted mounted.2.2 (some shelfConfig) ()).base [0x62],
          shelfFind (mounted.2.1.mounted mounted.2.2 (some shelfConfig) ()).base [0x61])) =
      some (0, (0, 0), lfsFileMax, some 2, some 1) := by
    decide +kernel
  obtain ⟨⟨err, lfs, rcache⟩, mounted, known⟩ := Option.bind_eq_some_iff.mp evaluated
  obtain ⟨⟨results, reached⟩, opens, same⟩ := Option.map_eq_some_iff.mp known
  simp only [Prod.mk.injEq] at same
  obtain ⟨rfl, rfl, limit, list, inline⟩ := same
  obtain ⟨first, between, openedFirst, rest⟩ := (Lib.bind_run_some _ _ _ _ _).mp opens
  obtain ⟨second, opened, openedSecond, rest⟩ := (Lib.bind_run_some _ _ _ _ _).mp rest
  obtain ⟨same, rfl⟩ := (Lib.pure_run_some _ _ _ _).mp rest
  cases same
  generalize start : lfs.mounted rcache (some shelfConfig) () = fs at *
  have fileMax : fs.fileMax = lfsFileMax := by rw [← start]; exact limit
  have coherent : Coherent (sectorConfig 16) shelfImage fs.rcache := by
    rw [← start]
    exact exec_coherent _ _ _ _ _ _ (coherent_null _ _ _ rfl) mounted
  have dir (file : FileAt) : (fs.nodes (.file file)).m = Mdir.ofTail ⟨0, 0⟩ := by rw [← start]; rfl
  have paged : Paged (sectorConfig 16) := ⟨rfl, rfl, rfl, rfl, by decide⟩
  have holds : shelfBelow.Holds fun _ => shelfImage := fun _ _ _ _ => ⟨(), rfl, rfl⟩
  have length : shelfContent.length = 1200 := by decide +kernel
  have listed : PathBytes (sectorConfig 16) shelfImage fs.base 5 (Mdir.ofTail ⟨0, 0⟩) [0x62] shelfContent :=
    shelf_path fs.base [0x62] 2 ⟨0x20200808, [4, 0, 0, 0, 176, 4, 0, 0]⟩ shelfContent list (by decide +kernel) (by decide +kernel) (by decide)
      (.list skipNode 2 4 1200 (by decide) (by decide) shelf_file)
  have inlined : PathBytes (sectorConfig 16) shelfImage fs.base 5 (Mdir.ofTail ⟨0, 0⟩) [0x61] [10, 11, 12, 13, 14] :=
    shelf_path fs.base [0x61] 1 ⟨0x20100405, [10, 11, 12, 13, 14]⟩ _ inline (by decide +kernel) (by decide +kernel) (by decide)
      (.inline (by decide) (by decide) (by decide))
  have one := (open_reads (sectorConfig 16) shelfBelow holds (.handle 0) fs between coherent paged (by decide) 5 [0x62] shelfContent
    (by rw [dir]; exact listed) openedFirst).2
  have two := (open_reads (sectorConfig 16) shelfBelow holds (.handle 1) between opened one.coherent paged (by decide) 5 [0x61] _
    (by rw [one.base, one.nodes _ (by decide), dir]; exact inlined) openedSecond).2
  have betweenMax : between.fileMax = lfsFileMax := (congrArg LfsBase.fileMax one.base).trans fileMax
  have openedMax : opened.fileMax = lfsFileMax := (congrArg LfsBase.fileMax two.base).trans betweenMax
  have begun : Session (sectorConfig 16) shelfBelow (fun _ => shelfImage) 5 (fun _ => none) fs := .mounted fs (by rw [fileMax]; decide) coherent
  have shown : Session (sectorConfig 16) shelfBelow (fun _ => shelfImage) 5 _ between :=
    .opens _ fs between (.handle 0) [0x62] shelfContent begun (by rw [dir]; exact listed) (by rw [fileMax, length]; decide) openedFirst
  have both : Session (sectorConfig 16) shelfBelow (fun _ => shelfImage) 5 _ opened :=
    .opens _ between opened (.handle 1) [0x61] [10, 11, 12, 13, 14] shown (by rw [one.base, one.nodes _ (by decide), dir]; exact inlined)
      (by rw [betweenMax]; decide) openedSecond
  have answered : (Readers.calls lfsFileMax.toNat mixedCalls
      ((Readers.set (fun _ => none) (.handle 0) ⟨shelfContent, 0⟩).set (.handle 1) ⟨[10, 11, 12, 13, 14], 0⟩)).map Prod.fst =
        some mixedAnswers := by decide +kernel
  obtain ⟨⟨answers, last⟩, ran, rfl⟩ := Option.map_eq_some_iff.mp answered
  obtain ⟨after, answers, -⟩ := reader_calls_run (sectorConfig 16) shelfBelow (fun _ => shelfImage) paged holds (by decide) 5 mixedCalls _ last opened
    _ both (by simp [mixedCalls, ReaderCall.Fits]) (by rw [openedMax]; exact ran)
  exact ⟨lfs, rcache, opened, after, mounted, by rw [start]; exact opens, answers⟩

end SDCardFs.Littlefs
