import SDCardFs.Littlefs.Cursor
import SDCardFs.Littlefs.Lookup

set_option autoImplicit false

namespace SDCardFs.Littlefs

section
variable {α : Type} (cfg : Config)

-- What a function that only reads finds on an image.
def onImage (image : Image) (call : BaseM α) (lfs : LfsBase) : Option α :=
  ((call lfs).run (directServer cfg image fun (state : Unit) _ => (0, state)) ()).map Prod.fst

theorem through_run_cached (image : Image) (program : Lib.Prog Request Request.Response α) (rcache : Cache) :
    (program.through (Calls.readServer cfg) rcache).run (deviceServer (imageDevice image)) () =
      (program.run (cachedServer cfg (imageDevice image) fun (state : Unit) _ => (0, state)) (rcache, ())).map fun ran =>
        ((ran.1, ran.2.1), ()) := by
  induction program generalizing rcache with
  | done result => rfl
  | ask request next ih =>
      have served : (Calls.readServer cfg request rcache).run (deviceServer (imageDevice image)) () =
          (cachedServer cfg (imageDevice image) (fun (state : Unit) _ => (0, state)) request (rcache, ())).map fun ran => ((ran.1, ran.2.1), ()) := by
        cases request with
        | read hint block off data =>
            refine (bd_read_device cfg (imageDevice image) none rcache hint block off data).trans ?_
            rw [cachedServer, Option.map_map]
            rfl
        | readThrough pcache hint block data short =>
            refine (bd_read_device cfg (imageDevice image) (some pcache) rcache hint block 0 data).trans ?_
            rw [cachedServer, Option.map_map]
            rfl
        | zeroRcache => rfl
        | report block => rfl
        | stir crc => rfl
      refine (Lib.Prog.run_bind (deviceServer (imageDevice image)) (Calls.readServer cfg request rcache) _ ()).trans ?_
      rw [served, Lib.Prog.run]
      cases cachedServer cfg (imageDevice image) (fun (state : Unit) _ => (0, state)) request (rcache, ()) with
      | none => rfl
      | some reply => exact ih reply.1 reply.2.1
  | stuck => rfl

end

section
variable {σ : Type}

-- Reading through the shared read cache changes nothing of the handles or of
-- the blocks.
structure Looked (cfg : Config) (contents : σ → Image) (before after : Fs σ) : Prop where
  base : after.base = before.base
  files : after.files = before.files
  nodes : after.nodes = before.nodes
  shown : contents after.rest = contents before.rest
  coherent : Coherent cfg (contents after.rest) after.rcache

-- Nor does opening a handle, but for that handle and its node.
structure Elsewhere (cfg : Config) (contents : σ → Image) (file : FileAt) (before after : Fs σ) : Prop where
  base : after.base = before.base
  files : ∀ other, other ≠ file → after.files other = before.files other
  nodes : ∀ other, other ≠ .file file → after.nodes other = before.nodes other
  shown : contents after.rest = contents before.rest
  coherent : Coherent cfg (contents after.rest) after.rcache

theorem gdisk_base {first second : Fs σ} (same : first.base = second.base) : first.gdisk = second.gdisk := congrArg LfsBase.gdisk same

theorem looked_elsewhere {cfg : Config} {contents : σ → Image} {before after : Fs σ} (file : FileAt) (looked : Looked cfg contents before after) :
    Elsewhere cfg contents file before after :=
  ⟨looked.base, fun _ _ => by rw [looked.files], fun _ _ => by rw [looked.nodes], looked.shown, looked.coherent⟩

theorem elsewhere_trans {cfg : Config} {contents : σ → Image} {file : FileAt} {first second third : Fs σ}
    (one : Elsewhere cfg contents file first second) (two : Elsewhere cfg contents file second third) : Elsewhere cfg contents file first third :=
  ⟨two.base.trans one.base, fun other apart => (two.files other apart).trans (one.files other apart),
    fun other apart => (two.nodes other apart).trans (one.nodes other apart), two.shown.trans one.shown, two.coherent⟩

theorem elsewhere_become {cfg : Config} {contents : σ → Image} (fs : Fs σ) (file : FileAt) (f : File)
    (coherent : Coherent cfg (contents fs.rest) fs.rcache) : Elsewhere cfg contents file fs (fs.become file f fs.rest) :=
  ⟨rfl, fun _ apart => if_neg apart, fun _ _ => rfl, rfl, coherent⟩

theorem looked_trans {cfg : Config} {contents : σ → Image} {first second third : Fs σ} (one : Looked cfg contents first second)
    (two : Looked cfg contents second third) : Looked cfg contents first third :=
  ⟨two.base.trans one.base, two.files.trans one.files, two.nodes.trans one.nodes, two.shown.trans one.shown, two.coherent⟩

variable (cfg : Config) (below : Below σ) {contents : σ → Image} (holds : below.Holds contents)
include holds

theorem card_run_back {α : Type} (call : DevM α) (only : call.Only Access.Reads) (card after : σ) (result : α)
    (ran : call.run below.access card = some (result, after)) :
    call.run (deviceServer (imageDevice (contents card))) () = some (result, ()) ∧ contents after = contents card := by
  have simulates : ∀ request (state : σ) (other : Unit) answer last, Access.Reads request → contents state = contents card →
      below.access request state = some (answer, last) →
      ∃ final, deviceServer (imageDevice (contents card)) request other = some (answer, final) ∧ contents last = contents card := by
    intro request state other answer last reads same served
    cases request with
    | prog block off data => exact absurd reads id
    | read block off size =>
        obtain ⟨between, answered, kept⟩ := holds block off size state
        rw [served] at answered
        cases answered
        exact ⟨(), by rw [same]; rfl, kept.trans same⟩
  obtain ⟨last, device, kept⟩ := Lib.Prog.run_only_simulates simulates call card after () result only rfl ran
  exact ⟨device, kept⟩

theorem lookup_looked {α : Type} (call : BaseM α) (before after : Fs σ) (result : α)
    (coherent : Coherent cfg (contents before.rest) before.rcache) (ran : (lookup cfg below call).run before = some (result, after)) :
    onImage cfg (contents before.rest) call before.base = some result ∧ Looked cfg contents before after := by
  rw [lookup, Lib.Keeping.run_next (Lib.Keeping.run_read _), Lib.Keeping.run_bind] at ran
  obtain ⟨⟨⟨answer, rcache⟩, between⟩, searched, ran⟩ := Option.bind_eq_some_iff.mp ran
  cases ran
  rw [lookupWith, Lib.Keeping.run_next (Lib.Keeping.run_read _)] at searched
  obtain ⟨⟨⟨found, cache⟩, card⟩, read, same⟩ := Option.map_eq_some_iff.mp searched
  cases same
  obtain ⟨device, kept⟩ := card_run_back below holds _ (Lib.Prog.only_through _ (read_server_reads cfg) _ _) before.rest card _ read
  rw [through_run_cached] at device
  obtain ⟨⟨value, last, left⟩, cached, same⟩ := Option.map_eq_some_iff.mp device
  cases same
  obtain ⟨direct, still⟩ := cached_run_direct cfg (contents before.rest) _ _ before.rcache _ () left _ coherent cached
  refine ⟨?_, rfl, rfl, rfl, kept, ?_⟩
  · rw [onImage, direct]
    rfl
  · rw [← kept] at still
    exact still

end

-- The entry that says where the bytes of a file are: of those of its id and of
-- a struct type, the newest one in the log of its directory.
structure StructEntry (cfg : Config) (image : Image) (gdisk : Gstate) (dir : Mdir) (id : UInt32) (commits : List (List LogEntry))
    (entry : LogEntry) : Prop where
  logged : Logged cfg image dir commits
  plain : ∀ other ∈ commits.flatten, other.Plain
  few : id.toNat + Lib.removals (dirEdits gdisk dir.pair commits) < 1024
  newest : (fileEntries gdisk dir.pair commits id.toNat).find? (LogEntry.picked 0x700 (lfsMktag lfsTypeStruct 0 0)) = some entry
  kept : lfsTagIsdelete entry.tag = false

-- The bytes themselves: in the entry, or in the list of blocks it points to.
inductive EntryBytes (cfg : Config) (image : Image) (entry : LogEntry) : List UInt8 → Prop where
  | inline : lfsTagType3 entry.tag = lfsTypeInlinestruct → entry.data.length = (lfsTagSize entry.tag).toNat →
      entry.data.length ≤ cfg.cacheSize.toNat → EntryBytes cfg image entry entry.data
  | list (node : Nat → UInt32) (last : Nat) (head size : UInt32) : lfsTagType3 entry.tag ≠ lfsTypeInlinestruct →
      entry.data = lfsTole32 head ++ lfsTole32 size → CtzFile cfg none image node last head size →
      EntryBytes cfg image entry ((ctzData image node cfg.blockSize.toNat (last + 1)).take size.toNat)
  | empty (head : UInt32) : lfsTagType3 entry.tag ≠ lfsTypeInlinestruct → entry.data = lfsTole32 head ++ lfsTole32 0 →
      EntryBytes cfg image entry []

def PathBytes (cfg : Config) (image : Image) (lfs : LfsBase) (fuel : Nat) (dir : Mdir) (path : Path) (content : List UInt8) : Prop :=
  ∃ found commits entry, onImage cfg image (lfsDirFind cfg fuel dir path) lfs = some found ∧
    StructEntry cfg image lfs.gdisk found.dir found.id.toUInt32 commits entry ∧ EntryBytes cfg image entry content

theorem struct_asked (id size : UInt32) (idSmall : id.toNat < 2 ^ 10) (sizeSmall : size.toNat < 2 ^ 10) :
    Asked 0x700 (lfsMktag lfsTypeStruct id size) := by
  obtain ⟨type, -, -⟩ := mktag_fields lfsTypeStruct id size (by decide) idSmall sizeSmall
  have kind : lfsTagType1 (lfsMktag lfsTypeStruct id size) = lfsTypeStruct := by
    rw [type1_of_type3, type]
    rfl
  have number := mktag_toNat lfsTypeStruct id size (by decide) idSmall sizeSmall
  have struct : lfsTypeStruct.toNat = 512 := rfl
  refine ⟨by decide, by decide, (tag_valid_iff _).mpr (by omega), ?_, ?_, ?_⟩
  · rw [kind]
    decide
  · rw [kind]
    decide
  · rw [kind]
    decide

theorem struct_get {cfg : Config} {image : Image} {dir : Mdir} {id : UInt32} {commits : List (List LogEntry)} {entry : LogEntry} (lfs : LfsBase)
    (small : cfg.blockSize.toNat < 2 ^ 31) (large : 4 ≤ cfg.blockSize.toNat) (found : StructEntry cfg image lfs.gdisk dir id commits entry)
    (size : UInt32) (sizeSmall : size.toNat < 2 ^ 10) :
    onImage cfg image (lfsDirGet cfg dir (lfsMktag 0x700 0x3ff 0) (lfsMktag lfsTypeStruct id size)) lfs =
      some ((lfsMktag (lfsTagType3 entry.tag) id (lfsTagSize entry.tag)).toInt32,
        entry.data.take size.toNat ++ zeros (size.toNat - entry.data.length)) := by
  have few := found.few
  have idSmall : id.toNat < 2 ^ 10 := by omega
  obtain ⟨type, same, length⟩ := mktag_fields lfsTypeStruct id size (by decide) idSmall sizeSmall
  have any : lfsTagType3 (lfsMktag lfsTypeStruct 0 0) = lfsTypeStruct := by decide
  have picks : LogEntry.picked 0x700 (lfsMktag lfsTypeStruct id size) = LogEntry.picked 0x700 (lfsMktag lfsTypeStruct 0 0) := by
    funext entry
    rw [LogEntry.picked, LogEntry.picked, type, any]
  rw [onImage, dir_get_exact cfg image _ small large lfs () dir commits found.logged 0x700 _ (struct_asked id size idSmall sizeSmall) found.plain
    (by rw [same]; exact few), same, length, picks, found.newest, entryAnswer, if_neg (by rw [found.kept]; exact Bool.false_ne_true), idOf, same]
  rfl

def File.inlined (cfg : Config) (f : File) (tag : UInt32) : File :=
  { f with
    ctzHead := lfsBlockInline
    ctzSize := lfsTagSize tag
    flags := f.flags ||| lfsFInline
    cache := { f.cache with block := lfsBlockInline, off := 0, size := cfg.cacheSize } }

theorem open_inline_run {σ : Type} (cfg : Config) (below : Below σ) (file : FileAt) (tag : UInt32) (fs : Fs σ) :
    (openInline cfg below file tag).run fs = (if lfsTagSize tag = 0 then pure 0
      else do
        let node ← nodeAt (.file file)
        let (res, data) ← lookup cfg below (lfsDirGet cfg node.m (lfsMktag 0x700 0x3ff 0)
          (lfsMktag lfsTypeStruct node.id.toUInt32 (lfsMin cfg.cacheSize 0x3fe)))
        if res < 0 then
          return res
        setFile file fun f => { f with
          cache := { f.cache with buffer := fun p => if p < data.length then data.getD p 0 else f.cache.buffer p } }
        return 0 : FsM σ Int32).run (fs.become file ((fs.files file).inlined cfg tag) fs.rest) := by
  rw [openInline, Lib.Keeping.run_next (set_file_become _ file _), Lib.Keeping.run_next (set_flag_become _ file .inline), become_file,
    become_become]
  rfl

theorem open_buffer_reads {σ : Type} (cfg : Config) (below : Below σ) (file : FileAt) (fs after : Fs σ) (tag : UInt32)
    (ran : (openBuffer cfg below file tag).run fs = some (0, after)) :
    ∃ cache, cache.block = lfsBlockNull ∧
      (if lfsTagType3 tag = lfsTypeInlinestruct then openInline cfg below file tag else pure 0 : FsM σ Int32).run
        (fs.become file { fs.files file with cache := cache } fs.rest) = some (0, after) := by
  have looked : (fileAt file).run fs = some (fs.files file, fs) := rfl
  rw [openBuffer, Lib.Keeping.run_next looked] at ran
  cases given : (fs.files file).cfg.bind FileConfig.buffer with
  | none =>
      rw [given] at ran
      cases ran
  | some buffer =>
      rw [given] at ran
      exact ⟨lfsCacheZero cfg { (fs.files file).cache with buffer := buffer }, rfl, ran⟩

-- What the pointer to a list of blocks is read as.
theorem pointer_words (head size : UInt32) (data : List UInt8) (words : data = lfsTole32 head ++ lfsTole32 size) :
    lfsFromle32 (data.take 8 ++ zeros (8 - data.length)) = head ∧ lfsFromle32 ((data.take 8 ++ zeros (8 - data.length)).drop 4) = size := by
  have four (word : UInt32) : (lfsTole32 word).length = 4 := rfl
  have eight : data.length = 8 := by rw [words, List.length_append, four, four]
  have same : data.take 8 ++ zeros (8 - data.length) = lfsTole32 head ++ lfsTole32 size := by
    rw [List.take_of_length_le (Nat.le_of_eq eight), eight, words]
    exact List.append_nil _
  obtain ⟨first, second⟩ := fromle32_append (lfsTole32 head) (lfsTole32 size) (four head)
  rw [same, first, second, fromle32_tole32, fromle32_tole32]
  exact ⟨rfl, rfl⟩

section
variable {σ : Type} (cfg : Config) (below : Below σ) {contents : σ → Image} (holds : below.Holds contents) (file : FileAt) (fs after : Fs σ)
  (coherent : Coherent cfg (contents fs.rest) fs.rcache)
include holds coherent

theorem open_entry_reads (tag result : Int32) (path : Path)
    (ran : (openEntry cfg below file lfsORdonly tag path).run fs = some (result, after)) (fine : ¬ result < 0) :
    ∃ ctz between, onImage cfg (contents fs.rest) (lfsDirGet cfg (fs.nodes (.file file)).m (lfsMktag 0x700 0x3ff 0)
        (lfsMktag lfsTypeStruct (fs.nodes (.file file)).id.toUInt32 8)) fs.base = some (result, ctz) ∧
      Looked cfg contents fs between ∧
      after = between.become file { fs.files file with ctzHead := lfsFromle32 ctz, ctzSize := lfsFromle32 (ctz.drop 4) } between.rest := by
  rw [openEntry, Lib.Keeping.run_next (Lib.Keeping.run_read _)] at ran
  dsimp only at ran
  by_cases missing : tag = lfsErrNoent
  · rw [if_pos missing, if_pos (by decide)] at ran
    cases ran
    exact absurd (by decide) fine
  · rw [if_neg missing, if_neg (by decide)] at ran
    by_cases other : lfsTagType3 tag.toUInt32 ≠ lfsTypeReg
    · rw [if_pos other] at ran
      cases ran
      exact absurd (by decide) fine
    · rw [if_neg other, if_neg (by decide)] at ran
      obtain ⟨⟨got, ctz⟩, between, read, ran⟩ := (Lib.Keeping.run_bind_some _ _ _ _ _).mp ran
      obtain ⟨direct, looked⟩ := lookup_looked cfg below holds _ fs between _ coherent read
      dsimp only at ran
      by_cases failed : got < 0
      · rw [if_pos failed] at ran
        cases ran
        exact absurd failed fine
      · rw [if_neg failed, Lib.Keeping.run_next (set_file_become _ file _)] at ran
        cases ran
        refine ⟨ctz, between, direct, looked, ?_⟩
        rw [looked.files]

theorem fetch_attrs_looked (attrs : List Attr) (result : Int32) (mode : (fs.files file).flags &&& 3 = lfsORdonly)
    (ran : (fetchAttrs cfg below file attrs).run fs = some (result, after)) : Looked cfg contents fs after := by
  induction attrs generalizing fs with
  | nil =>
      cases ran
      exact ⟨rfl, rfl, rfl, rfl, coherent⟩
  | cons attr attrs ih =>
      rw [fetchAttrs, Lib.Keeping.run_next (Lib.Keeping.run_read _)] at ran
      dsimp only at ran
      rw [if_pos (by rw [mode]; decide)] at ran
      obtain ⟨answer, middle, searched, ran⟩ := (Lib.Keeping.run_bind_some _ _ _ _ _).mp ran
      have looked := (lookup_looked cfg below holds _ fs middle _ coherent searched).2
      rw [Lib.Keeping.run_next (Lib.Keeping.run_pure _ _)] at ran
      have still : (middle.files file).flags &&& 3 = lfsORdonly := by rw [looked.files, mode]
      by_cases failed : answer.1 < 0 ∧ answer.1 ≠ lfsErrNoent
      · rw [if_pos failed] at ran
        cases ran
        exact looked
      · rw [if_neg failed, if_neg (by rw [mode]; exact fun other => other rfl)] at ran
        exact looked_trans looked (ih middle looked.coherent still ran)

theorem open_inline_reads (paged : Paged cfg) (tag : UInt32) (data : List UInt8) (length : data.length = (lfsTagSize tag).toNat)
    (few : data.length ≤ cfg.cacheSize.toNat) (fresh : (fs.files file).flags = lfsORdonly ||| lfsFOpened)
    (direct : ∀ got, onImage cfg (contents fs.rest) (lfsDirGet cfg (fs.nodes (.file file)).m (lfsMktag 0x700 0x3ff 0)
      (lfsMktag lfsTypeStruct (fs.nodes (.file file)).id.toUInt32 512)) fs.base = some got → got.2 = data ++ zeros (512 - data.length))
    (ran : (openInline cfg below file tag).run fs = some (0, after)) :
    InlineReads cfg (after.files file) data ∧ (after.files file).ctzSize = lfsTagSize tag ∧ (after.files file).pos = (fs.files file).pos ∧
      (after.files file).flags = lfsORdonly ||| lfsFOpened ||| lfsFInline ∧ Elsewhere cfg contents file fs after := by
  have most : lfsMin cfg.cacheSize 0x3fe = 512 := by
    rw [paged.cacheSize]
    rfl
  have loads (f : File) (flags : f.flags = lfsORdonly ||| lfsFOpened ||| lfsFInline) (size : f.ctzSize = lfsTagSize tag)
      (block : f.cache.block = lfsBlockInline) (off : f.cache.off = 0) (room : f.cache.size = cfg.cacheSize)
      (bytes : data = Lib.slice f.cache.buffer 0 data.length) : InlineReads cfg f data := by
    have reading : f.has .reading = false := by
      rw [File.has, flags]
      rfl
    refine ⟨?_, block, off, room, by rw [size, ← length]; exact few, by rw [size, ← length]; exact bytes, fun placed => ?_⟩
    · rw [File.has, flags]
      rfl
    · rw [reading] at placed
      cases placed
  rw [open_inline_run] at ran
  generalize prepared : (fs.files file).inlined cfg tag = f at ran
  have flags : f.flags = lfsORdonly ||| lfsFOpened ||| lfsFInline := by rw [← prepared, ← fresh]; rfl
  by_cases none : lfsTagSize tag = 0
  · rw [if_pos none] at ran
    cases ran
    have empty : data = [] := List.length_eq_zero_iff.mp (by rw [length, none]; rfl)
    rw [become_file]
    refine ⟨?_, by rw [← prepared]; rfl, by rw [← prepared]; rfl, flags, elsewhere_become fs file _ coherent⟩
    subst prepared
    exact loads _ flags rfl rfl rfl rfl (by rw [empty]; rfl)
  · have node : (nodeAt (.file file)).run (fs.become file f fs.rest) = some (fs.nodes (.file file), fs.become file f fs.rest) := rfl
    rw [if_neg none, Lib.Keeping.run_next node, most] at ran
    obtain ⟨⟨res, got⟩, between, searched, ran⟩ := (Lib.Keeping.run_bind_some _ _ _ _ _).mp ran
    obtain ⟨found, looked⟩ := lookup_looked cfg below holds _ (fs.become file f fs.rest) between _ coherent searched
    have read : got = data ++ zeros (512 - data.length) := direct _ found
    have files := congrFun looked.files file
    rw [become_file] at files
    dsimp only at ran
    by_cases failed : res < 0
    · rw [if_pos failed] at ran
      cases ran
      exact absurd failed (by decide)
    · rw [if_neg failed, Lib.Keeping.run_next (set_file_become _ file _), files] at ran
      cases ran
      rw [become_file]
      refine ⟨?_, by rw [← prepared]; rfl, by rw [← prepared]; rfl, flags, ?_⟩
      · subst prepared
        refine loads _ flags rfl rfl rfl rfl (List.ext_getElem (by rw [Lib.slice_length]) fun p inside _ => ?_)
        have enough : p < got.length := by
          rw [read, List.length_append]
          omega
        simp only [Lib.slice, List.getElem_map, List.getElem_range, Nat.zero_add]
        rw [if_pos enough, read, List.getD_append _ _ _ _ inside, List.getD_eq_getElem _ _ inside]
      · exact elsewhere_trans (elsewhere_become fs file _ coherent)
          (elsewhere_trans (looked_elsewhere file looked) (elsewhere_become between file _ looked.coherent))

-- What is behind the pointer the entry held when it was read, or in the entry
-- itself, is where the handle reads.
theorem open_buffer_cursor (paged : Paged cfg) (tag : UInt32) (entry : LogEntry) (content : List UInt8)
    (type : lfsTagType3 tag = lfsTagType3 entry.tag) (length : lfsTagSize tag = lfsTagSize entry.tag)
    (fresh : (fs.files file).flags = lfsORdonly ||| lfsFOpened) (start : (fs.files file).pos = 0)
    (pointer : ∀ head size, entry.data = lfsTole32 head ++ lfsTole32 size → (fs.files file).ctzHead = head ∧ (fs.files file).ctzSize = size)
    (direct : ∀ got, onImage cfg (contents fs.rest) (lfsDirGet cfg (fs.nodes (.file file)).m (lfsMktag 0x700 0x3ff 0)
      (lfsMktag lfsTypeStruct (fs.nodes (.file file)).id.toUInt32 512)) fs.base = some got →
        got.2 = entry.data.take 512 ++ zeros (512 - entry.data.length))
    (bytes : EntryBytes cfg (contents fs.rest) entry content) (ran : (openBuffer cfg below file tag).run fs = some (0, after)) :
    Cursor cfg (contents after.rest) content 0 (after.files file) ∧ Elsewhere cfg contents file fs after := by
  obtain ⟨cache, null, ran⟩ := open_buffer_reads cfg below file fs after _ ran
  have flagged (g : File) (flags : g.flags = lfsORdonly ||| lfsFOpened ∨ g.flags = lfsORdonly ||| lfsFOpened ||| lfsFInline) :
      g.flags &&& lfsFOpened ≠ 0 ∧ g.has .writing = false ∧ ¬ g.has .reading = true := by
    rw [File.has, File.has]
    rcases flags with plain | inline
    · rw [plain]
      decide
    · rw [inline]
      decide
  have listed (kind : lfsTagType3 entry.tag ≠ lfsTypeInlinestruct) :
      after = fs.become file { fs.files file with cache := cache } fs.rest ∧ ({ fs.files file with cache := cache } : File).has .inline = false := by
    rw [type, if_neg kind] at ran
    cases ran
    refine ⟨rfl, ?_⟩
    rw [File.has]
    exact decide_eq_false fun set => set (by rw [fresh]; rfl)
  have beyond := elsewhere_become fs file { fs.files file with cache := cache } coherent
  cases bytes with
  | inline kind whole room =>
      have most : entry.data.length ≤ 512 := by
        rw [paged.cacheSize] at room
        exact room
      rw [type, if_pos kind] at ran
      obtain ⟨reads, size, pos, flags, inside⟩ := open_inline_reads cfg below holds file (fs.become file { fs.files file with cache := cache } fs.rest)
        after coherent paged tag entry.data (by rw [length, whole]) room (by rw [become_file]; exact fresh) (fun got found => by
          rw [direct got found, List.take_of_length_le most]) ran
      obtain ⟨opened, idle, -⟩ := flagged (after.files file) (Or.inr flags)
      rw [become_file] at pos
      exact ⟨⟨opened, idle, by rw [size, length, whole], by rw [pos, start]; rfl, Or.inl reads⟩, elsewhere_trans beyond inside⟩
  | list node last head size kind words ctz =>
      obtain ⟨rfl, outline⟩ := listed kind
      obtain ⟨opened, idle, unplaced⟩ := flagged { fs.files file with cache := cache } (Or.inl fresh)
      obtain ⟨rfl, rfl⟩ := pointer head size words
      have reads : ListReads cfg (contents fs.rest) node last { fs.files file with cache := cache } _ :=
        ⟨outline, ctz, rfl, coherent_null cfg _ cache null, aligned_beyond cfg cache null, fun placed => absurd placed unplaced⟩
      refine ⟨?_, beyond⟩
      rw [become_file]
      exact ⟨opened, idle, (list_size reads).symm, by rw [start]; rfl, Or.inr (Or.inl ⟨node, last, reads⟩)⟩
  | empty head kind words =>
      obtain ⟨rfl, outline⟩ := listed kind
      obtain ⟨opened, idle, -⟩ := flagged { fs.files file with cache := cache } (Or.inl fresh)
      obtain ⟨-, none⟩ := pointer head 0 words
      refine ⟨?_, beyond⟩
      rw [become_file]
      exact ⟨opened, idle, by rw [none]; rfl, by rw [start]; rfl, Or.inr (Or.inr ⟨outline, none, rfl⟩)⟩

theorem open_load_reads (paged : Paged cfg) (large : 4 ≤ cfg.blockSize.toNat) (found : Found) (commits : List (List LogEntry)) (entry : LogEntry)
    (content : List UInt8) (fresh : (fs.files file).flags = lfsORdonly ||| lfsFOpened) (start : (fs.files file).pos = 0)
    (struct : StructEntry cfg (contents fs.rest) fs.gdisk (fs.nodes (.file file)).m (fs.nodes (.file file)).id.toUInt32 commits entry)
    (bytes : EntryBytes cfg (contents fs.rest) entry content) (ran : (openLoad cfg below file lfsORdonly found).run fs = some (0, after)) :
    Cursor cfg (contents after.rest) content 0 (after.files file) ∧ Elsewhere cfg contents file fs after := by
  have small := paged.small
  have few := struct.few
  obtain ⟨result, entered, looks, ran⟩ := (Lib.Keeping.run_bind_some _ _ _ _ _).mp ran
  by_cases failed : result < 0
  · rw [if_pos failed] at ran
    cases ran
    exact absurd failed (by decide)
  · obtain ⟨ctz, between, direct, looked, same⟩ := open_entry_reads cfg below holds file fs entered coherent _ _ _ looks failed
    have known := struct_get fs.base (by omega) large struct 8 (by decide)
    rw [direct] at known
    obtain ⟨tag, words⟩ := Prod.mk.inj (Option.some.inj known)
    rw [if_neg failed] at ran
    obtain ⟨f, _, read, ran⟩ := (Lib.Keeping.run_bind_some _ _ _ _ _).mp ran
    cases read
    obtain ⟨err, middle, fetched, ran⟩ := (Lib.Keeping.run_bind_some _ _ _ _ _).mp ran
    have attrs := fetch_attrs_looked cfg below holds file entered middle (by rw [same]; exact looked.coherent) _ _ (by
      rw [same, become_file, fresh]
      rfl) fetched
    by_cases refused : err = 0
    · have within : Elsewhere cfg contents file fs middle := by
        refine elsewhere_trans (looked_elsewhere file looked) (elsewhere_trans ?_ (looked_elsewhere file attrs))
        rw [same]
        exact elsewhere_become between file _ looked.coherent
      have at_ := congrFun attrs.files file
      rw [same, become_file] at at_
      have node : middle.nodes (.file file) = fs.nodes (.file file) := by
        rw [attrs.nodes, same]
        exact congrFun looked.nodes _
      obtain ⟨type, -, length⟩ := mktag_fields (lfsTagType3 entry.tag) (fs.nodes (.file file)).id.toUInt32 (lfsTagSize entry.tag)
        (by rw [tag_type3_toNat]; omega) (by omega) (by rw [tag_size_toNat]; omega)
      rw [if_neg (fun other => other refused), tag, UInt32.toUInt32_toInt32] at ran
      obtain ⟨cursor, beyond⟩ := open_buffer_cursor cfg below holds file middle after attrs.coherent paged _ entry content type length
        (by rw [at_]; exact fresh) (by rw [at_]; exact start) (fun head size pointer => by
          rw [at_, words]
          exact pointer_words head size entry.data pointer) (fun got found => by
          rw [within.shown, within.base, node, struct_get fs.base (by omega) large struct 512 (by decide)] at found
          cases found
          rfl) (by rw [within.shown]; exact bytes) ran
      exact ⟨cursor, elsewhere_trans within beyond⟩
    · rw [if_pos refused] at ran
      cases ran
      exact absurd rfl refused

theorem open_found_reads (paged : Paged cfg) (large : 4 ≤ cfg.blockSize.toNat) (found : Found) (commits : List (List LogEntry)) (entry : LogEntry)
    (content : List UInt8) (fresh : (fs.files file).flags = lfsORdonly ||| lfsFOpened) (start : (fs.files file).pos = 0)
    (struct : StructEntry cfg (contents fs.rest) fs.gdisk found.dir found.id.toUInt32 commits entry)
    (bytes : EntryBytes cfg (contents fs.rest) entry content) (ran : (openFound cfg below file lfsORdonly found).run fs = some (0, after)) :
    Cursor cfg (contents after.rest) content 0 (after.files file) ∧ Elsewhere cfg contents file fs after := by
  obtain ⟨_, located, set, ran⟩ := (Lib.bind_run_some _ _ _ _ _).mp ran
  cases set
  by_cases missing : found.tag < 0 ∧ ¬ (found.tag = lfsErrNoent ∧ found.id ≠ 0x3ff)
  · rw [if_pos missing] at ran
    obtain ⟨failed, -⟩ := (Lib.pure_run_some _ _ _ _).mp ran
    exact absurd missing.1 (by rw [failed]; decide)
  · rw [if_neg missing] at ran
    obtain ⟨_, typed, set, ran⟩ := (Lib.bind_run_some _ _ _ _ _).mp ran
    cases set
    obtain ⟨_, listed, pushed, ran⟩ := (Lib.bind_run_some _ _ _ _ _).mp ran
    have within : Elsewhere cfg contents file fs listed ∧ listed.files = fs.files ∧
        listed.nodes (.file file) = ⟨found.id, lfsTypeReg, found.dir⟩ := by
      cases pushed
      refine ⟨⟨rfl, fun _ _ => rfl, fun other apart => ?_, rfl, coherent⟩, rfl, ?_⟩
      · exact (if_neg apart).trans (if_neg apart)
      · simp [Fs.setNode]
    obtain ⟨beyond, files, node⟩ := within
    have load : (openLoad cfg below file lfsORdonly found).run listed = some (0, after) := ran
    obtain ⟨cursor, inside⟩ := open_load_reads cfg below holds file listed after beyond.coherent paged large found commits entry content
      (by rw [files]; exact fresh) (by rw [files]; exact start) (by rw [beyond.shown, node, gdisk_base beyond.base]; exact struct)
      (by rw [beyond.shown]; exact bytes) load
    exact ⟨cursor, elsewhere_trans beyond inside⟩

-- A handle that lfs_file_open has opened for reading is at the start of the
-- bytes of its file.
theorem open_reads (paged : Paged cfg) (large : 4 ≤ cfg.blockSize.toNat) (fuel : Nat) (path : Path) (content : List UInt8)
    (named : PathBytes cfg (contents fs.rest) fs.base fuel (fs.nodes (.file file)).m path content)
    (ran : (lfsFileOpen cfg below fuel file path lfsORdonly).run fs = some (0, after)) :
    Cursor cfg (contents after.rest) content 0 (after.files file) ∧ Elsewhere cfg contents file fs after := by
  obtain ⟨found, commits, entry, names, struct, bytes⟩ := named
  have consistent : (keep (openConsistent cfg below lfsORdonly)).run fs = some (0, fs) := rfl
  rw [lfsFileOpen, lfsFileOpencfg] at ran
  obtain ⟨err, _, checked, ran⟩ := (Lib.bind_run_some _ _ _ _ _).mp ran
  rw [consistent] at checked
  cases checked
  rw [if_neg (fun failed => failed rfl)] at ran
  obtain ⟨_, opening, set, ran⟩ := (Lib.bind_run_some _ _ _ _ _).mp ran
  obtain ⟨searched, looking, looks, ran⟩ := (Lib.bind_run_some _ _ _ _ _).mp ran
  obtain ⟨err, reached, opened, ran⟩ := (Lib.bind_run_some _ _ _ _ _).mp ran
  have setup : Elsewhere cfg contents file fs opening ∧ opening.nodes = fs.nodes ∧ (opening.files file).flags = lfsORdonly ||| lfsFOpened ∧
      (opening.files file).pos = 0 := by
    cases set
    refine ⟨⟨rfl, fun other apart => ?_, fun _ _ => rfl, rfl, coherent⟩, rfl, ?_, ?_⟩
    · exact (if_neg apart).trans (if_neg apart)
    · simp [Fs.setFlags, Fs.setFile]
    · simp [Fs.setFlags, Fs.setFile]
  obtain ⟨begun, nodes, flags, pos⟩ := setup
  have held : searched = found ∧ Looked cfg contents opening looking := by
    have view : (nodeAt (.file file)).run opening = some (opening.nodes (.file file), opening) := rfl
    have search : (openFind cfg below fuel file path).run opening = some (searched, looking) := looks
    rw [openFind, Lib.Keeping.run_next view, nodes] at search
    obtain ⟨direct, looked⟩ := lookup_looked cfg below holds _ opening looking searched begun.coherent search
    rw [begun.shown, begun.base, names] at direct
    exact ⟨(Option.some.inj direct).symm, looked⟩
  obtain ⟨rfl, looked⟩ := held
  have within := elsewhere_trans begun (looked_elsewhere file looked)
  by_cases failed : err = 0
  · subst failed
    rw [if_neg (fun other => other rfl)] at ran
    obtain ⟨-, rfl⟩ := (Lib.pure_run_some _ _ _ _).mp ran
    obtain ⟨cursor, beyond⟩ := open_found_reads cfg below holds file looking reached within.coherent paged large searched commits entry content
      (by rw [looked.files]; exact flags) (by rw [looked.files]; exact pos) (by rw [within.shown, gdisk_base within.base]; exact struct)
      (by rw [within.shown]; exact bytes) opened
    exact ⟨cursor, elsewhere_trans within beyond⟩
  · rw [if_pos failed] at ran
    obtain ⟨_, cleaned, -, ran⟩ := (Lib.bind_run_some _ _ _ _ _).mp ran
    exact absurd ((Lib.pure_run_some _ _ _ _).mp ran).1 failed

end

end SDCardFs.Littlefs
