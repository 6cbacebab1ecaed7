import SDCardFs.Littlefs.Reading

set_option autoImplicit false

namespace SDCardFs.Littlefs

-- The access mode, and whether anything waits to be written.
def readOnlyMask : UInt32 := 3 ||| lfsFDirty ||| lfsFWriting

theorem part_known (mask bits part flags : UInt32) (inside : mask &&& part = part) (known : flags &&& mask = bits) :
    flags &&& part = bits &&& part := by
  rw [← inside, ← UInt32.and_assoc, known, inside]

section
variable {σ γ : Type} (cfg : Config) (below : Below σ) {contents : σ → γ} {content : γ} {file : FileAt}

-- A handle that was opened for reading and has written nothing.
abbrev Still (contents : σ → γ) (content : γ) (file : FileAt) : Fs σ → Prop := Quiet contents content file readOnlyMask lfsORdonly

theorem still_clean (flags : UInt32) (known : flags &&& readOnlyMask = lfsORdonly) :
    flags &&& 3 = lfsORdonly ∧ flags &&& lfsFDirty = 0 ∧ flags &&& lfsFWriting = 0 :=
  ⟨part_known readOnlyMask lfsORdonly 3 flags rfl known, part_known readOnlyMask lfsORdonly lfsFDirty flags rfl known,
    part_known readOnlyMask lfsORdonly lfsFWriting flags rfl known⟩

theorem still_has (flag : FileFlag) (fs : Fs σ) (still : Still contents content file fs) (waiting : flag = .dirty ∨ flag = .writing) :
    (fs.files file).has flag = false := by
  obtain ⟨-, dirty, writing⟩ := still_clean _ still.flags
  rcases waiting with rfl | rfl
  · simp [File.has, FileFlag.mask, dirty]
  · simp [File.has, FileFlag.mask, writing]

theorem has_flag_still (flag : FileFlag) (waiting : flag = .dirty ∨ flag = .writing) :
    Lib.Meets (Still contents content file) (hasFlag file flag) fun answer fs => answer = false ∧ Still contents content file fs := by
  intro before answer after still ran
  cases ran
  exact ⟨still_has flag _ still waiting, still⟩

theorem file_at_still (file : FileAt) :
    Lib.Meets (Still contents content file) (fileAt file) fun f fs => f = fs.files file ∧ Still contents content file fs :=
  Lib.meets_view fun fs : Fs σ => fs.files file

theorem flush_still (fuel : Nat) :
    Lib.Meets (Still contents content file) (lfsFileFlush cfg below fuel file) fun _ => Still contents content file := by
  cases fuel with
  | zero => exact Lib.meets_never
  | succ fuel =>
      rw [lfsFileFlush, flushBody]
      refine Lib.meets_bind _ (view_quiet _) fun _ => ?_
      refine Lib.meets_exit _ (fun _ still => still) fun _ => ?_
      refine Lib.meets_bind _ (flush_reading_quiet rfl) fun _ => ?_
      refine Lib.meets_bind _ (has_flag_still .writing (Or.inr rfl)) fun writing => ?_
      refine Lib.meets_exit _ (fun _ both => both.2) fun going => ?_
      exact fun _ _ _ both _ => absurd both.1 (by simpa using going)

theorem read_block_still (shows : below.Shows contents) :
    Lib.Meets (Still contents content file) (readBlock cfg below file) fun _ => Still contents content file := by
  refine Lib.meets_bind _ (view_quiet _) fun f => ?_
  refine Lib.meets_exit _ (fun _ still => still) fun _ => ?_
  have rest : ∀ err : Int32, Lib.Meets (Still contents content file)
      (do
        if err ≠ 0 then
          return err
        setFlag file .reading
        return 0)
      fun _ => Still contents content file := by
    intro err
    refine Lib.meets_exit _ (fun _ still => still) fun _ => ?_
    exact Lib.meets_bind _ (set_flag_quiet .reading rfl) fun _ => Lib.meets_pure _ fun _ still => still
  refine Lib.meets_ite (fun _ => ?_) fun _ => ?_
  · exact Lib.meets_bind _ (ctz_find_file_quiet cfg below shows _) rest
  · refine Lib.meets_bind _ (set_file_quiet _ _) fun _ => ?_
    exact Lib.meets_bind _ (Lib.meets_pure _ fun _ still => still) rest

theorem read_loop_still (shows : below.Shows contents) (fuel : Nat) :
    ∀ (data : List UInt8), Lib.Meets (Still contents content file) (readLoop cfg below file fuel data) fun _ => Still contents content file := by
  induction fuel with
  | zero =>
      intro data
      cases data with
      | nil => exact Lib.meets_pure _ fun _ still => still
      | cons byte rest => exact Lib.meets_never
  | succ fuel ih =>
      intro data
      cases data with
      | nil => exact Lib.meets_pure _ fun _ still => still
      | cons byte rest =>
          rw [readLoop]
          refine Lib.meets_bind _ (read_block_still cfg below shows) fun err => ?_
          refine Lib.meets_exit _ (fun _ still => still) fun _ => ?_
          refine Lib.meets_bind _ (view_quiet _) fun f => ?_
          have further : ∀ got : Int32 × List UInt8, Lib.Meets (Still contents content file)
              (do
                if got.1 ≠ 0 then
                  return (got.1, got.2 ++ (byte :: rest).drop (min (byte :: rest).length (cfg.blockSize - f.off).toNat))
                setFile file fun f' => { f' with
                  pos := f'.pos + UInt32.ofNat (min (byte :: rest).length (cfg.blockSize - f.off).toNat)
                  off := f'.off + UInt32.ofNat (min (byte :: rest).length (cfg.blockSize - f.off).toNat) }
                let ended ← readLoop cfg below file fuel ((byte :: rest).drop (min (byte :: rest).length (cfg.blockSize - f.off).toNat))
                return (ended.1, got.2 ++ ended.2))
              fun _ => Still contents content file := by
            intro got
            refine Lib.meets_exit _ (fun _ still => still) fun _ => ?_
            refine Lib.meets_bind _ (set_file_quiet _ _) fun _ => ?_
            exact Lib.meets_bind _ (ih _) fun _ => Lib.meets_pure _ fun _ still => still
          refine Lib.meets_ite (fun _ => ?_) fun _ => ?_
          · exact Lib.meets_bind _ (getread_file_quiet cfg below shows _ _ _) further
          · exact Lib.meets_bind _ (read_file_quiet cfg below shows _ _ _ _) further

theorem read_still (shows : below.Shows contents) (fuel : Nat) (buffer : List UInt8) :
    Lib.Meets (Still contents content file) (lfsFileRead cfg below fuel file buffer) fun _ => Still contents content file := by
  cases fuel with
  | zero => exact Lib.meets_never
  | succ fuel =>
      rw [lfsFileRead, readBody]
      refine Lib.meets_bind _ (view_quiet _) fun _ => ?_
      refine Lib.meets_exit _ (fun _ still => still) fun _ => ?_
      refine Lib.meets_bind _ (view_quiet _) fun _ => ?_
      refine Lib.meets_exit _ (fun _ still => still) fun _ => ?_
      refine Lib.meets_bind _ (has_flag_still .writing (Or.inr rfl)) fun writing => ?_
      refine Lib.meets_ite (fun going => ?_) fun _ => ?_
      · exact fun _ _ _ both _ => absurd (both.1.symm.trans going) nofun
      · refine Lib.meets_bind (fun _ => Still contents content file) (Lib.meets_pure _ fun _ both => both.2) fun err => ?_
        refine Lib.meets_exit _ (fun _ still => still) fun _ => ?_
        refine Lib.meets_bind _ (view_quiet _) fun f => ?_
        refine Lib.meets_exit _ (fun _ still => still) fun _ => ?_
        refine Lib.meets_bind _ (read_loop_still cfg below shows fuel _) fun ended => ?_
        exact Lib.meets_exit _ (fun _ still => still) fun _ => Lib.meets_pure _ fun _ still => still

theorem sync_still (fuel : Nat) :
    Lib.Meets (Still contents content file) (lfsFileSync cfg below fuel file) fun _ => Still contents content file := by
  refine Lib.meets_bind _ (view_quiet _) fun _ => ?_
  refine Lib.meets_exit _ (fun _ still => still) fun _ => ?_
  refine Lib.meets_bind _ (view_quiet _) fun _ => ?_
  refine Lib.meets_exit _ (fun _ still => still) fun _ => ?_
  refine Lib.meets_bind _ (flush_still cfg below fuel) fun err => ?_
  refine Lib.meets_ite (fun _ => ?_) fun _ => ?_
  · exact Lib.meets_bind _ (set_flag_quiet .erred rfl) fun _ => Lib.meets_pure _ fun _ still => still
  · refine Lib.meets_bind _ (file_at_still file) fun f => ?_
    refine Lib.meets_bind _ (Lib.meets_view fun fs : Fs σ => fs.nodes (.file file)) fun node => ?_
    refine Lib.meets_ite (fun dirty => ?_) fun _ => Lib.meets_pure _ fun _ both => both.2.2
    intro before _ _ both _
    rw [both.2.1, still_has .dirty before both.2.2 (Or.inl rfl)] at dirty
    exact absurd dirty.1 nofun

theorem seek_still (fuel : Nat) (off whence : Int32) :
    Lib.Meets (Still contents content file) (lfsFileSeek cfg below fuel file off whence) fun _ => Still contents content file := by
  refine Lib.meets_bind _ (view_quiet _) fun _ => ?_
  refine Lib.meets_exit _ (fun _ still => still) fun _ => ?_
  refine Lib.meets_bind _ (flush_still cfg below fuel) fun err => ?_
  refine Lib.meets_exit _ (fun _ still => still) fun _ => ?_
  refine Lib.meets_bind _ (view_quiet fun fs => fs) fun fs => ?_
  refine Lib.meets_exit _ (fun _ still => still) fun _ => ?_
  exact Lib.meets_bind _ (set_file_quiet _ _) fun _ => Lib.meets_pure _ fun _ still => still

theorem close_still (fuel : Nat) :
    Lib.Takes (Still contents content file) (lfsFileClose cfg below fuel file) fun _ => Still contents content file := by
  refine Lib.takes_bind _ (view_quiet _) fun _ => ?_
  refine Lib.takes_exit _ (fun _ still => still) fun _ => ?_
  refine Lib.takes_bind _ (sync_still cfg below fuel) fun err => ?_
  refine Lib.takes_bind (fun _ => Still contents content file) ?_ fun _ => ?_
  · intro before value after still ran
    obtain ⟨links, _, same⟩ := Option.map_eq_some_iff.mp ran
    cases same
    exact ⟨still.shown, still.flags⟩
  · refine Lib.takes_bind (fun _ => Still contents content file) ?_ fun _ => Lib.takes_pure _ fun _ still => still
    exact Lib.takes_update _ fun fs still => quiet_file file _ fs still fun _ => clear_spared readOnlyMask _ _ rfl

-- The flags of an open that leaves the card alone.
def opensReadOnly (flags : UInt32) : Bool := flags &&& (readOnlyMask ||| lfsOCreat ||| lfsOTrunc) = lfsORdonly

theorem opens_read_only_known (flags part : UInt32) (readOnly : opensReadOnly flags = true)
    (inside : (readOnlyMask ||| lfsOCreat ||| lfsOTrunc) &&& part = part) : flags &&& part = lfsORdonly &&& part :=
  part_known _ _ part flags inside (of_decide_eq_true readOnly)

theorem open_found_still (shows : below.Shows contents) (flags : UInt32) (found : Found) (readOnly : opensReadOnly flags = true) :
    Lib.Takes (Still contents content file) (openFound cfg below file flags found) fun _ => Still contents content file := by
  have creat : flags &&& lfsOCreat = 0 := opens_read_only_known flags lfsOCreat readOnly rfl
  have trunc : flags &&& lfsOTrunc = 0 := opens_read_only_known flags lfsOTrunc readOnly rfl
  refine Lib.takes_bind _ (set_node_quiet _ _) fun _ => ?_
  refine Lib.takes_exit _ (fun _ still => still) fun _ => ?_
  refine Lib.takes_bind _ (set_node_quiet _ _) fun _ => ?_
  refine Lib.takes_bind (fun _ => Still contents content file) (Lib.takes_update _ fun _ still => ⟨still.shown, still.flags⟩) fun _ => ?_
  refine Lib.meets_pre (open_load_quiet cfg below shows flags found rfl (Or.inl trunc) (Or.inr fun word known => (still_clean word known).1)) ?_
  exact fun fs still => ⟨fun creates => creates.2.1 creat, still⟩

theorem open_setup_still (flags : UInt32) (config : FileConfig) (readOnly : opensReadOnly flags = true) :
    Lib.Takes (fun fs => contents fs.rest = content) (openSetup file flags config) fun _ => Still contents content file := by
  have known : (flags ||| lfsFOpened) &&& readOnlyMask = lfsORdonly := by
    rw [set_spared readOnlyMask flags lfsFOpened rfl]
    exact opens_read_only_known flags readOnlyMask readOnly rfl
  refine Lib.takes_bind (fun _ fs => contents fs.rest = content) (Lib.takes_update _ fun _ shown => shown) fun _ => ?_
  refine Lib.takes_update _ fun fs shown => ⟨shown, ?_⟩
  simpa [Fs.setFlags, Fs.setFile] using known

theorem opencfg_still (shows : below.Shows contents) (fuel : Nat) (path : Path) (flags : UInt32) (config : FileConfig)
    (readOnly : opensReadOnly flags = true) :
    Lib.Takes (fun fs => contents fs.rest = content) (lfsFileOpencfg cfg below fuel file path flags config)
      fun _ => Still contents content file := by
  have consistent : openConsistent cfg below flags = pure 0 := if_neg (fun writes => writes (opens_read_only_known flags 3 readOnly rfl))
  rw [lfsFileOpencfg, consistent]
  refine Lib.takes_bind (fun err fs => err = 0 ∧ contents fs.rest = content) (Lib.takes_pure _ fun _ shown => ⟨rfl, shown⟩) fun err => ?_
  refine Lib.takes_ite (fun failed => fun _ _ _ both _ => absurd both.1 failed) fun _ => ?_
  refine Lib.takes_bind (fun _ => Still contents content file) ?_ fun _ => ?_
  · exact Lib.takes_mono (open_setup_still flags config readOnly) (fun _ both => both.2) fun _ _ still => still
  refine Lib.takes_bind _ (open_find_quiet cfg below shows fuel path) fun found => ?_
  refine Lib.takes_bind _ (open_found_still cfg below shows flags found readOnly) fun err => ?_
  refine Lib.takes_ite (fun _ => ?_) fun _ => Lib.takes_pure _ fun _ still => still
  refine Lib.takes_bind (fun _ => Still contents content file) ?_ fun _ => Lib.takes_pure _ fun _ still => still
  refine Lib.takes_bind _ (set_flag_quiet .erred rfl) fun _ => ?_
  exact Lib.takes_bind _ (close_still cfg below fuel) fun _ => Lib.takes_pure _ fun _ still => still

-- What lfs_file_flush leaves of a handle that was only read.
def Fs.unread (fs : Fs σ) (file : FileAt) : Fs σ :=
  if (fs.files file).has .reading then
    (if (fs.files file).has .inline then fs else fs.setFile file fun f => { f with cache := Calls.lfsCacheDrop f.cache }).setFlags file
      fun flags => flags &&& ~~~lfsFReading
  else fs

theorem flush_reading_run (fs : Fs σ) : (flushReading file).run fs = some ((), fs.unread file) := by
  have looked : (hasFlag file .reading).run fs = some ((fs.files file).has .reading, fs) := rfl
  have inlined : (hasFlag file .inline).run fs = some ((fs.files file).has .inline, fs) := rfl
  rw [flushReading, Lib.Keeping.run_bind, looked, Option.bind_some, Fs.unread]
  cases (fs.files file).has .reading with
  | false => rfl
  | true =>
      simp only [↓reduceIte]
      rw [Lib.Keeping.run_bind, inlined, Option.bind_some]
      cases (fs.files file).has .inline with
      | false => rfl
      | true => rfl

-- A call that fails and leaves the handle's size, its position, every flag of
-- it but LFS_F_READING and everything but the handle as they are.
structure Refused (file : FileAt) (before after : Fs σ) (result : Int32) : Prop where
  negative : result < 0
  size : (after.files file).size = (before.files file).size
  pos : (after.files file).pos = (before.files file).pos
  flags : (after.files file).flags &&& ~~~lfsFReading = (before.files file).flags &&& ~~~lfsFReading
  others : ∀ other, other ≠ file → after.files other = before.files other
  filesystem : { after with files := before.files } = before

theorem set_flags_file (fs : Fs σ) (change : UInt32 → UInt32) :
    (fs.setFlags file change).files file = { fs.files file with flags := change (fs.files file).flags } := by
  simp [Fs.setFlags, Fs.setFile]

-- Nothing but the cache and LFS_F_READING is gone.
theorem unread_file (fs : Fs σ) : ∃ cache flags, (fs.unread file).files file = { fs.files file with cache := cache, flags := flags } ∧
    ∀ mask, Spared mask lfsFReading → flags &&& mask = (fs.files file).flags &&& mask := by
  rw [Fs.unread]
  cases (fs.files file).has .reading with
  | false => exact ⟨_, _, rfl, fun _ _ => rfl⟩
  | true =>
      simp only [↓reduceIte]
      cases (fs.files file).has .inline with
      | false =>
          simp only [Bool.false_eq_true, ↓reduceIte]
          rw [set_flags_file]
          refine ⟨Calls.lfsCacheDrop (fs.files file).cache, (fs.files file).flags &&& ~~~lfsFReading, by simp [Fs.setFile], fun mask spared => ?_⟩
          exact clear_spared mask _ _ spared
      | true =>
          simp only [↓reduceIte]
          rw [set_flags_file]
          exact ⟨_, _, rfl, fun mask spared => clear_spared mask _ _ spared⟩

theorem unread_others (fs : Fs σ) : (∀ other, other ≠ file → (fs.unread file).files other = fs.files other) ∧
    { fs.unread file with files := fs.files } = fs := by
  rw [Fs.unread]
  cases (fs.files file).has .reading with
  | false => exact ⟨fun _ _ => rfl, rfl⟩
  | true =>
      cases (fs.files file).has .inline with
      | false => exact ⟨fun other different => by simp [Fs.setFlags, Fs.setFile, different], rfl⟩
      | true => exact ⟨fun other different => by simp [Fs.setFlags, Fs.setFile, different], rfl⟩

theorem unread_same (fs : Fs σ) (mask : UInt32) (spared : Spared mask lfsFReading) :
    ((fs.unread file).files file).flags &&& mask = (fs.files file).flags &&& mask ∧ ((fs.unread file).files file).pos = (fs.files file).pos ∧
      ((fs.unread file).files file).ctzSize = (fs.files file).ctzSize ∧ (fs.unread file).fileMax = fs.fileMax := by
  obtain ⟨cache, flags, same, kept⟩ := @unread_file σ file fs
  have fileMax : ({ fs.unread file with files := fs.files } : Fs σ).fileMax = fs.fileMax := by rw [(@unread_others σ file fs).2]
  exact ⟨by rw [same, kept mask spared], by rw [same], by rw [same], fileMax⟩

theorem unread_writing (fs : Fs σ) : ((fs.unread file).files file).has .writing = (fs.files file).has .writing :=
  decide_eq_decide.mpr (by rw [(unread_same fs (FileFlag.mask .writing) rfl).1])

theorem unread_refused (fs : Fs σ) (result : Int32) (negative : result < 0) : Refused file fs (fs.unread file) result := by
  obtain ⟨flags, pos, ctzSize, -⟩ := @unread_same σ file fs (~~~lfsFReading) rfl
  obtain ⟨others, filesystem⟩ := @unread_others σ file fs
  refine ⟨negative, ?_, pos, flags, others, filesystem⟩
  rw [File.size, File.size, unread_writing, pos, ctzSize]

theorem kept_refused (fs : Fs σ) (result : Int32) (negative : result < 0) : Refused file fs fs result :=
  ⟨negative, rfl, rfl, rfl, fun _ _ => rfl, rfl⟩

-- Refused for the size alone, at the position the handle is at.
def refusesWrite (fs : Fs σ) (file : FileAt) (size : UInt32) : Bool :=
  let f := fs.files file
  ¬ (f.has .reading ∧ f.has .writing) ∧ ¬ (f.flags &&& lfsOAppend ≠ 0 ∧ f.pos < f.ctzSize) ∧ f.pos + size > fs.fileMax

def refusesTruncate (fs : Fs σ) (file : FileAt) (size : UInt32) : Bool :=
  let f := fs.files file
  size > lfsFileMax ∨ ¬ f.has .writing ∧ (size > f.ctzSize ∧ f.pos = f.ctzSize ∧ f.pos + 1 > fs.fileMax ∨
    size > f.ctzSize ∧ f.pos ≠ f.ctzSize ∧ f.ctzSize > fs.fileMax ∨ size = f.ctzSize ∧ f.pos > fs.fileMax)

theorem opened_run (fs : Fs σ) (opened : (fs.files file).flags &&& lfsFOpened ≠ 0) : (isOpened file).run fs = some (true, fs) := by
  rw [← decide_eq_true opened]
  rfl

theorem flush_idle_ends (fuel : Nat) (fs : Fs σ) (opened : (fs.files file).flags &&& lfsFOpened ≠ 0)
    (idle : (fs.files file).has .writing = false) :
    Lib.EndsSo (1 ≤ fuel) ((lfsFileFlush cfg below fuel file).run fs) (0, fs.unread file) := by
  cases fuel with
  | zero => exact Or.inr ⟨by omega, by rw [lfsFileFlush]; rfl⟩
  | succ fuel =>
      have writing : (hasFlag file .writing).run (fs.unread file) = some (false, fs.unread file) := by
        rw [← idle, ← unread_writing]
        rfl
      rw [lfsFileFlush, flushBody, Lib.Keeping.run_bind, opened_run fs opened, Option.bind_some, if_neg (fun closed => closed rfl),
        Lib.Keeping.run_bind, flush_reading_run, Option.bind_some, Lib.Keeping.run_bind, writing, Option.bind_some, if_pos nofun,
        Lib.Keeping.run_pure]
      exact Or.inl rfl

theorem set_file_same_file (fs : Fs σ) (change : File → File) (same : change (fs.files file) = fs.files file) : fs.setFile file change = fs := by
  have files : (fun other => if other = file then change (fs.files file) else fs.files other) = fs.files := by
    funext other
    by_cases here : other = file
    · rw [if_pos here, here, same]
    · rw [if_neg here]
  rw [Fs.setFile, files]

theorem write_from_refused (fuel : Nat) (data : List UInt8) (writeZero : FsM σ Int32) (fs : Fs σ)
    (stays : ¬ ((fs.files file).flags &&& lfsOAppend ≠ 0 ∧ (fs.files file).pos < (fs.files file).ctzSize))
    (beyond : (fs.files file).pos + UInt32.ofNat data.length > fs.fileMax) :
    (writeFrom cfg below fuel file data writeZero).run fs = some (lfsErrFbig, fs) := by
  have moved : (setFile file fun f => { f with pos := if f.flags &&& lfsOAppend ≠ 0 ∧ f.pos < f.ctzSize then f.ctzSize else f.pos }).run fs =
      some ((), fs) := by
    rw [setFile, Lib.Keeping.run_update, set_file_same_file]
    rw [if_neg stays]
  rw [writeFrom, Lib.Keeping.run_bind, moved, Option.bind_some, Lib.Keeping.run_bind, Lib.Keeping.run_read, Option.bind_some, if_pos beyond,
    Lib.Keeping.run_pure]

theorem write_refused_ends (fuel : Nat) (data : List UInt8) (fs : Fs σ) (opened : (fs.files file).flags &&& lfsFOpened ≠ 0)
    (refused : refusesWrite fs file (UInt32.ofNat data.length) = true) :
    Lib.EndsSo (2 ≤ fuel) ((lfsFileWrite cfg below fuel file data).run fs) (lfsErrFbig, fs.unread file) := by
  obtain ⟨idle, stays, beyond⟩ := of_decide_eq_true refused
  obtain ⟨append, pos, ctzSize, fileMax⟩ := @unread_same σ file fs lfsOAppend rfl
  cases fuel with
  | zero => exact Or.inr ⟨by omega, by rw [lfsFileWrite]; rfl⟩
  | succ fuel =>
      have last := write_from_refused cfg below fuel data (lfsFileWrite cfg below fuel file (zeros 1)) (fs.unread file)
        (by rwa [append, pos, ctzSize]) (by rwa [pos, fileMax])
      have reading : (hasFlag file .reading).run fs = some ((fs.files file).has .reading, fs) := rfl
      rw [lfsFileWrite, writeBody, Lib.Keeping.run_bind, opened_run fs opened, Option.bind_some, if_neg (fun closed => closed rfl),
        Lib.Keeping.run_bind, opened_run fs opened, Option.bind_some, if_neg (fun closed => closed rfl), Lib.Keeping.run_bind, reading,
        Option.bind_some]
      by_cases going : (fs.files file).has .reading = true
      · simp only [going, ↓reduceIte]
        rw [Lib.Keeping.run_bind]
        refine Lib.ends_so_bind (Lib.ends_so_mono (fun many => by omega) (flush_idle_ends cfg below fuel fs opened (by simpa [going] using idle))) ?_
        rw [if_neg (fun failed => failed rfl), last]
        exact Or.inl rfl
      · have kept : fs.unread file = fs := by rw [Fs.unread, if_neg going]
        rw [kept] at last ⊢
        simp only [going, Bool.false_eq_true, ↓reduceIte]
        rw [Lib.Keeping.run_bind, Lib.Keeping.run_pure, Option.bind_some, if_neg (fun failed => failed rfl), last]
        exact Or.inl rfl

theorem seek_refused_ends (fuel : Nat) (off whence : Int32) (fs : Fs σ) (opened : (fs.files file).flags &&& lfsFOpened ≠ 0)
    (idle : (fs.files file).has .writing = false)
    (beyond : (if whence = lfsSeekSet then off.toUInt32 else if whence = lfsSeekCur then (fs.files file).pos + off.toUInt32
      else if whence = lfsSeekEnd then (fs.files file).ctzSize + off.toUInt32 else (fs.files file).pos) > fs.fileMax) :
    Lib.EndsSo (1 ≤ fuel) ((lfsFileSeek cfg below fuel file off whence).run fs) (lfsErrInval, fs.unread file) := by
  obtain ⟨-, pos, ctzSize, fileMax⟩ := @unread_same σ file fs 0 UInt32.and_zero
  rw [lfsFileSeek, Lib.Keeping.run_bind, opened_run fs opened, Option.bind_some, if_neg (fun closed => closed rfl), Lib.Keeping.run_bind]
  refine Lib.ends_so_bind (flush_idle_ends cfg below fuel fs opened idle) ?_
  rw [if_neg (fun failed => failed rfl), Lib.Keeping.run_bind, Lib.Keeping.run_read, Option.bind_some]
  simp only [pos, ctzSize, fileMax]
  rw [if_pos beyond, Lib.Keeping.run_pure]
  exact Or.inl rfl

theorem grow_refused_ends (fuel : Nat) (size : UInt32) (fs : Fs σ) (opened : (fs.files file).flags &&& lfsFOpened ≠ 0)
    (idle : (fs.files file).has .writing = false) (larger : size > (fs.files file).ctzSize)
    (beyond : (fs.files file).pos = (fs.files file).ctzSize ∧ (fs.files file).pos + 1 > fs.fileMax ∨
      (fs.files file).pos ≠ (fs.files file).ctzSize ∧ (fs.files file).ctzSize > fs.fileMax) :
    ∃ result, result < 0 ∧
      Lib.EndsSo (2 ≤ fuel) ((truncateTo cfg below fuel file size (fs.files file).ctzSize).run fs) (result, fs.unread file) := by
  have position : (fileAt file).run fs = some (fs.files file, fs) := rfl
  have notSmaller : ¬ size < (fs.files file).ctzSize := UInt32.lt_asymm larger
  rw [truncateTo, if_neg notSmaller, if_pos larger, truncateGrow, Lib.Keeping.run_bind, position, Option.bind_some]
  rcases beyond with ⟨atEnd, beyond⟩ | ⟨before, beyond⟩
  · have stays : ¬ ((fs.files file).flags &&& lfsOAppend ≠ 0 ∧ (fs.files file).pos < (fs.files file).ctzSize) :=
      fun both => absurd (atEnd ▸ both.2) (UInt32.lt_irrefl _)
    have written := write_refused_ends cfg below fuel (zeros 1) fs opened
      (decide_eq_true ⟨fun both => absurd (idle.symm.trans both.2) nofun, stays, beyond⟩)
    have going : (fs.files file).pos < size := atEnd ▸ larger
    have failed : lfsErrFbig < 0 := by decide
    refine ⟨lfsErrFbig, failed, ?_⟩
    simp only [atEnd, ne_eq, not_true_eq_false, ↓reduceIte]
    rw [Lib.Keeping.run_bind, Lib.Keeping.run_pure, Option.bind_some, if_neg Int32.lt_irrefl]
    cases fuel with
    | zero => exact Or.inr ⟨by omega, rfl⟩
    | succ fuel =>
        rw [repeatWhile, Lib.Keeping.run_bind, Lib.Keeping.run_read, Option.bind_some, if_pos (decide_eq_true going), Lib.Keeping.run_bind]
        refine Lib.ends_so_bind written ?_
        rw [if_pos failed, Lib.Keeping.run_pure]
        exact Or.inl rfl
  · have sought := seek_refused_ends cfg below fuel 0 lfsSeekEnd fs opened idle
      (by
        change (fs.files file).ctzSize + 0 > fs.fileMax
        rwa [UInt32.add_zero])
    have failed : lfsErrInval < 0 := by decide
    refine ⟨lfsErrInval, failed, ?_⟩
    simp only [before, ne_eq, not_false_eq_true, ↓reduceIte]
    rw [Lib.Keeping.run_bind]
    refine Lib.ends_so_bind (Lib.ends_so_mono (fun many => by omega) sought) ?_
    rw [if_pos failed, Lib.Keeping.run_pure]
    exact Or.inl rfl

theorem truncate_refused_ends (fuel : Nat) (size : UInt32) (fs : Fs σ) (opened : (fs.files file).flags &&& lfsFOpened ≠ 0)
    (refused : refusesTruncate fs file size = true) :
    ∃ result, result < 0 ∧ ∃ last, (last = fs ∨ last = fs.unread file) ∧
      Lib.EndsSo (2 ≤ fuel) ((lfsFileTruncate cfg below fuel file size).run fs) (result, last) := by
  rw [lfsFileTruncate, Lib.Keeping.run_bind, opened_run fs opened, Option.bind_some, if_neg (fun closed => closed rfl),
    Lib.Keeping.run_bind, opened_run fs opened, Option.bind_some, if_neg (fun closed => closed rfl)]
  by_cases large : size > lfsFileMax
  · rw [if_pos large, Lib.Keeping.run_pure]
    exact ⟨_, by decide, _, Or.inl rfl, Or.inl rfl⟩
  · obtain ⟨idle, cases⟩ := (of_decide_eq_true refused).resolve_left large
    rw [Bool.not_eq_true] at idle
    have length : (fs.files file).size = (fs.files file).ctzSize := by rw [File.size, idle]; rfl
    have position : (fileAt file).run fs = some (fs.files file, fs) := rfl
    rw [if_neg large, Lib.Keeping.run_bind, position, Option.bind_some, Lib.Keeping.run_bind, length]
    by_cases larger : size > (fs.files file).ctzSize
    · have beyond : (fs.files file).pos = (fs.files file).ctzSize ∧ (fs.files file).pos + 1 > fs.fileMax ∨
          (fs.files file).pos ≠ (fs.files file).ctzSize ∧ (fs.files file).ctzSize > fs.fileMax := by
        rcases cases with ⟨_, beyond⟩ | ⟨_, beyond⟩ | ⟨same, _⟩
        · exact Or.inl beyond
        · exact Or.inr beyond
        · exact absurd (same ▸ larger) (UInt32.lt_irrefl _)
      obtain ⟨result, negative, ran⟩ := grow_refused_ends cfg below fuel size fs opened idle larger beyond
      refine ⟨result, negative, _, Or.inr rfl, Lib.ends_so_bind ran ?_⟩
      rw [if_pos (Or.inr negative), Lib.Keeping.run_pure]
      exact Or.inl rfl
    · obtain ⟨same, beyond⟩ := (cases.resolve_left fun grows => larger grows.1).resolve_left fun grows => larger grows.1
      have sought := seek_refused_ends cfg below fuel (fs.files file).pos.toInt32 lfsSeekSet fs opened idle beyond
      have failed : lfsErrInval < 0 := by decide
      refine ⟨lfsErrInval, failed, _, Or.inr rfl, ?_⟩
      rw [truncateTo, same, if_neg (UInt32.lt_irrefl _), if_neg (UInt32.lt_irrefl _), Lib.Keeping.run_pure, Option.bind_some,
        if_neg fun ends => ends.elim (fun shrinks => UInt32.lt_irrefl _ shrinks.1) Int32.lt_irrefl, Lib.Keeping.run_bind]
      refine Lib.ends_so_bind (Lib.ends_so_mono (fun many => by omega) sought) ?_
      rw [if_pos failed, Lib.Keeping.run_pure]
      exact Or.inl rfl

theorem unread_still (fs : Fs σ) (still : Still contents content file fs) : Still contents content file (fs.unread file) := by
  have rest : ({ fs.unread file with files := fs.files } : Fs σ).rest = fs.rest := by rw [(@unread_others σ file fs).2]
  refine ⟨?_, (unread_same fs readOnlyMask rfl).1.trans still.flags⟩
  exact (congrArg contents rest).trans still.shown

-- A closed handle is refused before anything else.
theorem closed_kept {α : Type} (value : α) (rest : FsM σ α) :
    Lib.Meets (Quiet contents content file lfsFOpened 0) (do
      if ¬ (← isOpened file) then
        return value
      rest) fun _ => Quiet contents content file lfsFOpened 0 := by
  refine Lib.meets_bind (fun opened fs => opened = false ∧ Quiet contents content file lfsFOpened 0 fs) ?_ fun opened => ?_
  · intro before answer after quiet ran
    cases ran
    exact ⟨by simp [quiet.flags], quiet⟩
  · refine Lib.meets_exit _ (fun _ both => both.2) fun going => ?_
    exact fun _ _ _ both _ => absurd both.1 (by simpa using going)

end

end SDCardFs.Littlefs
