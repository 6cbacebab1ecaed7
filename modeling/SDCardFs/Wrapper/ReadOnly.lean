import SDCardFs.Littlefs.Readers
import SDCardFs.Wrapper.Opening

set_option autoImplicit false

namespace SDCardFs.Wrapper

open SDCardFs.Littlefs

section
variable {σ γ : Type} (cfg : Config) (below : Below σ) (number : Nat)

-- The calls that file_write and file_truncate refuse whatever the mode.
def Call.refused (fs : Fs σ) : Call → Bool
  | .fileWrite file buffer => file = number ∧ refusesWrite fs (.handle number) (UInt32.ofNat buffer.length)
  | .fileTruncate file length => file = number ∧ refusesTruncate fs (.handle number) length
  | _ => false

-- The calls on one handle that only opens for reading, with none of the flags
-- that make an open write, and only has its writes refused.
def readOnlyCall (before : Caller σ) : Call → Bool
  | .fileOpen file _ flags => file = number ∧ opensReadOnly flags
  | .fileWrite file buffer =>
      file = number ∧ (before.fs.flags number &&& lfsFOpened = 0 ∨ Call.refused number before.fs (.fileWrite file buffer))
  | .fileTruncate file length =>
      file = number ∧ (before.fs.flags number &&& lfsFOpened = 0 ∨ Call.refused number before.fs (.fileTruncate file length))
  | .fileClose file => file = number
  | .fileRead file _ => file = number
  | .fileSync file => file = number
  | .fileSeek file _ _ => file = number
  | .fileTell file => file = number
  | .fileSize file => file = number
  | _ => false

theorem refused_run (fuel : Nat) (call : Call) (fs : Fs σ) (opened : fs.flags number &&& lfsFOpened ≠ 0)
    (refused : call.refused number fs = true) :
    ∃ result last, (call.perform cfg below (fuel + 2)).run fs = some (result, last) ∧ Refused (.handle number) fs last result := by
  cases call with
  | fileWrite file buffer =>
      obtain ⟨rfl, refused⟩ := of_decide_eq_true refused
      have written := write_refused_ends cfg below (fuel + 2) buffer fs opened refused
      exact ⟨_, _, Lib.ends_so_enough written (by omega), unread_refused fs _ (by decide)⟩
  | fileTruncate file length =>
      obtain ⟨rfl, refused⟩ := of_decide_eq_true refused
      obtain ⟨result, negative, last, ended, cut⟩ := truncate_refused_ends cfg below (fuel + 2) length fs opened refused
      refine ⟨result, last, Lib.ends_so_enough cut (by omega), ?_⟩
      rcases ended with rfl | rfl
      · exact kept_refused _ result negative
      · exact unread_refused _ result negative
  | _ => exact absurd refused Bool.false_ne_true

section
variable {contents : σ → γ} {content : γ}

-- What the card contains is as it was, and an open handle has nothing to write.
structure Harmless (contents : σ → γ) (content : γ) (fs : Fs σ) : Prop where
  shown : contents fs.rest = content
  still : fs.flags number &&& lfsFOpened ≠ 0 → fs.flags number &&& readOnlyMask = lfsORdonly

theorem still_harmless (fs : Fs σ) (still : Still contents content (.handle number) fs) : Harmless number contents content fs :=
  ⟨still.shown, fun _ => still.flags⟩

theorem closed_harmless (fs : Fs σ) (quiet : Quiet contents content (.handle number) lfsFOpened 0 fs) : Harmless number contents content fs :=
  ⟨quiet.shown, fun opened => absurd quiet.flags opened⟩

theorem result_meets {α : Type} {pre post : Fs σ → Prop} (call : FsM σ (Int32 × α)) (meets : Lib.Meets pre call fun _ => post) :
    Lib.Meets pre (Prod.fst <$> call) fun _ => post :=
  Lib.meets_bind (fun _ => post) meets fun _ => Lib.meets_pure _ fun _ met => met

theorem closed_call_harmless (shows : below.Shows contents) (fuel : Nat) (call : Call) (before : Caller σ)
    (allowed : readOnlyCall number before call = true) :
    Lib.Takes (Quiet contents content (.handle number) lfsFOpened 0) (call.perform cfg below fuel) fun _ => Harmless number contents content := by
  have kept {rest : FsM σ Int32} (closed : Lib.Meets (Quiet contents content (.handle number) lfsFOpened 0) rest fun _ =>
      Quiet contents content (.handle number) lfsFOpened 0) :
      Lib.Takes (Quiet contents content (.handle number) lfsFOpened 0) (keep rest) fun _ => Harmless number contents content :=
    Lib.takes_mono closed (fun _ quiet => quiet) fun _ fs quiet => closed_harmless number fs quiet
  cases call with
  | fileOpen file path flags =>
      obtain ⟨rfl, readOnly⟩ := of_decide_eq_true allowed
      intro fs result last quiet ran
      refine still_harmless file last (opencfg_still cfg below shows fuel path flags defaults readOnly fs result last quiet.shown ?_)
      rw [← ran, Call.perform, fileOpen]
      simp [StateT.run_bind, StateT.run_get, lfsFileOpen, Fs.flags, quiet.flags]
  | fileClose file =>
      obtain rfl := of_decide_eq_true allowed
      intro fs result last quiet ran
      rw [Call.perform, close_closed_refused cfg below fuel file fs quiet.flags] at ran
      cases ran
      exact closed_harmless file fs quiet
  | fileRead file buffer =>
      obtain rfl := of_decide_eq_true allowed
      refine kept (result_meets _ ?_)
      cases fuel with
      | zero => exact Lib.meets_never
      | succ fuel => exact closed_kept _ _
  | fileWrite file buffer =>
      obtain ⟨rfl, _⟩ := of_decide_eq_true allowed
      refine kept ?_
      cases fuel with
      | zero => exact Lib.meets_never
      | succ fuel => exact closed_kept _ _
  | fileSync file =>
      obtain rfl := of_decide_eq_true allowed
      exact kept (closed_kept _ _)
  | fileSeek file offset whence =>
      obtain rfl := of_decide_eq_true allowed
      exact kept (closed_kept _ _)
  | fileTell file =>
      obtain rfl := of_decide_eq_true allowed
      exact kept (closed_kept _ _)
  | fileSize file =>
      obtain rfl := of_decide_eq_true allowed
      exact kept (closed_kept _ _)
  | fileTruncate file length =>
      obtain ⟨rfl, _⟩ := of_decide_eq_true allowed
      exact kept (closed_kept _ _)
  | _ => exact absurd allowed Bool.false_ne_true

theorem view_still {file : FileAt} (view : File → Int32) : Lib.Meets (Still contents content file)
    (do
      if ¬ (← isOpened file) then
        return lfsErrNotopen
      return view (← fileAt file)) fun _ => Still contents content file := by
  refine Lib.meets_bind _ (view_quiet _) fun _ => ?_
  refine Lib.meets_exit _ (fun _ still => still) fun _ => ?_
  exact Lib.meets_bind _ (view_quiet _) fun _ => Lib.meets_pure _ fun _ still => still

theorem opened_call_harmless (shows : below.Shows contents) (fuel : Nat) (call : Call) (before : Caller σ)
    (allowed : readOnlyCall number before call = true) (opened : before.fs.flags number &&& lfsFOpened ≠ 0)
    (still : Still contents content (.handle number) before.fs) (result : Int32) (after : Fs σ)
    (ran : (call.perform cfg below fuel).run before.fs = some (result, after)) : Harmless number contents content after := by
  have kept {call : FsM σ Int32} (stays : Lib.Meets (Still contents content (.handle number)) call fun _ => Still contents content (.handle number))
      (ran : (keep call).run before.fs = some (result, after)) : Harmless number contents content after :=
    still_harmless number after (stays before.fs result after still ran)
  cases call with
  | fileOpen file path flags =>
      obtain ⟨rfl, _⟩ := of_decide_eq_true allowed
      rw [Call.perform, open_open_refused cfg below fuel file path flags before.fs opened] at ran
      cases ran
      exact still_harmless file before.fs still
  | fileClose file =>
      obtain rfl := of_decide_eq_true allowed
      refine still_harmless file after (close_still cfg below fuel before.fs result after still ?_)
      rw [← ran, Call.perform, fileClose]
      simp [StateT.run_bind, StateT.run_get, opened]
  | fileRead file buffer =>
      obtain rfl := of_decide_eq_true allowed
      exact kept (result_meets _ (read_still cfg below shows fuel buffer)) ran
  | fileWrite file buffer =>
      obtain ⟨rfl, refused⟩ := of_decide_eq_true allowed
      obtain ⟨_, refused⟩ := of_decide_eq_true (refused.resolve_left opened)
      cases Lib.ends_so_ran (write_refused_ends cfg below fuel buffer before.fs opened refused) _ ran
      exact still_harmless file _ (unread_still before.fs still)
  | fileSync file =>
      obtain rfl := of_decide_eq_true allowed
      exact kept (sync_still cfg below fuel) ran
  | fileSeek file offset whence =>
      obtain rfl := of_decide_eq_true allowed
      exact kept (seek_still cfg below fuel offset whence) ran
  | fileTell file =>
      obtain rfl := of_decide_eq_true allowed
      exact kept (view_still fun f => f.pos.toInt32) ran
  | fileSize file =>
      obtain rfl := of_decide_eq_true allowed
      exact kept (view_still fun f => f.size.toInt32) ran
  | fileTruncate file length =>
      obtain ⟨rfl, refused⟩ := of_decide_eq_true allowed
      obtain ⟨_, refused⟩ := of_decide_eq_true (refused.resolve_left opened)
      obtain ⟨_, _, last, ended, cut⟩ := truncate_refused_ends cfg below fuel length before.fs opened refused
      cases Lib.ends_so_ran cut _ ran
      rcases ended with rfl | rfl
      · exact still_harmless file _ still
      · exact still_harmless file _ (unread_still before.fs still)
  | _ => exact absurd allowed Bool.false_ne_true

theorem call_harmless (shows : below.Shows contents) (before : Caller σ) (input : Call × Int32) (after : Caller σ)
    (harmless : Harmless number contents content before.fs) (step : GuardedStep cfg below (readOnlyCall number) before input after) :
    Harmless number contents content after.fs := by
  obtain ⟨allowed, _, _, fuel, ran⟩ := step
  by_cases closed : before.fs.flags number &&& lfsFOpened = 0
  · exact closed_call_harmless cfg below number shows fuel input.1 before allowed before.fs input.2 after.fs ⟨harmless.shown, closed⟩ ran
  · exact opened_call_harmless cfg below number shows fuel input.1 before allowed closed ⟨harmless.shown, harmless.still closed⟩ input.2
      after.fs ran

end

end

section
variable {σ γ : Type} (cfg : Config) (below : Below σ) {contents : σ → γ}

-- A write or a truncate that is refused fails and leaves the handle and the
-- filesystem alone, and no calls on a handle that only has such change the card.
-- A read is refused for no mode: it gives the bytes at the position.
theorem read_only_handles_change_nothing (shows : below.Shows contents) :
    (∀ (fs : Fs σ) (number fuel : Nat) (call : Call), fs.flags number &&& lfsFOpened ≠ 0 → call.refused number fs = true →
      ∃ result last, (call.perform cfg below (fuel + 2)).run fs = some (result, last) ∧ Refused (.handle number) fs last result) ∧
    (∀ (number : Nat) (start after : Caller σ) (inputs : List (Call × Int32)), start.fs.flags number &&& lfsFOpened = 0 →
      Lib.Run (GuardedStep cfg below (readOnlyCall number)) start inputs after →
      contents after.fs.rest = contents start.fs.rest ∧
        (after.fs.flags number &&& lfsFOpened ≠ 0 → after.fs.flags number &&& readOnlyMask = lfsORdonly)) ∧
    ∀ (fs : Fs σ) (number fuel : Nat) (image : σ → Image) (content : List UInt8) (pos : Nat) (buffer : List UInt8),
      Paged cfg → 128 ≤ cfg.blockSize.toNat → below.Holds image →
      Cursor cfg (image fs.rest) content pos (fs.files (.handle number)) → buffer.length < fuel → buffer.length < 2 ^ 31 →
      ∃ result after, 0 ≤ result ∧ (lfsFileRead cfg below fuel (.handle number) buffer).run fs =
        some ((result, (content.drop pos).take buffer.length ++ buffer.drop ((content.drop pos).take buffer.length).length), after) := by
  refine ⟨fun fs number fuel call opened refused => refused_run cfg below number fuel call fs opened refused, ?_, ?_⟩
  · intro number start after inputs closed ran
    have harmless := Lib.run_invariant (fun caller => Harmless number contents (contents start.fs.rest) caller.fs)
      (call_harmless cfg below number shows) ran ⟨rfl, fun opened => absurd closed opened⟩
    exact ⟨harmless.shown, harmless.still⟩
  · intro fs number fuel image content pos buffer paged large holds cursor enough short
    obtain ⟨f, card, ran, -⟩ := read_reader cfg below (.handle number) fs cursor paged holds large fuel buffer enough (by omega)
    refine ⟨_, _, ?_, ran⟩
    have bound : ((content.drop pos).take buffer.length).length ≤ buffer.length := by
      rw [List.length_take]
      exact Nat.min_le_left _ _
    rw [Int32.le_iff_toInt_le, Int32.toInt_ofInt_of_le (by omega) (by omega)]
    exact Int.natCast_nonneg _

end

-- The card with fileImage's a made b, in the other block of the pair.
def overwrittenCommit : List UInt8 := createdCommit.take 53 ++ [0x62, 0x70, 0x1f, 0xf9, 0xc7, 0x2a, 0x5d, 0xd5, 0x9f]

def overwrittenImage : Image := fun block off => if block = 1 then overwrittenCommit.getD off.toNat 0xff else fileImage block off

def overwriteBelow : Below Image where
  access := imageServer
  erase _ image := some (0, image)
  alloc := pure (lfsErrNospc, 0)
  dirCommit _ dir _ := do
    onRest fun _ => some ((), overwrittenImage)
    return (0, { dir with pair := ⟨1, 0⟩, rev := 5, off := 512, etag := 0x500ffdc6, count := 2 })
  deorphan := pure 0

theorem overwrite_shows : overwriteBelow.Shows id := by
  intro block off size card answer after served
  cases served
  rfl

def bufferedCaller (lfs : Lfs) (rcache : Cache) : Caller Image := ⟨lfs.mounted rcache (some ⟨some fun _ => 0, []⟩) fileImage, fun _ => false⟩

-- A handle that is open for reading takes a write, and its close commits it.
-- One that is open for writing gives what was written to it.
theorem read_only_handle_overwrites : ∃ lfs rcache, fileMount = some (0, lfs, rcache) ∧
    (∃ opened written closed,
      (fileOpen (sectorConfig 16) overwriteBelow 9 0 [0x61] lfsORdonly).run (bufferedCaller lfs rcache).fs = some (0, opened) ∧
      ((Call.fileWrite 0 [0x62]).perform (sectorConfig 16) overwriteBelow 9).run opened = some (1, written) ∧
      ¬ Refused (.handle 0) opened written 1 ∧
      ((Call.fileClose 0).perform (sectorConfig 16) overwriteBelow 9).run written = some (0, closed) ∧ closed.rest ≠ opened.rest) ∧
    ∃ opened written sought last,
      (fileOpen (sectorConfig 16) overwriteBelow 9 0 [0x61] lfsOWronly).run (bufferedCaller lfs rcache).fs = some (0, opened) ∧
      ((Call.fileWrite 0 [0x62]).perform (sectorConfig 16) overwriteBelow 9).run opened = some (1, written) ∧
      ((Call.fileSeek 0 0 lfsSeekSet).perform (sectorConfig 16) overwriteBelow 9).run written = some (0, sought) ∧
      (lfsFileRead (sectorConfig 16) overwriteBelow 9 (.handle 0) [0]).run sought = some ((1, [0x62]), last) := by
  have reader : (fileMount.bind fun mounted => do
      let (err, opened) ← (fileOpen (sectorConfig 16) overwriteBelow 9 0 [0x61] lfsORdonly).run (bufferedCaller mounted.2.1 mounted.2.2).fs
      let (wrote, written) ← ((Call.fileWrite 0 [0x62]).perform (sectorConfig 16) overwriteBelow 9).run opened
      let (shut, closed) ← ((Call.fileClose 0).perform (sectorConfig 16) overwriteBelow 9).run written
      return (mounted.1, err, wrote, shut, opened.rest 1 53, closed.rest 1 53)) = some (0, 0, 1, 0, 0xff, 0x62) := by
    decide +kernel
  have writer : (fileMount.bind fun mounted => do
      let (err, opened) ← (fileOpen (sectorConfig 16) overwriteBelow 9 0 [0x61] lfsOWronly).run (bufferedCaller mounted.2.1 mounted.2.2).fs
      let (wrote, written) ← ((Call.fileWrite 0 [0x62]).perform (sectorConfig 16) overwriteBelow 9).run opened
      let (pos, sought) ← ((Call.fileSeek 0 0 lfsSeekSet).perform (sectorConfig 16) overwriteBelow 9).run written
      let (got, _) ← (lfsFileRead (sectorConfig 16) overwriteBelow 9 (.handle 0) [0]).run sought
      return (err, wrote, pos, got)) = some (0, 1, 0, 1, [0x62]) := by
    decide +kernel
  obtain ⟨⟨err, lfs, rcache⟩, mounted, known⟩ := Option.bind_eq_some_iff.mp reader
  obtain ⟨⟨openErr, opened⟩, openedRun, known⟩ := Option.bind_eq_some_iff.mp known
  obtain ⟨⟨wrote, written⟩, writtenRun, known⟩ := Option.bind_eq_some_iff.mp known
  obtain ⟨⟨shut, closed⟩, closedRun, known⟩ := Option.bind_eq_some_iff.mp known
  simp only [pure, Option.some.injEq, Prod.mk.injEq] at known
  obtain ⟨rfl, rfl, rfl, rfl, before, after⟩ := known
  rw [mounted, Option.bind_some] at writer
  obtain ⟨⟨modeErr, ready⟩, readyRun, known⟩ := Option.bind_eq_some_iff.mp writer
  obtain ⟨⟨again, ahead⟩, aheadRun, known⟩ := Option.bind_eq_some_iff.mp known
  obtain ⟨⟨pos, sought⟩, soughtRun, known⟩ := Option.bind_eq_some_iff.mp known
  obtain ⟨⟨got, last⟩, lastRun, known⟩ := Option.bind_eq_some_iff.mp known
  cases known
  refine ⟨lfs, rcache, mounted, ⟨opened, written, closed, openedRun, writtenRun, ?_, closedRun, fun same => ?_⟩,
    ⟨ready, ahead, sought, last, readyRun, aheadRun, soughtRun, lastRun⟩⟩
  · exact fun refused => absurd refused.negative (by decide)
  · rw [← same, after] at before
    exact absurd before (by decide)

def readOnlyCalls : List Call := [.fileOpen 0 [0x61] lfsORdonly, .fileSeek 0 0x7fffffff lfsSeekSet, .fileWrite 0 [0x62],
  .fileTruncate 0 0x80000000, .fileRead 0 [0], .fileClose 0, .fileWrite 0 [0x62]]

def byteHandle (f : File) : Bool :=
  f.flags &&& 3 = lfsOWronly ∧ f.flags &&& lfsFOpened ≠ 0 ∧ f.has .writing = false ∧ f.ctzSize = 1 ∧ f.pos = 0 ∧ f.has .inline = true ∧
    f.cache.block = lfsBlockInline ∧ f.cache.off = 0 ∧ f.cache.size = 512 ∧ f.has .reading = false

theorem byte_handle_cursor (image : Image) (f : File) (byte : byteHandle f = true) :
    Cursor (sectorConfig 16) image [f.cache.buffer 0] 0 f := by
  obtain ⟨_, opened, idle, size, pos, inline, block, off, cache, unread⟩ := of_decide_eq_true byte
  refine ⟨opened, idle, by rw [size]; rfl, by rw [pos]; rfl, Or.inl ⟨inline, block, off, cache, by rw [size]; decide, ?_, ?_⟩⟩
  · rw [size]
    rfl
  · exact fun reading => absurd (unread.symm.trans reading) (by decide)

theorem overwrite_holds : overwriteBelow.Holds id := fun _ _ _ card => ⟨card, rfl, rfl⟩

-- Refused for want of room, for the length, and with the handle closed. The
-- handle that is open for writing is read.
theorem read_only_calls_refused : ∃ start inputs after opened,
    Lib.Run (GuardedStep (sectorConfig 16) overwriteBelow (readOnlyCall 0)) start inputs after ∧
    inputs.map Prod.snd = [0, 0x7fffffff, lfsErrFbig, lfsErrInval, 0, 0, lfsErrNotopen] ∧ start.fs.rest = fileImage ∧ after.fs.rest = fileImage ∧
    (∃ result last, ((Call.fileWrite 0 [0x62]).perform (sectorConfig 16) overwriteBelow 9).run opened = some (result, last) ∧
      Refused (.handle 0) opened last result) ∧
    ∃ writer last, (fileOpen (sectorConfig 16) overwriteBelow 9 0 [0x61] lfsOWronly).run start.fs = some (0, writer) ∧
      writer.flags 0 &&& 3 = lfsOWronly ∧
      ∃ result, 0 ≤ result ∧ (lfsFileRead (sectorConfig 16) overwriteBelow 9 (.handle 0) [0]).run writer =
        some ((result, [(writer.files (.handle 0)).cache.buffer 0]), last) := by
  have evaluated : (fileMount.bind fun mounted => ((bufferedCaller mounted.2.1 mounted.2.2).calls (sectorConfig 16) overwriteBelow
      (readOnlyCall 0) 9 readOnlyCalls).map fun ran => (mounted.1, ran.1.map Prod.snd)) =
      some (0, [0, 0x7fffffff, lfsErrFbig, lfsErrInval, 0, 0, lfsErrNotopen]) := by
    decide +kernel
  have full : (fileMount.bind fun mounted => ((bufferedCaller mounted.2.1 mounted.2.2).calls (sectorConfig 16) overwriteBelow
      (readOnlyCall 0) 9 (readOnlyCalls.take 2)).map fun ran =>
        (ran.2.fs.flags 0 &&& lfsFOpened, (Call.fileWrite 0 [0x62]).refused 0 ran.2.fs)) = some (lfsFOpened, true) := by
    decide +kernel
  have writes : (fileMount.bind fun mounted =>
      ((fileOpen (sectorConfig 16) overwriteBelow 9 0 [0x61] lfsOWronly).run (bufferedCaller mounted.2.1 mounted.2.2).fs).map
        fun ran => (ran.1, byteHandle (ran.2.files (.handle 0)))) = some (0, true) := by
    decide +kernel
  obtain ⟨⟨err, lfs, rcache⟩, mounted, known⟩ := Option.bind_eq_some_iff.mp evaluated
  obtain ⟨⟨inputs, after⟩, called, same⟩ := Option.map_eq_some_iff.mp known
  obtain ⟨rfl, results⟩ := Prod.mk.inj same
  rw [mounted, Option.bind_some] at full writes
  obtain ⟨⟨_, sought⟩, _, same⟩ := Option.map_eq_some_iff.mp full
  obtain ⟨opened, refused⟩ := Prod.mk.inj same
  obtain ⟨⟨opens, writer⟩, openRan, same⟩ := Option.map_eq_some_iff.mp writes
  obtain ⟨rfl, byte⟩ := Prod.mk.inj same
  have mode : (writer.files (.handle 0)).flags &&& 3 = lfsOWronly := (of_decide_eq_true byte).1
  have ran := calls_run _ _ _ _ _ _ _ _ called
  obtain ⟨refuses, keeps, reads⟩ := read_only_handles_change_nothing (sectorConfig 16) overwriteBelow overwrite_shows
  have kept := keeps 0 (bufferedCaller lfs rcache) after inputs (mounted_closed lfs rcache _ fileImage 0) ran
  obtain ⟨result, last, positive, got⟩ := reads writer 0 9 id _ 0 [0] ⟨rfl, rfl, rfl, by decide, by decide⟩ (by decide) overwrite_holds
    (byte_handle_cursor writer.rest _ byte) (by decide) (by decide)
  refine ⟨bufferedCaller lfs rcache, inputs, after, sought.fs, ran, results, rfl, kept.1, ?_, writer, last, openRan, mode, result, positive, got⟩
  exact refuses sought.fs 0 7 (.fileWrite 0 [0x62]) (by rw [opened]; decide) refused

end SDCardFs.Wrapper
