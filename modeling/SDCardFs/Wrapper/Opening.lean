import SDCardFs.Littlefs.Reading
import SDCardFs.Wrapper.Handles

set_option autoImplicit false

namespace SDCardFs.Wrapper

open SDCardFs.Littlefs

section
variable {σ γ : Type} (cfg : Config) (below : Below σ)

-- The states lfs_file_opencfg goes through: the handle set up, its mdir and id
-- known, and the handle in the list.
def Fs.opening (fs : Fs σ) (file : FileAt) (flags : UInt32) (config : FileConfig) : Fs σ :=
  (fs.setFile file fun f => { f with cfg := f.cfg <|> some config, pos := 0, off := 0 }).setFlags file fun _ => flags ||| lfsFOpened

def Fs.located (fs : Fs σ) (file : FileAt) (found : Found) : Fs σ :=
  fs.setNode (.file file) fun node => { node with m := found.dir, id := found.id }

def Fs.listing (fs : Fs σ) (file : FileAt) (found : Found) : Fs σ :=
  let typed := (Fs.located fs file found).setNode (.file file) fun node => { node with type := lfsTypeReg }
  { typed with links := { typed.links.setNext (.file file) typed.links.head with head := some (.file file) } }

def Missing (found : Found) : Prop := found.tag < 0 ∧ ¬ (found.tag = lfsErrNoent ∧ found.id ≠ 0x3ff)

instance (found : Found) : Decidable (Missing found) := inferInstanceAs (Decidable (_ ∧ _))

def newEntry (fs : Fs σ) (file : FileAt) (path : Path) : List Mattr :=
  let id := (fs.nodes (.file file)).id.toUInt32
  [⟨lfsMktag lfsTypeCreate id 0, .null⟩, ⟨lfsMktag lfsTypeReg id (UInt32.ofNat path.length), .bytes path⟩, ⟨lfsMktag lfsTypeInlinestruct id 0, .null⟩]

def attrsOf (fs : Fs σ) (file : FileAt) : List Attr := ((fs.files file).cfg.map FileConfig.attrs).getD []

def bufferOf (fs : Fs σ) (file : FileAt) : Option (Nat → UInt8) := (fs.files file).cfg.bind FileConfig.buffer

theorem consistent_run (fs : Fs σ) (flags : UInt32) (move : lfsGstateHasmove fs.gdisk = false) (orphans : lfsGstateHasorphans fs.gstate = false) :
    (openConsistent cfg below flags).run fs = some (0, fs) := by
  have demoved : (lfsFsDemove cfg below).run fs = some (0, fs) := by
    rw [lfsFsDemove, Lib.Keeping.run_bind, Lib.Keeping.run_read, Option.bind_some, if_pos (by simp [move]), Lib.Keeping.run_pure]
  have deorphaned : (lfsFsDeorphan below).run fs = some (0, fs) := by
    rw [lfsFsDeorphan, Lib.Keeping.run_bind, Lib.Keeping.run_read, Option.bind_some, if_pos (by simp [orphans]), Lib.Keeping.run_pure]
  rw [openConsistent]
  split
  · rw [lfsFsForceconsistency, Lib.Keeping.run_bind, demoved, Option.bind_some, if_neg (fun failed => failed rfl), deorphaned]
  · rw [Lib.Keeping.run_pure]

theorem file_open_run (fuel file : Nat) (path : Path) (flags : UInt32) (fs : Fs σ) (closed : fs.flags file &&& lfsFOpened = 0)
    (move : lfsGstateHasmove fs.gdisk = false) (orphans : lfsGstateHasorphans fs.gstate = false) :
    (fileOpen cfg below fuel file path flags).run fs =
      ((openFind cfg below fuel (.handle file) path).run (Fs.opening fs (.handle file) flags defaults)).bind fun found =>
        ((openFound cfg below (.handle file) flags found.1).run found.2).bind fun ended =>
          if ended.1 ≠ 0 then ((openCleanup cfg below fuel (.handle file)).run ended.2).map fun cleaned => (ended.1, cleaned.2)
          else some (0, ended.2) := by
  have consistent : (keep (openConsistent cfg below flags)).run fs = some (0, fs) := consistent_run cfg below fs flags move orphans
  have setup : (openSetup (.handle file) flags defaults).run fs = some ((), Fs.opening fs (.handle file) flags defaults) := rfl
  simp only [fileOpen, StateT.run_bind, StateT.run_get, Option.pure_def, Option.bind_eq_bind, Option.bind_some]
  rw [if_neg (fun opened => opened closed), lfsFileOpen, lfsFileOpencfg, StateT.run_bind, consistent]
  simp only [Option.bind_eq_bind, Option.bind_some, ne_eq, not_true_eq_false, ↓reduceIte, StateT.run_bind, setup]
  refine congrArg _ (funext fun found => congrArg _ (funext fun ended => ?_))
  by_cases failed : ended.1 = 0
  · simp [failed]
  · simp only [failed, not_false_eq_true, ↓reduceIte, StateT.run_bind]
    cases (openCleanup cfg below fuel (.handle file)).run ended.2 with
    | none => rfl
    | some cleaned => rfl

theorem open_found_run (file : FileAt) (flags : UInt32) (found : Found) (fs : Fs σ) :
    (openFound cfg below file flags found).run fs =
      if Missing found then some (found.tag, Fs.located fs file found) else (openLoad cfg below file flags found).run (Fs.listing fs file found) := by
  by_cases missing : Missing found
  · rw [if_pos missing]
    simp only [openFound, StateT.run_bind]
    exact if_pos missing ▸ rfl
  · rw [if_neg missing]
    simp only [openFound, StateT.run_bind]
    exact if_neg missing ▸ rfl

-- A new entry is committed before the attributes and the buffer are looked at.
theorem creating_load_run (file : FileAt) (flags : UInt32) (found : Found) (fs : Fs σ) (creates : Creates flags found.tag found.path fs) :
    (openLoad cfg below file flags found).run fs =
      ((commitNode below (.file file) (newEntry fs file found.path)).run fs).bind fun committed =>
        if committed.1 ≠ 0 then some (lfsErrNametoolong, committed.2)
        else ((fetchAttrs cfg below file (attrsOf committed.2 file)).run committed.2).bind fun fetched =>
          if fetched.1 ≠ 0 then some fetched
          else (openBuffer cfg below file (lfsMktag lfsTypeInlinestruct 0 0)).run fetched.2 := by
  obtain ⟨missing, creat, fits⟩ := creates
  have entry : (openEntry cfg below file flags found.tag found.path).run fs =
      ((commitNode below (.file file) (newEntry fs file found.path)).run fs).map fun committed =>
        (if committed.1 ≠ 0 then lfsErrNametoolong else (lfsMktag lfsTypeInlinestruct 0 0).toInt32, committed.2) := by
    rw [openEntry, Lib.Keeping.run_bind, Lib.Keeping.run_read, Option.bind_some]
    simp only [missing, creat, fits, ↓reduceIte]
    rw [Lib.Keeping.run_bind]
    change ((commitNode below (.file file) (newEntry fs file found.path)).run fs).bind _ = _
    cases (commitNode below (.file file) (newEntry fs file found.path)).run fs with
    | none => rfl
    | some committed => rfl
  rw [openLoad, Lib.Keeping.run_bind, entry]
  cases (commitNode below (.file file) (newEntry fs file found.path)).run fs with
  | none => rfl
  | some committed =>
      simp only [Option.map_some, Option.bind_some]
      by_cases failed : committed.1 = 0
      · simp only [failed, ne_eq, not_true_eq_false, ↓reduceIte]
        rw [if_neg (by decide), Lib.Keeping.run_bind]
        change ((fetchAttrs cfg below file (attrsOf committed.2 file)) >>= _).run committed.2 = _
        rw [Lib.Keeping.run_bind]
        refine congrArg _ (funext fun fetched => ?_)
        by_cases refused : fetched.1 = 0
        · simp only [refused, not_true_eq_false, ↓reduceIte]
          rfl
        · simp only [refused, not_false_eq_true, ↓reduceIte]
          rfl
      · simp only [failed, ne_eq, not_false_eq_true, ↓reduceIte]
        rfl

theorem no_buffer_run (file : FileAt) (tag : UInt32) (fs : Fs σ) (missing : bufferOf fs file = none) :
    (openBuffer cfg below file tag).run fs = some (lfsErrNomem, fs) := by
  have looked : (fileAt file).run fs = some (fs.files file, fs) := rfl
  rw [bufferOf] at missing
  rw [openBuffer, Lib.Keeping.run_bind, looked, Option.bind_some]
  simp only [missing]
  rfl

theorem new_buffer_run (file : FileAt) (fs : Fs σ) (given : bufferOf fs file ≠ none) :
    ∃ after, (openBuffer cfg below file (lfsMktag lfsTypeInlinestruct 0 0)).run fs = some (0, after) := by
  obtain ⟨buffer, known⟩ := Option.ne_none_iff_exists'.mp given
  have looked : (fileAt file).run fs = some (fs.files file, fs) := rfl
  rw [bufferOf] at known
  rw [openBuffer, Lib.Keeping.run_bind, looked, Option.bind_some]
  simp only [known]
  exact ⟨_, rfl⟩

theorem close_erred_run (fuel number : Nat) (fs : Fs σ) (opened : fs.flags number &&& lfsFOpened ≠ 0)
    (erred : (fs.files (.handle number)).has .erred = true) :
    (lfsFileClose cfg below fuel (.handle number)).run fs =
      (fs.links.unlink (.file (.handle number)) fuel none).map fun links =>
        (0, ({ fs with links := links } : Fs σ).setFlags (.handle number) fun flags => flags &&& ~~~lfsFOpened) := by
  have looked : (keep (isOpened (.handle number))).run fs = some (true, fs) := by
    rw [← decide_eq_true opened]
    rfl
  have synced : (keep (lfsFileSync cfg below fuel (.handle number))).run fs = some (0, fs) := sync_erred_run cfg below fuel fs opened erred
  rw [lfsFileClose, StateT.run_bind, looked]
  simp only [Option.bind_eq_bind, Option.bind_some, not_true_eq_false, ↓reduceIte, StateT.run_bind, synced]
  change ((fs.links.unlink (.file (.handle number)) fuel none).map _).bind _ = _
  cases fs.links.unlink (.file (.handle number)) fuel none with
  | none => rfl
  | some links => rfl

def Fs.marked (fs : Fs σ) (number : Nat) : Fs σ := fs.setFlags (.handle number) fun flags => flags ||| lfsFErred

theorem cleanup_run (fuel number : Nat) (fs : Fs σ) (opened : fs.flags number &&& lfsFOpened ≠ 0) :
    (openCleanup cfg below fuel (.handle number)).run fs =
      (fs.links.unlink (.file (.handle number)) fuel none).map fun links =>
        ((), ({ Fs.marked fs number with links := links } : Fs σ).setFlags (.handle number) fun flags => flags &&& ~~~lfsFOpened) := by
  have marked : (Fs.marked fs number).flags number = fs.flags number ||| lfsFErred := by
    rw [Fs.marked, set_flags_number, if_pos rfl]
  have still : (Fs.marked fs number).flags number &&& lfsFOpened ≠ 0 := by
    rw [marked]
    exact set_flag_opened (fs.flags number) .erred ▸ opened
  have erred : ((Fs.marked fs number).files (.handle number)).has .erred = true := by
    refine decide_eq_true ?_
    rw [← Fs.flags, marked]
    exact set_mask _ _ (by decide)
  rw [openCleanup, StateT.run_bind]
  change ((lfsFileClose cfg below fuel (.handle number)) >>= fun _ => pure ()).run (Fs.marked fs number) = _
  rw [StateT.run_bind, close_erred_run cfg below fuel number _ still erred]
  change ((fs.links.unlink (.file (.handle number)) fuel none).map _).bind _ = _
  cases fs.links.unlink (.file (.handle number)) fuel none with
  | none => rfl
  | some links => rfl

-- What a failed file_open leaves: the entries on the card as they were, and
-- the handle closed and out of the list.
structure CleanFailure (entries : σ → γ) (file : Nat) (before after : Fs σ) : Prop where
  entries : entries after.rest = entries before.rest
  closed : after.flags file &&& lfsFOpened = 0
  unlisted : ∃ list, after.links.Spells list ∧ .file (.handle file) ∉ list

def FailsClean (entries : σ → γ) (deviceFailure : Int32 → Prop) (fuel file : Nat) (path : Path) (flags : UInt32) (fs : Fs σ) : Prop :=
  ∀ err after, (fileOpen cfg below fuel file path flags).run fs = some (err, after) → err < 0 → ¬ deviceFailure err →
    CleanFailure entries file fs after

-- The new entry gets onto the card, and then its commit, the attributes or the
-- missing buffer make the call fail.
def StrandsEntry (entries : σ → γ) (deviceFailure : Int32 → Prop) (file : FileAt) (flags : UInt32) (found : Found) (looked : Fs σ)
    (content : γ) : Prop :=
  found.id ≠ 0x3ff ∧ Creates flags found.tag found.path looked ∧ ∃ err created,
    (commitNode below (.file file) (newEntry (Fs.listing looked file found) file found.path)).run (Fs.listing looked file found) =
      some (err, created) ∧ entries created.rest ≠ content ∧
    (err ≠ 0 ∨ ∃ attrErr fetched, (fetchAttrs cfg below file (attrsOf created file)).run created = some (attrErr, fetched) ∧
      if attrErr = 0 then bufferOf fetched file = none else ¬ deviceFailure attrErr)

def Strands (entries : σ → γ) (deviceFailure : Int32 → Prop) (fuel file : Nat) (path : Path) (flags : UInt32) (fs : Fs σ) : Prop :=
  ∃ found looked, (openFind cfg below fuel (.handle file) path).run (Fs.opening fs (.handle file) flags defaults) = some (found, looked) ∧
    StrandsEntry cfg below entries deviceFailure (.handle file) flags found looked (entries fs.rest)

section
variable {entries : σ → γ} {content : γ} (deviceFailure : Int32 → Prop) (file : FileAt) (flags : UInt32) (found : Found)

theorem shown_quiet (fs : Fs σ) (shown : entries fs.rest = content) : Quiet entries content file 0 0 fs := ⟨shown, UInt32.and_zero⟩

theorem none_spared (flags : UInt32) : Spared 0 flags := UInt32.and_zero

theorem fetched_entries (shows : below.Shows entries) (attrs : List Attr) (before after : Fs σ) (err : Int32)
    (fetched : (fetchAttrs cfg below file attrs).run before = some (err, after)) :
    (err = 0 ∨ err < 0) ∧ entries after.rest = entries before.rest := by
  obtain ⟨sign, quiet⟩ := fetch_attrs_quiet cfg below shows (Or.inl (none_spared _)) attrs before err after (shown_quiet file before rfl) fetched
  exact ⟨sign, quiet.shown⟩

theorem creating_fails (shows : below.Shows entries) (fs reached : Fs σ) (err : Int32) (creates : Creates flags found.tag found.path fs)
    (failed : err ≠ 0) (ran : (openLoad cfg below file flags found).run fs = some (err, reached)) :
    ∃ commitErr created, (commitNode below (.file file) (newEntry fs file found.path)).run fs = some (commitErr, created) ∧
      entries reached.rest = entries created.rest ∧
      (commitErr ≠ 0 ∨ ∃ attrErr fetched, (fetchAttrs cfg below file (attrsOf created file)).run created = some (attrErr, fetched) ∧
        if attrErr = 0 then bufferOf fetched file = none else attrErr = err) := by
  rw [creating_load_run cfg below file flags found _ creates] at ran
  obtain ⟨⟨commitErr, created⟩, committed, ran⟩ := Option.bind_eq_some_iff.mp ran
  refine ⟨commitErr, created, committed, ?_⟩
  by_cases refused : commitErr = 0
  · simp only [refused, ne_eq, not_true_eq_false, ↓reduceIte] at ran
    obtain ⟨⟨attrErr, fetched⟩, read, ran⟩ := Option.bind_eq_some_iff.mp ran
    have same := (fetched_entries cfg below file shows _ _ _ _ read).2
    by_cases unread : attrErr = 0
    · simp only [unread, not_true_eq_false, ↓reduceIte] at ran
      by_cases missing : bufferOf fetched file = none
      · rw [no_buffer_run cfg below file _ fetched missing] at ran
        cases ran
        exact ⟨same, Or.inr ⟨_, _, read, by rwa [if_pos unread]⟩⟩
      · obtain ⟨after, loaded⟩ := new_buffer_run cfg below file fetched missing
        rw [loaded] at ran
        cases ran
        exact absurd rfl failed
    · simp only [unread, not_false_eq_true, ↓reduceIte] at ran
      cases ran
      exact ⟨same, Or.inr ⟨_, _, read, by rw [if_neg unread]⟩⟩
  · simp only [refused, ne_eq, not_false_eq_true, ↓reduceIte] at ran
    cases ran
    exact ⟨rfl, Or.inl refused⟩

theorem found_entries (shows : below.Shows entries) (looked reached : Fs σ) (err : Int32) (failed : err ≠ 0) (own : ¬ deviceFailure err)
    (shown : entries looked.rest = content) (spares : ¬ StrandsEntry cfg below entries deviceFailure file flags found looked content)
    (ran : (openFound cfg below file flags found).run looked = some (err, reached)) : entries reached.rest = content := by
  rw [open_found_run] at ran
  by_cases missing : Missing found
  · rw [if_pos missing] at ran
    cases ran
    exact shown
  · rw [if_neg missing] at ran
    by_cases creates : Creates flags found.tag found.path (Fs.listing looked file found)
    · obtain ⟨commitErr, created, committed, same, cause⟩ := creating_fails cfg below file flags found shows _ reached err creates failed ran
      by_contra changed
      have known : found.id ≠ 0x3ff := fun top => missing ⟨by rw [creates.1]; decide, fun both => both.2 top⟩
      refine spares ⟨known, creates, commitErr, created, committed, same ▸ changed, ?_⟩
      refine cause.imp id fun ⟨attrErr, fetched, read, ended⟩ => ⟨attrErr, fetched, read, ?_⟩
      by_cases unread : attrErr = 0
      · rwa [if_pos unread] at ended ⊢
      · rw [if_neg unread] at ended ⊢
        exact ended ▸ own
    · have quiet := open_load_quiet cfg below shows flags found (none_spared _) (Or.inr (none_spared _)) (Or.inl (none_spared _)) _ _ _
        ⟨creates, shown_quiet file (Fs.listing looked file found) shown⟩ ran
      exact quiet.shown

-- A stranded entry is one that stays, whatever error is returned.
theorem stranded_fails (shows : below.Shows entries) (nametoolong : ¬ deviceFailure lfsErrNametoolong) (nomem : ¬ deviceFailure lfsErrNomem)
    (looked : Fs σ) (strands : StrandsEntry cfg below entries deviceFailure file flags found looked content) :
    ∃ err reached, (openFound cfg below file flags found).run looked = some (err, reached) ∧ err < 0 ∧ ¬ deviceFailure err ∧
      entries reached.rest ≠ content := by
  obtain ⟨known, creates, commitErr, created, committed, changed, cause⟩ := strands
  have present : ¬ Missing found := fun missing => missing.2 ⟨creates.1, known⟩
  rw [open_found_run, if_neg present, creating_load_run cfg below file flags found (Fs.listing looked file found) creates, committed,
    Option.bind_some]
  by_cases refused : commitErr = 0
  · obtain ⟨attrErr, fetched, read, ended⟩ := cause.resolve_left (fun other => other refused)
    obtain ⟨sign, same⟩ := fetched_entries cfg below file shows _ _ _ _ read
    simp only [refused, read, ne_eq, not_true_eq_false, ↓reduceIte, Option.bind_some]
    by_cases unread : attrErr = 0
    · rw [if_pos unread] at ended
      simp only [unread, not_true_eq_false, ↓reduceIte]
      exact ⟨_, _, no_buffer_run cfg below file _ fetched ended, by decide, nomem, same ▸ changed⟩
    · rw [if_neg unread] at ended
      simp only [unread, not_false_eq_true, ↓reduceIte]
      exact ⟨_, _, rfl, sign.resolve_left unread, ended, same ▸ changed⟩
  · simp only [refused, ne_eq, not_false_eq_true, ↓reduceIte]
    exact ⟨_, _, rfl, by decide, nametoolong, changed⟩

end

-- Up to the list walk of the cleanup, which the invariant of the handles ends.
theorem opened_pending (list : List MlistPtr) (file : Nat) (flags : UInt32) (fs : Fs σ) (listed : Listed list fs)
    (closed : fs.flags file &&& lfsFOpened = 0) :
    Pending file list (Fs.opening fs (.handle file) flags defaults) ∧ .file (.handle file) ∉ list := by
  have absent : .file (.handle file) ∉ list := fun member => (listed.listed file).mp member closed
  exact open_setup_takes list file flags defaults fs () _ ⟨listed, absent⟩ rfl

theorem cleanup_rest (fuel file : Nat) (fs after : Fs σ) (opened : fs.flags file &&& lfsFOpened ≠ 0)
    (ran : (openCleanup cfg below fuel (.handle file)).run fs = some ((), after)) : after.rest = fs.rest := by
  rw [cleanup_run cfg below fuel file fs opened] at ran
  obtain ⟨links, _, same⟩ := Option.map_eq_some_iff.mp ran
  cases same
  rfl

theorem cleanup_returns (list : List MlistPtr) (fuel file : Nat) (fs : Fs σ) (enough : list.length < fuel) (pending : Pending file list fs) :
    ∃ after, (openCleanup cfg below fuel (.handle file)).run fs = some ((), after) := by
  obtain ⟨links, unlinked, _⟩ := fs.links.unlink_spells (.file (.handle file)) list fuel enough pending.nodup pending.spelled
  exact ⟨_, by rw [cleanup_run cfg below fuel file fs pending.opened, unlinked, Option.map_some]⟩

theorem negative_failed (err : Int32) (negative : err < 0) : err ≠ 0 := by
  rintro rfl
  exact absurd negative (by decide)

theorem open_fails_clean_iff (entries : σ → γ) (deviceFailure : Int32 → Prop) (list : List MlistPtr) (fuel file : Nat) (path : Path)
    (flags : UInt32) (fs : Fs σ) (shows : below.Shows entries) (nametoolong : ¬ deviceFailure lfsErrNametoolong)
    (nomem : ¬ deviceFailure lfsErrNomem) (listed : Listed list fs) (enough : list.length + 1 < fuel)
    (closed : fs.flags file &&& lfsFOpened = 0) (move : lfsGstateHasmove fs.gdisk = false)
    (orphans : lfsGstateHasorphans fs.gstate = false) :
    FailsClean cfg below entries deviceFailure fuel file path flags fs ↔ ¬ Strands cfg below entries deviceFailure fuel file path flags fs := by
  obtain ⟨pending, absent⟩ := opened_pending list file flags fs listed closed
  have unfolded := file_open_run cfg below fuel file path flags fs closed move orphans
  have looks : ∀ found looked, (openFind cfg below fuel (.handle file) path).run (Fs.opening fs (.handle file) flags defaults) =
      some (found, looked) → entries looked.rest = entries fs.rest ∧ Pending file list looked := by
    intro found looked ran
    refine ⟨(open_find_quiet cfg below shows fuel path _ _ _ (shown_quiet (.handle file) _ rfl) ran).shown, ?_⟩
    exact same_pending list file _ _ ((openFind cfg below fuel (.handle file) path).kept ran) pending
  have reaches : ∀ found looked err reached, (openFind cfg below fuel (.handle file) path).run (Fs.opening fs (.handle file) flags defaults) =
      some (found, looked) → (openFound cfg below (.handle file) flags found).run looked = some (err, reached) →
      ∃ others : List MlistPtr, others.length ≤ list.length + 1 ∧ Pending file others reached := by
    intro found looked err reached searched opened
    rcases open_found_takes cfg below list file flags found looked err reached ⟨(looks found looked searched).2, absent⟩ opened with
      inside | ⟨_, outside, _⟩
    · exact ⟨_, by rw [List.length_cons], inside⟩
    · exact ⟨list, by omega, outside⟩
  constructor
  · rintro clean ⟨found, looked, searched, strands⟩
    obtain ⟨shown, still⟩ := looks found looked searched
    obtain ⟨err, reached, opened, negative, own, changed⟩ := stranded_fails cfg below deviceFailure _ flags found shows nametoolong nomem looked strands
    obtain ⟨others, short, pending⟩ := reaches found looked err reached searched opened
    obtain ⟨after, cleaned⟩ := cleanup_returns cfg below others fuel file reached (by omega) pending
    have same := cleanup_rest cfg below fuel file reached after pending.opened cleaned
    rw [searched, Option.bind_some, opened, Option.bind_some, if_pos (negative_failed err negative), cleaned, Option.map_some] at unfolded
    exact changed (same ▸ (clean err after unfolded negative own).entries)
  · intro spares err after ran negative own
    have failed := negative_failed err negative
    have relisted : Listed (if err = 0 then .file (.handle file) :: list else list) after :=
      file_open_takes cfg below list fuel file path flags fs err after listed ran
    rw [if_neg failed] at relisted
    refine ⟨?_, ?_, list, relisted.spelled, absent⟩
    · rw [unfolded] at ran
      obtain ⟨⟨found, looked⟩, searched, ran⟩ := Option.bind_eq_some_iff.mp ran
      obtain ⟨⟨openErr, reached⟩, opened, ran⟩ := Option.bind_eq_some_iff.mp ran
      obtain ⟨shown, still⟩ := looks found looked searched
      by_cases fine : openErr = 0
      · simp only [fine, ne_eq, not_true_eq_false, ↓reduceIte] at ran
        cases ran
        exact absurd rfl failed
      · simp only [fine, ne_eq, not_false_eq_true, ↓reduceIte] at ran
        obtain ⟨⟨_, last⟩, cleaned, same⟩ := Option.map_eq_some_iff.mp ran
        cases same
        obtain ⟨others, _, pending⟩ := reaches found looked err reached searched opened
        rw [cleanup_rest cfg below fuel file reached last pending.opened cleaned]
        exact found_entries cfg below deviceFailure _ flags found shows looked reached err failed own shown
          (fun strands => spares ⟨found, looked, searched, strands⟩) opened
    · by_contra opened
      exact absent ((relisted.listed file).mpr opened)

end

-- The card with the file a, once the root has been compacted into block 1 with
-- an empty file b beside it.
def createdCommit : List UInt8 := [
  0x05, 0x00, 0x00, 0x00, 0xf0, 0x0f, 0xff, 0xf7, 0x6c, 0x69, 0x74, 0x74, 0x6c, 0x65, 0x66, 0x73, 0x2f, 0xe0, 0x00, 0x10,
  0x00, 0x00, 0x02, 0x00, 0x00, 0x02, 0x00, 0x00, 0x10, 0x00, 0x00, 0x00, 0xff, 0x00, 0x00, 0x00, 0xff, 0xff, 0xff, 0x7f,
  0xfe, 0x03, 0x00, 0x00, 0x20, 0x00, 0x04, 0x19, 0x61, 0x20, 0x00, 0x00, 0x00, 0x78, 0x20, 0x00, 0x0c, 0x00, 0x62, 0x20,
  0x00, 0x00, 0x01, 0x70, 0x1f, 0xf5, 0xbd, 0x7f, 0x67, 0x9e, 0x7b]

def createdImage : Image := fun block off => if block = 1 then createdCommit.getD off.toNat 0xff else fileImage block off

def imageServer : Lib.Prog.Server Access Access.Response Image
  | .read block off size, image => (imageDevice image block off size).map fun result => (result, image)
  | .prog block off data, image => some ((0 : Int32), fun other p =>
      if other = block ∧ off ≤ p ∧ p < off + UInt32.ofNat data.length then data.getD (p - off).toNat 0 else image other p)

-- lfs_dir_commit, for the entry b.
def createBelow : Below Image where
  access := imageServer
  erase _ image := some (0, image)
  alloc := pure (lfsErrNospc, 0)
  dirCommit _ dir _ := do
    onRest fun _ => some ((), createdImage)
    return (0, { dir with pair := ⟨1, 0⟩, rev := 5, off := 512, etag := 0x500ffdbd, count := 3 })
  deorphan := pure 0

-- What lfs_dir_find makes of every path, by what is on the card.
def pathsOf (image : Image) (path : Path) : Option Int32 :=
  (((lfsDirFind (sectorConfig 16) 9 (Mdir.ofTail ⟨0, 0⟩) path { zeroLfs.toLfsBase with root := ⟨0, 1⟩ }).through
    (Calls.readServer (sectorConfig 16)) (Calls.lfsCacheDrop zeroCache)).run (deviceServer (imageDevice image)) ()).map fun ran => ran.1.1.tag

theorem create_shows : createBelow.Shows pathsOf := by
  intro block off size card answer after served
  cases served
  rfl

def ioFailure (err : Int32) : Prop := err = -5 ∨ err = lfsErrCorrupt

theorem mounted_closed {σ : Type} (lfs : Lfs) (rcache : Cache) (config : Option FileConfig) (card : σ) (number : Nat) :
    (lfs.mounted rcache config card).flags number &&& lfsFOpened = 0 := UInt32.zero_and

theorem mounted_listed {σ : Type} (lfs : Lfs) (rcache : Cache) (config : Option FileConfig) (card : σ) :
    Listed [] (lfs.mounted rcache config card) :=
  ⟨⟨List.nodup_nil, fun _ member => absurd member List.not_mem_nil, fun number =>
    ⟨fun member => absurd member List.not_mem_nil, fun opened => absurd (mounted_closed lfs rcache config card number) opened⟩⟩, rfl⟩

theorem io_own (err : Int32) (other : err ≠ -5) (another : err ≠ lfsErrCorrupt) : ¬ ioFailure err :=
  fun failure => failure.elim other another

-- A zeroed handle, and a name that is not there.
theorem create_without_buffer_strands : ∃ lfs rcache fs, fileMount = some (0, lfs, rcache) ∧ fs = lfs.mounted rcache none fileImage ∧
    Listed [] fs ∧ fs.flags 0 &&& lfsFOpened = 0 ∧ lfsGstateHasmove fs.gdisk = false ∧ lfsGstateHasorphans fs.gstate = false ∧
    ¬ FailsClean (sectorConfig 16) createBelow pathsOf ioFailure 3 0 [0x62] (lfsOWronly ||| lfsOCreat) fs := by
  have evaluated : (fileMount.bind fun mounted => ((fileOpen (sectorConfig 16) createBelow 3 0 [0x62] (lfsOWronly ||| lfsOCreat)).run
      (mounted.2.1.mounted mounted.2.2 none fileImage)).map fun ran =>
        (mounted.1, lfsGstateHasmove mounted.2.1.gdisk, lfsGstateHasorphans mounted.2.1.gstate, ran.1, pathsOf ran.2.rest [0x62])) =
      some (0, false, false, lfsErrNomem, some 0x00100801) := by
    decide +kernel
  obtain ⟨⟨err, lfs, rcache⟩, mounted, known⟩ := Option.bind_eq_some_iff.mp evaluated
  obtain ⟨⟨result, after⟩, opened, same⟩ := Option.map_eq_some_iff.mp known
  simp only [Prod.mk.injEq] at same
  obtain ⟨rfl, move, orphans, rfl, found⟩ := same
  refine ⟨lfs, rcache, _, mounted, rfl, mounted_listed lfs rcache none fileImage, mounted_closed lfs rcache none fileImage 0, move, orphans,
    fun clean => ?_⟩
  have kept := (clean _ after opened (by decide) (io_own _ (by decide) (by decide))).entries
  have before : pathsOf fileImage [0x62] = some lfsErrNoent := by decide +kernel
  have changed := congrFun kept [0x62]
  rw [found] at changed
  exact absurd (changed.trans before) (by decide)

-- The same with a name that is there: the open fails before it commits.
theorem exclusive_open_fails_clean : ∃ lfs rcache, fileMount = some (0, lfs, rcache) ∧
    FailsClean (sectorConfig 16) createBelow pathsOf ioFailure 3 0 [0x61] (lfsOWronly ||| lfsOCreat ||| lfsOExcl)
      (lfs.mounted rcache none fileImage) := by
  have evaluated : (fileMount.bind fun mounted => ((openFind (sectorConfig 16) createBelow 3 (.handle 0) [0x61]).run
      (Fs.opening (mounted.2.1.mounted mounted.2.2 none fileImage) (.handle 0) (lfsOWronly ||| lfsOCreat ||| lfsOExcl) defaults)).map fun ran =>
        (mounted.1, lfsGstateHasmove mounted.2.1.gdisk, lfsGstateHasorphans mounted.2.1.gstate, ran.1.tag)) =
      some (0, false, false, 0x00100401) := by
    decide +kernel
  obtain ⟨⟨err, lfs, rcache⟩, mounted, known⟩ := Option.bind_eq_some_iff.mp evaluated
  obtain ⟨⟨found, looked⟩, searched, same⟩ := Option.map_eq_some_iff.mp known
  simp only [Prod.mk.injEq] at same
  obtain ⟨rfl, move, orphans, tag⟩ := same
  refine ⟨lfs, rcache, mounted, ?_⟩
  refine (open_fails_clean_iff (sectorConfig 16) createBelow pathsOf ioFailure [] 3 0 [0x61] _ (lfs.mounted rcache none fileImage) create_shows
    (io_own _ (by decide) (by decide)) (io_own _ (by decide) (by decide)) (mounted_listed lfs rcache none fileImage) (by decide)
    (mounted_closed lfs rcache none fileImage 0) move orphans).mpr ?_
  rintro ⟨other, _, again, _, creates, _⟩
  rw [searched] at again
  cases again
  exact absurd (tag.symm.trans creates.1) (by decide)

end SDCardFs.Wrapper
