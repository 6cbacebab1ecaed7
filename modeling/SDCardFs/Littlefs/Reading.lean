import SDCardFs.Littlefs.FileCalls

set_option autoImplicit false

namespace SDCardFs.Littlefs

def Access.Reads : Access → Prop
  | .read _ _ _ => True
  | .prog _ _ _ => False

theorem read_loop_reads (cfg : Config) (pcache : Option Cache) (hint block : UInt32) (fuel : Nat) :
    ∀ (off : UInt32) (data : List UInt8) (rcache : Cache), (Calls.lfsBdReadLoop cfg pcache hint block fuel off data rcache).Only Access.Reads := by
  induction fuel with
  | zero =>
      intro off data rcache
      cases data with
      | nil => trivial
      | cons byte rest => trivial
  | succ fuel ih =>
      intro off data rcache
      cases data with
      | nil => trivial
      | cons byte rest =>
          rw [Calls.lfsBdReadLoop]
          cases bdTurn cfg pcache rcache hint block off (byte :: rest).length with
          | copy buffer start diff => exact Lib.Prog.only_bind _ _ (ih _ _ _) fun _ => trivial
          | bypass diff =>
              refine Lib.Prog.only_bind _ _ ⟨trivial, fun _ => trivial⟩ fun result => ?_
              exact Lib.Prog.only_ite trivial (Lib.Prog.only_bind _ _ (ih _ _ _) fun _ => trivial)
          | load =>
              refine Lib.Prog.only_ite trivial ?_
              refine Lib.Prog.only_bind _ _ ⟨trivial, fun _ => trivial⟩ fun result => ?_
              exact Lib.Prog.only_ite trivial (ih _ _ _)

theorem bd_read_reads (cfg : Config) (pcache : Option Cache) (rcache : Cache) (hint block off : UInt32) (data : List UInt8) :
    (Calls.lfsBdRead cfg pcache rcache hint block off data).Only Access.Reads :=
  Lib.Prog.only_ite trivial (read_loop_reads cfg pcache hint block _ off data rcache)

theorem read_server_reads (cfg : Config) (request : Request) (rcache : Cache) : (Calls.readServer cfg request rcache).Only Access.Reads := by
  cases request with
  | read hint block off data => exact bd_read_reads cfg none rcache hint block off data
  | readThrough pcache hint block data short => exact bd_read_reads cfg (some pcache) rcache hint block 0 data
  | zeroRcache => trivial
  | report block => trivial
  | stir crc => trivial

section
variable {σ γ : Type}

-- What the card contains is not changed by reading it.
def Below.Shows (below : Below σ) (contents : σ → γ) : Prop :=
  ∀ block off size card answer after, below.access (.read block off size) card = some (answer, after) → contents after = contents card

theorem reads_show (below : Below σ) (contents : σ → γ) (shows : below.Shows contents) {α : Type} (call : DevM α) (card after : σ)
    (result : α) (only : call.Only Access.Reads) (ran : call.run below.access card = some (result, after)) : contents after = contents card := by
  refine @Lib.Prog.run_only _ _ _ _ _ _ (fun before after => contents after = contents before) (fun _ => rfl)
    (fun _ _ _ first second => second.trans first) ?_ call card after result only ran
  intro request state answer after reads served
  cases request with
  | read block off size => exact shows block off size state answer after served
  | prog block off data => exact absurd reads id

-- The card contains what it did, and some of the flags of a handle are known.
structure Quiet (contents : σ → γ) (content : γ) (file : FileAt) (mask bits : UInt32) (fs : Fs σ) : Prop where
  shown : contents fs.rest = content
  flags : (fs.files file).flags &&& mask = bits

-- Flags other than those known.
def Spared (mask flags : UInt32) : Prop := flags &&& mask = 0

theorem set_spared (mask flags flag : UInt32) (spared : Spared mask flag) : (flags ||| flag) &&& mask = flags &&& mask := by
  rw [or_and_word, spared, UInt32.or_zero]

theorem clear_spared (mask flags flag : UInt32) (spared : Spared mask flag) : flags &&& ~~~flag &&& mask = flags &&& mask := by
  have apart : ~~~flag &&& mask = mask := by
    have whole : mask = (flag ||| ~~~flag) &&& mask := by simp
    rw [or_and_word, spared, UInt32.zero_or] at whole
    exact whole.symm
  rw [UInt32.and_assoc, apart]

variable (cfg : Config) (below : Below σ) {contents : σ → γ} {content : γ} {file : FileAt} {mask bits : UInt32}

theorem quiet_file (other : FileAt) (change : File → File) (fs : Fs σ) (quiet : Quiet contents content file mask bits fs)
    (same : other = file → (change (fs.files file)).flags &&& mask = (fs.files file).flags &&& mask) :
    Quiet contents content file mask bits (fs.setFile other change) := by
  refine ⟨quiet.shown, ?_⟩
  simp only [Fs.setFile]
  by_cases here : file = other
  · subst here
    rw [if_pos rfl, same rfl]
    exact quiet.flags
  · rw [if_neg here]
    exact quiet.flags

theorem set_file_quiet (other : FileAt) (change : File → File) :
    Lib.Meets (Quiet contents content file mask bits) (setFile other change) fun _ => Quiet contents content file mask bits :=
  Lib.meets_update _ _ fun fs quiet => quiet_file other _ fs quiet fun _ => rfl

theorem set_flag_quiet (flag : FileFlag) (spared : Spared mask flag.mask) :
    Lib.Meets (Quiet contents content file mask bits) (setFlag file flag) fun _ => Quiet contents content file mask bits :=
  Lib.meets_update _ _ fun fs quiet => quiet_file file _ fs quiet fun _ => set_spared mask _ _ spared

theorem clear_flag_quiet (flag : FileFlag) (spared : Spared mask flag.mask) :
    Lib.Meets (Quiet contents content file mask bits) (clearFlag file flag) fun _ => Quiet contents content file mask bits :=
  Lib.meets_update _ _ fun fs quiet => quiet_file file _ fs quiet fun _ => clear_spared mask _ _ spared

theorem set_node_quiet (node : MlistPtr) (change : Node → Node) :
    Lib.Meets (Quiet contents content file mask bits) (setNode node change) fun _ => Quiet contents content file mask bits :=
  Lib.meets_update _ _ fun _ quiet => ⟨quiet.shown, quiet.flags⟩

theorem set_rcache_quiet (rcache : Cache) :
    Lib.Meets (Quiet contents content file mask bits) (setRcache rcache) fun _ => Quiet contents content file mask bits :=
  Lib.meets_update _ _ fun _ quiet => ⟨quiet.shown, quiet.flags⟩

theorem card_reads_quiet {α : Type} (shows : below.Shows contents) (call : DevM α) (only : call.Only Access.Reads) :
    Lib.Meets (Quiet contents content file mask bits) (cardCall below call) fun _ => Quiet contents content file mask bits :=
  Lib.meets_part _ _ _ (fun _ _ => ⟨rfl, fun _ => rfl⟩) fun fs value rest quiet ran => ⟨(reads_show below contents shows call fs.rest rest value only ran).trans quiet.shown, quiet.flags⟩

theorem lookup_with_quiet {α : Type} (shows : below.Shows contents) (rcache : Cache) (call : BaseM α) :
    Lib.Meets (Quiet contents content file mask bits) (lookupWith cfg below rcache call) fun _ => Quiet contents content file mask bits := by
  refine Lib.meets_bind (fun _ => Quiet contents content file mask bits) ?_ fun fs => ?_
  · exact Lib.meets_mono Lib.meets_read (fun _ quiet => quiet) fun _ _ both => both.2
  · exact card_reads_quiet below shows _ (Lib.Prog.only_through _ (read_server_reads cfg) _ _)

theorem lookup_quiet {α : Type} (shows : below.Shows contents) (call : BaseM α) :
    Lib.Meets (Quiet contents content file mask bits) (lookup cfg below call) fun _ => Quiet contents content file mask bits := by
  refine Lib.meets_bind (fun _ => Quiet contents content file mask bits) ?_ fun fs => ?_
  · exact Lib.meets_mono Lib.meets_read (fun _ quiet => quiet) fun _ _ both => both.2
  · refine Lib.meets_bind _ (lookup_with_quiet cfg below shows _ call) fun ran => ?_
    refine Lib.meets_bind _ (set_rcache_quiet _) fun _ => ?_
    exact Lib.meets_pure _ fun _ quiet => quiet

-- The part of a handle a function looks at, in a state that stays quiet.
theorem view_quiet {α : Type} (view : Fs σ → α) :
    Lib.Meets (Quiet contents content file mask bits) (do return view (← read) : FsM σ α) fun _ => Quiet contents content file mask bits :=
  Lib.meets_mono (Lib.meets_view view) (fun _ quiet => quiet) fun _ _ both => both.2

theorem getread_loop_quiet (shows : below.Shows contents) (dir : Mdir) (hint gmask gtag : UInt32) (fuel : Nat) :
    ∀ (off : UInt32) (data : List UInt8) (rcache : Cache),
    Lib.Meets (Quiet contents content file mask bits) (dirGetreadLoop cfg below dir hint gmask gtag fuel off data rcache)
      fun _ => Quiet contents content file mask bits := by
  induction fuel with
  | zero =>
      intro off data rcache
      cases data with
      | nil => exact Lib.meets_pure _ fun _ quiet => quiet
      | cons byte rest => exact Lib.meets_never
  | succ fuel ih =>
      intro off data rcache
      cases data with
      | nil => exact Lib.meets_pure _ fun _ quiet => quiet
      | cons byte rest =>
          rw [dirGetreadLoop]
          refine Lib.meets_ite (fun _ => ?_) fun _ => ?_
          · exact Lib.meets_bind _ (ih _ _ _) fun _ => Lib.meets_pure _ fun _ quiet => quiet
          · refine Lib.meets_bind _ (lookup_quiet cfg below shows _) fun sliced => ?_
            exact Lib.meets_exit _ (fun _ quiet => quiet) fun _ => ih _ _ _

theorem getread_file_quiet (shows : below.Shows contents) (hint off : UInt32) (data : List UInt8) :
    Lib.Meets (Quiet contents content file mask bits) (getreadFile cfg below file hint off data)
      fun _ => Quiet contents content file mask bits := by
  refine Lib.meets_bind _ (view_quiet _) fun node => ?_
  refine Lib.meets_bind _ (view_quiet _) fun f => ?_
  refine Lib.meets_bind (fun _ => Quiet contents content file mask bits) ?_ fun ended => ?_
  · rw [lfsDirGetread]
    exact Lib.meets_exit _ (fun _ quiet => quiet) fun _ => getread_loop_quiet cfg below shows _ _ _ _ _ _ _ _
  · exact Lib.meets_bind _ (set_file_quiet _ _) fun _ => Lib.meets_pure _ fun _ quiet => quiet

theorem read_file_quiet (shows : below.Shows contents) (hint block off : UInt32) (data : List UInt8) :
    Lib.Meets (Quiet contents content file mask bits) (readFile cfg below file hint block off data)
      fun _ => Quiet contents content file mask bits := by
  refine Lib.meets_bind _ (view_quiet _) fun f => ?_
  refine Lib.meets_bind _ (card_reads_quiet below shows _ (bd_read_reads cfg _ _ _ _ _ _)) fun ended => ?_
  exact Lib.meets_bind _ (set_file_quiet _ _) fun _ => Lib.meets_pure _ fun _ quiet => quiet

theorem ctz_find_file_quiet (shows : below.Shows contents) (pos : UInt32) :
    Lib.Meets (Quiet contents content file mask bits) (ctzFindFile cfg below file pos) fun _ => Quiet contents content file mask bits := by
  refine Lib.meets_bind _ (view_quiet _) fun f => ?_
  refine Lib.meets_bind _ (lookup_with_quiet cfg below shows _ _) fun found => ?_
  refine Lib.meets_bind _ (set_file_quiet _ _) fun _ => ?_
  refine Lib.meets_exit _ (fun _ quiet => quiet) fun _ => ?_
  exact Lib.meets_bind _ (set_file_quiet _ _) fun _ => Lib.meets_pure _ fun _ quiet => quiet

theorem flush_reading_quiet (reading : Spared mask lfsFReading) :
    Lib.Meets (Quiet contents content file mask bits) (flushReading file) fun _ => Quiet contents content file mask bits := by
  refine Lib.meets_bind _ (view_quiet _) fun _ => ?_
  refine Lib.meets_ite (fun _ => ?_) fun _ => Lib.meets_pure _ fun _ quiet => quiet
  refine Lib.meets_bind _ (view_quiet _) fun _ => ?_
  refine Lib.meets_ite (fun _ => ?_) fun _ => clear_flag_quiet .reading reading
  exact Lib.meets_bind _ (set_file_quiet _ _) fun _ => clear_flag_quiet .reading reading

-- The parts of lfs_file_opencfg. Only a new entry is committed.
def Creates (flags : UInt32) (tag : Int32) (path : Path) (fs : Fs σ) : Prop :=
  tag = lfsErrNoent ∧ flags &&& lfsOCreat ≠ 0 ∧ ¬ UInt32.ofNat path.length > fs.nameMax

theorem open_find_quiet (shows : below.Shows contents) (fuel : Nat) (path : Path) :
    Lib.Meets (Quiet contents content file mask bits) (openFind cfg below fuel file path) fun _ => Quiet contents content file mask bits :=
  Lib.meets_bind _ (view_quiet _) fun _ => lookup_quiet cfg below shows _

theorem open_entry_quiet (shows : below.Shows contents) (flags : UInt32) (tag : Int32) (path : Path)
    (dirty : flags &&& lfsOTrunc = 0 ∨ Spared mask lfsFDirty) :
    Lib.Meets (fun fs => ¬ Creates flags tag path fs ∧ Quiet contents content file mask bits fs) (openEntry cfg below file flags tag path)
      fun _ => Quiet contents content file mask bits := by
  refine Lib.meets_look fun fs none => ?_
  refine Lib.meets_ite (fun missing => ?_) fun _ => ?_
  · refine Lib.meets_exit _ (fun _ quiet => quiet) fun creat => ?_
    refine Lib.meets_exit _ (fun _ quiet => quiet) fun fits => ?_
    exact absurd ⟨missing, creat, fits⟩ none
  · refine Lib.meets_exit _ (fun _ quiet => quiet) fun _ => ?_
    refine Lib.meets_exit _ (fun _ quiet => quiet) fun _ => ?_
    refine Lib.meets_ite (fun trunc => ?_) fun _ => ?_
    · refine Lib.meets_bind _ (set_flag_quiet .dirty (dirty.resolve_left trunc)) fun _ => ?_
      exact Lib.meets_pure _ fun _ quiet => quiet
    · refine Lib.meets_bind _ (lookup_quiet cfg below shows _) fun got => ?_
      refine Lib.meets_exit _ (fun _ quiet => quiet) fun _ => ?_
      exact Lib.meets_bind _ (set_file_quiet _ _) fun _ => Lib.meets_pure _ fun _ quiet => quiet

theorem fetch_attrs_quiet (shows : below.Shows contents)
    (dirty : Spared mask lfsFDirty ∨ ∀ flags, flags &&& mask = bits → flags &&& 3 = lfsORdonly) (attrs : List Attr) :
    Lib.Meets (Quiet contents content file mask bits) (fetchAttrs cfg below file attrs)
      fun err fs => (err = 0 ∨ err < 0) ∧ Quiet contents content file mask bits fs := by
  induction attrs with
  | nil => exact Lib.meets_pure _ fun _ quiet => ⟨Or.inl rfl, quiet⟩
  | cons attr attrs ih =>
      rw [fetchAttrs]
      refine Lib.meets_pre (?_ : Lib.Meets (fun fs => (fs.files file).flags &&& mask = bits ∧ Quiet contents content file mask bits fs) _ _)
        fun _ quiet => ⟨quiet.flags, quiet⟩
      refine Lib.meets_look fun fs known => ?_
      have rest : ∀ res : Int32, Lib.Meets (Quiet contents content file mask bits)
          (do
            if res < 0 ∧ res ≠ lfsErrNoent then
              return res
            if (fs.files file).flags &&& 3 ≠ lfsORdonly then
              if attr.size > fs.attrMax then
                return lfsErrNospc
              setFlag file .dirty
              fetchAttrs cfg below file attrs
            else
              fetchAttrs cfg below file attrs)
          fun err fs => (err = 0 ∨ err < 0) ∧ Quiet contents content file mask bits fs := by
        intro res
        refine Lib.meets_ite (fun failed => Lib.meets_pure _ fun _ quiet => ⟨Or.inr failed.1, quiet⟩) fun _ => ?_
        refine Lib.meets_ite (fun writes => ?_) fun _ => ih
        refine Lib.meets_ite (fun _ => Lib.meets_pure _ fun _ quiet => ⟨Or.inr (by decide), quiet⟩) fun _ => ?_
        rcases dirty with spared | reads
        · exact Lib.meets_bind _ (set_flag_quiet .dirty spared) fun _ => ih
        · exact absurd (reads _ known) writes
      refine Lib.meets_ite (fun _ => ?_) fun _ => ?_
      · refine Lib.meets_bind _ (lookup_quiet cfg below shows _) fun got => ?_
        exact Lib.meets_bind _ (Lib.meets_pure _ fun _ quiet => quiet) rest
      · exact Lib.meets_bind _ (Lib.meets_pure _ fun _ quiet => quiet) rest

theorem open_inline_quiet (shows : below.Shows contents) (inline : Spared mask lfsFInline) (tag : UInt32) :
    Lib.Meets (Quiet contents content file mask bits) (openInline cfg below file tag) fun _ => Quiet contents content file mask bits := by
  refine Lib.meets_bind _ (set_file_quiet _ _) fun _ => ?_
  refine Lib.meets_bind _ (set_flag_quiet .inline inline) fun _ => ?_
  refine Lib.meets_exit _ (fun _ quiet => quiet) fun _ => ?_
  refine Lib.meets_bind _ (view_quiet _) fun node => ?_
  refine Lib.meets_bind _ (lookup_quiet cfg below shows _) fun got => ?_
  refine Lib.meets_exit _ (fun _ quiet => quiet) fun _ => ?_
  exact Lib.meets_bind _ (set_file_quiet _ _) fun _ => Lib.meets_pure _ fun _ quiet => quiet

theorem open_buffer_quiet (shows : below.Shows contents) (inline : Spared mask lfsFInline) (tag : UInt32) :
    Lib.Meets (Quiet contents content file mask bits) (openBuffer cfg below file tag) fun _ => Quiet contents content file mask bits := by
  refine Lib.meets_bind _ (view_quiet _) fun f => ?_
  cases f.cfg.bind FileConfig.buffer with
  | none => exact Lib.meets_pure _ fun _ quiet => quiet
  | some buffer =>
      refine Lib.meets_bind _ (set_file_quiet _ _) fun _ => ?_
      exact Lib.meets_ite (fun _ => open_inline_quiet cfg below shows inline tag) fun _ => Lib.meets_pure _ fun _ quiet => quiet

theorem open_load_quiet (shows : below.Shows contents) (flags : UInt32) (found : Found) (inline : Spared mask lfsFInline)
    (trunc : flags &&& lfsOTrunc = 0 ∨ Spared mask lfsFDirty)
    (dirty : Spared mask lfsFDirty ∨ ∀ flags, flags &&& mask = bits → flags &&& 3 = lfsORdonly) :
    Lib.Meets (fun fs => ¬ Creates flags found.tag found.path fs ∧ Quiet contents content file mask bits fs)
      (openLoad cfg below file flags found) fun _ => Quiet contents content file mask bits := by
  refine Lib.meets_bind _ (open_entry_quiet cfg below shows flags _ _ trunc) fun tag => ?_
  refine Lib.meets_exit _ (fun _ quiet => quiet) fun _ => ?_
  refine Lib.meets_bind _ (view_quiet _) fun f => ?_
  refine Lib.meets_bind _ (fetch_attrs_quiet cfg below shows dirty _) fun err => ?_
  refine Lib.meets_exit _ (fun _ fetched => fetched.2) fun _ => ?_
  exact Lib.meets_pre (open_buffer_quiet cfg below shows inline _) fun _ fetched => fetched.2

theorem sync_erred_run (fuel : Nat) (fs : Fs σ) (opened : (fs.files file).flags &&& lfsFOpened ≠ 0) (erred : (fs.files file).has .erred = true) :
    (lfsFileSync cfg below fuel file).run fs = some (0, fs) := by
  have looked : (isOpened file).run fs = some (true, fs) := by
    rw [← decide_eq_true opened]
    rfl
  have flagged : (hasFlag file .erred).run fs = some (true, fs) := by
    rw [← erred]
    rfl
  rw [lfsFileSync, Lib.Keeping.run_bind, looked, Option.bind_some, if_neg (fun closed => closed rfl), Lib.Keeping.run_bind, flagged,
    Option.bind_some, if_pos rfl, Lib.Keeping.run_pure]

end

end SDCardFs.Littlefs
