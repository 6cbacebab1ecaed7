import SDCardFs.Littlefs.Directories
import SDCardFs.Littlefs.Refill

set_option autoImplicit false

namespace SDCardFs.Littlefs

section
variable {σ : Type}

-- The list is one of handles, each once, and every file handle but one is in
-- it just when it is open.
structure Loose (number : Nat) (list : List MlistPtr) (fs : Fs σ) : Prop where
  spelled : fs.links.Spells list
  nodup : list.Nodup
  handles : ∀ node ∈ list, node ≠ .hook ∧ node ≠ .file .orig
  others : ∀ other, other ≠ number → (.file (.handle other) ∈ list ↔ fs.flags other &&& lfsFOpened ≠ 0)

structure Registered (list : List MlistPtr) (fs : Fs σ) : Prop where
  nodup : list.Nodup
  handles : ∀ node ∈ list, node ≠ .hook ∧ node ≠ .file .orig
  listed : ∀ number, .file (.handle number) ∈ list ↔ fs.flags number &&& lfsFOpened ≠ 0

structure Listed (list : List MlistPtr) (fs : Fs σ) : Prop extends Registered list fs where
  spelled : fs.links.Spells list

-- What holds while the local node is in use: the list hangs from it.
structure Hooked (list : List MlistPtr) (fs : Fs σ) : Prop extends Registered list fs where
  chain : Lib.Chain fs.links.next (fs.links.next .hook) list

theorem listed_loose (number : Nat) (list : List MlistPtr) (fs : Fs σ) (listed : Listed list fs) : Loose number list fs :=
  ⟨listed.spelled, listed.nodup, listed.handles, fun other _ => listed.listed other⟩

theorem loose_listed (number : Nat) (list : List MlistPtr) (fs : Fs σ) (loose : Loose number list fs)
    (same : .file (.handle number) ∈ list ↔ fs.flags number &&& lfsFOpened ≠ 0) : Listed list fs := by
  refine ⟨⟨loose.nodup, loose.handles, fun other => ?_⟩, loose.spelled⟩
  by_cases here : other = number
  · exact here ▸ same
  · exact loose.others other here

theorem same_loose (number : Nat) (list : List MlistPtr) (before after : Fs σ) (same : SameLinks before after)
    (loose : Loose number list before) : Loose number list after := by
  refine ⟨?_, loose.nodup, loose.handles, fun other different => ?_⟩
  · rw [same.links]
    exact loose.spelled
  · rw [same.opened other]
    exact loose.others other different

theorem same_registered (list : List MlistPtr) (before after : Fs σ) (same : SameLinks before after) (registered : Registered list before) :
    Registered list after := by
  refine ⟨registered.nodup, registered.handles, fun number => ?_⟩
  rw [same.opened number]
  exact registered.listed number

theorem same_listed (list : List MlistPtr) (before after : Fs σ) (same : SameLinks before after) (listed : Listed list before) :
    Listed list after := by
  refine ⟨same_registered list before after same listed.toRegistered, ?_⟩
  rw [same.links]
  exact listed.spelled

theorem same_hooked (list : List MlistPtr) (before after : Fs σ) (same : SameLinks before after) (hooked : Hooked list before) :
    Hooked list after := by
  refine ⟨same_registered list before after same hooked.toRegistered, ?_⟩
  rw [same.links]
  exact hooked.chain

theorem takes_keep {α : Type} {pre : Fs σ → Prop} (call : FsM σ α) (kept : ∀ before after, SameLinks before after → pre before → pre after) :
    Lib.Takes pre (keep call) fun _ => pre :=
  fun before _ after met ran => kept before after (call.kept ran) met

theorem takes_keep_listed {α : Type} (list : List MlistPtr) (call : FsM σ α) : Lib.Takes (Listed list) (keep call) fun _ => Listed list :=
  takes_keep call (same_listed list)

theorem takes_keep_hooked {α : Type} (list : List MlistPtr) (call : FsM σ α) : Lib.Takes (Hooked list) (keep call) fun _ => Hooked list :=
  takes_keep call (same_hooked list)

-- The three things done to the local node.
theorem hook_next_takes (list : List MlistPtr) :
    Lib.Takes (@Listed σ list) (hookNext .hook) fun _ fs => Listed list fs ∧ Hooked list fs := by
  refine Lib.takes_update _ fun fs listed => ?_
  have chain : Lib.Chain (fs.links.setNext .hook fs.links.head).next fs.links.head list := by
    refine Lib.chain_frame fs.links.next _ list (fun node member => if_neg (listed.handles node member).1) _ listed.spelled
  have registered : Registered list { fs with links := fs.links.setNext .hook fs.links.head } :=
    ⟨listed.nodup, listed.handles, listed.listed⟩
  refine ⟨⟨registered, chain⟩, ⟨registered, ?_⟩⟩
  simpa only [Lib.Links.setNext, ↓reduceIte] using chain

theorem set_mlist_takes (list : List MlistPtr) :
    Lib.Takes (fun fs => @Listed σ list fs ∧ Hooked list fs) (setMlist .hook) fun _ => Hooked list :=
  Lib.takes_update _ fun _ both => ⟨⟨both.2.nodup, both.2.handles, both.2.listed⟩, both.2.chain⟩

theorem unhook_takes (list : List MlistPtr) : Lib.Takes (@Hooked σ list) (unhook .hook) fun _ => Listed list :=
  Lib.takes_update _ fun _ hooked => ⟨⟨hooked.nodup, hooked.handles, hooked.listed⟩, hooked.chain⟩

theorem keep_both {α : Type} (list : List MlistPtr) (call : FsM σ α) :
    Lib.Takes (fun fs => Listed list fs ∧ Hooked list fs) (keep call) fun _ fs => Listed list fs ∧ Hooked list fs :=
  takes_keep call fun before after same both => ⟨same_listed list before after same both.1, same_hooked list before after same both.2⟩

variable (cfg : Config) (below : Below σ) (list : List MlistPtr)

theorem mkdir_hooked_takes (pred dir : Mdir) :
    Lib.Takes (fun fs => Listed list fs ∧ Hooked list fs) (mkdirHooked below pred dir) fun _ => Listed list := by
  refine Lib.takes_bind _ (keep_both list _) fun _ => ?_
  refine Lib.takes_exit _ (fun _ both => both.1) fun _ => ?_
  refine Lib.takes_bind _ (keep_both list _) fun _ => ?_
  refine Lib.takes_bind _ (keep_both list _) fun _ => ?_
  refine Lib.takes_bind _ (set_mlist_takes list) fun _ => ?_
  refine Lib.takes_bind _ (takes_keep_hooked list _) fun committed => ?_
  refine Lib.takes_ite (fun _ => ?_) fun _ => ?_
  · exact Lib.takes_bind _ (unhook_takes list) fun _ => Lib.takes_pure _ fun _ listed => listed
  · refine Lib.takes_bind _ (unhook_takes list) fun _ => ?_
    exact Lib.takes_bind _ (takes_keep_listed list _) fun _ => Lib.takes_pure _ fun _ listed => listed

theorem mkdir_takes (fuel : Nat) (path : Path) : Lib.Takes (Listed list) (lfsMkdir cfg below fuel path) fun _ => Listed list := by
  refine Lib.takes_bind _ (takes_keep_listed list _) fun _ => ?_
  refine Lib.takes_exit _ (fun _ listed => listed) fun _ => ?_
  refine Lib.takes_bind _ (hook_next_takes list) fun _ => ?_
  refine Lib.takes_bind _ (keep_both list _) fun found => ?_
  refine Lib.takes_exit _ (fun _ both => both.1) fun _ => ?_
  refine Lib.takes_bind _ Lib.takes_get fun _ => ?_
  refine Lib.takes_exit _ (fun _ both => both.1) fun _ => ?_
  refine Lib.takes_bind _ (keep_both list _) fun built => ?_
  refine Lib.takes_exit _ (fun _ both => both.1) fun _ => ?_
  refine Lib.takes_bind _ (mkdir_hooked_takes below list _ _) fun err => ?_
  refine Lib.takes_exit _ (fun _ listed => listed) fun _ => ?_
  exact takes_keep_listed list _

theorem remove_entry_takes (found : Found) : Lib.Takes (Hooked list) (removeEntry cfg below found) fun _ => Listed list := by
  refine Lib.takes_bind _ (takes_keep_hooked list _) fun _ => ?_
  refine Lib.takes_bind _ (unhook_takes list) fun _ => ?_
  refine Lib.takes_exit _ (fun _ listed => listed) fun _ => ?_
  exact Lib.takes_ite (fun _ => takes_keep_listed list _) fun _ => Lib.takes_pure _ fun _ listed => listed

-- A directory that is to go is checked, and the local node put into the list.
theorem hook_empty_takes (cwd : Mdir) (id : UInt32) (rest : ListM σ Int32)
    (restTakes : Lib.Takes (Hooked list) rest fun _ => Listed list) :
    Lib.Takes (fun fs => Listed list fs ∧ Hooked list fs)
      (do
        let err ← keep (fetchEmpty cfg below cwd id)
        if err ≠ 0 then return err else
        setMlist .hook
        rest)
      fun _ => Listed list := by
  refine Lib.takes_bind _ (keep_both list _) fun _ => ?_
  refine Lib.takes_exit _ (fun _ both => both.1) fun _ => ?_
  exact Lib.takes_bind _ (set_mlist_takes list) fun _ => restTakes

theorem remove_takes (fuel : Nat) (path : Path) : Lib.Takes (Listed list) (lfsRemove cfg below fuel path) fun _ => Listed list := by
  refine Lib.takes_bind _ (takes_keep_listed list _) fun _ => ?_
  refine Lib.takes_exit _ (fun _ listed => listed) fun _ => ?_
  refine Lib.takes_bind _ (takes_keep_listed list _) fun found => ?_
  refine Lib.takes_exit _ (fun _ listed => listed) fun _ => ?_
  refine Lib.takes_bind _ (hook_next_takes list) fun _ => ?_
  have entry := remove_entry_takes cfg below list found.2
  refine Lib.takes_ite (fun _ => hook_empty_takes cfg below list _ _ _ entry) fun _ => ?_
  exact Lib.takes_mono entry (fun _ both => both.2) fun _ _ listed => listed

theorem rename_move_takes (old new : Found) (samepair : Bool) (newoldid : UInt32) :
    Lib.Takes (Hooked list) (renameMove cfg below old new samepair newoldid) fun _ => Listed list := by
  refine Lib.takes_bind _ (takes_keep_hooked list _) fun _ => ?_
  refine Lib.takes_bind _ (unhook_takes list) fun _ => ?_
  refine Lib.takes_exit _ (fun _ listed => listed) fun _ => ?_
  exact Lib.takes_ite (fun _ => takes_keep_listed list _) fun _ => Lib.takes_pure _ fun _ listed => listed

theorem rename_takes (fuel : Nat) (oldpath newpath : Path) :
    Lib.Takes (Listed list) (lfsRename cfg below fuel oldpath newpath) fun _ => Listed list := by
  refine Lib.takes_bind _ (takes_keep_listed list _) fun _ => ?_
  refine Lib.takes_exit _ (fun _ listed => listed) fun _ => ?_
  refine Lib.takes_bind _ (takes_keep_listed list _) fun old => ?_
  refine Lib.takes_exit _ (fun _ listed => listed) fun _ => ?_
  refine Lib.takes_bind _ (takes_keep_listed list _) fun new => ?_
  refine Lib.takes_exit _ (fun _ listed => listed) fun _ => ?_
  refine Lib.takes_bind _ (hook_next_takes list) fun _ => ?_
  have move : ∀ newoldid, Lib.Takes (fun fs => Listed list fs ∧ Hooked list fs)
      (renameMove cfg below old.2 new.2 (lfsPairSame old.2.dir.pair new.2.dir.pair) newoldid) fun _ => Listed list :=
    fun newoldid => Lib.takes_mono (rename_move_takes cfg below list _ _ _ newoldid) (fun _ both => both.2) fun _ _ listed => listed
  refine Lib.takes_ite (fun _ => ?_) fun _ => ?_
  · refine Lib.takes_bind _ Lib.takes_get fun _ => ?_
    exact Lib.takes_exit _ (fun _ both => both.1) fun _ => move _
  · refine Lib.takes_exit _ (fun _ both => both.1) fun _ => ?_
    refine Lib.takes_exit _ (fun _ both => both.1) fun _ => ?_
    refine Lib.takes_ite (fun _ => ?_) fun _ => move _
    exact hook_empty_takes cfg below list _ _ _ (rename_move_takes cfg below list _ _ _ _)

-- A handle on its way into the list or out of it.
structure Pending (number : Nat) (list : List MlistPtr) (fs : Fs σ) : Prop extends Loose number list fs where
  opened : fs.flags number &&& lfsFOpened ≠ 0

theorem same_pending (number : Nat) (before after : Fs σ) (same : SameLinks before after) (pending : Pending number list before) :
    Pending number list after := by
  refine ⟨same_loose number list before after same pending.toLoose, ?_⟩
  rw [same.opened number]
  exact pending.opened

theorem takes_keep_pending {α : Type} (number : Nat) (call : FsM σ α) :
    Lib.Takes (Pending number list) (keep call) fun _ => Pending number list :=
  takes_keep call (same_pending list number)

theorem unlist_pending (number fuel : Nat) : Lib.Takes (@Pending σ number list) (unlist fuel (.file (.handle number)))
    fun _ fs => Pending number (list.erase (.file (.handle number))) fs ∧ .file (.handle number) ∉ list.erase (.file (.handle number)) := by
  intro before value after pending ran
  obtain ⟨links, unlinked, same⟩ := Option.map_eq_some_iff.mp ran
  cases same
  have spelled := before.links.unlink_erases _ list fuel links pending.nodup pending.spelled unlinked
  refine ⟨⟨⟨spelled, pending.nodup.erase _, fun node member => ?_, fun other different => ?_⟩, pending.opened⟩, pending.nodup.not_mem_erase⟩
  · exact pending.handles node (List.mem_of_mem_erase member)
  · rw [List.mem_erase_of_ne (by simpa using different)]
    exact pending.others other different

theorem opened_takes (number : Nat) : Lib.Takes (@Pending σ number list) (keep (isOpened (.handle number)))
    fun answer fs => answer = true ∧ Pending number list fs := by
  intro before value after pending ran
  cases ran
  exact ⟨decide_eq_true pending.opened, pending⟩

theorem set_flags_number (number other : Nat) (change : UInt32 → UInt32) (fs : Fs σ) :
    (fs.setFlags (.handle number) change).flags other = if other = number then change (fs.flags number) else fs.flags other := by
  by_cases same : other = number
  · simp [Fs.flags, Fs.setFlags, Fs.setFile, same]
  · simp [Fs.flags, Fs.setFlags, Fs.setFile, same]

theorem set_flags_loose (number : Nat) (change : UInt32 → UInt32) (fs : Fs σ) (loose : Loose number list fs) :
    Loose number list (fs.setFlags (.handle number) change) := by
  refine ⟨loose.spelled, loose.nodup, loose.handles, fun other different => ?_⟩
  rw [set_flags_number, if_neg different]
  exact loose.others other different

theorem clear_opened (flags : UInt32) : flags &&& ~~~lfsFOpened &&& lfsFOpened = 0 := by
  rw [UInt32.and_assoc, UInt32.and_comm (~~~lfsFOpened)]
  simp

theorem set_mask (flags mask : UInt32) (some : mask ≠ 0) : (flags ||| mask) &&& mask ≠ 0 := by
  rw [or_and_word, UInt32.and_self]
  exact fun none => some (UInt32.or_eq_zero_iff.mp none).2

theorem file_close_takes (number fuel : Nat) : Lib.Takes (Pending number list) (lfsFileClose cfg below fuel (.handle number))
    fun _ => Listed (list.erase (.file (.handle number))) := by
  refine Lib.takes_bind _ (opened_takes list number) fun answer => ?_
  refine Lib.takes_ite (fun closed => ?_) fun _ => ?_
  · exact Lib.takes_pure _ fun _ both => absurd both.1 closed
  · refine Lib.takes_bind (fun _ => Pending number list) ?_ fun err => ?_
    · exact Lib.takes_mono (takes_keep_pending list number _) (fun _ both => both.2) fun _ _ pending => pending
    · refine Lib.takes_bind _ (unlist_pending list number fuel) fun _ => ?_
      refine Lib.takes_bind (fun _ => Listed (list.erase (.file (.handle number)))) ?_ fun _ => Lib.takes_pure _ fun _ listed => listed
      refine Lib.takes_update _ fun fs both => ?_
      refine loose_listed number _ _ (set_flags_loose _ number _ fs both.1.toLoose) ?_
      rw [set_flags_number, if_pos rfl, clear_opened]
      exact ⟨fun member => absurd member both.2, fun opened => absurd rfl opened⟩

theorem open_setup_takes (number : Nat) (flags : UInt32) (config : FileConfig) :
    Lib.Takes (fun fs => @Listed σ list fs ∧ .file (.handle number) ∉ list) (openSetup (.handle number) flags config)
      fun _ fs => Pending number list fs ∧ .file (.handle number) ∉ list := by
  refine Lib.takes_bind _ (takes_keep _ fun before after same both => ⟨same_listed list before after same both.1, both.2⟩) fun _ => ?_
  refine Lib.takes_update _ fun fs both => ⟨⟨set_flags_loose list number _ fs (listed_loose number list fs both.1), ?_⟩, both.2⟩
  rw [set_flags_number, if_pos rfl]
  exact set_mask flags lfsFOpened (by decide)

theorem push_pending (number : Nat) : Lib.Takes (fun fs => @Pending σ number list fs ∧ .file (.handle number) ∉ list)
    (push (.file (.handle number))) fun _ => Pending number (.file (.handle number) :: list) := by
  refine Lib.takes_update _ fun fs both => ?_
  have spelled := fs.links.spells_push list _ both.2 both.1.spelled
  refine ⟨⟨spelled, List.nodup_cons.mpr ⟨both.2, both.1.nodup⟩, fun node member => ?_, fun other different => ?_⟩, both.1.opened⟩
  · rcases List.mem_cons.mp member with rfl | old
    · exact ⟨nofun, nofun⟩
    · exact both.1.handles node old
  · rw [List.mem_cons, or_iff_right (by simpa using different)]
    exact both.1.others other different

-- Where the handle may be when the first part is over.
theorem open_found_takes (number : Nat) (flags : UInt32) (found : Found) :
    Lib.Takes (fun fs => Pending number list fs ∧ .file (.handle number) ∉ list) (openFound cfg below (.handle number) flags found)
      fun err fs => Pending number (.file (.handle number) :: list) fs ∨ err ≠ 0 ∧ Pending number list fs ∧ .file (.handle number) ∉ list := by
  have kept : ∀ before after : Fs σ, SameLinks before after → Pending number list before ∧ .file (.handle number) ∉ list →
      Pending number list after ∧ .file (.handle number) ∉ list :=
    fun before after same both => ⟨same_pending list number before after same both.1, both.2⟩
  refine Lib.takes_bind _ (takes_keep _ kept) fun _ => ?_
  refine Lib.takes_ite (fun missing => ?_) fun _ => ?_
  · refine Lib.takes_pure _ fun fs both => Or.inr ⟨fun none => ?_, both⟩
    rw [none] at missing
    exact absurd missing.1 (by decide)
  · refine Lib.takes_bind _ (takes_keep _ kept) fun _ => ?_
    refine Lib.takes_bind _ (push_pending list number) fun _ => ?_
    exact Lib.takes_mono (takes_keep_pending _ number _) (fun _ pending => pending) fun _ _ pending => Or.inl pending

theorem open_cleanup_takes (number fuel : Nat) : Lib.Takes (Pending number list) (openCleanup cfg below fuel (.handle number))
    fun _ => Listed (list.erase (.file (.handle number))) := by
  refine Lib.takes_bind _ (takes_keep_pending list number _) fun _ => ?_
  exact Lib.takes_bind _ (file_close_takes cfg below list number fuel) fun _ => Lib.takes_pure _ fun _ listed => listed

theorem opencfg_takes (number fuel : Nat) (path : Path) (flags : UInt32) (config : FileConfig) :
    Lib.Takes (fun fs => Listed list fs ∧ .file (.handle number) ∉ list) (lfsFileOpencfg cfg below fuel (.handle number) path flags config)
      fun err => Listed (if err = 0 then .file (.handle number) :: list else list) := by
  refine Lib.takes_bind _ (takes_keep _ fun before after same both => ⟨same_listed list before after same both.1, both.2⟩) fun err => ?_
  refine Lib.takes_ite (fun failed => Lib.takes_pure _ fun _ both => ?_) fun _ => ?_
  · rw [if_neg failed]
    exact both.1
  · refine Lib.takes_bind _ (open_setup_takes list number flags config) fun _ => ?_
    refine Lib.takes_bind _ (takes_keep _ fun before after same both => ⟨same_pending list number before after same both.1, both.2⟩) fun found => ?_
    refine Lib.takes_bind _ (open_found_takes cfg below list number flags found) fun err => ?_
    refine Lib.takes_ite (fun failed => ?_) fun fine => ?_
    · refine Lib.takes_bind (fun _ => Listed list) ?_ fun _ => Lib.takes_pure _ fun _ listed => ?_
      · intro before value after ended ran
        rcases ended with inside | ⟨_, outside, fresh⟩
        · have cleaned := open_cleanup_takes cfg below _ number fuel before value after inside ran
          rwa [List.erase_cons_head] at cleaned
        · have cleaned := open_cleanup_takes cfg below _ number fuel before value after outside ran
          rwa [List.erase_of_not_mem fresh] at cleaned
      · rwa [if_neg failed]
    · refine Lib.takes_pure _ fun fs ended => ?_
      rw [if_pos rfl]
      rcases ended with inside | ⟨failed, _⟩
      · exact loose_listed number _ fs inside.toLoose ⟨fun _ => inside.opened, fun _ => List.mem_cons_self ..⟩
      · exact absurd failed fine

theorem dir_open_takes (fuel dir : Nat) (path : Path) :
    Lib.Takes (fun fs => Listed list fs ∧ .dir dir ∉ list) (lfsDirOpen cfg below fuel dir path)
      fun err => Listed (if err = 0 then .dir dir :: list else list) := by
  refine Lib.takes_bind _ (takes_keep _ fun before after same both => ⟨same_listed list before after same both.1, both.2⟩) fun err => ?_
  refine Lib.takes_ite (fun failed => Lib.takes_pure _ fun _ both => ?_) fun _ => ?_
  · rw [if_neg failed]
    exact both.1
  · refine Lib.takes_bind (fun _ => Listed (.dir dir :: list)) ?_ fun _ => Lib.takes_pure _ fun _ listed => listed
    refine Lib.takes_update _ fun fs both => ?_
    refine ⟨⟨List.nodup_cons.mpr ⟨both.2, both.1.nodup⟩, fun other member => ?_, fun number => ?_⟩,
      fs.links.spells_push list (.dir dir) both.2 both.1.spelled⟩
    · rcases List.mem_cons.mp member with rfl | old
      · exact ⟨nofun, nofun⟩
      · exact both.1.handles other old
    · rw [List.mem_cons, or_iff_right nofun]
      exact both.1.listed number

theorem dir_close_takes (fuel dir : Nat) : Lib.Takes (@Listed σ list) (lfsDirClose fuel dir) fun _ => Listed (list.erase (.dir dir)) := by
  refine Lib.takes_bind (fun _ => Listed (list.erase (.dir dir))) ?_ fun _ => Lib.takes_pure _ fun _ listed => listed
  intro before value after listed ran
  obtain ⟨links, unlinked, same⟩ := Option.map_eq_some_iff.mp ran
  cases same
  have spelled := before.links.unlink_erases _ list fuel links listed.nodup listed.spelled unlinked
  refine ⟨⟨listed.nodup.erase _, fun node member => listed.handles node (List.mem_of_mem_erase member), fun number => ?_⟩, spelled⟩
  rw [List.mem_erase_of_ne (by simp)]
  exact listed.listed number

end

section
variable {α β : Type} (cfg : Config) (device : Device)

-- No function of a mount but lfs_init writes lfs->mlist.
def Spares (call : LfsM α) : Prop :=
  ∀ lfs after rcache last result, exec cfg device call lfs rcache = some (result, after, last) → after.mlist = lfs.mlist

theorem spares_pure (result : α) : Spares cfg device (pure result) := by
  intro lfs after rcache last value ran
  cases ran
  rfl

theorem spares_get : Spares cfg device get := by
  intro lfs after rcache last value ran
  cases ran
  rfl

theorem spares_modify (change : Lfs → Lfs) (same : ∀ lfs, (change lfs).mlist = lfs.mlist) : Spares cfg device (modify change) := by
  intro lfs after rcache last value ran
  cases ran
  exact same lfs

theorem spares_lift (call : BaseM α) : Spares cfg device (lift call) := by
  intro lfs after rcache last value ran
  obtain ⟨⟨⟨result, ended⟩, caches⟩, ran, same⟩ := Option.map_eq_some_iff.mp ran
  rw [lift, Lib.Prog.run_map] at ran
  obtain ⟨inner, _, moved⟩ := Option.map_eq_some_iff.mp ran
  cases moved
  cases same
  rfl

theorem spares_bind (call : LfsM α) (rest : α → LfsM β) (first : Spares cfg device call) (second : ∀ value, Spares cfg device (rest value)) :
    Spares cfg device (call >>= rest) := by
  intro lfs after rcache last value ran
  rw [exec_bind] at ran
  obtain ⟨⟨result, between, cache⟩, started, ended⟩ := Option.bind_eq_some_iff.mp ran
  exact (second result _ _ _ _ _ ended).trans (first _ _ _ _ _ started)

theorem spares_ite {condition : Prop} [Decidable condition] {yes no : LfsM α} (positive : Spares cfg device yes)
    (negative : Spares cfg device no) : Spares cfg device (if condition then yes else no) := by
  split
  · exact positive
  · exact negative

theorem limit_spares {condition : Prop} [Decidable condition] (above : Lfs → Prop) [DecidablePred above] (change : Lfs → Lfs)
    (rest : LfsM Int32) (same : ∀ lfs, (change lfs).mlist = lfs.mlist) (spares : Spares cfg device rest) :
    Spares cfg device (if condition then do
      let lfs ← get
      if above lfs then pure lfsErrInval else do
        modify change
        rest
      else rest) := by
  refine spares_ite cfg device ?_ spares
  refine spares_bind cfg device _ _ (spares_get cfg device) fun lfs => spares_ite cfg device (spares_pure cfg device _) ?_
  exact spares_bind cfg device _ _ (spares_modify cfg device _ same) fun _ => spares

theorem limits_spares (superblock : Superblock) : Spares cfg device (mountLimits superblock) := by
  refine limit_spares cfg device (fun lfs => superblock.nameMax > lfs.nameMax) _ _ (fun _ => rfl) ?_
  refine limit_spares cfg device (fun lfs => superblock.fileMax > lfs.fileMax) _ _ (fun _ => rfl) ?_
  exact limit_spares cfg device (fun lfs => superblock.attrMax > lfs.attrMax) _ _ (fun _ => rfl) (spares_pure cfg device _)

theorem superblock_spares (dir : Mdir) : Spares cfg device (mountSuperblock cfg dir) := by
  refine spares_bind cfg device _ _ (spares_modify cfg device _ fun _ => rfl) fun _ => ?_
  refine spares_bind cfg device _ _ (spares_lift cfg device _) fun got => ?_
  refine spares_ite cfg device (spares_pure cfg device _) ?_
  exact spares_ite cfg device (spares_pure cfg device _) (limits_spares cfg device _)

theorem pair_spares (dir : Mdir) : Spares cfg device (mountPair cfg dir) := by
  refine spares_bind cfg device _ _ (spares_lift cfg device _) fun fetched => ?_
  refine spares_ite cfg device (spares_pure cfg device _) (spares_ite cfg device ?_ (spares_pure cfg device _))
  exact spares_bind cfg device _ _ (superblock_spares cfg device _) fun _ => spares_pure cfg device _

theorem gstate_spares (dir : Mdir) : Spares cfg device (mountGstate cfg dir) := by
  refine spares_bind cfg device _ _ (spares_get cfg device) fun _ => ?_
  refine spares_bind cfg device _ _ (spares_lift cfg device _) fun _ => ?_
  exact spares_bind cfg device _ _ (spares_modify cfg device _ fun _ => rfl) fun _ => spares_pure cfg device _

theorem finish_spares : Spares cfg device (mountFinish cfg) := by
  refine spares_bind cfg device _ _ (spares_get cfg device) fun _ => spares_ite cfg device (spares_pure cfg device _) ?_
  refine spares_bind cfg device _ _ (spares_modify cfg device _ fun _ => rfl) fun _ => ?_
  exact spares_bind cfg device _ _ (spares_modify cfg device _ fun _ => rfl) fun _ => spares_pure cfg device _

theorem loop_spares (turns : Nat) : ∀ (dir : Mdir) (cycle : UInt32), Spares cfg device (mountLoop cfg turns dir cycle) := by
  induction turns with
  | zero => exact fun _ _ => spares_lift cfg device _
  | succ turns ih =>
      intro dir cycle
      refine spares_ite cfg device (spares_pure cfg device _) (spares_ite cfg device (spares_pure cfg device _) ?_)
      refine spares_bind cfg device _ _ (pair_spares cfg device _) fun _ => spares_ite cfg device (spares_pure cfg device _) ?_
      refine spares_bind cfg device _ _ (gstate_spares cfg device _) fun _ => spares_ite cfg device (spares_pure cfg device _) ?_
      exact ih _ _

theorem mount_mlist (lfs after : Lfs) (rcache last : Cache) (ran : exec cfg device (lfsMount cfg) lfs rcache = some (0, after, last)) :
    after.mlist = [] := by
  rw [lfsMount, exec_bind] at ran
  obtain ⟨⟨err, mounting, cache⟩, inited, scan⟩ := Option.bind_eq_some_iff.mp ran
  obtain ⟨answer, started, zeroed, init, _, fresh⟩ := init_exec cfg device lfs rcache
  obtain ⟨rfl, rfl, rfl⟩ : answer = err ∧ started = mounting ∧ zeroed = cache := by simpa [init] using inited
  by_cases refused : answer = 0
  · rw [← (fresh refused).2]
    simp only [refused, ne_eq, not_true_eq_false, ↓reduceIte] at scan
    refine spares_bind cfg device _ _ (loop_spares cfg device _ _ _) (fun _ => ?_) _ _ _ _ _ scan
    exact spares_ite cfg device (spares_pure cfg device _) (finish_spares cfg device)
  · simp only [refused, ne_eq, not_false_eq_true, ↓reduceIte, exec_pure] at scan
    cases scan
    exact absurd rfl refused

end

-- The same card with a file a, of one byte, beside the superblock.
def fileCommit : List UInt8 := superblockCommit.take 48 ++ [
  0x60, 0x00, 0x04, 0x18, 0x40, 0x00, 0x00, 0x01, 0x61, 0x20, 0x00, 0x00, 0x00, 0x78, 0x70, 0x1f, 0xf9, 0xbf, 0x55, 0x07, 0xf0, 0xe0]

def fileImage : Image := fun block off => if block = 0 then fileCommit.getD off.toNat 0xff else 0xff

def fileCard : Device := imageDevice fileImage

-- Where no call but reads reaches the card.
def fileBelow : Below Unit :=
  ⟨deviceServer fileCard, fun _ card => some (0, card), pure (lfsErrNospc, 0), fun _ dir _ => pure (lfsErrNospc, dir), pure 0⟩

def Lfs.mounted {σ : Type} (lfs : Lfs) (rcache : Cache) (config : Option FileConfig) (card : σ) : Fs σ where
  rcache := rcache
  pcache := lfs.pcache
  root := lfs.root
  links := ⟨none, fun _ => none⟩
  gstate := lfs.gstate
  gdisk := lfs.gdisk
  gdelta := lfs.gdelta
  free := lfs.free
  nameMax := lfs.nameMax
  fileMax := lfs.fileMax
  attrMax := lfs.attrMax
  nodes := fun _ => ⟨0, 0, Mdir.ofTail ⟨0, 0⟩⟩
  files := fun _ => ⟨0, 0, 0, 0, 0, 0, zeroCache, config⟩
  dirs := fun _ => ⟨0, ⟨0, 0⟩⟩
  rest := card

def fileMount : Option (Int32 × Lfs × Cache) := exec (sectorConfig 16) fileCard (lfsMount (sectorConfig 16)) zeroLfs zeroCache

end SDCardFs.Littlefs
