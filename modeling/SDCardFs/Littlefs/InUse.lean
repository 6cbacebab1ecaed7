import SDCardFs.Littlefs.Coherent
import SDCardFs.Littlefs.Lookahead

set_option autoImplicit false

namespace SDCardFs.Littlefs

section
variable {α β : Type} (cfg : Config) (image : Image) (base : LfsBase)

-- A call on the card itself, without a read cache, and the blocks it reports.
def onCard (call : BaseM α) : Option (α × List UInt32) := (call base).run (directServer cfg image logBlock) []

theorem on_card_log (program : Lib.Prog Request Request.Response α) (log : List UInt32) :
    program.run (directServer cfg image logBlock) log =
      (program.run (directServer cfg image logBlock) []).map fun ran => (ran.1, log ++ ran.2) := by
  have shifted : ∀ asked tail, directServer cfg image logBlock asked (log ++ tail) =
      (directServer cfg image logBlock asked tail).map fun served => (served.1, log ++ served.2) := by
    intro asked tail
    cases asked with
    | report block => exact congrArg (fun reported => some ((0 : Int32), reported)) (List.append_assoc log tail [block])
    | read hint block off data => rfl
    | readThrough pcache hint block data short => rfl
    | zeroRcache => rfl
    | stir crc => rfl
  simpa using Lib.Prog.run_same (log ++ ·) shifted program []

theorem on_card_bind (call : BaseM α) (rest : α → BaseM β) :
    onCard cfg image base (call >>= rest) = (onCard cfg image base call).bind fun ran =>
      (onCard cfg image base (rest ran.1)).map fun last => (last.1, ran.2 ++ last.2) := by
  have split : (call >>= rest) base = call base >>= fun result => rest result base := rfl
  rw [onCard, split, Lib.Prog.run_bind, onCard]
  apply congrArg
  funext ran
  exact on_card_log cfg image _ _

theorem on_card_parts (call : BaseM α) (rest : α → BaseM β) (last : β) (log : List UInt32)
    (ran : onCard cfg image base (call >>= rest) = some (last, log)) :
    ∃ result before after, onCard cfg image base call = some (result, before) ∧ onCard cfg image base (rest result) = some (last, after) ∧
      log = before ++ after := by
  rw [on_card_bind] at ran
  obtain ⟨⟨result, before⟩, called, tail⟩ := Option.bind_eq_some_iff.mp ran
  obtain ⟨⟨answer, after⟩, finished, same⟩ := Option.map_eq_some_iff.mp tail
  cases same
  exact ⟨result, before, after, called, finished, rfl⟩

-- if(err) return err; in a call that returned 0
theorem on_card_passed (err : Int32) (rest : BaseM Int32) (log : List UInt32)
    (ran : onCard cfg image base (if err ≠ 0 then pure err else rest) = some (0, log)) : err = 0 ∧ onCard cfg image base rest = some (0, log) := by
  by_cases failed : err = 0
  · rw [if_neg (by simpa using failed)] at ran
    exact ⟨failed, ran⟩
  · rw [if_pos failed] at ran
    exact absurd (Prod.mk.inj (Option.some.inj ran)).1 failed

theorem on_card_checked {δ : Type} (call : BaseM (Int32 × δ)) (next : Int32 × δ → BaseM Int32) (rest : δ → BaseM Int32)
    (log : List UInt32) (ran : onCard cfg image base (call >>= next) = some (0, log))
    (checks : ∀ err value, next (err, value) = if err ≠ 0 then pure err else rest value) :
    ∃ value before after, onCard cfg image base call = some ((0, value), before) ∧
      onCard cfg image base (rest value) = some (0, after) ∧ log = before ++ after := by
  obtain ⟨⟨err, value⟩, before, after, called, finished, rfl⟩ := on_card_parts cfg image base call next 0 log ran
  rw [checks] at finished
  obtain ⟨rfl, passed⟩ := on_card_passed cfg image base err _ after finished
  exact ⟨value, before, after, called, passed, rfl⟩

theorem on_card_checked_err (call : BaseM Int32) (rest : BaseM Int32) (log : List UInt32)
    (ran : onCard cfg image base (do
      let err ← call
      if err ≠ 0 then return err
      rest) = some (0, log)) :
    ∃ before after, onCard cfg image base call = some (0, before) ∧ onCard cfg image base rest = some (0, after) ∧ log = before ++ after := by
  obtain ⟨err, before, after, called, finished, rfl⟩ := on_card_parts cfg image base call _ 0 log ran
  obtain ⟨rfl, passed⟩ := on_card_passed cfg image base err rest after finished
  exact ⟨before, after, called, passed, rfl⟩

theorem on_card_report (block : UInt32) (rest : BaseM Int32) (log : List UInt32)
    (ran : onCard cfg image base (do
      let err ← report block
      if err ≠ 0 then return err
      rest) = some (0, log)) :
    ∃ after, onCard cfg image base rest = some (0, after) ∧ log = block :: after := by
  obtain ⟨before, after, reported, finished, rfl⟩ := on_card_checked_err cfg image base _ _ _ ran
  cases reported
  exact ⟨after, finished, rfl⟩

def pairBlocks (pair : Pair) : List UInt32 := [pair.first, pair.second]

def ctzPointers (pcache : Option Cache) (head : UInt32) (bytes : Nat) : List UInt8 := directBytes pcache image head 0 bytes

-- The blocks of a CTZ list from the one with the given index backwards: from
-- an even index, the two before it.
inductive CtzBlock (pcache : Option Cache) : UInt32 → UInt32 → UInt32 → Prop where
  | head (head index : UInt32) : CtzBlock pcache head index head
  | one (head index block : UInt32) : index &&& 1 ≠ 0 →
      CtzBlock pcache (lfsFromle32 (ctzPointers image pcache head 4)) (index - 1) block → CtzBlock pcache head index block
  | first (head index : UInt32) : index ≠ 0 → index &&& 1 = 0 → CtzBlock pcache head index (lfsFromle32 (ctzPointers image pcache head 8))
  | second (head index block : UInt32) : index ≠ 0 → index &&& 1 = 0 →
      CtzBlock pcache (lfsFromle32 ((ctzPointers image pcache head 8).drop 4)) (index - 2) block → CtzBlock pcache head index block

def CtzUses (pcache : Option Cache) (head size block : UInt32) : Prop :=
  size ≠ 0 ∧ CtzBlock image pcache head (lfsCtzIndex cfg (size - 1)) block

def IdUses (dir : Mdir) (id : UInt16) (block : UInt32) : Prop :=
  ∃ tag bytes, (onCard cfg image base (lfsDirGet cfg dir (lfsMktag 0x700 0x3ff 0) (lfsMktag lfsTypeStruct id.toUInt32 8))).map Prod.fst =
      some (tag, bytes) ∧ ¬ tag < 0 ∧
    (lfsTagType3 tag.toUInt32 = lfsTypeCtzstruct ∧
        CtzUses cfg image none (lfsPairFromle32 bytes).first (lfsPairFromle32 bytes).second block ∨
      lfsTagType3 tag.toUInt32 = lfsTypeDirstruct ∧ block ∈ pairBlocks (lfsPairFromle32 bytes))

inductive TailUses : Mdir → UInt32 → Prop where
  | pair (dir : Mdir) (block : UInt32) : ¬ lfsPairIsnull dir.tail = true → block ∈ pairBlocks dir.tail → TailUses dir block
  | id (dir next : Mdir) (id : UInt16) (block : UInt32) : ¬ lfsPairIsnull dir.tail = true →
      (onCard cfg image base (lfsDirFetch cfg dir dir.tail)).map Prod.fst = some (0, next) → id < next.count →
      IdUses cfg image base next id block → TailUses dir block
  | tail (dir next : Mdir) (block : UInt32) : ¬ lfsPairIsnull dir.tail = true →
      (onCard cfg image base (lfsDirFetch cfg dir dir.tail)).map Prod.fst = some (0, next) → TailUses next block → TailUses dir block

-- The blocks of an open file that are not on the card's tail list yet.
def FileUses (f : LfsFile) (block : UInt32) : Prop :=
  f.type = lfsTypeReg ∧ f.flags &&& lfsFInline = 0 ∧
    (f.flags &&& lfsFDirty ≠ 0 ∧ CtzUses cfg image (some f.cache) f.ctzHead f.ctzSize block ∨
      f.flags &&& lfsFWriting ≠ 0 ∧ CtzUses cfg image (some f.cache) f.block f.pos block)

def InUse (files : Nat → LfsFile) (block : UInt32) : Prop :=
  TailUses cfg image base (Mdir.ofTail ⟨0, 1⟩) block ∨ ∃ f ∈ base.mlist, FileUses cfg image (files f) block

theorem read_heads_direct (pcache : Option Cache) (head : UInt32) (two : Bool) (bytes : List UInt8) (log : List UInt32)
    (ran : onCard cfg image base (readHeads pcache head two) = some ((0, bytes), log)) :
    bytes = ctzPointers image pcache head (if two then 8 else 4) := by
  have whole : ∀ length, directRead cfg image pcache head 0 (zeros length) = (0, bytes) → bytes = ctzPointers image pcache head length := by
    intro length served
    rw [directRead] at served
    by_cases outside : head ≥ cfg.blockCount ∨ 0 + UInt32.ofNat (zeros length).length > cfg.blockSize
    · rw [if_pos outside] at served
      cases (Prod.mk.inj served).1
    · rw [if_neg outside, zeros, List.length_replicate] at served
      exact (Prod.mk.inj served).2.symm
  cases pcache with
  | none =>
      cases two with
      | false => exact whole 4 (Prod.mk.inj (Option.some.inj ran)).1
      | true => exact whole 8 (Prod.mk.inj (Option.some.inj ran)).1
  | some pcache =>
      cases two with
      | false => exact whole 4 (Prod.mk.inj (Option.some.inj ran)).1
      | true => exact whole 8 (Prod.mk.inj (Option.some.inj ran)).1

theorem ctz_loop_covers (pcache : Option Cache) (fuel : Nat) : ∀ (head index block : UInt32) (log : List UInt32),
    onCard cfg image base (ctzTraverseLoop pcache fuel head index) = some (0, log) → CtzBlock image pcache head index block →
    block ∈ log := by
  induction fuel with
  | zero =>
      intro head index block log ran
      cases ran
  | succ fuel ih =>
      intro head index block log ran uses
      rw [ctzTraverseLoop] at ran
      obtain ⟨others, rest, rfl⟩ := on_card_report cfg image base _ _ _ ran
      by_cases ended : index = 0
      · cases uses with
        | head => simp
        | one _ _ _ odd => exact absurd (by rw [ended]; rfl) odd
        | first _ _ more => exact absurd ended more
        | second _ _ _ more => exact absurd ended more
      · rw [if_neg ended] at rest
        by_cases even : index &&& 1 = 0
        · rw [if_pos even] at rest
          obtain ⟨heads, before, after, fetched, both, rfl⟩ := on_card_checked cfg image base _ _ _ _ rest fun _ _ => rfl
          obtain ⟨last, next, rfl⟩ := on_card_report cfg image base _ _ _ both
          rw [read_heads_direct cfg image base pcache head true heads before fetched] at next ⊢
          cases uses with
          | head => simp
          | one _ _ _ odd => exact absurd even odd
          | first => simp
          | second _ _ _ _ _ further => simp [ih _ _ _ _ next further]
        · rw [if_neg even] at rest
          obtain ⟨heads, before, after, fetched, next, rfl⟩ := on_card_checked cfg image base _ _ _ _ rest fun _ _ => rfl
          rw [read_heads_direct cfg image base pcache head false heads before fetched] at next
          cases uses with
          | head => simp
          | one _ _ _ _ further => simp [ih _ _ _ _ next further]
          | first _ _ _ other => exact absurd other even
          | second _ _ _ _ other => exact absurd other even

theorem ctz_covers (pcache : Option Cache) (head size block : UInt32) (log : List UInt32)
    (ran : onCard cfg image base (lfsCtzTraverse cfg pcache head size) = some (0, log)) (uses : CtzUses cfg image pcache head size block) :
    block ∈ log := by
  rw [lfsCtzTraverse, if_neg uses.1] at ran
  exact ctz_loop_covers cfg image base pcache _ _ _ block log ran uses.2

theorem on_card_pair (pair : Pair) : onCard cfg image base (reportPair pair) = some (0, pairBlocks pair) := rfl

theorem id_covers (dir : Mdir) (id : UInt16) (block : UInt32) (log : List UInt32)
    (ran : onCard cfg image base (traverseId cfg true dir id) = some (0, log)) (uses : IdUses cfg image base dir id block) : block ∈ log := by
  obtain ⟨tag, bytes, got, valid, blocks⟩ := uses
  rw [traverseId] at ran
  obtain ⟨⟨found, data⟩, before, after, known, rest, rfl⟩ := on_card_parts cfg image base _ _ 0 log ran
  rw [known] at got
  cases got
  dsimp only at rest
  rw [if_neg valid] at rest
  apply List.mem_append_right
  rcases blocks with ⟨ctz, uses⟩ | ⟨child, member⟩
  · rw [if_pos ctz] at rest
    exact ctz_covers cfg image base none _ _ block after rest uses
  · have other : ¬ lfsTagType3 tag.toUInt32 = lfsTypeCtzstruct := by
      rw [child]
      decide
    rw [if_neg other, if_pos ⟨rfl, child⟩, on_card_pair] at rest
    cases rest
    exact member

theorem ids_cover (dir : Mdir) (count : Nat) : ∀ (id : UInt16) (offset : Nat) (block : UInt32) (log : List UInt32), offset < count →
    onCard cfg image base (traverseIds cfg true dir count id) = some (0, log) →
    IdUses cfg image base dir (id + UInt16.ofNat offset) block → block ∈ log := by
  induction count with
  | zero =>
      intro id offset block log impossible
      omega
  | succ count ih =>
      intro id offset block log within ran uses
      rw [traverseIds] at ran
      obtain ⟨before, after, first, rest, rfl⟩ := on_card_checked_err cfg image base _ _ _ ran
      cases offset with
      | zero =>
          have same : id + UInt16.ofNat 0 = id := UInt16.add_zero id
          rw [same] at uses
          exact List.mem_append_left _ (id_covers cfg image base dir id block before first uses)
      | succ offset =>
          have next : id + UInt16.ofNat (offset + 1) = id + 1 + UInt16.ofNat offset := by
            rw [UInt16.ofNat_add, UInt16.add_comm (UInt16.ofNat offset), ← UInt16.add_assoc]
            rfl
          rw [next] at uses
          exact List.mem_append_right _ (ih _ offset block after (by omega) rest uses)

theorem pair_parts (dir next : Mdir) (log : List UInt32)
    (ran : onCard cfg image base (traversePair cfg true dir) = some ((0, next), log)) :
    ∃ fetched ids, (onCard cfg image base (lfsDirFetch cfg dir dir.tail)).map Prod.fst = some (0, next) ∧
      onCard cfg image base (traverseIds cfg true next next.count.toNat 0) = some (0, ids) ∧ log = pairBlocks dir.tail ++ (fetched ++ ids) := by
  rw [traversePair] at ran
  obtain ⟨err, reported, after, both, rest, rfl⟩ := on_card_parts cfg image base _ _ (0, next) log ran
  rw [on_card_pair] at both
  cases both
  rw [if_neg (by decide)] at rest
  obtain ⟨⟨err, found⟩, fetched, ids, known, finished, rfl⟩ := on_card_parts cfg image base _ _ (0, next) after rest
  dsimp only at finished
  by_cases failed : err = 0
  · rw [if_neg (by simpa using failed)] at finished
    obtain ⟨status, walked, last, traversed, done, rfl⟩ := on_card_parts cfg image base _ _ (0, next) ids finished
    cases done
    subst failed
    exact ⟨fetched, walked, by rw [known]; rfl, traversed, by simp⟩
  · rw [if_pos failed] at finished
    cases finished
    exact absurd rfl failed

theorem metadata_covers (fuel : Nat) : ∀ (dir : Mdir) (cycle block : UInt32) (log : List UInt32),
    onCard cfg image base (traverseMetadata cfg true fuel dir cycle) = some (0, log) → TailUses cfg image base dir block → block ∈ log := by
  induction fuel with
  | zero =>
      intro dir cycle block log ran
      cases ran
  | succ fuel ih =>
      intro dir cycle block log ran uses
      have tail : ¬ lfsPairIsnull dir.tail = true := by
        cases uses with
        | pair _ _ tail => exact tail
        | id _ _ _ _ tail => exact tail
        | tail _ _ _ tail => exact tail
      rw [traverseMetadata, if_neg tail] at ran
      by_cases full : cycle ≥ cfg.blockCount / 2
      · rw [if_pos full] at ran
        cases ran
      · rw [if_neg full] at ran
        obtain ⟨next, before, after, turn, rest, rfl⟩ := on_card_checked cfg image base _ _ _ _ ran fun _ _ => rfl
        obtain ⟨fetched, ids, known, walked, rfl⟩ := pair_parts cfg image base dir next before turn
        cases uses with
        | pair _ _ _ member => exact List.mem_append_left _ (List.mem_append_left _ member)
        | id _ found id _ _ fetch within uses =>
            obtain rfl : next = found := (Prod.mk.inj (Option.some.inj (known.symm.trans fetch))).2
            have covered := ids_cover cfg image base next _ 0 id.toNat block ids (UInt16.lt_iff_toNat_lt.mp within) walked
            rw [UInt16.ofNat_toNat, UInt16.zero_add] at covered
            exact List.mem_append_left _ (List.mem_append_right _ (List.mem_append_right _ (covered uses)))
        | tail _ found _ _ fetch uses =>
            obtain rfl : next = found := (Prod.mk.inj (Option.some.inj (known.symm.trans fetch))).2
            exact List.mem_append_right _ (ih next _ block after rest uses)

theorem file_covers (f : LfsFile) (block : UInt32) (log : List UInt32)
    (ran : onCard cfg image base (traverseFile cfg f) = some (0, log)) (uses : FileUses cfg image f block) : block ∈ log := by
  obtain ⟨reg, outside, uses⟩ := uses
  rw [traverseFile, if_neg (by simpa using reg)] at ran
  dsimp only at ran
  by_cases dirty : f.flags &&& lfsFDirty ≠ 0 ∧ f.flags &&& lfsFInline = 0
  · rw [if_pos dirty] at ran
    obtain ⟨before, after, first, rest, rfl⟩ := on_card_checked_err cfg image base _ _ _ ran
    rcases uses with ⟨_, uses⟩ | ⟨writing, uses⟩
    · exact List.mem_append_left _ (ctz_covers cfg image base _ _ _ block before first uses)
    · rw [if_pos ⟨writing, outside⟩] at rest
      exact List.mem_append_right _ (ctz_covers cfg image base _ _ _ block after rest uses)
  · rw [if_neg dirty, pure_bind, if_neg (by decide)] at ran
    rcases uses with ⟨changed, _⟩ | ⟨writing, uses⟩
    · exact absurd ⟨changed, outside⟩ dirty
    · rw [if_pos ⟨writing, outside⟩] at ran
      exact ctz_covers cfg image base _ _ _ block log ran uses

theorem files_cover (files : Nat → LfsFile) (block : UInt32) (mlist : List Nat) : ∀ (f : Nat) (log : List UInt32), f ∈ mlist →
    onCard cfg image base (traverseFiles cfg files mlist) = some (0, log) → FileUses cfg image (files f) block → block ∈ log := by
  induction mlist with
  | nil =>
      intro f log impossible
      cases impossible
  | cons first mlist ih =>
      intro f log member ran uses
      rw [traverseFiles] at ran
      obtain ⟨before, after, walked, rest, rfl⟩ := on_card_checked_err cfg image base _ _ _ ran
      rcases List.mem_cons.mp member with rfl | later
      · exact List.mem_append_left _ (file_covers cfg image base _ block before walked uses)
      · exact List.mem_append_right _ (ih f after later rest uses)

theorem traversal_covers (files : Nat → LfsFile) (block : UInt32) (log : List UInt32)
    (ran : onCard cfg image base (lfsFsTraverseraw cfg files true) = some (0, log)) (uses : InUse cfg image base files block) :
    block ∈ log := by
  rw [lfsFsTraverseraw] at ran
  obtain ⟨before, after, metadata, opened, rfl⟩ := on_card_checked_err cfg image base _ _ _ ran
  rcases uses with tail | ⟨f, member, uses⟩
  · exact List.mem_append_left _ (metadata_covers cfg image base _ _ _ block before metadata tail)
  · exact List.mem_append_right _ (files_cover cfg image base files block base.mlist f after member opened uses)

end

theorem seed_silent {δ : Type} (cfg : Config) (device : Device) (cb : Callback δ) (asked : Request) (answer : UInt32 → asked.Response × UInt32)
    (known : seedHandler asked = some answer) (seed : UInt32) (state : Cache × δ) :
    cachedServer cfg device cb asked state = some ((answer seed).1, state) := by
  cases asked with
  | stir crc =>
      cases known
      rfl
  | read hint block off data => cases known
  | readThrough pcache hint block data short => cases known
  | zeroRcache => cases known
  | report block => cases known

section
variable {α : Type} {cfg : Config} {image : Image}

theorem reports_on_card (call : BaseM α) (base : LfsBase) (seed stirred : UInt32) (rcache last : Cache) (result : α) (log : List UInt32)
    (coherent : Coherent cfg image rcache)
    (reported : reports cfg (imageDevice image) call base seed rcache = some (result, log, stirred, last)) :
    onCard cfg image base call = some (result, log) ∧ Coherent cfg image last := by
  obtain ⟨ran, served, same⟩ := Option.map_eq_some_iff.mp reported
  have silent := Lib.Prog.run_handle_silent (seed_silent cfg (imageDevice image) logBlock) (call base) seed (rcache, [])
  rw [served] at silent
  obtain ⟨direct, still⟩ := cached_run_direct cfg image logBlock _ rcache ran.2.1 [] ran.2.2 ran.1.1 coherent silent.symm
  cases same
  exact ⟨direct, still⟩

end

end SDCardFs.Littlefs
