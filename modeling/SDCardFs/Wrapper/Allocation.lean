import SDCardFs.Littlefs.FsSize
import SDCardFs.Littlefs.Refill
import SDCardFs.Wrapper.MountAsync

set_option autoImplicit false

namespace SDCardFs.Wrapper

open SDCardFs.Littlefs

-- What has become of the window lfs_alloc last filled, or reset: nothing a tick
-- did, or a tick has moved it on and dropped marks, or has also passed over
-- blocks while others were handed out, so that ack counts too far.
inductive Window where
  | filled
  | moved
  | miscounted
  deriving DecidableEq

-- A mounted object between its ticks and operations. image is what the card
-- holds, handed the blocks handed out since the last lfs_alloc_ack.
structure Session (Media : Type) where
  world : World Media
  image : Image
  handed : List UInt32
  window : Window

-- alloc, ack and operation are pieces of file and directory operations: a call
-- of lfs_alloc, one of lfs_alloc_ack, and what comes between those.
inductive Event (Media : Type) where
  | tick
  | alloc
  | ack
  | operation (call : Operation Media) (image : Image)

section
variable {Media : Type}

def World.allocate (world : World Media) : Option ((Int32 × Option UInt32) × World Media) :=
  world.onLfs (lfsAlloc world.fs.config world.files)

def World.acknowledge (world : World Media) : World Media :=
  { world with fs := { world.fs with lfs := { world.fs.lfs with free := lfsAllocAck world.fs.config world.fs.lfs.free } } }

def Session.InUse (session : Session Media) (block : UInt32) : Prop :=
  Littlefs.InUse session.world.fs.config session.image session.world.fs.lfs.toLfsBase session.world.files block

def Session.movedOn (session : Session Media) : Window :=
  if session.handed = [] ∨ session.window ≠ .miscounted ∧ session.world.fs.lfs.free.i = session.world.fs.lfs.free.size then .moved
  else .miscounted

-- A tick drops the result of lfs_traverse_async; it is asked for here to know
-- whether the window was reset.
def Session.tick (session : Session Media) : Option (Session Media) :=
  (session.world.onLfs (lfsTraverseAsync session.world.fs.config session.world.files session.world.fs.iter)).bind fun ran =>
    session.world.taskRun.map fun world =>
      if ran.1.1 ≠ 0 then { session with world := world, handed := [], window := .filled }
      else if session.world.fs.curOperationState = 1 then { session with world := world, window := session.movedOn }
      else { session with world := world }

-- A window without a clear bit left is filled again before lfs_alloc takes a
-- block from it.
def Session.trusted (session : Session Media) : Bool :=
  match session.window with
  | .filled => true
  | .moved => session.world.fs.lfs.free.full
  | .miscounted => false

def Session.act (session : Session Media) : Event Media → Option (Session Media)
  | .tick => if session.world.fs.curOperation = 6 then session.tick else none
  | .alloc => session.world.allocate.map fun ran =>
      { session with
        world := ran.2
        handed := handedAfter ran.2.fs.lfs.free session.handed ran.1.2
        window := if session.trusted then .filled else session.window }
  | .ack => some
      { session with
        world := session.world.acknowledge
        handed := []
        window := if session.window = .miscounted then .moved else session.window }
  | .operation call image => (session.world.operate call).map fun ran => { session with world := ran.2, image := image }

-- What an operation may do besides: it leaves the allocator alone, writes
-- through the read cache, and puts to use only blocks it was handed.
structure Allocates (before after : Session Media) : Prop where
  free : after.world.fs.lfs.free = before.world.fs.lfs.free
  device : after.world.device = imageDevice after.image
  coherent : Coherent after.world.fs.config after.image after.world.fs.rcache
  handed : ∀ block, after.InUse block → before.InUse block ∨ block ∈ before.handed

def Session.Step (before : Session Media) (event : Event Media) (after : Session Media) : Prop :=
  before.act event = some after ∧ ∀ call image, event = .operation call image → Allocates before after

-- An asynchronous mount has just completed. It was requested with no other one
-- half done, and the card can be read.
def Session.Mounted (session : Session Media) : Prop :=
  ∃ (before : World Media) (card : SdCard Media) (began : World Media), before.mountAsync card = (0, began) ∧ before.fs.curOperationState = 0 ∧
    began.ticks (asyncCalls began.fs.config) = some session.world ∧ session.world.fs.curOperation = 6 ∧
    session.world.device = imageDevice session.image ∧ session.handed = [] ∧ session.window = .filled

-- The part of the blocks in use, and of those handed out, that the window and
-- ack account for.
def Session.Marked (session : Session Media) (block : UInt32) : Prop := session.window = .filled ∧ session.InUse block

def Session.counted (session : Session Media) : List UInt32 := if session.window = .miscounted then [] else session.handed

structure Session.Holds (session : Session Media) : Prop where
  device : session.world.device = imageDevice session.image
  coherent : Coherent session.world.fs.config session.image session.world.fs.rcache
  words : session.world.fs.config.lookaheadSize % 8 = 0
  small : session.world.fs.config.blockCount.toNat ≤ 2 ^ 31
  sound : Sound session.world.fs.config session.world.fs.lfs.free session.Marked session.counted

theorem ticks_keep (turns : Nat) : ∀ (world after : World Media), world.ticks turns = some after →
    after.fs.config = world.fs.config ∧ after.device = world.device := by
  induction turns with
  | zero =>
      intro world after ran
      cases ran
      exact ⟨rfl, rfl⟩
  | succ turns ih =>
      intro world after ran
      rw [World.ticks] at ran
      by_cases mounting : world.fs.curOperation = 1
      · rw [if_pos mounting, mount_tick world mounting] at ran
        obtain ⟨between, ticked, rest⟩ := Option.bind_eq_some_iff.mp ran
        obtain ⟨⟨answer, lfs, rcache⟩, _, same⟩ := Option.map_eq_some_iff.mp ticked
        obtain ⟨config, device⟩ := ih between after rest
        obtain ⟨-, -, configKept, deviceKept⟩ := mounted_keeps world answer lfs rcache
        cases same
        exact ⟨config.trans configKept, device.trans deviceKept⟩
      · rw [if_neg mounting] at ran
        cases ran
        exact ⟨rfl, rfl⟩

theorem mounted_holds (session : Session Media) (mounted : session.Mounted)
    (small : session.world.fs.config.blockCount.toNat ≤ 2 ^ 31) : session.Holds := by
  obtain ⟨before, card, began, accepted, rested, ticked, traversing, device, handed, _⟩ := mounted
  obtain ⟨mounting, kept⟩ := mount_async_accepted before began card accepted
  obtain ⟨config, same⟩ := ticks_keep _ began session.world ticked
  have fresh := ticks_fresh_mount began mounting (kept.trans rested)
  rw [ticked] at fresh
  obtain ⟨⟨err, lfs, rcache⟩, ran, outcome⟩ := Option.map_eq_some_iff.mp fresh.symm
  by_cases refused : err = 0
  · simp only [refused, ↓reduceIte] at outcome ran
    have lfsKept : session.world.fs.lfs = lfs := congrArg Outcome.lfs outcome.symm
    have rcacheKept : session.world.fs.rcache = rcache := congrArg Outcome.rcache outcome.symm
    rw [← same, device, ← config] at ran
    obtain ⟨words, coherent, scanned, reset⟩ := mount_exec _ _ _ _ _ _ ran
    refine ⟨device, by rw [rcacheKept]; exact coherent, words, small, ?_⟩
    have sound := @sound_reset session.world.fs.config scanned session.Marked []
    rw [Session.counted, handed, lfsKept, reset]
    simpa only [handedAfter, ite_self] using sound
  · simp only [refused, ↓reduceIte] at outcome
    have stopped : (0 : UInt8) = session.world.fs.curOperation := congrArg Outcome.curOperation outcome
    exact absurd (stopped.trans traversing) (by decide)

theorem Session.Holds.next {before after : Session Media} (holds : before.Holds)
    (config : after.world.fs.config = before.world.fs.config) (device : after.world.device = imageDevice after.image)
    (coherent : Coherent after.world.fs.config after.image after.world.fs.rcache)
    (sound : Sound after.world.fs.config after.world.fs.lfs.free after.Marked after.counted) : after.Holds :=
  ⟨device, coherent, by rw [config]; exact holds.words, by rw [config]; exact holds.small, sound⟩

theorem in_use_same (before after : Session Media) (config : after.world.fs.config = before.world.fs.config)
    (image : after.image = before.image) (files : after.world.files = before.world.files)
    (base : after.world.fs.lfs.toLfsBase = before.world.fs.lfs.toLfsBase) : after.InUse = before.InUse := by
  funext block
  rw [Session.InUse, Session.InUse, config, image, files, base]

theorem accounted_sound (session : Session Media) (used : UInt32 → Prop) (handed : List UInt32)
    (sound : Sound session.world.fs.config session.world.fs.lfs.free used handed)
    (marked : session.window = .filled → ∀ block, session.InUse block → used block)
    (counted : session.window ≠ .miscounted → session.handed = handed) :
    Sound session.world.fs.config session.world.fs.lfs.free session.Marked session.counted := by
  refine sound_change ?_ _ fun block known => Or.inl (marked known.1 block known.2)
  rw [Session.counted]
  by_cases miscounted : session.window = .miscounted
  · rw [if_pos miscounted]
    exact sound_uncounted sound
  · rw [if_neg miscounted, counted miscounted]
    exact sound

theorem moved_on_sound (session : Session Media) (holds : session.Holds) : ∃ handed,
    Sound session.world.fs.config (freeAdvance session.world.fs.config session.world.fs.lfs.free) (fun _ => False) handed ∧
      session.movedOn ≠ .filled ∧ (session.movedOn ≠ .miscounted → session.handed = handed) := by
  by_cases passed : session.handed = [] ∨ session.window ≠ .miscounted ∧ session.world.fs.lfs.free.i = session.world.fs.lfs.free.size
  · have moved : session.movedOn = .moved := if_pos passed
    have counted : Sound session.world.fs.config session.world.fs.lfs.free session.Marked session.handed := by
      rcases passed with none | ⟨counts, _⟩
      · rw [none]
        exact sound_uncounted holds.sound
      · have sound := holds.sound
        rwa [Session.counted, if_neg counts] at sound
    exact ⟨session.handed, sound_advance counted holds.small (passed.symm.imp And.right id), by rw [moved]; decide, fun _ => rfl⟩
  · have moved : session.movedOn = .miscounted := if_neg passed
    exact ⟨[], sound_advance (sound_uncounted holds.sound) holds.small (Or.inr rfl), by rw [moved]; decide, fun counts => absurd moved counts⟩

theorem tick_holds (before after : Session Media) (holds : before.Holds) (ticked : before.act .tick = some after) : after.Holds := by
  by_cases traversing : before.world.fs.curOperation = 6
  · rw [Session.act, if_pos traversing, Session.tick, traverse_tick before.world traversing, World.onLfs] at ticked
    cases called : exec before.world.fs.config before.world.device
        (lfsTraverseAsync before.world.fs.config before.world.files before.world.fs.iter) before.world.fs.lfs before.world.fs.rcache with
    | none => simp [called] at ticked
    | some ran =>
        obtain ⟨⟨err, next⟩, lfs, rcache⟩ := ran
        obtain ⟨base, failed, passed⟩ := traverse_async_cases _ _ _ _ _ _ _ _ _ _ called
        obtain ⟨lfsKept, rcacheKept, config, device⟩ := mounted_keeps before.world (0, next) lfs rcache
        have coherent : Coherent before.world.fs.config before.image rcache := by
          rw [holds.device] at called
          exact exec_coherent _ _ _ _ _ _ holds.coherent called
        have kept : ∀ (handed counted : List UInt32) (window : Window) (used : UInt32 → Prop),
            Sound before.world.fs.config lfs.free used counted → (window = .filled → ∀ block, before.InUse block → used block) →
            (window ≠ .miscounted → handed = counted) →
            Session.Holds ⟨before.world.mounted (0, next) lfs rcache, before.image, handed, window⟩ := by
          intro handed counted window used sound marked known
          have same := in_use_same before ⟨before.world.mounted (0, next) lfs rcache, before.image, handed, window⟩ config rfl rfl
            ((congrArg Lfs.toLfsBase lfsKept).trans base)
          refine holds.next config (device.trans holds.device) ?_ (accounted_sound _ used counted ?_ ?_ known)
          · simpa only [config, rcacheKept] using coherent
          · simpa only [config, lfsKept] using sound
          · rw [same]
            exact marked
        simp only [called, Option.map_some, Option.bind_some, Option.some.injEq] at ticked
        by_cases refused : err = 0
        · obtain ⟨log, marked⟩ := passed refused
          have state : before.world.fs.iter.state = before.world.fs.curOperationState := rfl
          rw [if_neg (by simpa using refused)] at ticked
          by_cases moving : before.world.fs.curOperationState = 1
          · obtain ⟨handed, sound, dropped, known⟩ := moved_on_sound before holds
            rw [callWindow, state, if_pos moving] at marked
            rw [if_pos moving] at ticked
            rw [← ticked]
            exact kept _ handed _ _ (marked ▸ sound_marks sound log) (fun filled => absurd filled dropped) known
          · rw [callWindow, state, if_neg moving] at marked
            rw [if_neg moving] at ticked
            rw [← ticked]
            exact kept _ before.counted _ _ (marked ▸ sound_marks holds.sound log) (fun filled _ inUse => ⟨filled, inUse⟩)
              fun counts => (if_neg counts).symm
        · obtain ⟨scanned, reset⟩ := failed refused
          have sound := @sound_reset before.world.fs.config scanned before.InUse []
          simp only [handedAfter, ite_self] at sound
          rw [if_pos refused] at ticked
          rw [← ticked]
          exact kept _ [] _ _ (reset ▸ sound) (fun _ _ inUse => inUse) fun _ => rfl
  · simp [Session.act, traversing] at ticked

theorem allocate_exec (world after : World Media) (answer : Int32 × Option UInt32) (ran : world.allocate = some (answer, after)) :
    ∃ lfs rcache, exec world.fs.config world.device (lfsAlloc world.fs.config world.files) world.fs.lfs world.fs.rcache =
        some (answer, lfs, rcache) ∧ after = { world with fs := { world.fs with lfs := lfs, rcache := rcache } } := by
  obtain ⟨⟨result, lfs, rcache⟩, called, same⟩ := Option.map_eq_some_iff.mp ran
  cases same
  exact ⟨lfs, rcache, called, rfl⟩

theorem trusted_sound (session : Session Media) (holds : session.Holds) (trusted : session.trusted = true) :
    Sound session.world.fs.config session.world.fs.lfs.free session.InUse session.handed := by
  have sound := holds.sound
  rw [Session.trusted] at trusted
  cases window : session.window with
  | filled =>
      rw [Session.counted, window, if_neg (by decide)] at sound
      exact sound_change sound _ fun block inUse => Or.inl ⟨window, inUse⟩
  | moved =>
      rw [Session.counted, window, if_neg (by decide)] at sound
      rw [window] at trusted
      exact sound_full sound trusted _
  | miscounted =>
      rw [window] at trusted
      cases trusted

theorem alloc_keeps (session : Session Media) (holds : session.Holds) (used : UInt32 → Prop) (handed : List UInt32)
    (sound : Sound session.world.fs.config session.world.fs.lfs.free used handed) (inUse : ∀ block, used block → session.InUse block)
    (err : Int32) (found : Option UInt32) (lfs : Lfs) (rcache : Cache)
    (called : exec session.world.fs.config session.world.device (lfsAlloc session.world.fs.config session.world.files)
      session.world.fs.lfs session.world.fs.rcache = some ((err, found), lfs, rcache)) :
    AllocKeeps session.world.fs.config used session.world.fs.lfs handed found lfs := by
  rw [holds.device] at called
  exact alloc_rounds_keeps holds.small holds.words used _ _ _ _ _ _ _ _ sound inUse holds.coherent called

theorem alloc_holds (before after : Session Media) (holds : before.Holds) (allocated : before.act .alloc = some after) : after.Holds := by
  obtain ⟨⟨⟨err, found⟩, world⟩, ran, rfl⟩ := Option.map_eq_some_iff.mp allocated
  obtain ⟨lfs, rcache, called, rfl⟩ := allocate_exec _ _ _ ran
  refine holds.next rfl holds.device ?_ ?_
  · rw [holds.device] at called
    exact exec_coherent _ _ _ _ _ _ holds.coherent called
  · by_cases trusted : before.trusted = true
    · have kept := alloc_keeps before holds _ _ (trusted_sound before holds trusted) (fun _ known => known) err found lfs rcache called
      refine accounted_sound _ _ _ kept.sound ?_ fun _ => rfl
      intro _ block inUse
      simpa only [Session.InUse, kept.base] using inUse
    · have kept := alloc_keeps before holds _ _ holds.sound (fun _ marked => marked.2) err found lfs rcache called
      have same : (if before.trusted = true then Window.filled else before.window) = before.window := if_neg trusted
      refine accounted_sound _ _ _ kept.sound ?_ ?_
      · intro filled block inUse
        refine ⟨same.symm.trans filled, ?_⟩
        simpa only [Session.InUse, kept.base] using inUse
      · intro counts
        rw [same] at counts
        rw [Session.counted, if_neg counts]

theorem ack_holds (before after : Session Media) (holds : before.Holds) (acked : before.act .ack = some after) : after.Holds := by
  cases acked
  refine holds.next rfl holds.device holds.coherent (accounted_sound _ before.Marked [] (sound_ack holds.sound) ?_ fun _ => rfl)
  intro filled block inUse
  by_cases miscounted : before.window = .miscounted
  · simp [miscounted] at filled
  · exact ⟨by simpa [miscounted] using filled, inUse⟩

theorem operation_holds (before after : Session Media) (call : Operation Media) (image : Image) (holds : before.Holds)
    (acted : before.act (.operation call image) = some after) (allocates : Allocates before after) : after.Holds := by
  obtain ⟨⟨result, world⟩, ran, rfl⟩ := Option.map_eq_some_iff.mp acted
  obtain ⟨left, _, same⟩ := Option.map_eq_some_iff.mp ran
  cases same
  refine holds.next rfl allocates.device allocates.coherent ?_
  rw [allocates.free]
  refine sound_change holds.sound _ ?_
  rintro block ⟨filled, inUse⟩
  have counts : before.window = .filled := filled
  rw [Session.counted, counts, if_neg (by decide)]
  exact (allocates.handed block inUse).imp (fun known => ⟨counts, known⟩) id

theorem step_holds (before : Session Media) (event : Event Media) (after : Session Media) (holds : before.Holds)
    (stepped : before.Step event after) : after.Holds := by
  obtain ⟨acted, allocates⟩ := stepped
  cases event with
  | tick => exact tick_holds before after holds acted
  | alloc => exact alloc_holds before after holds acted
  | ack => exact ack_holds before after holds acted
  | operation call image => exact operation_holds before after call image holds acted (allocates call image rfl)

-- Block numbers of a card of up to 2^31 blocks do not run over in
-- lfs_alloc_lookahead.
theorem trusted_window_allocates_unused (start session : Session Media) (events : List (Event Media)) (mounted : start.Mounted)
    (small : start.world.fs.config.blockCount.toNat ≤ 2 ^ 31) (ran : Lib.Run Session.Step start events session)
    (trusted : session.trusted = true) (err : Int32) (block : UInt32) (after : World Media)
    (allocated : session.world.allocate = some ((err, some block), after)) : ¬ session.InUse block ∧ block ∉ session.handed := by
  have holds := Lib.run_invariant Session.Holds step_holds ran (mounted_holds start mounted small)
  obtain ⟨lfs, rcache, called, _⟩ := allocate_exec _ _ _ allocated
  exact (alloc_keeps session holds _ _ (trusted_sound session holds trusted) (fun _ known => known) err (some block) lfs rcache called).unused
    block rfl

-- Ticks and calls of the allocator ask nothing of the operations.
theorem acts_run (events : List (Event Media)) (plain : ∀ event ∈ events, ∀ call image, event ≠ .operation call image) :
    ∀ (start after : Session Media), events.foldlM Session.act start = some after → Lib.Run Session.Step start events after := by
  induction events with
  | nil =>
      intro start after acted
      cases acted
      exact .nil start
  | cons event events ih =>
      intro start after acted
      rw [List.foldlM_cons] at acted
      obtain ⟨between, first, rest⟩ := Option.bind_eq_some_iff.mp acted
      refine Lib.run_cons ⟨first, ?_⟩ (ih (fun later member => plain later (List.mem_cons_of_mem _ member)) between after rest)
      intro call image same
      exact absurd same (plain event List.mem_cons_self call image)

end

theorem mounting_ticks (done : Nat) : ∀ (turns : Nat), (∀ turn, turn < done →
      (mountingWorld turn).fs.curOperation = 1 ∧ (mountingWorld turn).taskRun.isSome = true) →
    (mountingWorld 0).ticks (done + turns) = (mountingWorld done).ticks turns := by
  induction done with
  | zero =>
      intro turns _
      rw [Nat.zero_add]
  | succ done ih =>
      intro turns going
      obtain ⟨mounting, returned⟩ := going done (by omega)
      obtain ⟨after, ran⟩ := Option.isSome_iff_exists.mp returned
      have same : mountingWorld (done + 1) = after := by rw [mountingWorld, ran, Option.getD_some]
      rw [Nat.add_right_comm, Nat.add_assoc, ih (turns + 1) fun turn before => going turn (by omega), World.ticks, if_pos mounting, ran,
        Option.bind_some, same]

def mountedSession : Session Unit := ⟨mountingWorld 4, formattedImage, [], .filled⟩

theorem mounted_session : mountedSession.Mounted := by
  have ticked : (mountingWorld 0).ticks (4 + 8) = (mountingWorld 4).ticks 8 := mounting_ticks 4 8 (by decide +kernel)
  have traversing : (mountingWorld 4).fs.curOperation = 6 := by decide +kernel
  have calls : asyncCalls (mountingWorld 0).fs.config = 4 + 8 := by decide +kernel
  rw [ticks_over 8 _ (by rw [traversing]; decide), ← calls] at ticked
  obtain ⟨_, device⟩ := ticks_keep _ _ _ ticked
  dsimp only [Session.Mounted, mountedSession]
  exact ⟨freshWorld, sdCard formattedImage, mountingWorld 0, rfl, rfl, ticked, traversing, device, rfl, rfl⟩

theorem mounted_small : mountedSession.world.fs.config.blockCount.toNat ≤ 2 ^ 31 := by
  have count : mountedSession.world.fs.config.blockCount = 16 := by decide +kernel
  rw [count]
  decide

def wholeScan : List (Event Unit) := [.tick, .tick, .tick]

-- The three ticks of a scan leave a window without the superblock's blocks.
theorem rebuilt_window_allocates_superblock : ∃ (start session : Session Unit) (events : List (Event Unit)), start.Mounted ∧
    Lib.Run Session.Step start events session ∧
    ∃ err block after, session.world.allocate = some ((err, some block), after) ∧ session.InUse block := by
  have evaluated : ((wholeScan.foldlM Session.act mountedSession).bind fun session => session.world.allocate.map Prod.fst) = some (0, some 0) := by
    decide +kernel
  obtain ⟨session, acted, allocation⟩ := Option.bind_eq_some_iff.mp evaluated
  obtain ⟨⟨answer, after⟩, allocated, rfl⟩ := Option.map_eq_some_iff.mp allocation
  refine ⟨mountedSession, session, wholeScan, mounted_session, acts_run _ (by simp [wholeScan]) _ _ acted, 0, 0, after, allocated, Or.inl ?_⟩
  exact .pair _ _ (by decide) (by decide)

-- lfs_fs_size as an operation: it looks at the whole file system.
def sizing (image : Image) : Operation Unit := fun cfg lfs rcache media files =>
  (exec cfg (imageDevice image) (lfsFsSize cfg files) lfs rcache).map fun ran => (ran.1, ran.2.1, ran.2.2, media, files)

theorem fs_size_kept (cfg : Config) (device : Device) (files : Nat → LfsFile) (lfs after : Lfs) (rcache last : Cache) (size : Int32)
    (ran : exec cfg device (lfsFsSize cfg files) lfs rcache = some (size, after, last)) :
    after.free = lfs.free ∧ after.toLfsBase = lfs.toLfsBase := by
  rw [lfsFsSize, exec_bind, counting_exec] at ran
  obtain ⟨⟨⟨err, count⟩, between, cache⟩, reported, rest⟩ := Option.bind_eq_some_iff.mp ran
  obtain ⟨left, _, same⟩ := Option.map_eq_some_iff.mp reported
  cases same
  dsimp only at rest
  by_cases failed : left.1 = 0
  · rw [if_neg (fun other => other failed)] at rest
    cases rest
    exact ⟨rfl, rfl⟩
  · rw [if_pos failed] at rest
    cases rest
    exact ⟨rfl, rfl⟩

theorem sizing_allocates (before after : Session Unit) (holds : before.Holds)
    (acted : before.act (.operation (sizing before.image) before.image) = some after) : Allocates before after := by
  obtain ⟨⟨result, world⟩, ran, made⟩ := Option.map_eq_some_iff.mp acted
  obtain ⟨⟨size, lfs, rcache, media, files⟩, operated, same⟩ := Option.map_eq_some_iff.mp ran
  cases same
  obtain ⟨⟨answer, left, cache⟩, sized, same⟩ := Option.map_eq_some_iff.mp operated
  cases same
  obtain ⟨free, base⟩ := fs_size_kept _ _ _ _ _ _ _ _ sized
  have same : after.InUse = before.InUse := by
    subst made
    exact in_use_same before _ rfl rfl rfl base
  subst made
  refine ⟨free, holds.device, exec_coherent _ _ _ _ _ _ holds.coherent sized, fun block inUse => Or.inl ?_⟩
  exact (congrFun same block).mp inUse

-- All blocks handed out and acked, the window is searched to its end and the
-- next lfs_alloc fills it again.
def drained : List (Event Unit) := wholeScan ++ List.replicate 16 .alloc ++ [.ack]

theorem drained_window_recovers : ∃ between session after, Lib.Run Session.Step mountedSession drained between ∧
    Session.Step between (.operation (sizing between.image) between.image) session ∧ session.world.allocate = some ((0, some 2), after) ∧
    ¬ session.InUse 2 ∧ 2 ∉ session.handed := by
  have evaluated : ((drained.foldlM Session.act mountedSession).bind fun between =>
      (between.act (.operation (sizing between.image) between.image)).bind fun session =>
        session.world.allocate.map fun ran => (session.trusted, ran.1)) = some (true, 0, some 2) := by
    decide +kernel
  obtain ⟨between, acted, rest⟩ := Option.bind_eq_some_iff.mp evaluated
  obtain ⟨session, operated, allocation⟩ := Option.bind_eq_some_iff.mp rest
  obtain ⟨⟨answer, after⟩, allocated, same⟩ := Option.map_eq_some_iff.mp allocation
  obtain ⟨trusted, answered⟩ := Prod.mk.inj same
  have ran := acts_run drained (by simp [drained, wholeScan]) _ _ acted
  have holds := Lib.run_invariant Session.Holds step_holds ran (mounted_holds mountedSession mounted_session mounted_small)
  have step : Session.Step between (.operation (sizing between.image) between.image) session := by
    exact ⟨operated, fun call image same => sizing_allocates between session holds operated⟩
  have found : session.world.allocate = some ((0, some 2), after) := by
    rw [allocated]
    exact congrArg (fun answer => some (answer, after)) answered
  exact ⟨between, session, after, ran, step, found,
    trusted_window_allocates_unused mountedSession session _ mounted_session mounted_small (.snoc _ _ _ _ _ ran step) trusted 0 2 after found⟩

end SDCardFs.Wrapper
