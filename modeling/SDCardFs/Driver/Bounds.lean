import SDCardFs.Driver.Reachable
import SDCardFs.Driver.Waiting

set_option autoImplicit false

namespace SDCardFs.Driver

-- Every command sent is one of the allowed ones, with one of its arguments.
def Sends (allowed : CmdSupported → UInt32 → Prop) (before after : SDCard) : Prop :=
  ∃ events, after.trace = events ++ before.trace ∧
    ∀ code arg isAcmd status r1, Event.command code arg isAcmd status r1 ∈ events → allowed code arg

theorem sends_nothing (allowed : CmdSupported → UInt32 → Prop) (before after : SDCard) (same : after.trace = before.trace) :
    Sends allowed before after :=
  ⟨[], same, fun _ _ _ _ _ member => absurd member List.not_mem_nil⟩

theorem sends_trans (allowed : CmdSupported → UInt32 → Prop) (a b c : SDCard) (left : Sends allowed a b) (right : Sends allowed b c) :
    Sends allowed a c := by
  obtain ⟨older, olderTrace, olderAllowed⟩ := left
  obtain ⟨newer, newerTrace, newerAllowed⟩ := right
  refine ⟨newer ++ older, by rw [newerTrace, olderTrace, List.append_assoc], fun code arg isAcmd status r1 member => ?_⟩
  rcases List.mem_append.mp member with inside | inside
  · exact newerAllowed _ _ _ _ _ inside
  · exact olderAllowed _ _ _ _ _ inside

theorem sends_on_bus (allowed : CmdSupported → UInt32 → Prop) : OnBus (Sends allowed) where
  reflexive card := sends_nothing allowed card card rfl
  transitive := sends_trans allowed
  transfer data := Lib.ends_mono (transfer_only_bus data) fun before _ after moved => by
    rw [OnlyBus] at moved
    rw [moved]
    exact sends_nothing allowed _ _ rfl
  setCs high := by
    intro before value after ran
    obtain ⟨-, rfl⟩ := Prod.mk.inj (Option.some.inj ran)
    exact sends_nothing allowed _ _ rfl

theorem record_sends (allowed : CmdSupported → UInt32 → Prop) (event : Event)
    (other : ∀ code arg isAcmd status r1, event ≠ .command code arg isAcmd status r1) : Lib.Keeps (Sends allowed) (record event) :=
  Lib.ends_mono (record_adds event) fun before value after added => by
    rw [Adds] at added
    rw [added]
    exact ⟨[event], rfl, fun code arg isAcmd status r1 member => absurd (List.mem_singleton.mp member).symm (other _ _ _ _ _)⟩

theorem sends_on_calls (allowed : CmdSupported → UInt32 → Prop) : OnCalls allowed (Sends allowed) where
  toOnFillers := (sends_on_bus allowed).toOnFillers
  cmd code arg isAcmd permitted := Lib.ends_mono (cmd_effect code arg isAcmd) fun before answer after effect => by
    rw [effect.frame]
    refine ⟨[_], rfl, fun code arg isAcmd status r1 member => ?_⟩
    obtain ⟨rfl, rfl, -⟩ := Event.command.inj (List.mem_singleton.mp member)
    exact permitted
  setCardType cardType := by
    intro before value after ran
    rw [set_card_type_run _ _ _ _ ran]
    exact sends_nothing allowed _ _ rfl
  record event block := record_sends allowed event fun code arg isAcmd status r1 same => by
    rw [same] at block
    cases block
  write_block buffer offset token _ := (sends_on_bus allowed).write_block (fun _ _ _ => record_sends allowed _ (by simp)) buffer offset token _

-- A command of the call is on the record of every run that completes.
theorem sent_before (code : CmdSupported) (arg : UInt32) (isAcmd : Bool) (before between after : SDCard) (answer : Int32 × UInt32)
    (ran : (cmd code arg isAcmd).run before = some (answer, between)) (rest : Sends (fun _ _ => True) between after) :
    ∃ status r1 events, after.trace = events ++ before.trace ∧ Event.command code arg isAcmd status r1 ∈ events := by
  have effect := Lib.ends_run (cmd_effect code arg isAcmd) ran
  obtain ⟨events, trace, -⟩ := rest
  rw [effect.frame] at trace
  exact ⟨answer.1, answer.2, events ++ [.command code arg isAcmd answer.1 answer.2], by rw [trace, List.append_assoc]; rfl, by simp⟩

def SDCard.accepts (card : SDCard) : DriverCall → Bool
  | .read _ addr size => card.isValidRead addr size
  | .program _ addr size => card.isValidProgram addr size
  | .trim addr size => card.isValidTrim addr size
  | .init => false
  | .deinit => false

def DriverCall.addr : DriverCall → UInt64
  | .read _ addr _ => addr
  | .program _ addr _ => addr
  | .trim addr _ => addr
  | .init => 0
  | .deinit => 0

def DriverCall.size : DriverCall → UInt64
  | .read _ _ size => size
  | .program _ _ size => size
  | .trim _ size => size
  | .init => 0
  | .deinit => 0

def SDCard.InRange (card : SDCard) (call : DriverCall) : Prop := call.addr.toNat + call.size.toNat ≤ 512 * card.sectors.toNat

-- A card whose every sector has an address in 32 bits.
def SDCard.Addressable (card : SDCard) : Prop :=
  if card.cardType = .v2hc then card.sectors.toNat ≤ 2 ^ 32 else 512 * card.sectors.toNat ≤ 2 ^ 32

-- The address of a byte in the unit of the card: a sector number or itself.
def SDCard.place (card : SDCard) (byte : Nat) : Nat := if card.cardType = .v2hc then byte / 512 else byte

-- The address each data command of the call means. An erase unit that is not a
-- whole number of blocks (no call leaves one) has no such address.
def SDCard.intended (card : SDCard) : DriverCall → CmdSupported → Option Nat
  | .read _ addr _, .cmd17ReadSingleBlock => some (card.place addr.toNat)
  | .read _ addr _, .cmd18ReadMultipleBlock => some (card.place addr.toNat)
  | .program _ addr _, .cmd24WriteBlock => some (card.place addr.toNat)
  | .program _ addr _, .cmd25WriteMultipleBlock => some (card.place addr.toNat)
  | .trim addr size, .cmd32EraseWrBlkStartAddr =>
      if 0 < size.toNat ∧ card.eraseSize.toNat % 512 = 0 then some (card.place addr.toNat) else none
  | .trim addr size, .cmd33EraseWrBlkEndAddr =>
      if 0 < size.toNat ∧ card.eraseSize.toNat % 512 = 0 then some (card.place (addr.toNat + size.toNat - 512)) else none
  | _, _ => none

def SDCard.ArgumentsExact (card : SDCard) (call : DriverCall) : Prop :=
  ∀ rx status after, call.status.run (card.hears rx) = some (status, after) →
    ∀ code arg isAcmd answer r1, Event.command code arg isAcmd answer r1 ∈ newEvents card after →
      ∀ address, card.intended call code = some address → arg.toNat = address

structure SDCard.RangeKept (card : SDCard) (call : DriverCall) : Prop where
  within : card.accepts call = true → card.InRange call
  arguments : card.accepts call = true → card.Addressable → card.ArgumentsExact call

def DriverCall.movesBlocks : DriverCall → Bool
  | .read _ _ _ => true
  | .program _ _ _ => true
  | _ => false

-- The sum does not wrap (or the capacity is itself past 2^64), and no empty
-- transfer starts at the unit behind the last 32-bit address.
def SDCard.RequestFits (card : SDCard) (call : DriverCall) : Prop :=
  card.accepts call = true →
    (call.addr.toNat + call.size.toNat < 2 ^ 64 ∨ 2 ^ 64 ≤ 512 * card.sectors.toNat ∧ card.InRange call) ∧
      (call.movesBlocks = true → call.size = 0 → card.isInitialized = true → card.Addressable → card.place call.addr.toNat ≠ 2 ^ 32)

theorem size_wraps (card : SDCard) : card.size.toNat = 512 * card.sectors.toNat % 2 ^ 64 := by
  rw [SDCard.size, UInt64.toNat_mul]
  rfl

theorem accepted_sum (card : SDCard) (call : DriverCall) (accepted : card.accepts call = true) :
    (call.addr.toNat + call.size.toNat) % 2 ^ 64 ≤ 512 * card.sectors.toNat % 2 ^ 64 := by
  have sum : call.addr + call.size ≤ card.size := by
    cases call with
    | read b addr size => exact (of_decide_eq_true accepted).2.2
    | program b addr size => exact (of_decide_eq_true accepted).2.2
    | trim addr size => exact (of_decide_eq_true accepted).2.2
    | init => cases accepted
    | deinit => cases accepted
  rw [UInt64.le_iff_toNat_le, UInt64.toNat_add, size_wraps] at sum
  exact sum

theorem in_range_iff (card : SDCard) (call : DriverCall) (accepted : card.accepts call = true) :
    card.InRange call ↔ call.addr.toNat + call.size.toNat < 2 ^ 64 ∨ 2 ^ 64 ≤ 512 * card.sectors.toNat ∧ card.InRange call := by
  have sum := accepted_sum card call accepted
  rw [SDCard.InRange]
  omega

theorem unit_place (card : SDCard) (addr : UInt64) : (card.unit addr).toNat = card.place addr.toNat := by
  rw [SDCard.unit, SDCard.place]
  split
  · rw [UInt64.toNat_div]
    rfl
  · rfl

theorem addressable_bytes (card : SDCard) (addressable : card.Addressable) : 512 * card.sectors.toNat ≤ 2 ^ 41 := by
  rw [SDCard.Addressable] at addressable
  split at addressable
  · omega
  · omega

theorem place_small (card : SDCard) (addressable : card.Addressable) (byte : Nat) (inside : byte < 512 * card.sectors.toNat) :
    card.place byte < 2 ^ 32 := by
  rw [SDCard.Addressable] at addressable
  rw [SDCard.place]
  by_cases high : card.cardType = .v2hc
  · rw [if_pos high] at addressable ⊢
    omega
  · rw [if_neg high] at addressable ⊢
    omega

theorem place_end (card : SDCard) (addressable : card.Addressable) (byte : Nat) (inside : byte ≤ 512 * card.sectors.toNat) :
    card.place byte ≤ 2 ^ 32 := by
  rw [SDCard.Addressable] at addressable
  rw [SDCard.place]
  by_cases high : card.cardType = .v2hc
  · rw [if_pos high] at addressable ⊢
    omega
  · rw [if_neg high] at addressable ⊢
    omega

theorem start_argument (card : SDCard) (addr : UInt64) (small : card.place addr.toNat < 2 ^ 32) :
    (card.unit addr).toUInt32.toNat = card.place addr.toNat := by
  rw [UInt64.toNat_toUInt32, unit_place, Nat.mod_eq_of_lt small]

theorem end_unit (card : SDCard) (addr size : UInt64) (atLeastOne : 512 ≤ size.toNat) (wholeAddr : addr.toNat % 512 = 0)
    (wholeSize : size.toNat % 512 = 0) (narrow : addr.toNat + size.toNat < 2 ^ 64) :
    (card.unit addr + card.unit (size - blockSize.toUInt64)).toNat = card.place (addr.toNat + size.toNat - 512) := by
  have block : blockSize.toUInt64.toNat = 512 := rfl
  have less : (size - blockSize.toUInt64).toNat = size.toNat - 512 := by
    rw [UInt64.toNat_sub_of_le _ _ (UInt64.le_iff_toNat_le.mpr (by rw [block]; exact atLeastOne)), block]
  rw [UInt64.toNat_add, unit_place, unit_place, less]
  rw [SDCard.place, SDCard.place, SDCard.place]
  by_cases high : card.cardType = .v2hc
  · rw [if_pos high, if_pos high, if_pos high]
    omega
  · rw [if_neg high, if_neg high, if_neg high]
    omega

theorem valid_trim_blocks (card : SDCard) (addr size : UInt64) (valid : card.isValidTrim addr size = true)
    (erase : card.eraseSize.toNat % 512 = 0) : addr.toNat % 512 = 0 ∧ size.toNat % 512 = 0 := by
  have divides (number : UInt64) (whole : number % card.eraseSize.toUInt64 = 0) : number.toNat % 512 = 0 := by
    have same := congrArg UInt64.toNat whole
    rw [UInt64.toNat_mod, UInt32.toNat_toUInt64, UInt64.toNat_zero] at same
    exact Nat.mod_eq_zero_of_dvd (Nat.dvd_trans (Nat.dvd_of_mod_eq_zero erase) (Nat.dvd_of_mod_eq_zero same))
  obtain ⟨wholeAddr, wholeSize, -⟩ := of_decide_eq_true valid
  exact ⟨divides _ wholeAddr, divides _ wholeSize⟩

theorem end_argument (card : SDCard) (addr size : UInt64) (valid : card.isValidTrim addr size = true)
    (erase : card.eraseSize.toNat % 512 = 0) (positive : 0 < size.toNat) (addressable : card.Addressable)
    (inside : addr.toNat + size.toNat ≤ 512 * card.sectors.toNat) :
    (card.unit addr + card.unit (size - blockSize.toUInt64)).toUInt32.toNat = card.place (addr.toNat + size.toNat - 512) := by
  obtain ⟨wholeAddr, wholeSize⟩ := valid_trim_blocks card addr size valid erase
  have bytes := addressable_bytes card addressable
  rw [UInt64.toNat_toUInt32, end_unit card addr size (by omega) wholeAddr wholeSize (by omega),
    Nat.mod_eq_of_lt (place_small card addressable _ (by omega))]

-- The commands of a transfer that starts at an address with 32 bits.
def OneCommand (code : CmdSupported) (arg : UInt32) (sent : CmdSupported) (sentArg : UInt32) : Prop :=
  sent = code ∧ sentArg = arg ∨ sent = .acmd23SetWrBlkEraseCount ∨ sent = .cmd12StopTransmission

def TrimCommand (start last : UInt32) (sent : CmdSupported) (sentArg : UInt32) : Prop :=
  sent = .cmd32EraseWrBlkStartAddr ∧ sentArg = start ∨ sent = .cmd33EraseWrBlkEndAddr ∧ sentArg = last ∨ sent = .cmd38Erase

theorem sends_new (allowed : CmdSupported → UInt32 → Prop) (before after : SDCard) (sends : Sends allowed before after)
    (code : CmdSupported) (arg : UInt32) (isAcmd : Bool) (status : Int32) (r1 : UInt32)
    (member : Event.command code arg isAcmd status r1 ∈ newEvents before after) : allowed code arg := by
  obtain ⟨events, trace, permitted⟩ := sends
  rw [new_events_append before after events trace] at member
  exact permitted _ _ _ _ _ member

theorem read_sends (b : Nat → UInt8) (addr size : UInt64) (before after : SDCard) (value : Int32 × (Nat → UInt8))
    (ran : (read b addr size).run before = some (value, after)) :
    Sends (fun code arg => before.isInitialized = true ∧ OneCommand (readCode size) (before.unit addr).toUInt32 code arg) before after :=
  Lib.ends_run ((sends_on_calls _).read b addr size) ran fun _ ready => ⟨⟨ready, Or.inl ⟨rfl, rfl⟩⟩, ready, Or.inr (Or.inr rfl)⟩

theorem program_sends (b : Nat → UInt8) (addr size : UInt64) (before after : SDCard) (value : Int32)
    (ran : (program b addr size).run before = some (value, after)) :
    Sends (fun code arg => before.isInitialized = true ∧ OneCommand (programCode size) (before.unit addr).toUInt32 code arg) before after :=
  Lib.ends_run ((sends_on_calls _).program b addr size) ran fun _ ready =>
    ⟨fun _ => ⟨ready, Or.inr (Or.inl rfl)⟩, ⟨ready, Or.inl ⟨rfl, rfl⟩⟩, ready, Or.inr (Or.inr rfl)⟩

theorem trim_sends (addr size : UInt64) (before after : SDCard) (value : Int32)
    (ran : (trim addr size).run before = some (value, after)) :
    Sends (TrimCommand (before.unit addr).toUInt32 (before.unit addr + before.unit (size - blockSize.toUInt64)).toUInt32) before after :=
  Lib.ends_run ((sends_on_calls _).trim addr size) ran fun _ _ =>
    ⟨Or.inl ⟨rfl, rfl⟩, Or.inr (Or.inl ⟨rfl, rfl⟩), Or.inr (Or.inr rfl)⟩

-- A card that answers nothing but 0xFF lets every call but init return.
theorem silent_run (card : SDCard) (call : DriverCall) (notInit : call ≠ .init) :
    ∃ rx status after, call.status.run (card.hears rx) = some (status, after) := by
  obtain ⟨more, status, after, ran⟩ := calls_continue card call notInit []
  exact ⟨_, status, after, ran⟩

theorem read_command_sent (b : Nat → UInt8) (addr size : UInt64) (card : SDCard) (valid : card.isValidRead addr size = true)
    (ready : card.isInitialized = true) (rx : List UInt8) (status : Int32) (after : SDCard)
    (ran : (DriverCall.read b addr size).status.run (card.hears rx) = some (status, after)) :
    ∃ answer r1, Event.command (readCode size) (card.unit addr).toUInt32 false answer r1 ∈ newEvents card after := by
  obtain ⟨value, read, reads, ran⟩ := (Lib.bind_run_some _ _ _ _ _).mp ran
  obtain ⟨-, rfl⟩ := (Lib.pure_run_some _ _ _ _).mp ran
  obtain ⟨answer, between, commands, rest⟩ := (sends_on_calls fun _ _ => True).read_started b addr size (card.hears rx) read value valid ready reads
  obtain ⟨status, r1, events, trace, member⟩ := sent_before _ _ _ _ _ _ _ commands (rest trivial)
  exact ⟨status, r1, by rw [new_events_append card read events trace]; exact member⟩

theorem program_command_sent (b : Nat → UInt8) (addr size : UInt64) (card : SDCard) (valid : card.isValidProgram addr size = true)
    (ready : card.isInitialized = true) (rx : List UInt8) (status : Int32) (after : SDCard)
    (ran : (DriverCall.program b addr size).status.run (card.hears rx) = some (status, after)) :
    ∃ answer r1, Event.command (programCode size) (card.unit addr).toUInt32 false answer r1 ∈ newEvents card after := by
  obtain ⟨counted, answer, between, first, commands, rest⟩ :=
    (sends_on_calls fun _ _ => True).program_started b addr size (card.hears rx) after status valid ready ran
  obtain ⟨answered, r1, events, trace, member⟩ := sent_before _ _ _ _ _ _ _ commands (rest trivial)
  have counts : Sends (fun _ _ => True) (card.hears rx) counted := by
    split at first
    · exact first ▸ sends_nothing _ _ _ rfl
    · obtain ⟨count, counting⟩ := first
      exact Lib.keeps_run ((sends_on_calls fun _ _ => True).cmd _ _ _ trivial) counting
  obtain ⟨older, olderTrace, -⟩ := counts
  rw [olderTrace, ← List.append_assoc] at trace
  exact ⟨answered, r1, by rw [new_events_append card after _ trace]; exact List.mem_append_left _ member⟩

theorem read_code_cases (size : UInt64) : readCode size = .cmd17ReadSingleBlock ∨ readCode size = .cmd18ReadMultipleBlock := by
  rw [readCode]
  split
  · exact Or.inr rfl
  · exact Or.inl rfl

theorem program_code_cases (size : UInt64) : programCode size = .cmd24WriteBlock ∨ programCode size = .cmd25WriteMultipleBlock := by
  rw [programCode]
  split
  · exact Or.inl rfl
  · exact Or.inr rfl

theorem intended_read (card : SDCard) (b : Nat → UInt8) (addr size : UInt64) :
    card.intended (.read b addr size) (readCode size) = some (card.place addr.toNat) := by
  rcases read_code_cases size with code | code
  · rw [code]
    rfl
  · rw [code]
    rfl

theorem intended_program (card : SDCard) (b : Nat → UInt8) (addr size : UInt64) :
    card.intended (.program b addr size) (programCode size) = some (card.place addr.toNat) := by
  rcases program_code_cases size with code | code
  · rw [code]
    rfl
  · rw [code]
    rfl

-- What one data command of a transfer means is what it is given.
theorem one_command_exact (card : SDCard) (call : DriverCall) (expected : CmdSupported) (addr : UInt64) (code : CmdSupported)
    (arg : UInt32) (address : Nat) (sent : OneCommand expected (card.unit addr).toUInt32 code arg)
    (means : card.intended call expected = some (card.place addr.toNat)) (count : card.intended call .acmd23SetWrBlkEraseCount = none)
    (stop : card.intended call .cmd12StopTransmission = none) (small : card.place addr.toNat < 2 ^ 32)
    (meant : card.intended call code = some address) : arg.toNat = address := by
  rcases sent with ⟨rfl, rfl⟩ | rfl | rfl
  · rw [start_argument card addr small]
    exact Option.some.inj (means.symm.trans meant)
  · rw [count] at meant
    cases meant
  · rw [stop] at meant
    cases meant

theorem transfer_place_small (card : SDCard) (addr size : UInt64) (addressable : card.Addressable)
    (inside : addr.toNat + size.toNat ≤ 512 * card.sectors.toNat) (occupied : size = 0 → card.place addr.toNat ≠ 2 ^ 32) :
    card.place addr.toNat < 2 ^ 32 := by
  by_cases empty : size = 0
  · exact Nat.lt_of_le_of_ne (place_end card addressable _ (by omega)) (occupied empty)
  · have positive : 0 < size.toNat := Nat.pos_of_ne_zero fun zero => empty (UInt64.toNat_inj.mp zero)
    exact place_small card addressable _ (by omega)

theorem arguments_exact (card : SDCard) (call : DriverCall) (accepted : card.accepts call = true) (addressable : card.Addressable)
    (inside : card.InRange call)
    (occupied : call.movesBlocks = true → call.size = 0 → card.isInitialized = true → card.place call.addr.toNat ≠ 2 ^ 32) :
    card.ArgumentsExact call := by
  intro rx status after ran code arg isAcmd answer r1 member address meant
  cases call with
  | init => cases accepted
  | deinit => cases accepted
  | read b addr size =>
      obtain ⟨value, read, reads, ran⟩ := (Lib.bind_run_some _ _ _ _ _).mp ran
      obtain ⟨-, rfl⟩ := (Lib.pure_run_some _ _ _ _).mp ran
      obtain ⟨ready, sent⟩ := sends_new _ (card.hears rx) read (read_sends b addr size _ _ _ reads) _ _ _ _ _ member
      exact one_command_exact card _ _ addr code arg address sent (intended_read card b addr size) rfl rfl
        (transfer_place_small card addr size addressable inside fun empty => occupied rfl empty ready) meant
  | program b addr size =>
      obtain ⟨ready, sent⟩ := sends_new _ (card.hears rx) after (program_sends b addr size _ _ _ ran) _ _ _ _ _ member
      exact one_command_exact card _ _ addr code arg address sent (intended_program card b addr size) rfl rfl
        (transfer_place_small card addr size addressable inside fun empty => occupied rfl empty ready) meant
  | trim addr size =>
      rcases sends_new _ (card.hears rx) after (trim_sends addr size _ _ _ ran) _ _ _ _ _ member with ⟨rfl, rfl⟩ | ⟨rfl, rfl⟩ | rfl
      · rw [SDCard.intended] at meant
        split at meant
        · rename_i blocks
          have start : addr.toNat < 512 * card.sectors.toNat := Nat.lt_of_lt_of_le (Nat.lt_add_of_pos_right blocks.1) inside
          exact (start_argument card addr (place_small card addressable _ start)).trans (Option.some.inj meant)
        · cases meant
      · rw [SDCard.intended] at meant
        split at meant
        · rename_i blocks
          exact (end_argument card addr size accepted blocks.2 blocks.1 addressable inside).trans (Option.some.inj meant)
        · cases meant
      · cases meant

theorem truncated_argument (card : SDCard) (call : DriverCall) (accepted : card.accepts call = true) (moves : call.movesBlocks = true)
    (ready : card.isInitialized = true) (past : card.place call.addr.toNat = 2 ^ 32) : ¬ card.ArgumentsExact call := by
  intro exactly
  have wrapped : (card.unit call.addr).toUInt32.toNat = 0 := by
    rw [UInt64.toNat_toUInt32, unit_place]
    exact (congrArg (· % 2 ^ 32) past).trans (Nat.mod_self _)
  have notInit : call ≠ .init := fun same => by rw [same] at moves; cases moves
  obtain ⟨rx, status, after, ran⟩ := silent_run card call notInit
  have sent : ∃ code answer r1, Event.command code (card.unit call.addr).toUInt32 false answer r1 ∈ newEvents card after ∧
      card.intended call code = some (card.place call.addr.toNat) := by
    cases call with
    | init => cases moves
    | deinit => cases moves
    | trim addr size => cases moves
    | read b addr size =>
        obtain ⟨answer, r1, member⟩ := read_command_sent b addr size card accepted ready rx status after ran
        exact ⟨_, answer, r1, member, intended_read card b addr size⟩
    | program b addr size =>
        obtain ⟨answer, r1, member⟩ := program_command_sent b addr size card accepted ready rx status after ran
        exact ⟨_, answer, r1, member, intended_program card b addr size⟩
  obtain ⟨code, answer, r1, member, meant⟩ := sent
  have same := exactly rx status after ran code _ false answer r1 member _ meant
  rw [wrapped, past] at same
  exact absurd same (by decide)

theorem range_kept_iff (card : SDCard) (call : DriverCall) : (card.RangeKept call ↔ card.RequestFits call) ∧
    ∀ rx status after, call.status.run (card.hears rx) = some (status, after) →
      Exchanged (card.hears rx) (exchangesSince (card.hears rx) after) after ∧ Told (newEvents card after) (framesSince (card.hears rx) after) := by
  refine ⟨⟨fun kept accepted => ?_, fun fits => ?_⟩, fun rx status after ran => call_told call card after rx status ran⟩
  · refine ⟨(in_range_iff card call accepted).mp (kept.within accepted), fun moves empty ready addressable past => ?_⟩
    exact truncated_argument card call accepted moves ready past (kept.arguments accepted addressable)
  · have within : card.accepts call = true → card.InRange call := fun accepted => (in_range_iff card call accepted).mpr (fits accepted).1
    exact ⟨within, fun accepted addressable => arguments_exact card call accepted addressable (within accepted)
      fun moves empty ready => (fits accepted).2 moves empty ready addressable⟩

-- The last block of the 64-bit range: addr + size wraps to zero.
theorem wrapped_request_accepted : receivingCard.accepts (.program (fun _ => 0) (0 - 512) 512) = true ∧
    ¬ receivingCard.RangeKept (.program (fun _ => 0) (0 - 512) 512) := by
  have accepted : receivingCard.accepts (.program (fun _ => 0) (0 - 512) 512) = true := by decide +kernel
  refine ⟨accepted, fun kept => ?_⟩
  have inside := kept.within accepted
  rw [SDCard.InRange] at inside
  exact absurd inside (by decide +kernel)

end SDCardFs.Driver
