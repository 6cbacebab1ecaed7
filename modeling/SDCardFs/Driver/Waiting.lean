import SDCardFs.Driver.Read
import SDCardFs.Driver.Timely

set_option autoImplicit false

namespace SDCardFs.Driver

-- The stream as a call finds it that starts after so many answers.
def later (stream : Nat → UInt8) (first : Nat) : Nat → UInt8 := fun n => stream (first + n)

theorem heard_add (stream : Nat → UInt8) (first count : Nat) : heard stream (first + count) = heard stream first ++ heard (later stream first) count := by
  rw [heard, List.range_add, List.map_append, List.map_map]
  rfl

theorem heard_length (stream : Nat → UInt8) (count : Nat) : (heard stream count).length = count := by
  rw [heard, List.length_map, List.length_range]

theorem heard_suffix (stream : Nat → UInt8) (count : Nat) (rest : List UInt8) (last : rest <:+ heard stream count) :
    ∃ first, count = first + rest.length ∧ rest = heard (later stream first) rest.length := by
  obtain ⟨taken, parts⟩ := last
  have length := congrArg List.length parts
  rw [List.length_append, heard_length] at length
  refine ⟨taken.length, length.symm, ?_⟩
  rw [← length, heard_add] at parts
  exact List.append_inj_right parts (heard_length _ _).symm

theorem heard_take (stream : Nat → UInt8) (count more : Nat) (enough : count ≤ more) : (heard stream more).take count = heard stream count := by
  obtain ⟨rest, rfl⟩ := Nat.exists_eq_add_of_le enough
  rw [heard_add, List.take_left' (heard_length _ _)]

theorem heard_member (stream : Nat → UInt8) (count : Nat) (byte : UInt8) : byte ∈ heard stream count ↔ ∃ poll, poll < count ∧ stream poll = byte := by
  simp only [heard, List.mem_map, List.mem_range]

-- Among any so many answers that follow each other one is 0xFF.
def ReadyEvery (gap : Nat) (stream : Nat → UInt8) : Prop := ∀ first, ∃ poll, poll < gap ∧ stream (first + poll) = 0xFF

-- The ACMD41 loop, begun anywhere, has left the idle state after so many.
def IdleLeft (turns : Nat) (stream : Nat → UInt8) : Prop := ∀ first, ∃ rest, LeavesIdle (heard (later stream first) turns) rest

theorem heard_prompt (gap turns count : Nat) (stream : Nat → UInt8) (ready : ReadyEvery gap stream) (idle : turns ≤ count → IdleLeft turns stream) :
    Prompt gap turns (heard stream count) := by
  intro rest last
  obtain ⟨first, total, same⟩ := heard_suffix stream count rest last
  rw [same, heard_length]
  refine ⟨fun room => ?_, fun room => ?_⟩
  · rw [heard_take _ _ _ room]
    exact (heard_member _ _ _).mpr (ready first)
  · rw [heard_take _ _ _ room]
    exact idle (by omega) first

theorem timely_returns {α : Type} {gap turns bound : Nat} {call : DriverM α} (timely : Timely gap turns bound call) (card : SDCard)
    (stream : Nat → UInt8) (count : Nat) (enough : bound ≤ count) (prompt : Prompt gap turns (heard stream count)) :
    ReturnsWithin count call card stream := by
  obtain ⟨value, after, used, ran, -⟩ := timely (card.hears (heard stream count)) (by
    rw [show (card.hears (heard stream count)).bus.rx = heard stream count from rfl, heard_length]
    exact enough) prompt
  rw [ReturnsWithin, ran]
  rfl

-- The answers so far, on a card that is ready from then on.
def padded (rx : List UInt8) : Nat → UInt8 := fun n => rx.getD n 0xFF

theorem padded_heard (rx : List UInt8) : heard (padded rx) rx.length = rx := by
  refine List.ext_getElem (heard_length _ _) fun n left right => ?_
  simp [heard, padded, right]

theorem padded_ready (rx : List UInt8) : ReadyEvery (rx.length + 1) (padded rx) := by
  refine fun first => ⟨rx.length, Nat.lt_succ_self _, ?_⟩
  simp [padded]

-- Whatever has been answered so far, the card can let the call end.
theorem timely_continues {α : Type} {call : DriverM α} {bound : Nat → Nat} (timely : ∀ gap turns, Timely gap turns (bound gap) call)
    (card : SDCard) (rx : List UInt8) : ∃ more value after, call.run (card.hears (rx ++ more)) = some (value, after) := by
  let count := rx.length + bound (rx.length + 1)
  have returned := timely_returns (timely (rx.length + 1) (count + 1)) card (padded rx) count (Nat.le_add_left _ _)
    (heard_prompt _ _ count _ (padded_ready rx) fun room => absurd room (Nat.not_succ_le_self _))
  obtain ⟨⟨value, after⟩, ran⟩ := Option.isSome_iff_exists.mp returned
  rw [heard_add, padded_heard] at ran
  exact ⟨_, value, after, ran⟩

theorem timely_other (gap turns : Nat) (call : DriverCall) (notInit : call ≠ .init) : Timely gap turns (call.transfers gap 0) call.status := by
  have same : call.transfers gap turns = call.transfers gap 0 := by
    cases call with
    | init => exact absurd rfl notInit
    | deinit => rfl
    | read b addr size => rfl
    | program b addr size => rfl
    | trim addr size => rfl
  rw [← same]
  exact timely_calls gap turns call

theorem calls_continue (card : SDCard) (call : DriverCall) (notInit : call ≠ .init) (rx : List UInt8) :
    ∃ more status after, call.status.run (card.hears (rx ++ more)) = some (status, after) :=
  timely_continues (fun gap turns => timely_other gap turns call notInit) card rx

end SDCardFs.Driver
