import SDCardFs.Driver.Response
import SDCardFs.Driver.Transfers

set_option autoImplicit false

namespace SDCardFs.Driver

-- The bytes a call put on the bus, in their order.
def sentSince (before after : SDCard) : List UInt8 :=
  ((after.bus.transfers.take (after.bus.transfers.length - before.bus.transfers.length)).map Transfer.sent).reverse

-- The frame of a block is what _write sends up to the second check byte.
def FrameOf (block frame : List UInt8) : Prop :=
  ∃ buffer before response after, Lib.slice buffer 0 blockSize.toNat = block ∧
    (writeBlock buffer 0 spiStartBlock blockSize).run before = some (response, after) ∧ frame = (sentSince before after).take 515

def Puts (bytes : List UInt8) (before after : SDCard) : Prop :=
  after.bus.transfers.map Transfer.sent = bytes.reverse ++ before.bus.transfers.map Transfer.sent

theorem puts_trans (first second : List UInt8) (a b c : SDCard) (left : Puts first a b) (right : Puts second b c) :
    Puts (first ++ second) a c := by
  rw [Puts, right, left, List.reverse_append, List.append_assoc]

theorem transfer_puts (data : UInt8) : Lib.Keeps (Puts [data]) (transfer data) := by
  intro before value after ran
  obtain ⟨rest, -, rfl⟩ := transfer_effect data before value after ran
  rfl

theorem transfer_all_puts (bytes : List UInt8) : Lib.Keeps (Puts bytes) (transferAll bytes) := by
  induction bytes with
  | nil => exact Lib.keeps_pure () fun _ => rfl
  | cons byte bytes ih =>
      intro before value after ran
      obtain ⟨_, between, first, rest⟩ := (Lib.bind_run_some _ _ _ _ _).mp ran
      exact puts_trans [byte] bytes _ _ _ (Lib.keeps_run (transfer_puts byte) first) (Lib.keeps_run ih rest)

theorem puts_on_bus : OnBus fun before after => ∃ bytes, Puts bytes before after where
  reflexive card := ⟨[], rfl⟩
  transitive a b c left right := by
    obtain ⟨first, left⟩ := left
    obtain ⟨second, right⟩ := right
    exact ⟨first ++ second, puts_trans first second a b c left right⟩
  transfer data := Lib.ends_mono (transfer_puts data) fun _ _ _ puts => ⟨[data], puts⟩
  setCs high := by
    intro before value after ran
    obtain ⟨-, rfl⟩ := Prod.mk.inj (Option.some.inj ran)
    exact ⟨[], rfl⟩

theorem record_puts (event : Event) : Lib.Keeps (fun before after => ∃ bytes, Puts bytes before after) (record event) :=
  keeps_record (fun before after same => ⟨[], by rw [Puts, same]; rfl⟩) event

theorem sent_since_puts (bytes : List UInt8) (before after : SDCard) (puts : Puts bytes before after) : sentSince before after = bytes := by
  have count := congrArg List.length puts
  rw [List.length_map, List.length_append, List.length_reverse, List.length_map] at count
  rw [sentSince, List.map_take, puts, count, Nat.add_sub_cancel, List.take_left' List.length_reverse, List.reverse_reverse]

theorem write_block_puts (buffer : Nat → UInt8) (offset : Nat) (token : UInt8) (length : UInt32) :
    Lib.Ends (writeBlock buffer offset token length) fun before _ after =>
      ∃ more, Puts (token :: Lib.slice buffer offset length.toNat ++ [0xFF, 0xFF] ++ more) before after := by
  intro before value after ran
  obtain ⟨_, marked, marks, ran⟩ := (Lib.bind_run_some _ _ _ _ _).mp ran
  obtain ⟨_, filled, fills, ran⟩ := (Lib.bind_run_some _ _ _ _ _).mp ran
  obtain ⟨_, high, highs, ran⟩ := (Lib.bind_run_some _ _ _ _ _).mp ran
  obtain ⟨_, low, lows, ran⟩ := (Lib.bind_run_some _ _ _ _ _).mp ran
  have block := puts_trans _ _ _ _ _ (Lib.keeps_run (transfer_puts token) marks) (Lib.keeps_run (transfer_all_puts _) fills)
  have check := puts_trans _ _ _ _ _ (Lib.keeps_run (transfer_puts _) highs) (Lib.keeps_run (transfer_puts _) lows)
  have rest : Lib.Keeps (fun before after => ∃ bytes, Puts bytes before after) (do
      let response ← transfer filler
      let _ ← waitReady sdCommandTimeout
      record (.sentBlock token (Lib.slice buffer offset length.toNat) (response &&& spiDataResponseMask))
      return response &&& spiDataResponseMask) :=
    puts_on_bus.bind (puts_on_bus.transfer _) fun _ => puts_on_bus.bind (puts_on_bus.wait_ready _) fun _ =>
      puts_on_bus.bind (record_puts _) fun _ => puts_on_bus.pure _
  obtain ⟨more, later⟩ := Lib.keeps_run rest ran
  exact ⟨more, puts_trans _ more _ _ _ (puts_trans _ _ _ _ _ block check) later⟩

theorem write_block_returns (buffer : Nat → UInt8) (offset : Nat) (token : UInt8) (length : UInt32) :
    ∃ before response after, (writeBlock buffer offset token length).run before = some (response, after) := by
  let data := Lib.slice buffer offset length.toNat
  let card := (SDCard.fresh 0).hears (0xFF :: (silent data.length ++ [0xFF, 0xFF, 0xFF, 0xFF]))
  have sends : skipAnswers data.length (silent data.length ++ [0xFF, 0xFF, 0xFF, 0xFF]) = some ((), [0xFF, 0xFF, 0xFF, 0xFF]) := by
    rw [skipAnswers, if_pos (by rw [List.length_append, silent, List.length_replicate]; omega), List.drop_left' (by simp [silent])]
  obtain ⟨marked, marks, -, left⟩ := (follows_transfer token).ends card 0xFF _ rfl
  obtain ⟨filled, fills, -, left⟩ := (follows_transfer_all data).ends marked () [0xFF, 0xFF, 0xFF, 0xFF] (by rw [left]; exact sends)
  obtain ⟨high, highs, -, left⟩ := (follows_transfer ((0xFFFFFFFF : UInt32) >>> 8).toUInt8).ends filled 0xFF [0xFF, 0xFF, 0xFF] (by rw [left]; rfl)
  obtain ⟨low, lows, -, left⟩ := (follows_transfer (0xFFFFFFFF : UInt32).toUInt8).ends high 0xFF [0xFF, 0xFF] (by rw [left]; rfl)
  obtain ⟨heard, answers, -, left⟩ := (follows_transfer filler).ends low 0xFF [0xFF] (by rw [left]; rfl)
  obtain ⟨ready, waits, -, -⟩ := (follows_wait_ready sdCommandTimeout (by decide)).ends heard true [] (by rw [left]; rfl)
  let response : UInt8 := 0xFF &&& spiDataResponseMask
  refine ⟨card, response, { ready with trace := .sentBlock token data response :: ready.trace }, ?_⟩
  refine (Lib.bind_run_some _ _ _ _ _).mpr ⟨0xFF, marked, marks, ?_⟩
  refine (Lib.bind_run_some _ _ _ _ _).mpr ⟨(), filled, fills, ?_⟩
  refine (Lib.bind_run_some _ _ _ _ _).mpr ⟨0xFF, high, highs, ?_⟩
  refine (Lib.bind_run_some _ _ _ _ _).mpr ⟨0xFF, low, lows, ?_⟩
  refine (Lib.bind_run_some _ _ _ _ _).mpr ⟨0xFF, heard, answers, ?_⟩
  exact (Lib.bind_run_some _ _ _ _ _).mpr ⟨true, ready, waits, rfl⟩

theorem frame_of_iff (block frame : List UInt8) : FrameOf block frame ↔ block.length = 512 ∧ frame = spiStartBlock :: block ++ [0xFF, 0xFF] := by
  have shape (buffer : Nat → UInt8) (before after : SDCard) (response : UInt8)
      (ran : (writeBlock buffer 0 spiStartBlock blockSize).run before = some (response, after)) :
      (sentSince before after).take 515 = spiStartBlock :: Lib.slice buffer 0 blockSize.toNat ++ [0xFF, 0xFF] := by
    obtain ⟨more, puts⟩ := Lib.ends_run (write_block_puts buffer 0 spiStartBlock blockSize) ran
    rw [sent_since_puts _ _ _ puts]
    exact List.take_left' (by rw [List.length_append, List.length_cons, Lib.slice_length]; rfl)
  constructor
  · rintro ⟨buffer, before, response, after, rfl, ran, rfl⟩
    exact ⟨Lib.slice_length _ _ _, shape buffer before after response ran⟩
  · rintro ⟨whole, rfl⟩
    have loaded : Lib.slice (store (fun _ => 0) 0 block) 0 blockSize.toNat = block := by
      have count : blockSize.toNat = block.length := whole.symm
      rw [count, slice_store]
    obtain ⟨before, response, after, ran⟩ := write_block_returns (store (fun _ => 0) 0 block) 0 spiStartBlock blockSize
    exact ⟨_, before, response, after, loaded, ran, by rw [shape _ _ _ _ ran, loaded]⟩

-- What a card supplies for a block: fewer answers than _wait_token looks at,
-- none of them a start token, and the frame.
structure Supply where
  block : List UInt8
  wait : List UInt8
  frame : List UInt8
  short : wait.length < 50000
  quiet : spiStartBlock ∉ wait
  framed : FrameOf block frame

def Supply.bytes (supply : Supply) : List UInt8 := supply.wait ++ supply.frame

theorem Supply.whole (supply : Supply) : supply.block.length = 512 := ((frame_of_iff _ _).mp supply.framed).1

section

variable {size : UInt64} {supplies : List Supply} (count : size.toNat = 512 * supplies.length)

include count

end

end SDCardFs.Driver
