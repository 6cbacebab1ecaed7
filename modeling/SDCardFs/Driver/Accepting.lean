import SDCardFs.Driver.Answers
import SDCardFs.Driver.Causal

set_option autoImplicit false

namespace SDCardFs.Driver

theorem cmd_tail_reads (code : CmdSupported) (response : UInt32) (other : code ≠ .cmd8SendIfCond) :
    ∃ reader, Follows (cmdTail code response) reader := by
  have waits := follows_bind (follows_wait_ready sdCommandTimeout (by decide)) fun _ => follows_pure response
  cases code
  case cmd8SendIfCond => exact absurd rfl other
  case cmd58ReadOcr =>
      exact ⟨_, follows_bind (follows_transfer _) fun _ => follows_bind (follows_transfer _) fun _ =>
        follows_bind (follows_transfer _) fun _ => follows_bind (follows_transfer _) fun _ => follows_pure _⟩
  case cmd12StopTransmission => exact ⟨_, waits⟩
  case cmd38Erase => exact ⟨_, waits⟩
  case cmd13SendStatus => exact ⟨_, follows_bind (follows_transfer _) fun _ => follows_pure _⟩
  all_goals exact ⟨_, follows_pure response⟩

theorem cmd_answer_reads (code : CmdSupported) (response : UInt32) (other : code ≠ .cmd8SendIfCond) :
    ∃ reader, Follows (cmdAnswer code response) reader := by
  have release := follows_bind (follows_transfer filler) fun _ => follows_set_cs true
  have leave (answer : Int32 × UInt32) : ∃ reader, Follows (do unselect; return answer) reader :=
    ⟨_, follows_bind release fun _ => follows_pure answer⟩
  rw [cmdAnswer]
  by_cases silence : r1NoResponse = response
  · rw [if_pos silence]
    exact leave _
  rw [if_neg silence]
  by_cases crc : response &&& r1ComCrcError ≠ 0
  · rw [if_pos crc]
    exact leave _
  rw [if_neg crc]
  by_cases illegal : response &&& r1IllegalCommand ≠ 0
  · rw [if_pos illegal]
    simp only [if_neg other]
    exact leave _
  rw [if_neg illegal]
  obtain ⟨tail, reads⟩ := cmd_tail_reads code response other
  have ending (full : UInt32) : ∃ reader, Follows (do
      if keepsSelected code ∧ r1Status response = ok then
        return (ok, full)
      unselect
      return (r1Status response, full)) reader := by
    by_cases kept : keepsSelected code ∧ r1Status response = ok
    · simp only [if_pos kept]
      exact ⟨_, follows_pure _⟩
    · simp only [if_neg kept]
      exact leave _
  obtain ⟨later, ends⟩ := Classical.skolem.mp ending
  exact ⟨_, follows_bind reads ends⟩

theorem cmd_body_reads (code : CmdSupported) (isAcmd : Bool) (other : code ≠ .cmd8SendIfCond) :
    ∃ reader, ∀ arg, Follows (cmdBody code arg isAcmd) reader := by
  obtain ⟨later, answers⟩ := Classical.skolem.mp fun response => cmd_answer_reads code response other
  refine ⟨fun rx => ((pollingWindows code isAcmd rx).map fun found => ((lastByte 0xFF found.1).toUInt32, found.2)).bind fun answer =>
    later answer.1 answer.2, fun arg => ?_⟩
  rw [cmd_body_parts]
  exact follows_bind (follows_r1 code arg isAcmd) answers

-- Answers with which a card accepts a command, all of them taken by the call.
def Accepts (code : CmdSupported) (answers : List UInt8) : Prop :=
  ∃ card arg r1 after, (cmd code arg false).run (SDCard.hears card answers) = some ((ok, r1), after) ∧ after.bus.rx = []

theorem accepts_observed (code : CmdSupported) (answers : List UInt8)
    (observed : ((cmd code 0x0 false).run ((SDCard.fresh 0).hears answers)).map (fun answer => (answer.1.1, answer.2.bus.rx)) = some (ok, [])) :
    Accepts code answers := by
  obtain ⟨⟨⟨status, r1⟩, after⟩, ran, same⟩ := Option.map_eq_some_iff.mp observed
  obtain ⟨rfl, taken⟩ := Prod.mk.inj same
  exact ⟨SDCard.fresh 0, 0x0, r1, after, ran, taken⟩

-- They are accepted in every state and with every argument, and the answers
-- that follow them are left to the next call.
theorem accepts_anywhere (code : CmdSupported) (other : code ≠ .cmd8SendIfCond) (answers : List UInt8) (accepts : Accepts code answers)
    (arg : UInt32) (card : SDCard) (more : List UInt8) (stream : card.bus.rx = answers ++ more) :
    ∃ r1 after, (cmd code arg false).run card = some ((ok, r1), after) ∧ after.bus.rx = more := by
  obtain ⟨any, argument, r1, last, ran, taken⟩ := accepts
  obtain ⟨reader, follows⟩ := cmd_body_reads code false other
  obtain ⟨answer, between, body, ran⟩ := (Lib.bind_run_some _ _ _ _ _).mp ran
  obtain ⟨_, recorded, records, ran⟩ := (Lib.bind_run_some _ _ _ _ _).mp ran
  obtain ⟨rfl, rfl⟩ := (Lib.pure_run_some _ _ _ _).mp ran
  rw [record_run _ _ _ _ records] at taken
  obtain ⟨found, -⟩ := follows_ran (follows argument) body
  obtain ⟨middle, bodyRan, -, left⟩ := (follows arg).ends (card.hears answers) _ _ found
  have alone : (cmd code arg false).run (card.hears answers) =
      some ((ok, r1), { middle with trace := .command code arg false ok r1 :: middle.trace }) :=
    (Lib.bind_run_some _ _ _ _ _).mpr ⟨(ok, r1), middle, bodyRan, rfl⟩
  have same : (card.hears answers).amid [] more = card := by
    rw [SDCard.amid, SDCard.hears, List.append_nil, ← stream]
  have amid := cmd_causal code arg false _ _ _ [] more alone
  rw [same] at amid
  refine ⟨r1, _, amid, ?_⟩
  change middle.bus.rx ++ more = more
  rw [left, taken, List.nil_append]

end SDCardFs.Driver
