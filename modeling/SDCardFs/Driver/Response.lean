import SDCardFs.Driver.Telling
import SDCardFs.Driver.Waiting

set_option autoImplicit false

namespace SDCardFs.Driver

-- The error bit of a response that counts, and the error it stands for.
def r1Error (r1 : UInt8) : Option Int32 :=
  if r1 &&& 0x08 ≠ 0 then some errorCrc
  else if r1 &&& 0x04 ≠ 0 then some errorUnsupported
  else if r1 &&& 0x12 ≠ 0 then some errorErase
  else if r1 &&& 0x60 ≠ 0 then some errorParameter
  else none

theorem ok_bytes : ∀ n : Fin 256, answerStatus (UInt8.ofFin n).toUInt32 = ok ↔
    UInt8.ofFin n &&& 0x80 = 0 ∧ r1Error (UInt8.ofFin n) = none ∨ UInt8.ofFin n = 0x80 ∨ UInt8.ofFin n = 0x81 := by
  decide +kernel

theorem error_bytes : ∀ n : Fin 256, UInt8.ofFin n &&& 0x80 = 0 →
    r1Error (UInt8.ofFin n) = none ∨ r1Error (UInt8.ofFin n) = some (answerStatus (UInt8.ofFin n).toUInt32) := by
  decide +kernel

-- The window polled after the last frame, and the byte taken as R1.
def lastWindow (frames : List BusFrame) : List UInt8 := ((frames.getLast?.bind polled).map Prod.fst).getD []

def lastR1 (frames : List BusFrame) : UInt8 := (lastWindow frames).getLastD 0xFF

-- What a command puts on the bus, at most three times, and what its status says
-- of the last window.
structure ResponseRight (code : CmdSupported) (arg : UInt32) (isAcmd : Bool) (status : Int32) (frames : List BusFrame) : Prop where
  attempts : ∃ tries own, Tries code arg isAcmd 3 tries own ∧ tries.length ≤ 3 ∧ frames = tries.flatMap Attempt.frames
  accepted : status = ok → lastR1 frames &&& 0x80 = 0 ∧ r1Error (lastR1 frames) = none
  unanswered : (∀ byte ∈ lastWindow frames, byte &&& 0x80 ≠ 0) → status ≠ ok
  refused : lastR1 frames &&& 0x80 = 0 → ∀ error, r1Error (lastR1 frames) = some error → status = error

theorem tries_count {code : CmdSupported} {arg : UInt32} {isAcmd : Bool} {left : Nat} {tries : List Attempt} {own : BusFrame}
    (tried : Tries code arg isAcmd left tries own) : tries.length ≤ left := by
  induction tried with
  | last left attempt sent => exact Nat.succ_le_succ (Nat.zero_le _)
  | again left attempt later own sent silent tried ih => exact Nat.succ_le_succ ih

theorem last_r1_own (earlier : List BusFrame) (own : BusFrame) : lastR1 (earlier ++ [own]) = r1Byte own := by
  rw [lastR1, lastWindow, List.getLast?_concat, Option.bind_some, r1Byte]
  cases polled own with
  | none => rfl
  | some found => rfl

theorem silent_window (frames : List BusFrame) (silence : ∀ byte ∈ lastWindow frames, byte &&& 0x80 ≠ 0) : lastR1 frames &&& 0x80 ≠ 0 := by
  rw [lastR1]
  rcases List.eq_nil_or_concat (lastWindow frames) with empty | ⟨earlier, last, parts⟩
  · rw [empty]
    decide
  · rw [parts, List.concat_eq_append, List.getLastD_concat]
    exact silence last (by rw [parts]; simp)

theorem cmd_response (code : CmdSupported) (arg : UInt32) (isAcmd : Bool) : Lib.Ends (cmd code arg isAcmd) fun before answer after =>
    Exchanged before (exchangesSince before after) after ∧ answer.1 = answerStatus (lastR1 (framesSince before after)).toUInt32 ∧
      ∃ tries own, Tries code arg isAcmd 3 tries own ∧ tries.length ≤ 3 ∧ framesSince before after = tries.flatMap Attempt.frames := by
  intro before answer after ran
  obtain ⟨lead, tries, own, spoke, tried, valued, -⟩ := Lib.ends_run (cmd_tries_spoke code arg isAcmd) ran
  have frames := spoke_frames spoke
  obtain ⟨exchanges, exchanged, -⟩ := spoke
  obtain ⟨earlier, parts⟩ := tries_last tried
  refine ⟨by rw [exchanged_since exchanged]; exact exchanged, ?_, tries, own, tried, tries_count tried, frames⟩
  rw [frames, parts, last_r1_own, valued.r1]

theorem response_right_iff (code : CmdSupported) (arg : UInt32) (isAcmd : Bool) (card : SDCard) :
    (∀ gap stream, ReadyEvery gap stream → ReturnsWithin (cmdBound gap) (cmd code arg isAcmd) card stream) ∧
      (∀ rx, ∃ more answer after, (cmd code arg isAcmd).run (card.hears (rx ++ more)) = some (answer, after)) ∧
      ∀ rx status response after, (cmd code arg isAcmd).run (card.hears rx) = some ((status, response), after) →
        Exchanged (card.hears rx) (exchangesSince (card.hears rx) after) after ∧
          (ResponseRight code arg isAcmd status (framesSince (card.hears rx) after) ↔
            lastR1 (framesSince (card.hears rx) after) ≠ 0x80 ∧ lastR1 (framesSince (card.hears rx) after) ≠ 0x81) := by
  refine ⟨fun gap stream ready => ?_, timely_continues (fun gap turns => timely_cmd code arg isAcmd) card, fun rx status response after ran => ?_⟩
  · exact @timely_returns _ gap (cmdBound gap + 1) _ _ (timely_cmd code arg isAcmd) card stream _ (Nat.le_refl _)
      (heard_prompt gap _ _ stream ready fun room => absurd room (Nat.not_succ_le_self _))
  obtain ⟨exchanged, same, attempts⟩ := Lib.ends_run (cmd_response code arg isAcmd) ran
  refine ⟨exchanged, ?_⟩
  generalize framesSince (card.hears rx) after = frames at same attempts
  obtain rfl : status = _ := same
  have whenOk := ok_bytes (lastR1 frames).toFin
  have whenError := error_bytes (lastR1 frames).toFin
  rw [show UInt8.ofFin (lastR1 frames).toFin = lastR1 frames from rfl] at whenOk whenError
  constructor
  · intro right
    constructor
    · intro stray
      have clear := (right.accepted (whenOk.mpr (Or.inr (Or.inl stray)))).1
      rw [stray] at clear
      exact absurd clear (by decide)
    · intro stray
      have clear := (right.accepted (whenOk.mpr (Or.inr (Or.inr stray)))).1
      rw [stray] at clear
      exact absurd clear (by decide)
  · rintro ⟨notFirst, notSecond⟩
    have accepted (status : answerStatus (lastR1 frames).toUInt32 = ok) : lastR1 frames &&& 0x80 = 0 ∧ r1Error (lastR1 frames) = none :=
      (whenOk.mp status).resolve_right fun stray => stray.elim notFirst notSecond
    refine ⟨attempts, accepted, fun silence ok => silent_window frames silence (accepted ok).1, fun real error found => ?_⟩
    rcases whenError real with none | some
    · rw [none] at found
      cases found
    · exact Option.some.inj (some.symm.trans found)

-- The answers to sixteen polls of a frame, all of them 0x80.
def strayAnswers : List UInt8 := silent 9 ++ List.replicate 16 0x80 ++ silent 1

theorem stray_byte_accepted : ∃ response after, (cmd .cmd16SetBlocklen 512 false).run ((SDCard.fresh 0).hears strayAnswers) = some ((ok, response), after) ∧
    (∀ byte ∈ lastWindow (framesSince ((SDCard.fresh 0).hears strayAnswers) after), byte &&& 0x80 ≠ 0) ∧
    ¬ ResponseRight .cmd16SetBlocklen 512 false ok (framesSince ((SDCard.fresh 0).hears strayAnswers) after) := by
  have observed : ((cmd .cmd16SetBlocklen 512 false).run ((SDCard.fresh 0).hears strayAnswers)).map (fun answer =>
      (answer.1.1, lastWindow (framesSince ((SDCard.fresh 0).hears strayAnswers) answer.2))) = some (ok, List.replicate 16 0x80) := by decide +kernel
  cases ran : (cmd .cmd16SetBlocklen 512 false).run ((SDCard.fresh 0).hears strayAnswers) with
  | none => simp [ran] at observed
  | some answer =>
      obtain ⟨⟨status, response⟩, after⟩ := answer
      simp only [ran, Option.map_some, Option.some.injEq, Prod.mk.injEq] at observed
      obtain ⟨rfl, window⟩ := observed
      have silence : ∀ byte ∈ lastWindow (framesSince ((SDCard.fresh 0).hears strayAnswers) after), byte &&& 0x80 ≠ 0 := by
        intro byte member
        rw [window] at member
        rw [List.eq_of_mem_replicate member]
        decide
      exact ⟨response, after, rfl, silence, fun right => right.unanswered silence rfl⟩

-- An R1 byte with two error bits, of which that of an illegal command counts.
def refusingAnswers : List UInt8 := silent 9 ++ [0x24] ++ silent 1

theorem refusing_card_responds : ∃ response after,
    (cmd .cmd16SetBlocklen 512 false).run ((SDCard.fresh 0).hears refusingAnswers) = some ((errorUnsupported, response), after) ∧
    ResponseRight .cmd16SetBlocklen 512 false errorUnsupported (framesSince ((SDCard.fresh 0).hears refusingAnswers) after) := by
  have observed : ((cmd .cmd16SetBlocklen 512 false).run ((SDCard.fresh 0).hears refusingAnswers)).map (fun answer =>
      (answer.1.1, lastR1 (framesSince ((SDCard.fresh 0).hears refusingAnswers) answer.2))) = some (errorUnsupported, 0x24) := by decide +kernel
  cases ran : (cmd .cmd16SetBlocklen 512 false).run ((SDCard.fresh 0).hears refusingAnswers) with
  | none => simp [ran] at observed
  | some answer =>
      obtain ⟨⟨status, response⟩, after⟩ := answer
      simp only [ran, Option.map_some, Option.some.injEq, Prod.mk.injEq] at observed
      obtain ⟨rfl, r1⟩ := observed
      have settled := ((response_right_iff .cmd16SetBlocklen 512 false (SDCard.fresh 0)).2.2 refusingAnswers _ response after ran).2.mpr
      exact ⟨response, after, rfl, settled (by rw [r1]; decide)⟩

end SDCardFs.Driver
