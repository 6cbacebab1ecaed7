set_option autoImplicit false

namespace SDCardFs.Lib

-- A resumable call, repeated until it fails or its memory says it is over:
-- none when it is neither after the given number of calls.
def drive {m : Type → Type} [Monad m] {σ ε : Type} (call : σ → m (ε × σ)) (failed : ε → Bool) (ended : σ → Bool) :
    Nat → σ → m (Option (ε × σ))
  | 0, _ => pure none
  | calls + 1, memory => do
      let answer ← call memory
      if failed answer.1 ∨ ended answer.2 then
        pure (some answer)
      else
        drive call failed ended calls answer.2

section
variable {m : Type → Type} [Monad m] {σ ε α : Type} {call : σ → m (ε × σ)} {failed : ε → Bool} {ended : σ → Bool}

theorem drive_call (calls : Nat) (memory : σ) : drive call failed ended (calls + 1) memory = (do
    let answer ← call memory
    if failed answer.1 ∨ ended answer.2 then pure (some answer) else drive call failed ended calls answer.2) := rfl

variable [LawfulMonad m]

theorem drive_quiet (calls : Nat) (memory next : σ) (error : ε) (quiet : call memory = pure (error, next)) (fine : failed error = false)
    (going : ended next = false) : drive call failed ended (calls + 1) memory = drive call failed ended calls next := by
  rw [drive_call, quiet, pure_bind]
  simp [fine, going]

theorem drive_last (calls : Nat) (memory next : σ) (error : ε) (last : call memory = pure (error, next))
    (stops : failed error ∨ ended next) : drive call failed ended (calls + 1) memory = pure (some (error, next)) := by
  rw [drive_call, last, pure_bind, if_pos stops]

-- A loop whose turns are handed out one a call. left counts the turns it may
-- still take and value is what it carries, packed into the memory between the
-- calls; where it takes no turn, the rest of the calls has to do what is left.
theorem drive_loop (whole : Nat → α → m ε) (pack : Nat → α → σ) (extra bound : Nat)
    (step : ∀ left value, left ≤ bound →
      Option.map Prod.fst <$> drive call failed ended (left + extra) (pack left value) = some <$> whole left value ∨
      ∃ fewer, ∃ turn : m (ε × α), left = fewer + 1 ∧ (∀ next, ended (pack fewer next) = false) ∧
        call (pack left value) = (do let done ← turn; pure (done.1, pack fewer done.2)) ∧
        whole left value = (do let done ← turn; if failed done.1 then pure done.1 else whole fewer done.2)) :
    ∀ left value, left ≤ bound →
      Option.map Prod.fst <$> drive call failed ended (left + extra) (pack left value) = some <$> whole left value := by
  intro left
  induction left with
  | zero =>
      intro value within
      rcases step 0 value within with same | ⟨fewer, _, impossible, _⟩
      · exact same
      · omega
  | succ left ih =>
      intro value within
      rcases step (left + 1) value within with same | ⟨fewer, turn, counted, going, called, turned⟩
      · exact same
      · obtain rfl : left = fewer := by omega
        rw [Nat.add_right_comm, drive_call, called, turned]
        simp only [map_eq_pure_bind, bind_assoc, pure_bind]
        apply congrArg (turn >>= ·)
        funext done
        by_cases stops : failed done.1 = true
        · simp [stops]
        · have rest := ih done.2 (by omega)
          simp only [map_eq_pure_bind] at rest
          simpa [stops, going] using rest

end

end SDCardFs.Lib
