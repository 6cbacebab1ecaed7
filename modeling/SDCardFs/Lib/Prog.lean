set_option autoImplicit false

namespace SDCardFs.Lib

-- Programs over a set of requests whose answers come from outside. stuck is a
-- run that goes on without end.
inductive Prog (Request : Type) (Response : Request → Type) (α : Type) : Type where
  | done (result : α)
  | ask (request : Request) (next : Response request → Prog Request Response α)
  | stuck

namespace Prog

variable {Request : Type} {Response : Request → Type} {α β γ κ μ : Type}

def bind : Prog Request Response α → (α → Prog Request Response β) → Prog Request Response β
  | done result, rest => rest result
  | ask request next, rest => ask request fun answer => (next answer).bind rest
  | stuck, _ => stuck

instance : Monad (Prog Request Response) where
  pure := done
  bind := bind

theorem bind_eq (program : Prog Request Response α) (rest : α → Prog Request Response β) : program >>= rest = program.bind rest := rfl

theorem bind_done (program : Prog Request Response α) : program.bind done = program := by
  induction program with
  | done result => rfl
  | ask request next ih => exact congrArg (ask request) (funext ih)
  | stuck => rfl

theorem bind_assoc (program : Prog Request Response α) (rest : α → Prog Request Response β) (last : β → Prog Request Response γ) :
    (program.bind rest).bind last = program.bind fun result => (rest result).bind last := by
  induction program with
  | done result => rfl
  | ask request next ih => exact congrArg (ask request) (funext ih)
  | stuck => rfl

instance : LawfulMonad (Prog Request Response) := LawfulMonad.mk' _ bind_done (fun _ _ => rfl) bind_assoc

abbrev Server (Request : Type) (Response : Request → Type) (κ : Type) : Type :=
  (request : Request) → κ → Option (Response request × κ)

def run (serve : Server Request Response κ) : Prog Request Response α → κ → Option (α × κ)
  | done result, state => some (result, state)
  | ask request next, state => (serve request state).bind fun served => (next served.1).run serve served.2
  | stuck, _ => none

theorem run_bind (serve : Server Request Response κ) (program : Prog Request Response α) (rest : α → Prog Request Response β) (state : κ) :
    (program >>= rest).run serve state = (program.run serve state).bind fun ran => (rest ran.1).run serve ran.2 := by
  rw [bind_eq]
  induction program generalizing state with
  | done result => rfl
  | ask request next ih =>
      simp only [bind, run, Option.bind_assoc]
      exact congrArg _ (funext fun served => ih served.1 served.2)
  | stuck => rfl

theorem run_map (serve : Server Request Response κ) (change : α → β) (program : Prog Request Response α) (state : κ) :
    (change <$> program).run serve state = (program.run serve state).map fun ran => (change ran.1, ran.2) := by
  rw [map_eq_pure_bind, run_bind]
  cases program.run serve state with
  | none => rfl
  | some ran => rfl

theorem run_same {left : Server Request Response κ} {right : Server Request Response μ} (image : κ → μ)
    (same : ∀ request state, right request (image state) = (left request state).map fun served => (served.1, image served.2))
    (program : Prog Request Response α) (state : κ) :
    program.run right (image state) = (program.run left state).map fun ran => (ran.1, image ran.2) := by
  induction program generalizing state with
  | done result => rfl
  | ask request next ih =>
      rw [run, run, same request state]
      cases left request state with
      | none => rfl
      | some served => exact ih served.1 served.2
  | stuck => rfl

-- Whatever a server answers, the other one answers too from every related
-- state; then so do they over whole programs.
def Simulates (left : Server Request Response κ) (right : Server Request Response μ) (related : κ → μ → Prop) : Prop :=
  ∀ request state other answer after, related state other → left request state = some (answer, after) →
    ∃ last, right request other = some (answer, last) ∧ related after last

theorem run_simulates {left : Server Request Response κ} {right : Server Request Response μ} {related : κ → μ → Prop}
    (simulates : Simulates left right related) (program : Prog Request Response α) (state after : κ) (other : μ) (result : α)
    (same : related state other) (ran : program.run left state = some (result, after)) :
    ∃ last, program.run right other = some (result, last) ∧ related after last := by
  induction program generalizing state other with
  | done value =>
      obtain ⟨rfl, rfl⟩ := Prod.mk.inj (Option.some.inj ran)
      exact ⟨other, rfl, same⟩
  | ask request next ih =>
      cases served : left request state with
      | none => simp [run, served] at ran
      | some reply =>
          obtain ⟨answer, between⟩ := reply
          simp only [run, served, Option.bind_some] at ran
          obtain ⟨last, answered, still⟩ := simulates request state other answer between same served
          obtain ⟨final, rest, ends⟩ := ih answer between last still ran
          exact ⟨final, by simp only [run, answered, Option.bind_some, rest], ends⟩
  | stuck => cases ran

-- Some requests answered where they are asked, out of a state the program
-- carries along; the others are passed on.
abbrev Handler (Request : Type) (Response : Request → Type) (κ : Type) : Type :=
  (request : Request) → Option (κ → Response request × κ)

def handle (answers : Handler Request Response κ) : Prog Request Response α → κ → Prog Request Response (α × κ)
  | done result, state => done (result, state)
  | ask request next, state =>
      match answers request with
      | some answer => (next (answer state).1).handle answers (answer state).2
      | none => ask request fun answer => (next answer).handle answers state
  | stuck, _ => stuck

theorem handle_bind (answers : Handler Request Response κ) (program : Prog Request Response α) (rest : α → Prog Request Response β) (state : κ) :
    (program >>= rest).handle answers state = program.handle answers state >>= fun ran => (rest ran.1).handle answers ran.2 := by
  rw [bind_eq, bind_eq]
  induction program generalizing state with
  | done result => rfl
  | ask request next ih =>
      simp only [bind, handle]
      cases answers request with
      | none => exact congrArg (ask request) (funext fun answer => ih answer state)
      | some answer => exact ih _ _
  | stuck => rfl

-- A handled run is a run of the program against a server that answers both
-- kinds of request, whatever that server keeps beside the handler's state.
theorem run_handle {answers : Handler Request Response κ} {serve : Server Request Response μ} {both : Server Request Response γ}
    (inner : γ → κ) (outer : γ → μ)
    (handled : ∀ request answer state, answers request = some answer →
      ∃ after, both request state = some ((answer (inner state)).1, after) ∧ inner after = (answer (inner state)).2 ∧
        outer after = outer state)
    (passed : ∀ request state, answers request = none →
      serve request (outer state) = (both request state).map (fun served => (served.1, outer served.2)) ∧
        ∀ answer after, both request state = some (answer, after) → inner after = inner state)
    (program : Prog Request Response α) (state : γ) :
    (program.handle answers (inner state)).run serve (outer state) =
      (program.run both state).map fun ran => ((ran.1, inner ran.2), outer ran.2) := by
  induction program generalizing state with
  | done result => rfl
  | ask request next ih =>
      cases known : answers request with
      | some answer =>
          obtain ⟨after, served, kept, same⟩ := handled request answer state known
          simp only [handle, known, run, served, Option.bind_some]
          rw [← kept, ← same]
          exact ih _ after
      | none =>
          obtain ⟨outside, kept⟩ := passed request state known
          simp only [handle, known, run, outside]
          cases served : both request state with
          | none => rfl
          | some reply =>
              have unchanged := kept reply.1 reply.2 served
              simp only [Option.map_some, Option.bind_some]
              rw [← unchanged]
              exact ih _ reply.2
  | stuck => rfl

-- A server that would have answered the handled requests in the same way, and
-- does not remember them, cannot tell.
theorem run_handle_silent {answers : Handler Request Response κ} {serve : Server Request Response μ}
    (silent : ∀ request answer, answers request = some answer → ∀ inner state, serve request state = some ((answer inner).1, state))
    (program : Prog Request Response α) (inner : κ) (state : μ) :
    ((program.handle answers inner).run serve state).map (fun ran => (ran.1.1, ran.2)) = program.run serve state := by
  induction program generalizing inner state with
  | done result => rfl
  | ask request next ih =>
      cases known : answers request with
      | some answer =>
          simp only [handle, known, run, silent request answer known inner state, Option.bind_some]
          exact ih _ _ state
      | none =>
          simp only [handle, known, run]
          cases serve request state with
          | none => rfl
          | some reply => exact ih _ _ reply.2
  | stuck => rfl

end Prog

end SDCardFs.Lib
