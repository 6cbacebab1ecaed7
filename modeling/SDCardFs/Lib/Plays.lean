import SDCardFs.Lib.Prog

set_option autoImplicit false

namespace SDCardFs.Lib

namespace Prog

variable {Request : Type} {Response : Request → Type} {α β κ : Type}

-- One play of a program: the requests in order, each with the answer it got,
-- and the result.
abbrev Log (Request : Type) (Response : Request → Type) : Type := List ((request : Request) × Response request)

inductive Plays : Prog Request Response α → Log Request Response → α → Prop where
  | done (result : α) : Plays (done result) [] result
  | ask (request : Request) (next : Response request → Prog Request Response α) (answer : Response request)
      (log : Log Request Response) (result : α) (rest : Plays (next answer) log result) :
      Plays (ask request next) (⟨request, answer⟩ :: log) result

theorem plays_done (value result : α) (log : Log Request Response) : (done value).Plays log result ↔ log = [] ∧ value = result := by
  constructor
  · intro played
    cases played
    exact ⟨rfl, rfl⟩
  · rintro ⟨rfl, rfl⟩
    exact .done value

theorem plays_ask (request : Request) (next : Response request → Prog Request Response α) (log : Log Request Response) (result : α) :
    (ask request next).Plays log result ↔ ∃ answer rest, log = ⟨request, answer⟩ :: rest ∧ (next answer).Plays rest result := by
  constructor
  · intro played
    cases played with
    | ask _ _ answer rest _ played => exact ⟨answer, rest, rfl, played⟩
  · rintro ⟨answer, rest, rfl, played⟩
    exact .ask request next answer rest result played

theorem not_plays_stuck (log : Log Request Response) (result : α) : ¬ (stuck : Prog Request Response α).Plays log result := nofun

theorem plays_bind (program : Prog Request Response α) (rest : α → Prog Request Response β) (log : Log Request Response) (result : β) :
    (program >>= rest).Plays log result ↔
      ∃ value first second, log = first ++ second ∧ program.Plays first value ∧ (rest value).Plays second result := by
  rw [bind_eq]
  induction program generalizing log with
  | done value =>
      constructor
      · exact fun played => ⟨value, [], log, rfl, .done value, played⟩
      · rintro ⟨_, first, second, rfl, played, last⟩
        obtain ⟨rfl, rfl⟩ := (plays_done _ _ _).mp played
        exact last
  | ask request next ih =>
      rw [bind, plays_ask]
      constructor
      · rintro ⟨answer, log, rfl, played⟩
        obtain ⟨value, first, second, rfl, started, last⟩ := (ih answer log).mp played
        exact ⟨value, _ :: first, second, rfl, .ask _ _ _ _ _ started, last⟩
      · rintro ⟨value, first, second, rfl, started, last⟩
        obtain ⟨answer, log, rfl, played⟩ := (plays_ask _ _ _ _).mp started
        exact ⟨answer, _, rfl, (ih answer _).mpr ⟨value, log, second, rfl, played, last⟩⟩
  | stuck =>
      constructor
      · exact fun played => absurd played (not_plays_stuck _ _)
      · rintro ⟨_, _, _, _, played, _⟩
        exact absurd played (not_plays_stuck _ _)

-- Every request a program makes is one it may make, whatever it has been
-- answered before, and it ends with a result that meets the postcondition.
def Always (asks : Request → Prop) (post : α → Prop) : Prog Request Response α → Prop
  | done result => post result
  | ask request next => asks request ∧ ∀ answer, (next answer).Always asks post
  | stuck => False

section
variable {asks : Request → Prop}

theorem always_asks {other : Request → Prop} {strong weak : α → Prop} (program : Prog Request Response α) (holds : program.Always asks strong)
    (may : ∀ request, asks request → other request) (implies : ∀ result, strong result → weak result) : program.Always other weak := by
  induction program with
  | done result => exact implies result holds
  | ask request next ih => exact ⟨may request holds.1, fun answer => ih answer (holds.2 answer)⟩
  | stuck => exact holds

theorem always_mono {strong weak : α → Prop} (program : Prog Request Response α) (holds : program.Always asks strong)
    (implies : ∀ result, strong result → weak result) : program.Always asks weak :=
  always_asks program holds (fun _ may => may) implies

theorem always_bind {middle : α → Prop} {post : β → Prop} (program : Prog Request Response α) (rest : α → Prog Request Response β)
    (first : program.Always asks middle) (second : ∀ value, middle value → (rest value).Always asks post) :
    (program >>= rest).Always asks post := by
  rw [bind_eq]
  induction program with
  | done value => exact second value first
  | ask request next ih => exact ⟨first.1, fun answer => ih answer (first.2 answer)⟩
  | stuck => exact first

theorem always_ite {post : α → Prop} {condition : Prop} [Decidable condition] {yes no : Prog Request Response α}
    (positive : condition → yes.Always asks post) (negative : ¬ condition → no.Always asks post) :
    (if condition then yes else no).Always asks post := by
  split
  · exact positive ‹_›
  · exact negative ‹_›

theorem always_map {post : β → Prop} (change : α → β) (program : Prog Request Response α)
    (holds : program.Always asks fun result => post (change result)) : (change <$> program).Always asks post := by
  rw [map_eq_pure_bind]
  exact always_bind program _ holds fun _ met => met

-- What is answered where it is asked is not asked any more.
theorem always_handle {post : α → Prop} (answers : Handler Request Response κ) (program : Prog Request Response α) (state : κ)
    (holds : program.Always asks post) : (program.handle answers state).Always asks fun ran => post ran.1 := by
  induction program generalizing state with
  | done result => exact holds
  | ask request next ih =>
      rw [handle]
      cases answers request with
      | some answer => exact ih _ _ (holds.2 _)
      | none => exact ⟨holds.1, fun answer => ih answer state (holds.2 answer)⟩
  | stuck => exact holds

-- A server that answers what the program may ask in every state of an invariant.
theorem run_always_kept {serve : Server Request Response κ} {post : α → Prop} {kept : κ → Prop}
    (answers : ∀ request state, asks request → kept state → ∃ answer after, serve request state = some (answer, after) ∧ kept after)
    (program : Prog Request Response α) (state : κ) (holds : program.Always asks post) (sound : kept state) :
    ∃ result after, program.run serve state = some (result, after) ∧ post result ∧ kept after := by
  induction program generalizing state with
  | done result => exact ⟨result, state, rfl, holds, sound⟩
  | ask request next ih =>
      obtain ⟨answer, between, answered, still⟩ := answers request state holds.1 sound
      obtain ⟨result, after, ran, met, last⟩ := ih answer between (holds.2 answer) still
      exact ⟨result, after, by rw [run, answered, Option.bind_some, ran], met, last⟩
  | stuck => exact absurd holds id

theorem run_always {serve : Server Request Response κ} {post : α → Prop}
    (answers : ∀ request state, asks request → (serve request state).isSome) (program : Prog Request Response α) (state : κ)
    (holds : program.Always asks post) : ∃ result after, program.run serve state = some (result, after) ∧ post result := by
  obtain ⟨result, after, ran, met, -⟩ := @run_always_kept _ _ _ _ _ serve post (fun _ => True) (fun request before may _ => by
    obtain ⟨⟨answer, after⟩, answered⟩ := Option.isSome_iff_exists.mp (answers request before may)
    exact ⟨answer, after, answered, trivial⟩) program state holds trivial
  exact ⟨result, after, ran, met⟩

end

-- Every request a program makes, for as long as it goes on, is one it may make.
def Only (asks : Request → Prop) : Prog Request Response α → Prop
  | done _ => True
  | ask request next => asks request ∧ ∀ answer, (next answer).Only asks
  | stuck => True

section
variable {asks : Request → Prop}

theorem only_bind (program : Prog Request Response α) (rest : α → Prog Request Response β) (first : program.Only asks)
    (second : ∀ value, (rest value).Only asks) : (program >>= rest).Only asks := by
  rw [bind_eq]
  induction program with
  | done value => exact second value
  | ask request next ih => exact ⟨first.1, fun answer => ih answer (first.2 answer)⟩
  | stuck => trivial

theorem only_ite {condition : Prop} [Decidable condition] {yes no : Prog Request Response α} (positive : yes.Only asks)
    (negative : no.Only asks) : (if condition then yes else no).Only asks := by
  split
  · exact positive
  · exact negative

theorem run_only {serve : Server Request Response κ} {relation : κ → κ → Prop} (reflexive : ∀ state, relation state state)
    (transitive : ∀ first second third, relation first second → relation second third → relation first third)
    (keeps : ∀ request state answer after, asks request → serve request state = some (answer, after) → relation state after)
    (program : Prog Request Response α) (state after : κ) (result : α) (only : program.Only asks)
    (ran : program.run serve state = some (result, after)) : relation state after := by
  induction program generalizing state with
  | done value =>
      cases ran
      exact reflexive _
  | ask request next ih =>
      rw [run] at ran
      obtain ⟨⟨answer, between⟩, served, rest⟩ := Option.bind_eq_some_iff.mp ran
      exact transitive _ _ _ (keeps request state answer between only.1 served) (ih answer between (only.2 answer) rest)
  | stuck => cases ran

-- A server that answers the requests a program may make as another one does.
theorem run_only_simulates {μ : Type} {left : Server Request Response κ} {right : Server Request Response μ} {related : κ → μ → Prop}
    (simulates : ∀ request state other answer after, asks request → related state other → left request state = some (answer, after) →
      ∃ last, right request other = some (answer, last) ∧ related after last)
    (program : Prog Request Response α) (state after : κ) (other : μ) (result : α) (only : program.Only asks) (same : related state other)
    (ran : program.run left state = some (result, after)) : ∃ last, program.run right other = some (result, last) ∧ related after last := by
  induction program generalizing state other with
  | done value =>
      cases ran
      exact ⟨other, rfl, same⟩
  | ask request next ih =>
      rw [run] at ran
      obtain ⟨⟨answer, between⟩, served, rest⟩ := Option.bind_eq_some_iff.mp ran
      obtain ⟨last, answered, still⟩ := simulates request state other answer between only.1 same served
      obtain ⟨final, ended, met⟩ := ih answer between last (only.2 answer) still rest
      exact ⟨final, by rw [run, answered, Option.bind_some, ended], met⟩
  | stuck => cases ran

end

-- Requests answered by programs over requests of another kind, which share a
-- state of their own.
def through {Lower : Type} {Answer : Lower → Type} (serve : (request : Request) → κ → Prog Lower Answer (Response request × κ)) :
    Prog Request Response α → κ → Prog Lower Answer (α × κ)
  | done result, state => done (result, state)
  | ask request next, state => (serve request state).bind fun served => (next served.1).through serve served.2
  | stuck, _ => stuck

-- The requests of the program above are made in states that keep an invariant
-- of the programs below.
theorem always_through {Lower : Type} {Answer : Lower → Type} {asks : Request → Prop} {lowerAsks : Lower → Prop} {post : α → Prop}
    (serve : (request : Request) → κ → Prog Lower Answer (Response request × κ)) (kept : κ → Prop)
    (serves : ∀ request state, asks request → kept state → (serve request state).Always lowerAsks fun served => kept served.2)
    (program : Prog Request Response α) (state : κ) (holds : program.Always asks post) (sound : kept state) :
    (program.through serve state).Always lowerAsks fun ran => post ran.1 ∧ kept ran.2 := by
  induction program generalizing state with
  | done result => exact ⟨holds, sound⟩
  | ask request next ih =>
      exact always_bind _ _ (serves request state holds.1 sound) fun served still => ih served.1 served.2 (holds.2 served.1) still
  | stuck => exact holds

theorem only_through {Lower : Type} {Answer : Lower → Type} {asks : Lower → Prop}
    (serve : (request : Request) → κ → Prog Lower Answer (Response request × κ)) (serves : ∀ request state, (serve request state).Only asks)
    (program : Prog Request Response α) : ∀ (state : κ), (program.through serve state).Only asks := by
  induction program with
  | done result => exact fun _ => trivial
  | ask request next ih => exact fun state => only_bind _ _ (serves request state) fun served => ih served.1 served.2
  | stuck => exact fun _ => trivial

end Prog

end SDCardFs.Lib
