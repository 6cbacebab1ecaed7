set_option autoImplicit false

namespace SDCardFs.Lib

-- Partial correctness for calls that may never return: none stands for a call
-- that has not come back on the given input, so a postcondition speaks only
-- about the runs that do.
def Ends {σ α : Type} (call : StateT σ Option α) (post : σ → α → σ → Prop) : Prop :=
  ∀ before value after, call.run before = some (value, after) → post before value after

theorem bind_run_some {σ α β : Type} (first : StateT σ Option α) (rest : α → StateT σ Option β)
    (before after : σ) (value : β) :
    (first >>= rest).run before = some (value, after) ↔
      ∃ result between, first.run before = some (result, between) ∧ (rest result).run between = some (value, after) := by
  rw [StateT.run_bind]
  constructor
  · intro ran
    cases firstRun : first.run before with
    | none => simp [firstRun] at ran
    | some pair => exact ⟨pair.1, pair.2, rfl, by simpa [firstRun] using ran⟩
  · rintro ⟨result, between, firstRun, restRun⟩
    simp [firstRun, restRun]

theorem pure_run_some {σ α : Type} (result value : α) (before after : σ) :
    (pure result : StateT σ Option α).run before = some (value, after) ↔ result = value ∧ before = after := by
  simp

theorem ends_pure {σ α : Type} (result : α) (post : σ → α → σ → Prop)
    (holds : ∀ before, post before result before) : Ends (pure result : StateT σ Option α) post := by
  intro before value after ran
  obtain ⟨rfl, rfl⟩ := (pure_run_some _ _ _ _).mp ran
  exact holds before

theorem ends_run {σ α : Type} {call : StateT σ Option α} {post : σ → α → σ → Prop} (spec : Ends call post) {before after : σ}
    {value : α} (ran : call.run before = some (value, after)) : post before value after :=
  spec before value after ran

theorem ends_mono {σ α : Type} {call : StateT σ Option α} {post weaker : σ → α → σ → Prop}
    (spec : Ends call post) (implies : ∀ before value after, post before value after → weaker before value after) :
    Ends call weaker :=
  fun before value after ran => implies before value after (spec before value after ran)

theorem ends_bind {σ α β : Type} {first : StateT σ Option α} {rest : α → StateT σ Option β}
    {middle : σ → α → σ → Prop} {last : α → σ → β → σ → Prop} {post : σ → β → σ → Prop}
    (firstSpec : Ends first middle) (restSpec : ∀ result, Ends (rest result) (last result))
    (compose : ∀ before result between value after, middle before result between → last result between value after →
      post before value after) : Ends (first >>= rest) post := by
  intro before value after ran
  obtain ⟨result, between, firstRun, restRun⟩ := (bind_run_some _ _ _ _ _).mp ran
  exact compose before result between value after (firstSpec _ _ _ firstRun) (restSpec result _ _ _ restRun)

def Keeps {σ α : Type} (relation : σ → σ → Prop) (call : StateT σ Option α) : Prop :=
  Ends call (fun before _ after => relation before after)

section
variable {σ α β : Type} {relation : σ → σ → Prop}

theorem keeps_run {call : StateT σ Option α} (keeps : Keeps relation call) {before after : σ} {value : α}
    (ran : call.run before = some (value, after)) : relation before after :=
  keeps before value after ran

theorem keeps_pure (result : α) (reflexive : ∀ state, relation state state) :
    Keeps relation (pure result : StateT σ Option α) :=
  ends_pure result _ reflexive

theorem keeps_bind {first : StateT σ Option α} {rest : α → StateT σ Option β}
    (transitive : ∀ a b c, relation a b → relation b c → relation a c)
    (firstKeeps : Keeps relation first) (restKeeps : ∀ result, Keeps relation (rest result)) :
    Keeps relation (first >>= rest) :=
  ends_bind firstKeeps restKeeps (fun before _ between _ after left right => transitive before between after left right)

theorem keeps_ite {condition : Prop} [Decidable condition] {yes no : StateT σ Option α}
    (yesKeeps : Keeps relation yes) (noKeeps : Keeps relation no) :
    Keeps relation (if condition then yes else no) := by
  split
  · exact yesKeeps
  · exact noKeeps

end

-- The same from the states that meet a precondition.
def Takes {σ α : Type} (pre : σ → Prop) (call : StateT σ Option α) (post : α → σ → Prop) : Prop :=
  ∀ before value after, pre before → call.run before = some (value, after) → post value after

section
variable {σ α β : Type} {pre : σ → Prop}

theorem takes_pure {post : α → σ → Prop} (result : α) (holds : ∀ state, pre state → post result state) :
    Takes pre (pure result : StateT σ Option α) post := by
  intro before value after met ran
  obtain ⟨rfl, rfl⟩ := (pure_run_some _ _ _ _).mp ran
  exact holds before met

theorem takes_bind {first : StateT σ Option α} {rest : α → StateT σ Option β} (middle : α → σ → Prop) {post : β → σ → Prop}
    (firstTakes : Takes pre first middle) (restTakes : ∀ result, Takes (middle result) (rest result) post) :
    Takes pre (first >>= rest) post := by
  intro before value after met ran
  obtain ⟨result, between, firstRun, restRun⟩ := (bind_run_some _ _ _ _ _).mp ran
  exact restTakes result _ _ _ (firstTakes _ _ _ met firstRun) restRun

theorem takes_ite {post : α → σ → Prop} {condition : Prop} [Decidable condition] {yes no : StateT σ Option α}
    (yesTakes : condition → Takes pre yes post) (noTakes : ¬ condition → Takes pre no post) :
    Takes pre (if condition then yes else no) post := by
  split
  · exact yesTakes ‹_›
  · exact noTakes ‹_›

theorem takes_exit {post : α → σ → Prop} {condition : Prop} [Decidable condition] {rest : StateT σ Option α} (result : α)
    (holds : ∀ state, pre state → post result state) (restTakes : ¬ condition → Takes pre rest post) :
    Takes pre (if condition then pure result else rest) post :=
  takes_ite (fun _ => takes_pure result holds) restTakes

theorem takes_mono {stronger : σ → Prop} {call : StateT σ Option α} {strong weak : α → σ → Prop} (takes : Takes pre call strong)
    (before : ∀ state, stronger state → pre state) (after : ∀ value state, strong value state → weak value state) :
    Takes stronger call weak :=
  fun _ _ _ met ran => after _ _ (takes _ _ _ (before _ met) ran)

theorem takes_get : Takes pre (get : StateT σ Option σ) fun _ => pre := by
  intro before value after met ran
  cases ran
  exact met

theorem takes_look : Takes pre (get : StateT σ Option σ) fun got state => got = state ∧ pre state := by
  intro before value after met ran
  cases ran
  exact ⟨rfl, met⟩

theorem takes_update {post : Unit → σ → Prop} (change : σ → σ) (holds : ∀ state, pre state → post () (change state)) :
    Takes pre (fun state => some ((), change state)) post := by
  intro before value after met ran
  cases ran
  exact holds before met

end

-- How a run ends that only needs enough turns to end at all.
def EndsSo {α : Type} (enough : Prop) (run : Option α) (ended : α) : Prop := run = some ended ∨ ¬ enough ∧ run = none

section
variable {α β : Type} {enough : Prop} {run : Option α} {ended : α}

theorem ends_so_bind {rest : α → Option β} {last : β} (first : EndsSo enough run ended) (second : EndsSo enough (rest ended) last) :
    EndsSo enough (run.bind rest) last := by
  rcases first with ran | ⟨few, ran⟩
  · rwa [ran, Option.bind_some]
  · exact Or.inr ⟨few, by rw [ran, Option.bind_none]⟩

theorem ends_so_mono {more : Prop} (least : more → enough) (ends : EndsSo enough run ended) : EndsSo more run ended :=
  ends.imp id fun ⟨few, ran⟩ => ⟨fun many => few (least many), ran⟩

theorem ends_so_enough (ends : EndsSo enough run ended) (many : enough) : run = some ended :=
  ends.resolve_right fun few => few.1 many

theorem ends_so_ran (ends : EndsSo enough run ended) (value : α) (ran : run = some value) : value = ended := by
  rcases ends with known | ⟨_, none⟩
  · exact Option.some.inj (ran.symm.trans known)
  · exact absurd (ran.symm.trans none) nofun

end

end SDCardFs.Lib
