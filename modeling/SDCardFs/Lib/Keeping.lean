import SDCardFs.Lib.Ends

set_option autoImplicit false

namespace SDCardFs.Lib

class Frame {σ : Type} (relation : σ → σ → Prop) : Prop where
  refl : ∀ state, relation state state
  trans : ∀ first second third, relation first second → relation second third → relation first third

-- Calls that carry the proof that every run that returns keeps the relation
-- between the state before and after it. What is built from such calls is one.
def Keeping {σ : Type} (relation : σ → σ → Prop) (α : Type) : Type := { call : StateT σ Option α // Keeps relation call }

namespace Keeping

section
variable {σ α β : Type} {relation : σ → σ → Prop}

def run (call : Keeping relation α) (before : σ) : Option (α × σ) := call.val.run before

theorem kept (call : Keeping relation α) {before after : σ} {value : α} (ran : call.run before = some (value, after)) :
    relation before after :=
  call.property before value after ran

def never : Keeping relation α := ⟨fun _ => none, fun _ _ _ ran => absurd ran nofun⟩

def update (change : σ → σ) (keeps : ∀ state, relation state (change state)) : Keeping relation Unit :=
  ⟨fun state => some ((), change state), fun before _ _ ran => by cases ran; exact keeps before⟩

-- A call on a part of the state.
def part {κ : Type} (call : κ → Option (α × κ)) (view : σ → κ) (change : σ → κ → σ) (keeps : ∀ state part, relation state (change state part)) :
    Keeping relation α :=
  ⟨fun state => (call (view state)).map fun ran => (ran.1, change state ran.2), fun before _ after ran => by
    obtain ⟨answer, _, same⟩ := Option.map_eq_some_iff.mp ran
    cases same
    exact keeps before answer.2⟩

theorem run_update (change : σ → σ) (keeps : ∀ state, relation state (change state)) (state : σ) :
    (update change keeps).run state = some ((), change state) := rfl

variable [Frame relation]

instance : Monad (Keeping relation) where
  pure value := ⟨pure value, keeps_pure value Frame.refl⟩
  bind first rest := ⟨first.val >>= fun value => (rest value).val, keeps_bind Frame.trans first.property fun value => (rest value).property⟩

instance : MonadReader σ (Keeping relation) where
  read := ⟨get, fun _ _ _ ran => by cases ran; exact Frame.refl _⟩

theorem run_pure (value : α) (state : σ) : (pure value : Keeping relation α).run state = some (value, state) := rfl

theorem run_read (state : σ) : (read : Keeping relation σ).run state = some (state, state) := rfl

theorem run_bind (first : Keeping relation α) (rest : α → Keeping relation β) (state : σ) :
    (first >>= rest).run state = (first.run state).bind fun ran => (rest ran.1).run ran.2 := rfl

theorem run_next {first : Keeping relation α} {before between : σ} {result : α} (ran : first.run before = some (result, between))
    (rest : α → Keeping relation β) : (first >>= rest).run before = (rest result).run between := by
  rw [run_bind, ran, Option.bind_some]

theorem run_bind_some (first : Keeping relation α) (rest : α → Keeping relation β) (before after : σ) (value : β) :
    (first >>= rest).run before = some (value, after) ↔
      ∃ result between, first.run before = some (result, between) ∧ (rest result).run between = some (value, after) :=
  bind_run_some first.val (fun result => (rest result).val) before after value

end

end Keeping

-- What such a call makes of a precondition.
def Meets {σ α : Type} {relation : σ → σ → Prop} (pre : σ → Prop) (call : Keeping relation α) (post : α → σ → Prop) : Prop :=
  Takes pre call.val post

section
variable {σ α β : Type} {relation : σ → σ → Prop} {pre : σ → Prop}

theorem meets_never {post : α → σ → Prop} : Meets pre (Keeping.never : Keeping relation α) post := fun _ _ _ _ ran => absurd ran nofun

theorem meets_update {post : Unit → σ → Prop} (change : σ → σ) (keeps : ∀ state, relation state (change state))
    (holds : ∀ state, pre state → post () (change state)) : Meets pre (Keeping.update change keeps) post :=
  takes_update change holds

theorem meets_part {κ : Type} {post : α → σ → Prop} (call : κ → Option (α × κ)) (view : σ → κ) (change : σ → κ → σ)
    (keeps : ∀ state part, relation state (change state part))
    (holds : ∀ state value part, pre state → call (view state) = some (value, part) → post value (change state part)) :
    Meets pre (Keeping.part call view change keeps) post := by
  intro before value after met ran
  obtain ⟨⟨answer, part⟩, called, same⟩ := Option.map_eq_some_iff.mp ran
  cases same
  exact holds before answer part met called

theorem meets_mono {stronger : σ → Prop} {call : Keeping relation α} {strong weak : α → σ → Prop} (meets : Meets pre call strong)
    (before : ∀ state, stronger state → pre state) (after : ∀ value state, strong value state → weak value state) :
    Meets stronger call weak :=
  takes_mono meets before after

theorem meets_pre {stronger : σ → Prop} {call : Keeping relation α} {post : α → σ → Prop} (meets : Meets pre call post)
    (before : ∀ state, stronger state → pre state) : Meets stronger call post :=
  meets_mono meets before fun _ _ met => met

theorem meets_ite {post : α → σ → Prop} {condition : Prop} [Decidable condition] {yes no : Keeping relation α}
    (yesMeets : condition → Meets pre yes post) (noMeets : ¬ condition → Meets pre no post) :
    Meets pre (if condition then yes else no) post := by
  split
  · exact yesMeets ‹_›
  · exact noMeets ‹_›

variable [Frame relation]

theorem meets_pure {post : α → σ → Prop} (result : α) (holds : ∀ state, pre state → post result state) :
    Meets pre (pure result : Keeping relation α) post :=
  takes_pure result holds

theorem meets_exit {post : α → σ → Prop} {condition : Prop} [Decidable condition] {rest : Keeping relation α} (result : α)
    (holds : ∀ state, pre state → post result state) (restMeets : ¬ condition → Meets pre rest post) :
    Meets pre (if condition then pure result else rest) post :=
  meets_ite (fun _ => meets_pure result holds) restMeets

theorem meets_bind {first : Keeping relation α} {rest : α → Keeping relation β} (middle : α → σ → Prop) {post : β → σ → Prop}
    (firstMeets : Meets pre first middle) (restMeets : ∀ result, Meets (middle result) (rest result) post) :
    Meets pre (first >>= rest) post :=
  takes_bind middle firstMeets restMeets

theorem meets_read : Meets pre (read : Keeping relation σ) fun got state => got = state ∧ pre state := takes_look

-- What is known of the state that is read stays known.
theorem meets_look {fact : σ → Prop} {rest : σ → Keeping relation β} {post : β → σ → Prop}
    (meets : ∀ state, fact state → Meets pre (rest state) post) : Meets (fun state => fact state ∧ pre state) (read >>= rest) post := by
  intro before value after both ran
  obtain ⟨got, between, looked, ran⟩ := (Keeping.run_bind_some _ _ _ _ _).mp ran
  cases looked
  exact meets before both.1 before value after both.2 ran

theorem meets_view {β : Type} (view : σ → β) : Meets pre (do return view (← read) : Keeping relation β) fun got state => got = view state ∧ pre state := by
  intro before value after met ran
  cases ran
  exact ⟨rfl, met⟩

end

end SDCardFs.Lib
