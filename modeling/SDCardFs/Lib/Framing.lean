set_option autoImplicit false

namespace SDCardFs.Lib

-- A line on which one side sends frames and idles between them, while the
-- other answers all along: a frame, and what was heard up to the next one.
structure LineFrame (σ ρ : Type) where
  said : List σ
  heard : List ρ
deriving DecidableEq, Repr

-- What was heard before the first frame, and the frames in their order.
structure Line (σ ρ : Type) where
  lead : List ρ
  frames : List (LineFrame σ ρ)
deriving DecidableEq, Repr

section

variable {α σ ρ : Type}

-- The last frame goes on hearing.
def hearOn : List (LineFrame σ ρ) → List ρ → List (LineFrame σ ρ)
  | [], _ => []
  | [frame], more => [⟨frame.said, frame.heard ++ more⟩]
  | frame :: next :: frames, more => frame :: hearOn (next :: frames) more

def Line.append (first second : Line σ ρ) : Line σ ρ :=
  match first.frames with
  | [] => ⟨first.lead ++ second.lead, second.frames⟩
  | frame :: frames => ⟨first.lead, hearOn (frame :: frames) second.lead ++ second.frames⟩

theorem hear_on_nothing (frames : List (LineFrame σ ρ)) : hearOn frames [] = frames := by
  induction frames with
  | nil => rfl
  | cons frame frames ih =>
      cases frames with
      | nil => rw [hearOn, List.append_nil]
      | cons next frames => rw [hearOn, ih]

theorem hear_on_nil_iff (frames : List (LineFrame σ ρ)) (more : List ρ) : hearOn frames more = [] ↔ frames = [] := by
  rcases frames with _ | ⟨frame, _ | ⟨next, frames⟩⟩
  · exact Iff.rfl
  · simp [hearOn]
  · simp [hearOn]

theorem hear_on_twice (frames : List (LineFrame σ ρ)) (first second : List ρ) :
    hearOn (hearOn frames first) second = hearOn frames (first ++ second) := by
  induction frames with
  | nil => rfl
  | cons frame frames ih =>
      cases frames with
      | nil => simp only [hearOn, List.append_assoc]
      | cons next frames =>
          obtain ⟨head, rest, shape⟩ : ∃ head rest, hearOn (next :: frames) first = head :: rest :=
            List.exists_cons_of_ne_nil fun none => absurd ((hear_on_nil_iff _ _).mp none) (List.cons_ne_nil _ _)
          rw [hearOn, shape, hearOn, ← shape, ih, hearOn]

theorem hear_on_append (earlier later : List (LineFrame σ ρ)) (some : later ≠ []) (more : List ρ) :
    hearOn (earlier ++ later) more = earlier ++ hearOn later more := by
  induction earlier with
  | nil => rfl
  | cons frame earlier ih =>
      obtain ⟨head, rest, shape⟩ := List.exists_cons_of_ne_nil (List.append_ne_nil_of_right_ne_nil earlier some)
      rw [List.cons_append, shape, hearOn, ← shape, ih, List.cons_append]

theorem append_frames (first second : Line σ ρ) :
    (first.append second).frames = hearOn first.frames second.lead ++ second.frames := by
  rcases first with ⟨lead, _ | ⟨frame, frames⟩⟩
  · rfl
  · rfl

theorem line_append_nothing (line : Line σ ρ) : line.append ⟨[], []⟩ = line := by
  rcases line with ⟨lead, _ | ⟨frame, frames⟩⟩
  · simp [Line.append]
  · simp [Line.append, hear_on_nothing]

theorem frames_line_append (first second : List (LineFrame σ ρ)) : Line.append ⟨[], first⟩ ⟨[], second⟩ = ⟨[], first ++ second⟩ := by
  cases first with
  | nil => rfl
  | cons frame frames => simp [Line.append, hear_on_nothing]

theorem lead_line_append (lead : List ρ) (line : Line σ ρ) : Line.append ⟨lead, []⟩ line = ⟨lead ++ line.lead, line.frames⟩ := rfl

theorem line_append_lead (line : Line σ ρ) (more : List ρ) (spoken : line.frames ≠ []) :
    line.append ⟨more, []⟩ = ⟨line.lead, hearOn line.frames more⟩ := by
  rcases line with ⟨lead, _ | ⟨frame, frames⟩⟩
  · exact absurd rfl spoken
  · simp [Line.append]

theorem line_append_assoc (first second third : Line σ ρ) : (first.append second).append third = first.append (second.append third) := by
  rcases first with ⟨lead, _ | ⟨frame, frames⟩⟩
  · rcases second with ⟨between, _ | ⟨next, later⟩⟩
    · simp [Line.append]
    · simp [Line.append]
  · rcases second with ⟨between, _ | ⟨next, later⟩⟩
    · have heard : hearOn (frame :: frames) between ≠ [] := fun none => absurd ((hear_on_nil_iff _ _).mp none) (List.cons_ne_nil _ _)
      obtain ⟨head, rest, shape⟩ := List.exists_cons_of_ne_nil heard
      simp only [Line.append, List.append_nil, shape]
      rw [← shape, hear_on_twice]
    · obtain ⟨head, rest, shape⟩ : ∃ head rest, hearOn (frame :: frames) between ++ next :: later = head :: rest :=
        List.exists_cons_of_ne_nil (List.append_ne_nil_of_right_ne_nil _ (List.cons_ne_nil _ _))
      simp only [Line.append, shape]
      rw [← shape, hear_on_append _ _ (List.cons_ne_nil _ _), List.append_assoc]

variable (said : α → σ) (heard : α → ρ) (opens : σ → Option Nat)

-- Exchanges read from the left: what still belongs to a frame with so much
-- left to say, and the line that follows it.
def readLine : Nat → List α → List σ × Line σ ρ
  | _, [] => ([], ⟨[], []⟩)
  | left + 1, item :: items =>
      let later := readLine left items
      (said item :: later.1, later.2)
  | 0, item :: items =>
      match opens (said item) with
      | none =>
          let later := readLine 0 items
          ([], ⟨heard item :: later.2.lead, later.2.frames⟩)
      | some left =>
          let later := readLine left items
          ([], ⟨[], ⟨said item :: later.1, later.2.lead⟩ :: later.2.frames⟩)

def line (items : List α) : Line σ ρ := (readLine said heard opens 0 items).2

-- Exchanges that end no frame half said: whatever follows them starts afresh.
def Whole (items : List α) (whole : Line σ ρ) : Prop :=
  ∀ rest, readLine said heard opens 0 (items ++ rest) = ([], whole.append (line said heard opens rest))

variable {said heard opens}

theorem read_line_idle (items : List α) : (readLine said heard opens 0 items).1 = [] := by
  cases items with
  | nil => rfl
  | cons item items =>
      rw [readLine]
      split
      · rfl
      · rfl

theorem read_line_inside (inside rest : List α) :
    readLine said heard opens inside.length (inside ++ rest) = (inside.map said, line said heard opens rest) := by
  induction inside with
  | nil => exact Prod.ext (read_line_idle rest) rfl
  | cons item inside ih =>
      rw [List.length_cons, List.cons_append, readLine, ih]
      rfl

theorem whole_nothing : Whole said heard opens [] ⟨[], []⟩ := fun rest => Prod.ext (read_line_idle rest) rfl

theorem whole_append {first second : List α} {before after : Line σ ρ} (left : Whole said heard opens first before)
    (right : Whole said heard opens second after) : Whole said heard opens (first ++ second) (before.append after) := by
  intro rest
  rw [List.append_assoc, left, line, right, line_append_assoc]

theorem whole_idle (items : List α) (idle : ∀ item ∈ items, opens (said item) = none) :
    Whole said heard opens items ⟨items.map heard, []⟩ := by
  induction items with
  | nil => exact whole_nothing
  | cons item items ih =>
      intro rest
      have later := ih (fun other inside => idle other (List.mem_cons_of_mem _ inside)) rest
      rw [List.cons_append, readLine, idle item List.mem_cons_self]
      simp only [later]
      rfl

theorem whole_frame (item : α) (items : List α) (opened : opens (said item) = some items.length) :
    Whole said heard opens (item :: items) ⟨[], [⟨said item :: items.map said, []⟩]⟩ := by
  intro rest
  rw [List.cons_append, readLine, opened]
  simp only [read_line_inside items rest]
  rfl

theorem whole_line {items : List α} {whole : Line σ ρ} (reads : Whole said heard opens items whole) : line said heard opens items = whole := by
  have alone := reads []
  rw [List.append_nil] at alone
  rw [line, alone]
  exact line_append_nothing whole

-- A line without a frame is what was heard.
theorem read_line_lead (items : List α) (silent : (line said heard opens items).frames = []) :
    (line said heard opens items).lead = items.map heard := by
  induction items with
  | nil => rfl
  | cons item items ih =>
      rw [line, readLine] at silent ⊢
      cases opened : opens (said item) with
      | none =>
          rw [opened] at silent
          exact congrArg (List.cons (heard item)) (ih silent)
      | some left =>
          rw [opened] at silent
          cases silent

theorem whole_lead {items : List α} {lead : List ρ} (reads : Whole said heard opens items ⟨lead, []⟩) : lead = items.map heard := by
  have alone := whole_line reads
  have found := read_line_lead items (by rw [alone])
  rwa [alone] at found

-- What a frame hears was answered in one of the exchanges.
theorem read_line_answers (left : Nat) (items : List α) :
    let read := readLine said heard opens left items
    (∀ answer ∈ read.2.lead, answer ∈ items.map heard) ∧ ∀ frame ∈ read.2.frames, ∀ answer ∈ frame.heard, answer ∈ items.map heard := by
  induction items generalizing left with
  | nil =>
      simp only [readLine]
      exact ⟨fun _ inside => absurd inside List.not_mem_nil, fun _ inside => absurd inside List.not_mem_nil⟩
  | cons item items ih =>
      cases left with
      | succ left =>
          obtain ⟨leading, frames⟩ := ih left
          rw [readLine, List.map_cons]
          exact ⟨fun answer inside => List.mem_cons_of_mem _ (leading answer inside),
            fun frame member answer inside => List.mem_cons_of_mem _ (frames frame member answer inside)⟩
      | zero =>
          rw [readLine, List.map_cons]
          cases opened : opens (said item) with
          | none =>
              obtain ⟨leading, frames⟩ := ih 0
              refine ⟨fun answer inside => ?_, fun frame member answer inside => List.mem_cons_of_mem _ (frames frame member answer inside)⟩
              rcases List.mem_cons.mp inside with rfl | later
              · exact List.mem_cons_self
              · exact List.mem_cons_of_mem _ (leading answer later)
          | some left =>
              obtain ⟨leading, frames⟩ := ih left
              refine ⟨fun _ inside => absurd inside List.not_mem_nil, fun frame member answer inside => ?_⟩
              rcases List.mem_cons.mp member with rfl | later
              · exact List.mem_cons_of_mem _ (leading answer inside)
              · exact List.mem_cons_of_mem _ (frames frame later answer inside)

theorem line_answers (items : List α) (frame : LineFrame σ ρ) (member : frame ∈ (line said heard opens items).frames) :
    ∀ answer ∈ frame.heard, answer ∈ items.map heard :=
  (read_line_answers 0 items).2 frame member

-- Frames cut short: all of them whole but the last.
inductive Begins : List (LineFrame σ ρ) → List (LineFrame σ ρ) → Prop where
  | nothing (frames : List (LineFrame σ ρ)) : Begins [] frames
  | last (part frame : LineFrame σ ρ) (frames : List (LineFrame σ ρ)) : part.said ≠ [] → part.said <+: frame.said →
      part.heard <+: frame.heard → Begins [part] (frame :: frames)
  | next (frame : LineFrame σ ρ) (part frames : List (LineFrame σ ρ)) : Begins part frames → Begins (frame :: part) (frame :: frames)

theorem read_line_begins (left : Nat) (items more : List α) :
    let part := readLine said heard opens left items
    let whole := readLine said heard opens left (items ++ more)
    part.1 <+: whole.1 ∧ part.2.lead <+: whole.2.lead ∧ Begins part.2.frames whole.2.frames ∧
      (part.2.frames ≠ [] → part.1 = whole.1 ∧ part.2.lead = whole.2.lead) := by
  induction items generalizing left with
  | nil =>
      simp only [readLine]
      exact ⟨List.nil_prefix, List.nil_prefix, .nothing _, fun some => absurd rfl some⟩
  | cons item items ih =>
      cases left with
      | succ left =>
          obtain ⟨saying, leading, frames, settled⟩ := ih left
          rw [List.cons_append, readLine, readLine]
          exact ⟨List.cons_prefix_cons.mpr ⟨rfl, saying⟩, leading, frames, fun some => ⟨by rw [(settled some).1], (settled some).2⟩⟩
      | zero =>
          rw [List.cons_append, readLine, readLine]
          cases opened : opens (said item) with
          | none =>
              obtain ⟨-, leading, frames, settled⟩ := ih 0
              exact ⟨List.nil_prefix, List.cons_prefix_cons.mpr ⟨rfl, leading⟩, frames, fun some => ⟨rfl, by simp only [(settled some).2]⟩⟩
          | some left =>
              obtain ⟨saying, leading, frames, settled⟩ := ih left
              refine ⟨List.nil_prefix, List.nil_prefix, ?_, fun _ => ⟨rfl, rfl⟩⟩
              by_cases alone : (readLine said heard opens left items).2.frames = []
              · simp only [alone]
                exact .last _ _ _ (List.cons_ne_nil _ _) (List.cons_prefix_cons.mpr ⟨rfl, saying⟩) leading
              · simp only [(settled alone).1, (settled alone).2]
                exact .next _ _ _ frames

theorem line_begins (items more : List α) :
    Begins (line said heard opens items).frames (line said heard opens (items ++ more)).frames :=
  (read_line_begins 0 items more).2.2.1

end

end SDCardFs.Lib
