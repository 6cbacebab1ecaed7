set_option autoImplicit false

namespace SDCardFs.Lib

-- A singly linked list in memory: the head and the next member of every node.
structure Links (α : Type) where
  head : Option α
  next : α → Option α

section
variable {α : Type}

def Chain (next : α → Option α) : Option α → List α → Prop
  | head, [] => head = none
  | head, node :: rest => head = some node ∧ Chain next (next node) rest

theorem chain_frame (before after : α → Option α) (list : List α) (same : ∀ node ∈ list, after node = before node) :
    ∀ (head : Option α), Chain before head list → Chain after head list := by
  induction list with
  | nil => exact fun _ ended => ended
  | cons node rest ih =>
      rintro head ⟨here, chain⟩
      refine ⟨here, ?_⟩
      rw [same node (List.mem_cons_self ..)]
      exact ih (fun other member => same other (List.mem_cons_of_mem _ member)) _ chain

end

namespace Links

variable {α : Type}

-- A cell that holds a pointer: the head, or the next member of a node.
abbrev Cell (α : Type) : Type := Option α

def read (links : Links α) : Cell α → Option α
  | none => links.head
  | some node => links.next node

def Spells (links : Links α) (list : List α) : Prop := Chain links.next links.head list

variable [DecidableEq α]

def setNext (links : Links α) (node : α) (target : Option α) : Links α :=
  { links with next := fun other => if other = node then target else links.next other }

def write (links : Links α) (cell : Cell α) (target : Option α) : Links α :=
  match cell with
  | none => { links with head := target }
  | some node => links.setNext node target

-- The walk that takes a node out of the list: the first pointer to it is made
-- to point past it. More turns than there are nodes are enough.
def unlink (node : α) : Nat → Cell α → Links α → Option (Links α)
  | 0, _, _ => none
  | turns + 1, cell, links =>
      match links.read cell with
      | none => some links
      | some found => if found = node then some (links.write cell (links.next found)) else unlink node turns (some found) links

theorem read_write (links : Links α) (cell other : Cell α) (target : Option α) :
    (links.write cell target).read other = if other = cell then target else links.read other := by
  cases cell with
  | none =>
      cases other with
      | none => rfl
      | some node => rfl
  | some node =>
      cases other with
      | none => rfl
      | some second => simp [write, setNext, read]

theorem spells_push (links : Links α) (list : List α) (node : α) (fresh : node ∉ list) (spelled : links.Spells list) :
    ({ links.setNext node links.head with head := some node } : Links α).Spells (node :: list) := by
  refine ⟨rfl, ?_⟩
  simp only [setNext, ↓reduceIte]
  refine chain_frame links.next _ list (fun other member => if_neg ?_) _ spelled
  rintro rfl
  exact fresh member

-- The walk from a cell on: what it reads there spells the list less the node,
-- and no cell is written but this one and those of the list.
theorem unlink_from (node : α) (list : List α) : ∀ (turns : Nat) (cell : Cell α) (links : Links α), list.length < turns →
    list.Nodup → (∀ owner ∈ cell, owner ∉ list) → Chain links.next (links.read cell) list →
    ∃ after, unlink node turns cell links = some after ∧ Chain after.next (after.read cell) (list.erase node) ∧
      ∀ other : Cell α, other ≠ cell → (∀ owner ∈ other, owner ∉ list) → after.read other = links.read other := by
  induction list with
  | nil =>
      intro turns cell links enough _ _ chain
      obtain ⟨turns, rfl⟩ : ∃ left, turns = left + 1 := ⟨turns - 1, by omega⟩
      have ended : links.read cell = none := chain
      exact ⟨links, by simp only [unlink, ended], chain, fun _ _ _ => rfl⟩
  | cons first rest ih =>
      intro turns cell links enough nodup outside chain
      obtain ⟨turns, rfl⟩ : ∃ left, turns = left + 1 := ⟨turns - 1, by omega⟩
      obtain ⟨here, chain⟩ := chain
      obtain ⟨fresh, nodup⟩ := List.nodup_cons.mp nodup
      rw [List.length_cons] at enough
      have apart : ∀ owner ∈ cell, owner ≠ first := fun owner member same =>
        outside owner member (same ▸ List.mem_cons_self ..)
      by_cases found : first = node
      · subst first
        refine ⟨links.write cell (links.next node), by simp only [unlink, here, ↓reduceIte], ?_, fun other different _ => ?_⟩
        · rw [List.erase_cons_head, read_write, if_pos rfl]
          refine chain_frame links.next _ rest (fun other member => ?_) _ chain
          have written := read_write links cell (some other) (links.next node)
          rwa [if_neg] at written
          rintro rfl
          exact outside other rfl (List.mem_cons_of_mem _ member)
        · rw [read_write, if_neg different]
      · obtain ⟨after, ended, spelled, frame⟩ := ih turns (some first) links (by omega) nodup
          (fun owner member => by obtain rfl : first = owner := Option.some.inj member; exact fresh) chain
        have kept : after.read cell = some first := by
          rw [frame cell, here]
          · rintro rfl
            exact apart first rfl rfl
          · exact fun owner member later => outside owner member (List.mem_cons_of_mem _ later)
        refine ⟨after, by simp only [unlink, here, found, ↓reduceIte, ended], ?_, fun other different elsewhere => ?_⟩
        · rw [List.erase_cons_tail (by simpa using found)]
          exact ⟨kept, spelled⟩
        · refine frame other ?_ fun owner member later => elsewhere owner member (List.mem_cons_of_mem _ later)
          rintro rfl
          exact elsewhere first rfl (List.mem_cons_self ..)

theorem unlink_spells (node : α) (list : List α) (turns : Nat) (links : Links α) (enough : list.length < turns) (nodup : list.Nodup)
    (spelled : links.Spells list) : ∃ after, unlink node turns none links = some after ∧ after.Spells (list.erase node) := by
  obtain ⟨after, ended, spells, _⟩ := unlink_from node list turns none links enough nodup nofun spelled
  exact ⟨after, ended, spells⟩

theorem unlink_more (node : α) (turns : Nat) : ∀ (more : Nat) (cell : Cell α) (links after : Links α), turns ≤ more →
    unlink node turns cell links = some after → unlink node more cell links = some after := by
  induction turns with
  | zero => exact fun _ _ _ _ _ ran => absurd ran nofun
  | succ turns ih =>
      intro more cell links after least ran
      obtain ⟨more, rfl⟩ : ∃ left, more = left + 1 := ⟨more - 1, by omega⟩
      rw [unlink] at ran ⊢
      cases here : links.read cell with
      | none => simpa only [here] using ran
      | some found =>
          by_cases same : found = node
          · simpa only [here, same, ↓reduceIte] using ran
          · simp only [here, same, ↓reduceIte] at ran ⊢
            exact ih more _ links after (by omega) ran

theorem unlink_erases (node : α) (list : List α) (turns : Nat) (links after : Links α) (nodup : list.Nodup) (spelled : links.Spells list)
    (ran : unlink node turns none links = some after) : after.Spells (list.erase node) := by
  obtain ⟨other, ended, spells⟩ := unlink_spells node list (turns + (list.length + 1)) links (by omega) nodup spelled
  have same : after = other :=
    Option.some.inj ((unlink_more node turns _ none links after (Nat.le_add_right ..) ran).symm.trans ended)
  exact same ▸ spells

end Links

end SDCardFs.Lib
