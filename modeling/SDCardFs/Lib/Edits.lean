set_option autoImplicit false

namespace SDCardFs.Lib

-- A change of a table of numbered rows: a new row, in front of the ones from
-- its place on, a row that goes, or one more item of a row.
inductive Edit (α : Type) where
  | insert (place : Nat)
  | remove (place : Nat)
  | put (place : Nat) (item : α)

section
variable {α : Type}

def Edit.apply (rows : Nat → List α) : Edit α → Nat → List α
  | .insert place => fun p => if p = place then [] else if place < p then rows (p - 1) else rows p
  | .remove place => fun p => if place ≤ p then rows (p + 1) else rows p
  | .put place item => fun p => if p = place then item :: rows p else rows p

-- The rows after edits, the newest of them and the newest item of a row first.
def rows : List (Edit α) → Nat → List α
  | [] => fun _ => []
  | edit :: edits => edit.apply (rows edits)

-- From the newest edit back, the place is where the row was before each.
def lookBack (pick : α → Bool) : List (Edit α) → Nat → Option α
  | [], _ => none
  | .insert place :: edits, p => if p = place then none else lookBack pick edits (if place < p then p - 1 else p)
  | .remove place :: edits, p => lookBack pick edits (if place ≤ p then p + 1 else p)
  | .put place item :: edits, p => if p = place ∧ pick item = true then some item else lookBack pick edits p

def Edit.removes : Edit α → Nat
  | .remove _ => 1
  | _ => 0

def removals : List (Edit α) → Nat
  | [] => 0
  | edit :: edits => edit.removes + removals edits

theorem look_back_rows (pick : α → Bool) (edits : List (Edit α)) : ∀ p, lookBack pick edits p = (rows edits p).find? pick := by
  induction edits with
  | nil => exact fun _ => rfl
  | cons edit edits ih =>
      intro p
      cases edit with
      | insert place =>
          rw [lookBack, rows, Edit.apply]
          dsimp only
          by_cases here : p = place
          · rw [if_pos here, if_pos here, List.find?_nil]
          · rw [if_neg here, if_neg here, ih]
            by_cases behind : place < p
            · rw [if_pos behind, if_pos behind]
            · rw [if_neg behind, if_neg behind]
      | remove place =>
          rw [lookBack, rows, Edit.apply, ih]
          dsimp only
          by_cases behind : place ≤ p
          · rw [if_pos behind, if_pos behind]
          · rw [if_neg behind, if_neg behind]
      | put place item =>
          rw [lookBack, rows, Edit.apply, ih]
          dsimp only
          by_cases here : p = place
          · rw [if_pos here, List.find?_cons]
            by_cases picked : pick item = true
            · rw [if_pos ⟨here, picked⟩, picked]
            · rw [if_neg fun both => picked both.2, Bool.eq_false_iff.mpr picked]
          · rw [if_neg fun both => here both.1, if_neg here]

end

end SDCardFs.Lib
