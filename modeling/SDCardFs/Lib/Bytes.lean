set_option autoImplicit false

namespace SDCardFs.Lib

-- A stretch of a buffer of unbounded size.
def slice {α : Type} (buffer : Nat → α) (offset length : Nat) : List α := (List.range length).map fun p => buffer (offset + p)

theorem slice_length {α : Type} (buffer : Nat → α) (offset length : Nat) : (slice buffer offset length).length = length := by
  simp [slice]

theorem slice_congr {α : Type} (left right : Nat → α) (leftOffset rightOffset length : Nat)
    (same : ∀ p, p < length → left (leftOffset + p) = right (rightOffset + p)) :
    slice left leftOffset length = slice right rightOffset length :=
  List.map_congr_left fun p member => same p (List.mem_range.mp member)

theorem slice_add {α : Type} (buffer : Nat → α) (offset first second : Nat) :
    slice buffer offset (first + second) = slice buffer offset first ++ slice buffer (offset + first) second := by
  simp only [slice, List.range_add, List.map_append, List.map_map]
  congr 1
  exact List.map_congr_left fun p _ => by simp only [Function.comp_apply, Nat.add_assoc]

end SDCardFs.Lib
