import SDCardFs.Lib.Bits

set_option autoImplicit false

namespace SDCardFs.Lib

-- A list whose nodes are counted from the first one. Every later node has a
-- link for each zero its number ends in and one more, each twice as far back as
-- the one before.
def Skips {ν : Type} (link : ν → Nat → ν) (node : Nat → ν) (count : Nat) : Prop :=
  ∀ current level, 0 < current → current < count → level ≤ trailing current → link (node current) level = node (current - 2 ^ level)

-- The longest link that does not go past the target.
def skipLevel (target current : Nat) : Nat := min (current - target).log2 (trailing current)

def skipNext (target current : Nat) : Nat := current - 2 ^ skipLevel target current

-- What is left to go down at most: once the links of a node are long enough,
-- every hop halves the distance, and until then every hop lengthens them.
def hopsLeft (target current : Nat) : Nat :=
  if target < current then (current - target).log2 + 1 + ((current - target).log2 - trailing current) else 0

theorem skip_pow_le (target current : Nat) (above : target < current) : 2 ^ skipLevel target current ≤ current - target := by
  have distance : current - target ≠ 0 := by omega
  exact Nat.le_trans (Nat.pow_le_pow_right Nat.two_pos (Nat.min_le_left _ _)) (Nat.log2_self_le distance)

theorem skip_next_least (target current : Nat) (above : target < current) : target ≤ skipNext target current := by
  have within := skip_pow_le target current above
  rw [skipNext]
  omega

theorem skip_next_lt (target current : Nat) (above : target < current) : skipNext target current < current := by
  have positive := Nat.two_pow_pos (skipLevel target current)
  rw [skipNext]
  omega

theorem skip_next_node {ν : Type} {link : ν → Nat → ν} {node : Nat → ν} {count : Nat} (skips : Skips link node count) (target current : Nat)
    (above : target < current) (inside : current < count) :
    link (node current) (skipLevel target current) = node (skipNext target current) :=
  skips current _ (by omega) inside (Nat.min_le_right _ _)

theorem log2_mono {less more : Nat} (order : less ≤ more) : less.log2 ≤ more.log2 := by
  by_cases none : less = 0
  · simp [none]
  · exact (Nat.le_log2 (by omega)).mpr (Nat.le_trans (Nat.log2_self_le none) order)

theorem hops_left_next (target current : Nat) (above : target < current) :
    hopsLeft target (skipNext target current) < hopsLeft target current := by
  have distance : current - target ≠ 0 := by omega
  have least := Nat.log2_self_le distance
  have most := @Nat.lt_log2_self (current - target)
  rw [hopsLeft, hopsLeft, if_pos above]
  by_cases there : target < skipNext target current
  · rw [if_pos there]
    have below : (skipNext target current - target).log2 ≤ (current - target).log2 := log2_mono (by have := skip_next_lt target current above; omega)
    rw [skipNext] at there below ⊢
    by_cases short : trailing current < (current - target).log2
    · have level : skipLevel target current = trailing current := Nat.min_eq_right (Nat.le_of_lt short)
      rw [level] at there below ⊢
      have longer := trailing_sub_lowest current (by omega)
      omega
    · have level : skipLevel target current = (current - target).log2 := Nat.min_eq_left (by omega)
      rw [level] at there below ⊢
      have rest : current - 2 ^ (current - target).log2 - target ≠ 0 := by omega
      have half : (current - 2 ^ (current - target).log2 - target).log2 < (current - target).log2 := by
        rw [Nat.log2_lt rest]
        rw [Nat.pow_succ] at most
        omega
      have longer : (current - target).log2 ≤ trailing (current - 2 ^ (current - target).log2) := by
        by_cases same : (current - target).log2 = trailing current
        · have more := trailing_sub_lowest current (by rw [← same]; omega)
          rw [← same] at more
          omega
        · rw [trailing_sub_lower current _ (by omega) (by omega)]
      omega
  · rw [if_neg there]
    omega

theorem hops_left_le (target current : Nat) : hopsLeft target current ≤ 2 * (current - target).log2 + 1 := by
  rw [hopsLeft]
  split
  · omega
  · omega

end SDCardFs.Lib
