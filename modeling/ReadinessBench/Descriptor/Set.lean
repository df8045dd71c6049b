import ReadinessBench.Mechanism

/-!
# Descriptor sets

The fixed-size set of descriptors that `select` waits for: one bit for each number below the
capacity. A number that does not fit is refused before it comes near a set.
-/

namespace ReadinessBench

/-- The least number that does not fit into a descriptor set. -/
def selectCapacity : Nat := 1024

/-- Refuses numbers that do not fit into a descriptor set. -/
def ensureSelectable (number : Int) : Except BenchError Unit :=
  if 0 ≤ number ∧ number < selectCapacity then .ok ()
  else .error (.capacityExceeded Mechanism.select.name number selectCapacity)

theorem ensureSelectable_misfit {number : Nat} (h : selectCapacity ≤ number) :
    ensureSelectable number = .error (.capacityExceeded "select" number 1024) :=
  if_neg fun ⟨_, hlt⟩ => Nat.not_lt.mpr h (Int.ofNat_lt.mp hlt)

theorem ensureSelectable_ok_iff {number : Int} :
    ensureSelectable number = .ok () ↔ 0 ≤ number ∧ number < selectCapacity := by
  by_cases h : 0 ≤ number ∧ number < selectCapacity
  · exact iff_of_true (if_pos h) h
  · rw [ensureSelectable, if_neg h]
    exact iff_of_false nofun h

theorem ensureSelectable_natCast_iff {number : Nat} :
    ensureSelectable number = .ok () ↔ number < selectCapacity := by
  rw [ensureSelectable_ok_iff, Int.ofNat_lt]
  exact and_iff_right (Int.natCast_nonneg number)

/-- A set of descriptor numbers below the capacity, one bit for each. -/
structure DescriptorSet where
  bits : BitVec selectCapacity := 0
  deriving DecidableEq

namespace DescriptorSet

def empty : DescriptorSet := {}

def insert (s : DescriptorSet) (number : Nat) : DescriptorSet :=
  ⟨s.bits ||| BitVec.twoPow selectCapacity number⟩

def contains (s : DescriptorSet) (number : Nat) : Bool := s.bits.getLsbD number

def tryInsert (s : DescriptorSet) (number : Int) : Except BenchError DescriptorSet :=
  (ensureSelectable number).map fun _ => s.insert number.toNat

def tryContains (s : DescriptorSet) (number : Int) : Except BenchError Bool :=
  (ensureSelectable number).map fun _ => s.contains number.toNat

def ofList (numbers : List Nat) : DescriptorSet := numbers.foldl insert empty

/-- How far the kernel has to look: one more than the highest number of the set. -/
def bound (numbers : List Nat) : Nat := numbers.foldl max 0 + 1

end DescriptorSet

end ReadinessBench
