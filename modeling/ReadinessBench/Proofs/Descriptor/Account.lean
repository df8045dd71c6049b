import Mathlib.Data.List.Nodup
import Mathlib.Data.List.Perm.Basic
import Mathlib.Data.List.Range
import ReadinessBench.Descriptor.Table

/-!
# Accounts of a descriptor table

The numbers below the frontier are the gaps, the occupied numbers and the open ones, each number
once. An account names the open ones. Opening adds to it what it has opened, and what is closed
has to stand in it: nothing can be closed twice.
-/

namespace ReadinessBench.DescriptorTable

/-- Exactly these numbers are open. -/
def Accounts (t : DescriptorTable) (numbers : List Nat) : Prop :=
  (t.gaps ++ t.occupied ++ numbers).Perm (List.range t.frontier)

theorem initial_accounts : initial.Accounts [0, 1, 2] := List.Perm.refl _

theorem insertGap_perm (n : Nat) (gaps : List Nat) : (insertGap n gaps).Perm (n :: gaps) := by
  induction gaps with
  | nil => exact List.Perm.refl _
  | cons g rest ih =>
    unfold insertGap
    split
    · exact List.Perm.refl _
    · exact (ih.cons g).trans (List.Perm.swap n g rest)

namespace Accounts

variable {t t' : DescriptorTable} {numbers others : List Nat} {n : Nat}

theorem perm (h : t.Accounts numbers) (hperm : numbers.Perm others) : t.Accounts others :=
  (hperm.append_left _).symm.trans h

theorem perm_of (h : t.Accounts numbers) (h' : t.Accounts others) : numbers.Perm others :=
  (List.perm_append_left_iff _).mp (h.trans h'.symm)

theorem openCount_eq (h : t.Accounts numbers) : t.openCount = numbers.length := by
  have hlength := List.Perm.length_eq h
  rw [List.length_append, List.length_append, List.length_range] at hlength
  unfold openCount
  omega

theorem nodup (h : t.Accounts numbers) : numbers.Nodup :=
  List.Nodup.of_append_right (h.nodup_iff.mpr List.nodup_range)

/-! ## Opening -/

theorem takeLowest (h : t.Accounts numbers) :
    t.takeLowest.2.Accounts (t.takeLowest.1 :: numbers) := by
  unfold DescriptorTable.takeLowest
  unfold Accounts at h ⊢
  split
  · rename_i g rest hgaps
    rw [hgaps] at h
    exact List.perm_middle.trans h
  · rename_i hgaps
    rw [hgaps] at h ⊢
    rw [List.range_succ]
    exact (List.perm_middle.trans (h.cons _)).trans (List.perm_append_singleton _ _).symm

theorem openOne (h : t.Accounts numbers) (hopen : t.openOne = .ok (n, t')) :
    t'.Accounts (n :: numbers) := by
  unfold DescriptorTable.openOne at hopen
  split at hopen
  · have htaken : (t.spend 1).takeLowest.2.Accounts ((t.spend 1).takeLowest.1 :: numbers) :=
      takeLowest h
    rw [Except.ok.inj hopen] at htaken
    exact htaken
  · cases hopen

theorem openTwo {m : Nat} (h : t.Accounts numbers) (hopen : t.openTwo = .ok (n, m, t')) :
    t'.Accounts (m :: n :: numbers) := by
  unfold DescriptorTable.openTwo at hopen
  split at hopen
  · have htaken : (t.spend 2).takeLowest.2.Accounts ((t.spend 2).takeLowest.1 :: numbers) :=
      takeLowest h
    have hboth := htaken.takeLowest
    simp only [Except.ok.injEq, Prod.mk.injEq] at hopen
    obtain ⟨rfl, rfl, rfl⟩ := hopen
    exact hboth
  · cases hopen

/-! ## Closing -/

theorem close (h : t.Accounts (n :: numbers)) : (t.close n).Accounts numbers := by
  unfold Accounts at h ⊢
  unfold DescriptorTable.close
  have hgaps : (insertGap n t.gaps ++ t.occupied ++ numbers).Perm
      (n :: (t.gaps ++ t.occupied ++ numbers)) :=
    ((insertGap_perm n t.gaps).append_right _).append_right _
  exact (hgaps.trans List.perm_middle.symm).trans h

theorem closeAll (h : t.Accounts (others ++ numbers)) : (t.closeAll others).Accounts numbers := by
  unfold DescriptorTable.closeAll
  rw [List.foldl_reverse]
  -- what is closed last stands in front
  induction others generalizing numbers with
  | nil => exact h
  | cons n rest ih => exact close (ih (h.perm List.perm_middle.symm))

/-! ## Occupied numbers -/

theorem fill (h : t.Accounts numbers) (n : Nat) : (t.fill n).Accounts numbers := by
  unfold Accounts at h ⊢
  unfold DescriptorTable.fill
  have hfrontier : List.range (max t.frontier n) =
      List.range t.frontier ++ List.range' t.frontier (n - t.frontier) := by
    have hmax : max t.frontier n = t.frontier + (n - t.frontier) := by omega
    rw [hmax, List.range_eq_range', List.range_eq_range', ← List.range'_append_1, Nat.zero_add]
  have hgaps : (t.gaps.filter (n ≤ ·) ++ t.gaps.filter (· < n)).Perm t.gaps := by
    have hsplit := List.filter_append_perm (fun g => decide (n ≤ g)) t.gaps
    simp only [← decide_not, Nat.not_le] at hsplit
    exact hsplit
  rw [hfrontier]
  refine List.Perm.trans ?_ (h.append_right _)
  refine List.Perm.trans ?_ (((hgaps.append_right _).append_right _).append_right _)
  simp only [List.append_assoc]
  apply List.Perm.append_left
  -- only the order of the parts differs
  rw [List.perm_iff_count]
  intro x
  simp only [List.count_append]
  omega

theorem unfill (h : t.Accounts numbers) : t.unfill.Accounts numbers := by
  have hgaps : ∀ occupied : List Nat,
      (occupied.foldr insertGap t.gaps).Perm (t.gaps ++ occupied) := by
    intro occupied
    induction occupied with
    | nil => rw [List.append_nil]; exact List.Perm.refl _
    | cons n rest ih =>
      exact ((insertGap_perm n _).trans (ih.cons n)).trans List.perm_middle.symm
  unfold Accounts at h ⊢
  unfold DescriptorTable.unfill
  rw [List.append_nil]
  exact ((hgaps t.occupied).append_right _).trans h

end Accounts

end ReadinessBench.DescriptorTable
