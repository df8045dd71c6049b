import Mathlib.Logic.Relation
import ReadinessBench.Proofs.Descriptor.Account

/-!
# Budgets

Which numbers a table gives out next, when it refuses, and what a budget comes to: whatever is
opened and closed, there are never more descriptors open than there were, plus the budget.
-/

namespace ReadinessBench.DescriptorTable

/-- The number that will be given out after so many others. -/
def freeNumber (t : DescriptorTable) (i : Nat) : Nat :=
  t.gaps[i]?.getD (t.frontier + (i - t.gaps.length))

/-- The table after so many more descriptors have been opened. -/
def afterOpening (t : DescriptorTable) (n : Nat) : DescriptorTable :=
  { t with
    gaps := t.gaps.drop n
    frontier := t.frontier + (n - t.gaps.length)
    budget := t.budget.map (· - n) }

variable {t t' u : DescriptorTable} {numbers : List Nat} {left : Nat}

@[simp] theorem afterOpening_zero (t : DescriptorTable) : t.afterOpening 0 = t := by
  simp [afterOpening]

theorem afterOpening_afterOpening (t : DescriptorTable) (m n : Nat) :
    (t.afterOpening m).afterOpening n = t.afterOpening (m + n) := by
  have hfrontier : t.frontier + (m - t.gaps.length) + (n - (t.gaps.length - m)) =
      t.frontier + (m + n - t.gaps.length) := by
    omega
  have hbudget : (fun left : Nat => left - m - n) = fun left => left - (m + n) := by
    funext left
    omega
  simp only [afterOpening, List.length_drop, hfrontier, List.drop_drop, Option.map_map,
    Function.comp_def, hbudget]

theorem freeNumber_afterOpening (t : DescriptorTable) (n i : Nat) :
    (t.afterOpening n).freeNumber i = t.freeNumber (n + i) := by
  have hfrontier : t.frontier + (n - t.gaps.length) + (i - (t.gaps.length - n)) =
      t.frontier + (n + i - t.gaps.length) := by
    omega
  simp only [freeNumber, afterOpening, List.getElem?_drop, List.length_drop, hfrontier]

theorem below_afterOpening {limit n k : Nat} (hu : u = t.afterOpening n)
    (h : ∀ i < n + k, t.freeNumber i < limit) : ∀ i < k, u.freeNumber i < limit := by
  intro i hi
  rw [hu, freeNumber_afterOpening]
  exact h _ (by omega)

theorem budget_afterOpening (h : t.budget = some left) (n : Nat) :
    (t.afterOpening n).budget = some (left - n) := by
  simp only [afterOpening, h, Option.map_some]

/-! ## Opening what is allowed -/

theorem openOne_of_allows (h : t.allows 1 = true) :
    t.openOne = .ok (t.freeNumber 0, t.afterOpening 1) := by
  rw [openOne, if_pos h]
  match hgaps : t.gaps with
  | [] => simp [takeLowest, spend, freeNumber, afterOpening, hgaps]
  | g :: rest => simp [takeLowest, spend, freeNumber, afterOpening, hgaps]

theorem openTwo_of_allows (h : t.allows 2 = true) :
    t.openTwo = .ok (t.freeNumber 0, t.freeNumber 1, t.afterOpening 2) := by
  rw [openTwo, if_pos h]
  match hgaps : t.gaps with
  | [] => simp [takeLowest, spend, freeNumber, afterOpening, hgaps]
  | [g] => simp [takeLowest, spend, freeNumber, afterOpening, hgaps]
  | g :: g' :: rest => simp [takeLowest, spend, freeNumber, afterOpening, hgaps]

theorem allows_of_openTwo {x : Nat × Nat × DescriptorTable} (h : t.openTwo = .ok x) :
    t.allows 2 = true := by
  rw [openTwo] at h
  split at h
  · assumption
  · cases h

/-- What has been opened comes off what is allowed. -/
theorem allows_afterOpening {m n : Nat} (h : t.allows (m + n) = true) :
    (t.afterOpening m).allows n = true := by
  have hroom : t.hasRoom (m + n) = true := by
    rw [allows, Bool.and_eq_true] at h
    exact h.1
  rw [hasRoom, decide_eq_true_eq, List.length_take] at hroom
  have hleft : ∀ left, t.budget = some left → m + n ≤ left := by
    intro left hleft
    simp only [allows, hleft, Bool.and_eq_true, decide_eq_true_eq] at h
    exact h.2
  have hrest : (t.afterOpening m).hasRoom n = true := by
    rw [hasRoom, decide_eq_true_eq, List.length_take]
    simp only [afterOpening, List.length_drop]
    omega
  rw [allows, hrest, Bool.true_and]
  cases hbudget : t.budget with
  | none => simp [afterOpening, hbudget]
  | some left =>
    have hfit := hleft left hbudget
    simp only [afterOpening, hbudget, Option.map_some, decide_eq_true_eq]
    omega

/-! ## Opening above everything -/

theorem freeNumber_of_fresh (hgaps : t.gaps = []) (i : Nat) : t.freeNumber i = t.frontier + i := by
  rw [freeNumber, hgaps]
  rfl

theorem afterOpening_fresh (hgaps : t.gaps = []) (n : Nat) :
    (t.afterOpening n).gaps = [] ∧ (t.afterOpening n).frontier = t.frontier + n := by
  simp only [afterOpening, hgaps, List.drop_nil, List.length_nil, Nat.sub_zero, and_self]

theorem allows_of_fresh {n : Nat} (hgaps : t.gaps = []) (hroom : t.frontier + n ≤ numberLimit)
    (hleft : ∀ left, t.budget = some left → n ≤ left) : t.allows n = true := by
  have hfree : t.hasRoom n = true := by
    rw [hasRoom, decide_eq_true_eq, hgaps, List.take_nil, List.length_nil]
    omega
  rw [allows, hfree, Bool.true_and]
  cases hbudget : t.budget with
  | none => rfl
  | some left => exact decide_eq_true (hleft left hbudget)

/-! ## Opening under a budget -/

theorem allows_of_budget {n : Nat} (h : t.budget = some left) (hleft : n + 1 ≤ left)
    (hnumber : t.freeNumber n < numberLimit) : t.allows (n + 1) = true := by
  have hroom : t.hasRoom (n + 1) = true := by
    rw [hasRoom, decide_eq_true_eq, List.length_take]
    by_cases hgap : n < t.gaps.length
    · omega
    · rw [freeNumber, List.getElem?_eq_none (by omega), Option.getD_none] at hnumber
      omega
  simp only [allows, hroom, h, hleft, decide_true, Bool.and_self]

theorem openOne_of_budget (h : t.budget = some left) (hleft : 1 ≤ left)
    (hnumber : t.freeNumber 0 < numberLimit) :
    t.openOne = .ok (t.freeNumber 0, t.afterOpening 1) :=
  openOne_of_allows (allows_of_budget h hleft hnumber)

theorem openOne_of_spent (h : t.budget = some 0) : t.openOne = .error refusal := by
  simp [openOne, allows, h]

theorem openTwo_of_budget (h : t.budget = some left) (hleft : 2 ≤ left)
    (hsecond : t.freeNumber 1 < numberLimit) :
    t.openTwo = .ok (t.freeNumber 0, t.freeNumber 1, t.afterOpening 2) :=
  openTwo_of_allows (allows_of_budget h hleft hsecond)

theorem openTwo_of_spent (h : t.budget = some left) (hleft : left < 2) :
    t.openTwo = .error refusal := by
  have hnot : ¬ 2 ≤ left := by omega
  simp [openTwo, allows, h, hnot]

/-- No number is given out twice. -/
theorem Accounts.freeNumber_injective (h : t.Accounts numbers) :
    Function.Injective t.freeNumber := by
  have hdistinct : t.gaps.Nodup := by
    have hall := h.nodup_iff.mpr List.nodup_range
    rw [List.append_assoc] at hall
    exact List.Nodup.of_append_left hall
  have hbelow : ∀ i (hi : i < t.gaps.length), t.gaps[i] < t.frontier := by
    intro i hi
    have hmem : t.gaps[i] ∈ t.gaps ++ t.occupied ++ numbers := by simp
    exact List.mem_range.mp (h.mem_iff.mp hmem)
  intro i j hij
  -- the gaps lie below the frontier, and whatever follows them does not
  by_cases hi : i < t.gaps.length <;> by_cases hj : j < t.gaps.length <;>
    simp only [freeNumber, List.getElem?_eq_getElem, List.getElem?_eq_none, Nat.not_lt.mp, hi, hj,
      Option.getD_some, Option.getD_none, not_false_eq_true] at hij
  · exact (hdistinct.getElem_inj_iff).mp hij
  · have := hbelow i hi
    omega
  · have := hbelow j hj
    omega
  · omega

/-! ## What a budget comes to -/

/-- A call that changes the table: something is opened, or an open descriptor is closed. -/
inductive Call : DescriptorTable → DescriptorTable → Prop where
  | openOne {t t' : DescriptorTable} {n : Nat} (h : t.openOne = .ok (n, t')) : Call t t'
  | openTwo {t t' : DescriptorTable} {m n : Nat} (h : t.openTwo = .ok (m, n, t')) : Call t t'
  | close {t : DescriptorTable} {n : Nat} {numbers : List Nat} (h : t.Accounts (n :: numbers)) :
    Call t (t.close n)

/-- One call after the other. -/
abbrev Calls : DescriptorTable → DescriptorTable → Prop := Relation.ReflTransGen Call

theorem Calls.closeAll {others : List Nat} (h : t.Accounts (others ++ numbers)) :
    Calls t (t.closeAll others) := by
  -- the last one is closed first, while those before it are still in the account
  unfold DescriptorTable.closeAll
  rw [List.foldl_reverse]
  induction others generalizing numbers with
  | nil => exact Relation.ReflTransGen.refl
  | cons n rest ih =>
    have hmiddle : t.Accounts (rest ++ n :: numbers) := h.perm List.perm_middle.symm
    have hrest : (t.closeAll rest).Accounts (n :: numbers) := hmiddle.closeAll
    rw [DescriptorTable.closeAll, List.foldl_reverse] at hrest
    exact (ih hmiddle).tail (.close hrest)

theorem budget_takeLowest (t : DescriptorTable) : t.takeLowest.2.budget = t.budget := by
  unfold takeLowest
  split <;> rfl

theorem budget_openOne {n : Nat} (h : t.openOne = .ok (n, t')) (hleft : t.budget = some left) :
    1 ≤ left ∧ t'.budget = some (left - 1) := by
  unfold openOne at h
  split at h
  · rename_i hallows
    have htable := congrArg Prod.snd (Except.ok.inj h)
    have hbudget := budget_takeLowest (t.spend 1)
    rw [htable] at hbudget
    simp only [allows, hleft, Bool.and_eq_true, decide_eq_true_eq] at hallows
    exact ⟨hallows.2, by rw [hbudget, spend, hleft]; rfl⟩
  · cases h

theorem budget_openTwo {m n : Nat} (h : t.openTwo = .ok (m, n, t'))
    (hleft : t.budget = some left) : 2 ≤ left ∧ t'.budget = some (left - 2) := by
  unfold openTwo at h
  split at h
  · rename_i hallows
    have hbudget : (t.spend 2).takeLowest.2.takeLowest.2.budget = some (left - 2) := by
      rw [budget_takeLowest, budget_takeLowest, spend, hleft]
      rfl
    simp only [Except.ok.injEq, Prod.mk.injEq] at h
    obtain ⟨rfl, rfl, rfl⟩ := h
    simp only [allows, hleft, Bool.and_eq_true, decide_eq_true_eq] at hallows
    exact ⟨hallows.2, hbudget⟩
  · cases h

/-- A call does not change how many descriptors are open together with those that may still be
opened. -/
theorem Call.budget (hcall : Call t t') (h : t.Accounts numbers) (hleft : t.budget = some left) :
    ∃ numbers' left', t'.Accounts numbers' ∧ t'.budget = some left' ∧
      t'.openCount + left' = t.openCount + left := by
  cases hcall with
  | openOne hopen =>
    obtain ⟨hle, hbudget⟩ := budget_openOne hopen hleft
    have hcount := (h.openOne hopen).openCount_eq
    rw [List.length_cons, ← h.openCount_eq] at hcount
    exact ⟨_, left - 1, h.openOne hopen, hbudget, by omega⟩
  | openTwo hopen =>
    obtain ⟨hle, hbudget⟩ := budget_openTwo hopen hleft
    have hcount := (h.openTwo hopen).openCount_eq
    rw [List.length_cons, List.length_cons, ← h.openCount_eq] at hcount
    exact ⟨_, left - 2, h.openTwo hopen, hbudget, by omega⟩
  | close hopen =>
    have hcount := hopen.openCount_eq
    rw [List.length_cons, ← hopen.close.openCount_eq] at hcount
    refine ⟨_, left + 1, hopen.close, ?_, by omega⟩
    rw [DescriptorTable.close, hleft]
    rfl

theorem Calls.budget (hcalls : Calls t t') (h : t.Accounts numbers)
    (hleft : t.budget = some left) :
    ∃ numbers' left', t'.Accounts numbers' ∧ t'.budget = some left' ∧
      t'.openCount + left' = t.openCount + left := by
  induction hcalls with
  | refl => exact ⟨numbers, left, h, hleft, rfl⟩
  | tail _ hcall ih =>
    obtain ⟨numbers', left', haccounts, hbudget, hsum⟩ := ih
    obtain ⟨numbers'', left'', haccounts', hbudget', hsum'⟩ := hcall.budget haccounts hbudget
    exact ⟨numbers'', left'', haccounts', hbudget', hsum'.trans hsum⟩

/-- At no moment are more descriptors open than the budget allows. -/
theorem Calls.within_budget (hcalls : Calls t t') (h : t.Accounts numbers)
    (hleft : t.budget = some left) :
    Relation.ReflTransGen (fun u u' => Call u u' ∧ u'.openCount ≤ t.openCount + left) t t' := by
  induction hcalls with
  | refl => exact Relation.ReflTransGen.refl
  | tail hcalls hcall ih =>
    obtain ⟨numbers', left', haccounts, hbudget, hsum⟩ := Calls.budget hcalls h hleft
    obtain ⟨numbers'', left'', -, -, hsum'⟩ := hcall.budget haccounts hbudget
    exact ih.tail ⟨hcall, by omega⟩

end ReadinessBench.DescriptorTable
