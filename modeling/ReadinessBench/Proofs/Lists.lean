import Mathlib.Data.List.Basic
import Mathlib.Data.List.ModifyLast
import Mathlib.Data.List.Perm.Basic

/-!
# Lists

Lists that grow at their end, loops over lists, and lists put together from those of their entries.
-/

namespace ReadinessBench

/-- An entry of a list that has grown by one is the new one, or it was there before. -/
theorem snoc_eq_append_cons {α : Type} {l before after : List α} {x y : α}
    (h : l ++ [x] = before ++ y :: after) :
    before = l ∧ y = x ∨ ∃ rest, l = before ++ y :: rest := by
  rcases after.eq_nil_or_concat' with rfl | ⟨rest, z, rfl⟩
  · have hsplit := List.append_inj' h rfl
    exact Or.inl ⟨hsplit.1.symm, (List.head_eq_of_cons_eq hsplit.2).symm⟩
  · have hassoc : l ++ [x] = (before ++ y :: rest) ++ [z] := by
      rw [h, List.append_assoc, List.cons_append]
    exact Or.inr ⟨rest, (List.append_inj' hassoc rfl).1⟩

/-- What no turn of a loop changes is the same after it. -/
theorem foldl_keeps {σ α β : Type} (f : σ → β) {g : σ → α → σ} (h : ∀ s a, f (g s a) = f s) (s : σ)
    (xs : List α) : f (xs.foldl g s) = f s := by
  have hloop : xs.foldl (fun x _ => x) (f s) = f (xs.foldl g s) :=
    List.foldl_hom f fun s a => (h s a).symm
  rw [← hloop, List.foldl_fixed]

/-- What the beginnings of a list come to, one after another. -/
theorem map_take_succ_cons {α β : Type} (f : List α → β) (x : α) (rest : List α) :
    ((List.range (x :: rest).length).map fun k => f ((x :: rest).take (k + 1))) =
      f [x] :: (List.range rest.length).map fun k => f (x :: rest.take (k + 1)) := by
  rw [List.length_cons, List.range_succ_eq_map, List.map_cons, List.map_map]
  rfl

/-- How often something comes up in a list, its first entry apart from the rest. -/
theorem count_cons_eq_add {α : Type} [BEq α] (x y : α) (rest : List α) :
    (x :: rest).count y = [x].count y + rest.count y := by
  rw [← List.count_append, List.singleton_append]

theorem foldl_max_lt_iff {bound start : Nat} {xs : List Nat} :
    xs.foldl max start < bound ↔ start < bound ∧ ∀ x ∈ xs, x < bound := by
  induction xs generalizing start with
  | nil => exact (and_iff_left nofun).symm
  | cons x rest ih => rw [List.foldl_cons, ih, Nat.max_lt, and_assoc, List.forall_mem_cons]

/-- A loop in which no turn fails. -/
theorem foldlM_eq_some {σ α : Type} {f : σ → α → Option σ} {g : σ → α → σ} {xs : List α}
    (h : ∀ s, ∀ x ∈ xs, f s x = some (g s x)) (s : σ) : xs.foldlM f s = some (xs.foldl g s) := by
  induction xs generalizing s with
  | nil => rfl
  | cons x rest ih =>
    rw [List.foldlM_cons, h s x List.mem_cons_self, List.foldl_cons]
    exact ih (fun s y hy => h s y (List.mem_cons_of_mem x hy)) (g s x)

theorem length_flatMap_eq {α : Type} (f : α → List Nat) (xs : List α) :
    (xs.flatMap f).length = (xs.map fun x => (f x).length).foldr (· + ·) 0 := by
  induction xs with
  | nil => rfl
  | cons x rest ih => rw [List.flatMap_cons, List.length_append, ih, List.map_cons, List.foldr_cons]

theorem length_filter_add (p q : Nat → Bool) (xs : List Nat) :
    (xs.map fun i => (p i).toNat + (q i).toNat).foldr (· + ·) 0 =
      (xs.filter p).length + (xs.filter q).length := by
  induction xs with
  | nil => rfl
  | cons i rest ih =>
    rw [List.map_cons, List.foldr_cons, ih, List.filter_cons, List.filter_cons]
    cases p i <;> cases q i <;> simp only [Bool.toNat_true, Bool.toNat_false, if_true,
      Bool.false_eq_true, if_false, List.length_cons] <;> omega

theorem flatMap_modify_perm {α : Type} {f : α → List Nat} {g : α → α} {gone : List Nat}
    {l : List α} {i : Nat} {x : α} (hi : l[i]? = some x) (hx : (f x).Perm (gone ++ f (g x))) :
    (l.flatMap f).Perm (gone ++ (l.modify i g).flatMap f) := by
  induction l generalizing i with
  | nil => cases hi
  | cons a rest ih =>
    cases i with
    | zero =>
      rw [List.getElem?_cons_zero, Option.some.injEq] at hi
      rw [hi, List.modify_zero_cons, List.flatMap_cons, List.flatMap_cons, ← List.append_assoc]
      exact hx.append_right _
    | succ i =>
      rw [List.modify_succ_cons, List.flatMap_cons, List.flatMap_cons]
      exact ((ih hi).append_left (f a)).trans (List.perm_append_comm_assoc _ _ _)

theorem flatMap_eq_of_getElem? {α β : Type} {f : α → List β} {l : List α} {k : Nat} {x : α}
    (hk : l[k]? = some x) (hothers : ∀ j y, j ≠ k → l[j]? = some y → f y = []) :
    l.flatMap f = f x := by
  induction l generalizing k with
  | nil => cases hk
  | cons a rest ih =>
    rw [List.flatMap_cons]
    cases k with
    | zero =>
      have hrest : rest.flatMap f = [] := by
        rw [List.flatMap_eq_nil_iff]
        intro y hy
        obtain ⟨j, hj⟩ := List.mem_iff_getElem?.mp hy
        exact hothers (j + 1) y (Nat.succ_ne_zero j) hj
      rw [List.getElem?_cons_zero, Option.some.injEq] at hk
      rw [hrest, List.append_nil, hk]
    | succ k =>
      rw [hothers 0 a (Nat.succ_ne_zero k).symm rfl, List.nil_append]
      exact ih hk fun j y hj hy => hothers (j + 1) y (fun heq => hj (Nat.succ.inj heq)) hy

theorem length_modifyLast {α : Type} (f : α → α) (l : List α) :
    (l.modifyLast f).length = l.length := by
  rcases List.eq_nil_or_concat l with rfl | ⟨front, last, rfl⟩
  · rfl
  · rw [List.concat_eq_append, List.modifyLast_concat, List.length_append, List.length_append]
    rfl

end ReadinessBench
