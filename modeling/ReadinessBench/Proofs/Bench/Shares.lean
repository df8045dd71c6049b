import ReadinessBench.Proofs.Bench.Books

/-!
# Shares in the books

Taking shares, giving them back, opening pairs and dropping them keep the books right. Giving back
closes the engines' end with the last share and never twice.
-/

namespace ReadinessBench.Bench

variable {b b' : Bench} {base rest : List Nat} {pair q : Nat}

/-- What a changed holding no longer has open is missing among the ends. -/
theorem endNumbers_modify {h : Holding} {g : Holding → Holding} {gone : List Nat}
    (hpair : b.holdings[pair]? = some h) (hgone : h.numbers.Perm (gone ++ (g h).numbers))
    (hb' : b'.holdings = b.holdings.modify pair g) :
    b.endNumbers.Perm (gone ++ b'.endNumbers) := by
  rw [endNumbers, endNumbers, hb', Array.toList_modify]
  rw [← Array.getElem?_toList] at hpair
  exact flatMap_modify_perm hpair hgone

theorem setIfInBounds_eq_modify {hs : Array Holding} {h : Holding} {g : Holding → Holding}
    (hpair : hs[pair]? = some h) : hs.setIfInBounds pair (g h) = hs.modify pair g := by
  apply Array.ext_getElem?
  intro i
  rw [Array.getElem?_setIfInBounds, Array.getElem?_modify]
  by_cases hi : pair = i
  · subst hi
    rw [if_pos rfl, if_pos rfl, hpair, if_pos (Array.getElem?_eq_some_iff.mp hpair).1]
    rfl
  · rw [if_neg hi, if_neg hi]

/-! ## Giving a share back -/

theorem holdings_unshare : (b.unshare pair).holdings = b.holdings.modify pair .giveBack := by
  unfold unshare
  split
  · rename_i hpair
    apply Array.ext_getElem?
    intro i
    rw [Array.getElem?_modify]
    split
    · rename_i hi
      rw [← hi, hpair]
      rfl
    · rfl
  · rename_i h hpair
    rw [← setIfInBounds_eq_modify hpair]
    dsimp only
    split <;> rfl

/-- Only shares have changed hands, and ends of pairs may have been closed. -/
structure SharesOnly (b b' : Bench) : Prop where
  sockets : b'.sockets = b.sockets
  tenants : b'.tenants = b.tenants
  nextWatcher : b'.nextWatcher = b.nextWatcher

theorem SharesOnly.unshare (b : Bench) (pair : Nat) : SharesOnly b (b.unshare pair) := by
  unfold Bench.unshare
  split
  · exact ⟨rfl, rfl, rfl⟩
  · dsimp only
    split <;> exact ⟨rfl, rfl, rfl⟩

/-- Giving back the last share closes the engines' end, and giving back any other closes nothing. -/
theorem unshare_cases (b : Bench) (pair : Nat) :
    ((b.unshare pair).table = b.table ∧ b.endNumbers.Perm (b.unshare pair).endNumbers) ∨
      ∃ n, (b.unshare pair).table = b.table.closeAll [n] ∧
        b.endNumbers.Perm ([n] ++ (b.unshare pair).endNumbers) := by
  cases hpair : b.holdings[pair]? with
  | none =>
    have hsame : b.unshare pair = b := by simp only [unshare, hpair]
    rw [hsame]
    exact Or.inl ⟨rfl, List.Perm.refl _⟩
  | some x =>
    by_cases hlast : x.shares = 1
    · refine Or.inr ⟨x.engineNumber, ?_,
        endNumbers_modify hpair (Holding.numbers_giveBack_last hlast) holdings_unshare⟩
      simp only [unshare, hpair, hlast, if_true]
      rfl
    · have hends : b.endNumbers.Perm ([] ++ (b.unshare pair).endNumbers) :=
        endNumbers_modify hpair (by rw [Holding.numbers_giveBack hlast]; exact List.Perm.refl _)
          holdings_unshare
      refine Or.inl ⟨?_, hends⟩
      simp only [unshare, hpair, hlast, if_false]

theorem accounts_unshare (h : b.table.Accounts (b.endNumbers ++ rest)) :
    (b.unshare pair).table.Accounts ((b.unshare pair).endNumbers ++ rest) := by
  rcases b.unshare_cases pair with ⟨htable, hends⟩ | ⟨n, htable, hends⟩
  · rw [htable]
    exact h.perm (hends.append_right rest)
  -- with the last share the end is closed, and the account loses its number
  · rw [htable]
    apply DescriptorTable.Accounts.closeAll
    rw [← List.append_assoc]
    exact h.perm (hends.append_right rest)

/-! ## All shares of an engine -/

theorem holdings_shareAll (pairs : List Nat) (q : Nat) :
    (pairs.foldl share b).holdings[q]? =
      b.holdings[q]?.map fun h => { h with shares := h.shares + pairs.count q } := by
  induction pairs generalizing b with
  | nil => exact Option.map_id'.symm
  | cons pair rest ih =>
    rw [List.foldl_cons, ih, share, Array.getElem?_modify, List.count_cons]
    by_cases hq : pair = q
    · simp only [hq, if_true, beq_self_eq_true, Option.map_map]
      congr 1
      funext h
      simp only [Function.comp_apply, Nat.add_assoc, Nat.add_comm 1]
    · simp only [hq, if_false, beq_iff_eq, Nat.add_zero]

theorem holdings_unshareAll (pairs : List Nat) (q : Nat) :
    (pairs.foldl unshare b).holdings[q]? =
      b.holdings[q]?.map fun h => { h with shares := h.shares - pairs.count q } := by
  induction pairs generalizing b with
  | nil => exact Option.map_id'.symm
  | cons pair rest ih =>
    rw [List.foldl_cons, ih, holdings_unshare, Array.getElem?_modify, List.count_cons]
    by_cases hq : pair = q
    · simp only [hq, if_true, beq_self_eq_true, Option.map_map]
      congr 1
      funext h
      simp only [Function.comp_apply, Holding.giveBack, Nat.sub_sub, Nat.add_comm 1]
    · simp only [hq, if_false, beq_iff_eq, Nat.add_zero]

theorem shareAll_eq (pairs : List Nat) :
    pairs.foldl share b = { b with holdings := (pairs.foldl share b).holdings } := by
  induction pairs generalizing b with
  | nil => rfl
  | cons pair rest ih =>
    rw [List.foldl_cons, ih]
    rfl

theorem shareWatched_eq (watched : List Watched) :
    watched.foldl (fun b x => b.share x.pair) b =
      { b with holdings := ((watched.map Watched.pair).foldl share b).holdings } := by
  rw [← shareAll_eq, List.foldl_map]

theorem SharesOnly.unshareAll (b : Bench) (pairs : List Nat) :
    SharesOnly b (pairs.foldl Bench.unshare b) := by
  constructor
  · exact foldl_keeps Bench.sockets (fun b pair => (SharesOnly.unshare b pair).sockets) b pairs
  · exact foldl_keeps Bench.tenants (fun b pair => (SharesOnly.unshare b pair).tenants) b pairs
  · exact foldl_keeps Bench.nextWatcher (fun b pair => (SharesOnly.unshare b pair).nextWatcher) b
      pairs

theorem accounts_unshareAll (pairs : List Nat) (h : b.table.Accounts (b.endNumbers ++ rest)) :
    (pairs.foldl unshare b).table.Accounts ((pairs.foldl unshare b).endNumbers ++ rest) := by
  induction pairs generalizing b with
  | nil => exact h
  | cons pair more ih => exact ih (accounts_unshare h)

/-- The ends that are open are told by what each pair has open. -/
theorem endNumbers_congr
    (h : ∀ q : Nat, b'.holdings[q]?.map Holding.numbers = b.holdings[q]?.map Holding.numbers) :
    b'.endNumbers = b.endNumbers := by
  rw [endNumbers, endNumbers, List.flatMap_def, List.flatMap_def]
  congr 1
  apply List.ext_getElem?
  intro q
  rw [List.getElem?_map, List.getElem?_map, Array.getElem?_toList, Array.getElem?_toList]
  exact h q

end ReadinessBench.Bench
