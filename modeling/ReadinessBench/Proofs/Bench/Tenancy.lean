import ReadinessBench.Proofs.Bench.Engines

/-!
# Engines come and go

What the creation of an engine leaves in the books and what its destruction takes out of them.
Engines may go in any order, before or after the pairs that they watch.
-/

namespace ReadinessBench.Bench

variable {b b' : Bench} {base : List Nat} {x : Tenant} {q : Nat}

/-- The engine has been put to work. -/
structure Admitted (b b' : Bench) (x : Tenant) : Prop where
  accounts : ∀ numbers, b.table.Accounts numbers → b'.table.Accounts (x.owned ++ numbers)
  sockets : b'.sockets.size = b.sockets.size
  holdings : ∀ q : Nat, b'.holdings[q]? =
    b.holdings[q]?.map fun h => { h with shares := h.shares + x.pairs.count q }
  tenants : b'.tenants = b.tenants ++ [x]
  id : x.id = b.nextWatcher
  nextWatcher : b'.nextWatcher = b.nextWatcher + 1
  footprint : x.owned.length = x.mechanism.footprint

/-- How the creation of an engine on these pairs may end: nothing is left of it, or there is one
engine more at work. -/
inductive Created (pairs : List Nat) (b b' : Bench) : Except BenchError EngineHandle → Prop where
  | failed {e : BenchError} (h : Acquired b b' []) : Created pairs b b' (.error e)
  | made {x : Tenant} {workers : Nat} (hpairs : x.pairs = pairs) (h : Admitted b b' x) :
    Created pairs b b' (.ok ⟨x.id, workers⟩)

/-- The engine has been destroyed. -/
structure Dismissed (b b' : Bench) (x : Tenant) : Prop where
  accounts : ∀ rest, b.table.Accounts (b.endNumbers ++ (x.owned ++ rest)) →
    b'.table.Accounts (b'.endNumbers ++ rest)
  sockets : b'.sockets.size = b.sockets.size
  holdings : ∀ q : Nat, b'.holdings[q]? =
    b.holdings[q]?.map fun h => { h with shares := h.shares - x.pairs.count q }
  mem : x ∈ b.tenants
  tenants : b'.tenants = b.tenants.filter (·.id != x.id)
  nextWatcher : b'.nextWatcher = b.nextWatcher

/-! ## What shares have to do with the rest -/

section Holdings

variable {f : Nat → Holding → Holding}

theorem size_eq_of_holdings (h : ∀ q : Nat, b'.holdings[q]? = b.holdings[q]?.map (f q)) :
    b'.holdings.size = b.holdings.size := by
  have hnone : ∀ q, b'.holdings.size ≤ q ↔ b.holdings.size ≤ q := by
    intro q
    rw [← Array.getElem?_eq_none_iff, ← Array.getElem?_eq_none_iff, h, Option.map_eq_none_iff]
  exact Nat.le_antisymm ((hnone _).mpr (Nat.le_refl _)) ((hnone _).mp (Nat.le_refl _))

theorem isHeld_eq_of_holdings (h : ∀ q : Nat, b'.holdings[q]? = b.holdings[q]?.map (f q))
    (hf : ∀ q x, (f q x).held = x.held) (q : Nat) : b'.isHeld q = b.isHeld q := by
  rw [isHeld, isHeld, h, Option.map_map]
  congr 2
  funext x
  exact hf q x

end Holdings

theorem lt_size_of_isHeld (h : b.isHeld q = true) : q < b.holdings.size := by
  by_contra hle
  rw [isHeld_of_size_le (Nat.le_of_not_lt hle)] at h
  cases h

/-- Two lists of engines differ in one engine. -/
theorem perm_cons_filter {l : List Tenant} (hdistinct : (l.map Tenant.id).Nodup) (hx : x ∈ l) :
    l.Perm (x :: l.filter (·.id != x.id)) := by
  induction l with
  | nil => cases hx
  | cons a rest ih =>
    rw [List.map_cons, List.nodup_cons] at hdistinct
    obtain ⟨hfresh, hrest⟩ := hdistinct
    rcases List.mem_cons.mp hx with rfl | hmem
    -- no other engine has this number
    · have hall : rest.filter (·.id != x.id) = rest := by
        rw [List.filter_eq_self]
        intro y hy
        rw [bne_iff_ne]
        exact fun heq => hfresh (heq ▸ List.mem_map_of_mem hy)
      rw [List.filter_cons_of_neg (by simp), hall]
    · have hne : a.id ≠ x.id := fun heq => hfresh (heq ▸ List.mem_map_of_mem hmem)
      have hkeep : (a :: rest).filter (·.id != x.id) = a :: rest.filter (·.id != x.id) :=
        List.filter_cons_of_pos (bne_iff_ne.mpr hne)
      rw [hkeep]
      exact ((ih hrest hmem).cons a).trans (List.Perm.swap x a _)

/-! ## Creation -/

theorem createEngine_cases {r : EngineRequest} {result : Except BenchError EngineHandle}
    (h : b.createEngine r = (result, b')) :
    Created (r.watched.map Watched.pair) b b' result := by
  unfold createEngine at h
  cases hset : r.performAll [] b r.mechanism.setup with
  | mk done next =>
    rw [hset] at h
    rcases performAll_cases (Acquired.of_sameBooks (SameBooks.refl b)) hset with
      ⟨owned, rfl, hacquired, hcount⟩ | ⟨e, rfl, hacquired⟩
    · rw [Mechanism.descriptors_setup, List.length_nil, Nat.zero_add] at hcount
      -- shares are taken only now that nothing can fail any more
      simp only [shareWatched_eq] at h
      cases h
      let x : Tenant := ⟨next.nextWatcher, r.mechanism, r.watched.map Watched.pair, owned⟩
      refine .made (x := x) rfl ⟨hacquired.accounts, hacquired.books.sockets, ?_, ?_,
        hacquired.books.nextWatcher, congrArg (· + 1) hacquired.books.nextWatcher, hcount⟩
      · intro q
        show ((r.watched.map Watched.pair).foldl share next).holdings[q]? = _
        rw [holdings_shareAll, hacquired.books.holdings]
      · show (next.watchers ++ [_]).map _ = _
        rw [List.map_append]
        exact congrArg (· ++ [_]) hacquired.books.tenants
    · cases h
      exact .failed hacquired

theorem Admitted.listings_eq (h : Admitted b b' x) (q : Nat) :
    b'.listings q = b.listings q + x.pairs.count q := by
  rw [listings, h.tenants, List.flatMap_append, List.count_append, List.flatMap_singleton, listings]

theorem Admitted.booked (h : Admitted b b' x) (hb : b.Booked base)
    (hheld : ∀ q ∈ x.pairs, b.isHeld q = true) : b'.Booked base := by
  constructor
  · have hends : b'.endNumbers = b.endNumbers := by
      apply endNumbers_congr
      intro q
      rw [h.holdings, Option.map_map]
      cases hq : b.holdings[q]? with
      | none => rfl
      | some y =>
        rw [Option.map_some, Option.map_some, Option.some.injEq]
        by_cases hmem : q ∈ x.pairs
        -- a pair that is listed is held, so that its end is open already
        · obtain ⟨z, hz, hzheld⟩ := holds_iff.mp (hheld q hmem)
          obtain rfl := Option.some.inj (hq.symm.trans hz)
          have hshares := hb.shares q y hq
          rw [hzheld, Bool.toNat_true] at hshares
          exact Holding.numbers_addShares (by omega) _
        · rw [Function.comp_apply, List.count_eq_zero_of_not_mem hmem]
          rfl
    have hown : b'.ownNumbers = b.ownNumbers ++ x.owned := by
      rw [ownNumbers, h.tenants, List.flatMap_append, List.flatMap_singleton, ownNumbers]
    rw [hends, hown]
    apply (h.accounts _ hb.numbers).perm
    rw [List.append_assoc]
    exact (List.perm_append_comm_assoc _ _ _).trans
      ((List.perm_append_comm_assoc _ _ _).append_left _)
  · rw [h.sockets, size_eq_of_holdings h.holdings, hb.paired]
  · intro q y hy
    rw [h.holdings, Option.map_eq_some_iff] at hy
    obtain ⟨z, hz, rfl⟩ := hy
    rw [h.listings_eq, ← Nat.add_assoc, ← hb.shares q z hz]
  · intro q hq
    rw [size_eq_of_holdings h.holdings] at hq
    rw [h.listings_eq, hb.known q hq, Nat.zero_add, List.count_eq_zero]
    -- an engine lists only pairs that are held, and these have been opened
    intro hmem
    exact Nat.not_lt.mpr hq (lt_size_of_isHeld (hheld q hmem))
  · rw [h.tenants]
    intro y hy
    rcases List.mem_append.mp hy with hy | hy
    · exact hb.footprints y hy
    · rw [List.mem_singleton.mp hy]
      exact h.footprint
  · rw [h.tenants, List.map_append, List.nodup_append]
    refine ⟨hb.distinct, List.nodup_singleton _, ?_⟩
    intro i hi j hj
    obtain ⟨y, hy, rfl⟩ := List.mem_map.mp hi
    rw [List.mem_singleton.mp hj, h.id]
    exact Nat.ne_of_lt (hb.numbered y hy)
  · rw [h.tenants, h.nextWatcher]
    intro y hy
    rcases List.mem_append.mp hy with hy | hy
    · exact Nat.lt_succ_of_lt (hb.numbered y hy)
    · rw [List.mem_singleton.mp hy, h.id]
      exact Nat.lt_succ_self _

namespace Created

variable {pairs : List Nat} {result : Except BenchError EngineHandle}

theorem booked (h : Created pairs b b' result) (hb : b.Booked base)
    (hheld : ∀ q ∈ pairs, b.isHeld q = true) : b'.Booked base := by
  cases h with
  | failed h => exact h.booked hb
  | made hpairs h => exact h.booked hb (hpairs ▸ hheld)

theorem isHeld_eq (h : Created pairs b b' result) (q : Nat) : b'.isHeld q = b.isHeld q := by
  cases h with
  | failed h => exact h.isHeld_eq q
  | made _ h => exact isHeld_eq_of_holdings h.holdings (fun _ _ => rfl) q

theorem sockets_size (h : Created pairs b b' result) : b'.sockets.size = b.sockets.size := by
  cases h with
  | failed h => exact h.books.sockets
  | made _ h => exact h.sockets

theorem sameUse {e : BenchError} (h : Created pairs b b' (.error e)) : SameUse b b' := by
  cases h with
  | failed h =>
    exact ⟨h.isHeld_eq, h.books.tenants, Nat.le_of_eq (congrArg Array.size h.books.holdings).symm⟩

end Created

/-! ## Destruction -/

theorem destroyEngine_cases (b : Bench) (id : Nat) :
    (∀ y ∈ b.tenants, y.id ≠ id) ∧ b.destroyEngine id = b ∨
      ∃ x, x.id = id ∧ Dismissed b (b.destroyEngine id) x := by
  unfold destroyEngine
  split
  · rename_i hlookup
    rw [List.lookup_eq_none_iff] at hlookup
    refine Or.inl ⟨?_, rfl⟩
    intro y hy
    obtain ⟨⟨i, w⟩, hmem, rfl⟩ := List.mem_map.mp hy
    exact (bne_iff_ne.mp (hlookup _ hmem)).symm
  · rename_i w hlookup
    obtain ⟨before, after, hwatchers, -⟩ := List.lookup_eq_some_iff.mp hlookup
    refine Or.inr ⟨w.tenant id, rfl, ?_⟩
    dsimp only
    rw [← List.foldl_map]
    constructor
    -- the engine's own descriptors are closed before it gives back its shares
    · intro rest haccounts
      apply accounts_unshareAll
      apply DescriptorTable.Accounts.closeAll
      exact haccounts.perm (List.perm_append_comm_assoc _ _ _)
    · exact congrArg Array.size (SharesOnly.unshareAll _ _).sockets
    · exact holdings_unshareAll _
    · rw [tenants, hwatchers]
      exact List.mem_map.mpr ⟨(id, w), by simp, rfl⟩
    · refine (SharesOnly.unshareAll _ _).tenants.trans ?_
      show (b.watchers.filter _).map _ = (b.watchers.map _).filter _
      rw [List.filter_map]
      congr 1
      apply List.filter_congr
      intro y _
      rw [Bool.eq_iff_iff, decide_eq_true_iff, Function.comp_apply, bne_iff_ne]
      rfl
    · exact (SharesOnly.unshareAll _ _).nextWatcher

theorem Dismissed.booked (h : Dismissed b b' x) (hb : b.Booked base) : b'.Booked base := by
  have hperm : b.tenants.Perm (x :: b'.tenants) := by
    rw [h.tenants]
    exact perm_cons_filter hb.distinct h.mem
  have hlistings : ∀ q, b.listings q = x.pairs.count q + b'.listings q := by
    intro q
    rw [listings, (hperm.flatMap_right Tenant.pairs).count_eq, List.flatMap_cons,
      List.count_append, listings]
  have hsub : b'.tenants ⊆ b.tenants := fun y hy => hperm.mem_iff.mpr (List.mem_cons_of_mem x hy)
  constructor
  · apply h.accounts
    apply hb.numbers.perm
    apply List.Perm.append_left
    rw [← List.append_assoc]
    exact (hperm.flatMap_right Tenant.owned).append_right base
  · rw [h.sockets, size_eq_of_holdings h.holdings, hb.paired]
  · intro q y hy
    rw [h.holdings, Option.map_eq_some_iff] at hy
    obtain ⟨z, hz, rfl⟩ := hy
    have hshares := hb.shares q z hz
    rw [hlistings] at hshares
    dsimp only
    omega
  · intro q hq
    rw [size_eq_of_holdings h.holdings] at hq
    have hnone := hb.known q hq
    rw [hlistings] at hnone
    omega
  · exact fun y hy => hb.footprints y (hsub hy)
  · have hids := (hperm.map Tenant.id).nodup_iff.mp hb.distinct
    exact (List.nodup_cons.mp hids).2
  · rw [h.nextWatcher]
    exact fun y hy => hb.numbered y (hsub hy)

theorem Booked.destroyEngine (hb : b.Booked base) (id : Nat) :
    (b.destroyEngine id).Booked base := by
  rcases b.destroyEngine_cases id with ⟨-, hsame⟩ | ⟨x, -, h⟩
  · rw [hsame]
    exact hb
  · exact h.booked hb

theorem tenants_destroyEngine (b : Bench) (id : Nat) :
    (b.destroyEngine id).tenants = b.tenants.filter (·.id != id) := by
  rcases b.destroyEngine_cases id with ⟨hnone, hsame⟩ | ⟨x, rfl, h⟩
  · rw [hsame, eq_comm, List.filter_eq_self]
    exact fun y hy => bne_iff_ne.mpr (hnone y hy)
  · exact h.tenants

theorem isHeld_destroyEngine (b : Bench) (id q : Nat) :
    (b.destroyEngine id).isHeld q = b.isHeld q := by
  rcases b.destroyEngine_cases id with ⟨-, hsame⟩ | ⟨x, -, h⟩
  · rw [hsame]
  · exact isHeld_eq_of_holdings h.holdings (fun _ _ => rfl) q

theorem size_destroyEngine (b : Bench) (id : Nat) :
    (b.destroyEngine id).holdings.size = b.holdings.size := by
  rcases b.destroyEngine_cases id with ⟨-, hsame⟩ | ⟨x, -, h⟩
  · rw [hsame]
  · exact size_eq_of_holdings h.holdings

end ReadinessBench.Bench
