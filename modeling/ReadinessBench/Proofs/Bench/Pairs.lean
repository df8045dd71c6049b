import ReadinessBench.Proofs.Bench.Shares

/-!
# Pairs in the books

Opening pairs and dropping them keep the books right, and pairs that could not all be opened leave
no trace in the use of the bench.
-/

namespace ReadinessBench.Bench

variable {b b' : Bench} {base : List Nat} {pair q : Nat}

theorem holds_iff : b.isHeld pair = true ↔ ∃ h, b.holdings[pair]? = some h ∧ h.held = true := by
  unfold isHeld
  cases b.holdings[pair]? with
  | none => simp
  | some h => simp

/-! ## Dropping -/

theorem dropPair_of_not_held (hpair : b.isHeld pair = false) : b.dropPair pair = b := by
  unfold dropPair
  split
  · rfl
  · rename_i h hh
    rw [isHeld, hh] at hpair
    change h.held = false at hpair
    rw [hpair]
    rfl

theorem dropPair_of_held {h : Holding} (hpair : b.holdings[pair]? = some h)
    (hheld : h.held = true) :
    b.dropPair pair = ({ b with
      table := b.table.closeAll [h.generatorNumber]
      sockets := b.sockets.modify pair (·.shutdown .generator .both)
      holdings := b.holdings.modify pair .letGo } : Bench).unshare pair := by
  rw [dropPair, ← setIfInBounds_eq_modify hpair]
  simp only [hpair, hheld, if_true]
  rfl

theorem holdings_dropPair {h : Holding} (hpair : b.holdings[pair]? = some h)
    (hheld : h.held = true) :
    (b.dropPair pair).holdings = (b.holdings.modify pair .letGo).modify pair .giveBack := by
  rw [dropPair_of_held hpair hheld, holdings_unshare]

theorem tenants_dropPair : (b.dropPair pair).tenants = b.tenants := by
  cases hpair : b.isHeld pair with
  | false => rw [dropPair_of_not_held hpair]
  | true =>
    obtain ⟨h, hh, hheld⟩ := holds_iff.mp hpair
    rw [dropPair_of_held hh hheld, (SharesOnly.unshare _ pair).tenants]
    rfl

theorem size_dropPair : (b.dropPair pair).holdings.size = b.holdings.size := by
  cases hpair : b.isHeld pair with
  | false => rw [dropPair_of_not_held hpair]
  | true =>
    obtain ⟨h, hh, hheld⟩ := holds_iff.mp hpair
    rw [holdings_dropPair hh hheld, Array.size_modify, Array.size_modify]

theorem isHeld_dropPair : (b.dropPair pair).isHeld q = (b.isHeld q && q != pair) := by
  cases hpair : b.isHeld pair with
  | false =>
    rw [dropPair_of_not_held hpair]
    by_cases hq : q = pair
    · rw [hq, hpair, Bool.false_and]
    · rw [bne_iff_ne.mpr hq, Bool.and_true]
  | true =>
    obtain ⟨h, hh, hheld⟩ := holds_iff.mp hpair
    rw [isHeld, holdings_dropPair hh hheld, Array.getElem?_modify, Array.getElem?_modify]
    by_cases hq : pair = q
    · rw [if_pos hq, if_pos hq, ← hq, hh, bne_self_eq_false, Bool.and_false]
      rfl
    · rw [if_neg hq, if_neg hq, bne_iff_ne.mpr (Ne.symm hq), Bool.and_true]
      rfl

theorem Booked.dropPair (hb : b.Booked base) (pair : Nat) : (b.dropPair pair).Booked base := by
  cases hpair : b.isHeld pair with
  | false =>
    rw [dropPair_of_not_held hpair]
    exact hb
  | true =>
    obtain ⟨h, hh, hheld⟩ := holds_iff.mp hpair
    have htenants : (b.dropPair pair).tenants = b.tenants := tenants_dropPair
    have hlistings : ∀ q, (b.dropPair pair).listings q = b.listings q := fun q => by
      rw [listings, listings, htenants]
    constructor
    -- the generator's end is closed first, then the pair's share in the engines' end given back
    · rw [ownNumbers, htenants, dropPair_of_held hh hheld]
      apply accounts_unshare
      apply DescriptorTable.Accounts.closeAll
      rw [← List.append_assoc]
      apply hb.numbers.perm
      apply List.Perm.append_right
      exact endNumbers_modify hh (by rw [Holding.numbers_letGo hheld]) rfl
    · rw [size_dropPair, dropPair_of_held hh hheld, (SharesOnly.unshare _ pair).sockets]
      exact Array.size_modify.trans hb.paired
    · intro q x hx
      rw [holdings_dropPair hh hheld, Array.getElem?_modify, Array.getElem?_modify] at hx
      rw [hlistings]
      by_cases hq : pair = q
      -- the pair no longer counts itself, and it has given back one share
      · rw [if_pos hq, if_pos hq, ← hq, hh] at hx
        obtain rfl := Option.some.inj hx
        have hshares := hb.shares pair h hh
        rw [hheld, hq] at hshares
        show h.shares - 1 = 0 + b.listings q
        rw [hshares, Bool.toNat_true]
        omega
      · rw [if_neg hq, if_neg hq] at hx
        exact hb.shares q x hx
    · intro q hq
      rw [size_dropPair] at hq
      rw [hlistings]
      exact hb.known q hq
    · rw [htenants]
      exact hb.footprints
    · rw [htenants]
      exact hb.distinct
    · rw [htenants, dropPair_of_held hh hheld, (SharesOnly.unshare _ pair).nextWatcher]
      exact hb.numbered

theorem Booked.dropAll (hb : b.Booked base) (pairs : List Nat) :
    (pairs.foldl Bench.dropPair b).Booked base := by
  induction pairs generalizing b with
  | nil => exact hb
  | cons pair rest ih => exact ih (hb.dropPair pair)

theorem tenants_dropAll (pairs : List Nat) : (pairs.foldl dropPair b).tenants = b.tenants :=
  foldl_keeps tenants (fun _ _ => tenants_dropPair) b pairs

theorem size_dropAll (pairs : List Nat) :
    (pairs.foldl dropPair b).holdings.size = b.holdings.size :=
  foldl_keeps (fun b => b.holdings.size) (fun _ _ => size_dropPair) b pairs

theorem isHeld_dropAll (pairs : List Nat) :
    (pairs.foldl dropPair b).isHeld q = (b.isHeld q && !pairs.contains q) := by
  induction pairs generalizing b with
  | nil => exact (Bool.and_true _).symm
  | cons pair rest ih =>
    rw [List.foldl_cons, ih, isHeld_dropPair, List.contains_cons, Bool.not_or, Bool.and_assoc]
    rfl

/-! ## Opening -/

theorem isHeld_addPair {engine generator : Nat} {table : DescriptorTable} :
    (b.addPair engine generator table).isHeld q = (b.isHeld q || q == b.holdings.size) := by
  rw [isHeld, addPair, Array.getElem?_push]
  by_cases hq : q = b.holdings.size
  · rw [if_pos hq, beq_iff_eq.mpr hq, Bool.or_true]
    rfl
  · rw [if_neg hq, beq_eq_false_iff_ne.mpr hq, Bool.or_false]
    rfl

theorem Booked.addPair {engine generator : Nat} {table : DescriptorTable} (hb : b.Booked base)
    (hopen : b.table.openTwo = .ok (engine, generator, table)) :
    (b.addPair engine generator table).Booked base := by
  constructor
  · have hends : (b.addPair engine generator table).endNumbers =
        b.endNumbers ++ [generator, engine] := by
      rw [endNumbers, Bench.addPair, Array.toList_push, List.flatMap_append]
      rfl
    rw [hends]
    apply (hb.numbers.openTwo hopen).perm
    rw [List.append_assoc]
    exact List.perm_append_comm_assoc [generator, engine] _ _
  · rw [Bench.addPair, Array.size_push, Array.size_push, hb.paired]
  · intro q x hx
    rw [Bench.addPair, Array.getElem?_push] at hx
    split at hx
    -- no engine can have listed a pair that is only now added
    · rename_i hq
      obtain rfl := Option.some.inj hx
      show 1 = 1 + b.listings q
      rw [hb.known q (Nat.le_of_eq hq.symm)]
    · exact hb.shares q x hx
  · intro q hq
    rw [Bench.addPair, Array.size_push] at hq
    exact hb.known q (Nat.le_of_succ_le hq)
  · exact hb.footprints
  · exact hb.distinct
  · exact hb.numbered

theorem Booked.openMore (hb : b.Booked base) (made : List Nat) (n : Nat) :
    (openMore made n b).2.Booked base := by
  induction n generalizing b made with
  | zero => exact (SameBooks.record b _).booked hb
  | succ n ih =>
    rw [Bench.openMore]
    split
    · rename_i hopen
      exact ih (hb.addPair hopen) _
    · exact hb.dropAll made

theorem openMore_error {made : List Nat} {n : Nat} {e : BenchError}
    (hpaired : b.sockets.size = b.holdings.size) (h : openMore made n b = (.error e, b')) :
    b'.tenants = b.tenants ∧ b.holdings.size ≤ b'.holdings.size ∧
      ∀ q, b'.isHeld q = (b.isHeld q && !made.contains q) := by
  induction n generalizing b made with
  | zero => cases h
  | succ n ih =>
    rw [openMore] at h
    split at h
    · rename_i engine generator table hopen
      have hadded : (b.addPair engine generator table).sockets.size =
          (b.addPair engine generator table).holdings.size := by
        rw [addPair, Array.size_push, Array.size_push, hpaired]
      obtain ⟨htenants, hsize, hheld⟩ := ih hadded h
      refine ⟨htenants, ?_, ?_⟩
      · rw [addPair, Array.size_push] at hsize
        exact Nat.le_of_succ_le hsize
      · intro q
        -- the pair that was added has been dropped with those made before
        rw [hheld, isHeld_addPair, List.contains_cons, hpaired]
        by_cases hq : q = b.holdings.size
        · have hnone : b.isHeld q = false := isHeld_of_size_le (Nat.le_of_eq hq.symm)
          rw [hnone, hq, beq_self_eq_true, Bool.true_or, Bool.not_true, Bool.and_false,
            Bool.false_and]
        · rw [beq_eq_false_iff_ne.mpr hq, Bool.or_false, Bool.false_or]
    · obtain rfl := (Prod.mk.inj h).2
      exact ⟨tenants_dropAll made, Nat.le_of_eq (size_dropAll made).symm,
        fun q => isHeld_dropAll made⟩

theorem openMore_ok {made pairs : List Nat} {n : Nat} (hpaired : b.sockets.size = b.holdings.size)
    (h : openMore made n b = (.ok pairs, b')) :
    pairs = made.reverse ++ List.range' b.holdings.size n ∧ b'.tenants = b.tenants ∧
      b'.holdings.size = b.holdings.size + n ∧
      ∀ q, b'.isHeld q = (b.isHeld q || (List.range' b.holdings.size n).contains q) := by
  induction n generalizing b made with
  | zero =>
    cases h
    exact ⟨(List.append_nil _).symm, rfl, rfl, fun q => (Bool.or_false _).symm⟩
  | succ n ih =>
    rw [openMore] at h
    split at h
    · rename_i engine generator table hopen
      have hadded : (b.addPair engine generator table).sockets.size =
          (b.addPair engine generator table).holdings.size := by
        rw [addPair, Array.size_push, Array.size_push, hpaired]
      have hsize : (b.addPair engine generator table).holdings.size = b.holdings.size + 1 := by
        rw [addPair, Array.size_push]
      obtain ⟨hpairs, htenants, hgrown, hheld⟩ := ih hadded h
      rw [hsize] at hpairs hgrown
      refine ⟨?_, htenants, by omega, fun q => ?_⟩
      · rw [hpairs, List.reverse_cons, List.append_assoc, hpaired, List.range'_succ]
        rfl
      · rw [hheld, isHeld_addPair, hsize, List.range'_succ, List.contains_cons, Bool.or_assoc]
    · cases h

theorem Booked.openPairs (hb : b.Booked base) (count : Nat) : (b.openPairs count).2.Booked base :=
  hb.openMore [] count

theorem Booked.of_openPairs {count : Nat} {result : Except BenchError (List Nat)}
    (hb : b.Booked base) (h : b.openPairs count = (result, b')) : b'.Booked base := by
  have hbooked := hb.openPairs count
  rwa [h] at hbooked

theorem Booked.openPairs_error {count : Nat} {e : BenchError} (hb : b.Booked base)
    (h : b.openPairs count = (.error e, b')) : SameUse b b' := by
  obtain ⟨htenants, hsize, hheld⟩ := openMore_error hb.paired h
  refine ⟨fun q => ?_, htenants, hsize⟩
  rw [hheld, List.contains_nil, Bool.not_false, Bool.and_true]

theorem Booked.openPairs_ok {count : Nat} {pairs : List Nat} (hb : b.Booked base)
    (h : b.openPairs count = (.ok pairs, b')) :
    pairs = List.range' b.holdings.size count ∧ b'.tenants = b.tenants ∧
      b'.holdings.size = b.holdings.size + count ∧
      ∀ q, b'.isHeld q = (b.isHeld q || pairs.contains q) := by
  obtain ⟨hpairs, htenants, hsize, hheld⟩ := openMore_ok hb.paired h
  rw [List.reverse_nil, List.nil_append] at hpairs
  exact ⟨hpairs, htenants, hsize, hpairs ▸ hheld⟩

theorem Booked.isHeld_openPairs {count : Nat} {pairs : List Nat} (hb : b.Booked base)
    (h : b.openPairs count = (.ok pairs, b')) : ∀ q ∈ pairs, b'.isHeld q = true := by
  intro q hq
  rw [(hb.openPairs_ok h).2.2.2, List.contains_iff_mem.mpr hq, Bool.or_true]

/-- Pairs that are dropped again leave no trace in the use of the bench. -/
theorem Booked.openPairs_undone {count : Nat} {pairs : List Nat} {b'' : Bench}
    (hb : b.Booked base) (h : b.openPairs count = (.ok pairs, b')) (hsame : SameUse b' b'') :
    SameUse b (b''.dropPairs pairs) := by
  obtain ⟨hpairs, htenants, hsize, hheld⟩ := hb.openPairs_ok h
  refine ⟨fun q => ?_, (tenants_dropAll _).trans (hsame.tenants.trans htenants), ?_⟩
  · rw [dropPairs, isHeld_dropAll, hsame.isHeld, hheld, List.contains_reverse]
    cases hq : pairs.contains q with
    | false => simp
    | true =>
      -- a pair that was opened was not there before
      have hnew : b.holdings.size ≤ q := by
        have hmem := List.contains_iff_mem.mp hq
        rw [hpairs, List.mem_range'_1] at hmem
        exact hmem.1
      rw [isHeld_of_size_le hnew]
      rfl
  · have hle := hsame.size_le
    have hkeep : (b''.dropPairs pairs).holdings.size = b''.holdings.size := size_dropAll _
    omega

end ReadinessBench.Bench
