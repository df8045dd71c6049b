import ReadinessBench.Proofs.Bench.Threshold

/-!
# How far descriptor sets reach

A select engine looks at the numbers of the engines' ends before it opens anything, and at the
number of its stop descriptor when that is open. On fresh pairs, which have got one number after the
other, the engines that fit are told by counting. Main statement: `limited_setup`.
-/

namespace ReadinessBench

/-- The first of these numbers that does not fit into a descriptor set. -/
def misfit? (numbers : List Nat) : Option Nat := numbers.find? (selectCapacity ≤ ·)

theorem EngineRequest.checkSelectable_misfit {watched : List Watched} {x : Nat}
    (h : misfit? (watched.map Watched.number) = some x) :
    checkSelectable watched = .error (.capacityExceeded "select" x 1024) := by
  unfold checkSelectable
  induction watched with
  | nil => cases h
  | cons w rest ih =>
    rw [misfit?, List.map_cons, List.find?_cons] at h
    rw [List.forM_cons]
    by_cases hw : selectCapacity ≤ w.number
    · simp only [hw, decide_true, Option.some.injEq] at h
      rw [← h, ensureSelectable_misfit hw]
      rfl
    · simp only [hw, decide_false] at h
      rw [ensureSelectable_natCast_iff.mpr (Nat.not_le.mp hw)]
      exact ih h

theorem lt_of_misfit?_eq_none {numbers : List Nat} {x : Nat} (h : misfit? numbers = none)
    (hx : x ∈ numbers) : x < selectCapacity := by
  simpa using List.find?_eq_none.mp h x hx

theorem misfit?_append (numbers others : List Nat) :
    misfit? (numbers ++ others) = (misfit? numbers).or (misfit? others) :=
  List.find?_append

/-- In a row of numbers the first misfit is the capacity itself, unless the row starts beyond it. -/
theorem misfit?_range' {first n : Nat} (hn : 0 < n) (hbeyond : selectCapacity < first + n) :
    misfit? (List.range' first n) = some (max first selectCapacity) := by
  rw [misfit?, List.find?_range'_eq_some]
  refine ⟨decide_eq_true (Nat.le_max_right _ _), ?_, fun x hx hlt => ?_⟩
  · rw [List.mem_range'_1]
    omega
  · have hbelow : ¬ selectCapacity ≤ x := by omega
    simp [hbelow]

namespace Bench

variable {b b' opened : Bench} {base pairs : List Nat} {p : Plan} {first n k : Nat}

/-- The numbers of the engines' ends of these pairs, in their order. -/
def endsOf (b : Bench) (pairs : List Nat) : List Nat := (pairs.map b.watchedOf).map Watched.number

/-! ## One select engine -/

/-- An end that does not fit is found before anything is done. -/
theorem create_select_of_end {x : Nat} (hexclusive : p.exclusive = false)
    (hx : misfit? (b.endsOf pairs) = some x) :
    Mechanism.select.backend.create p pairs b =
      (.error (.capacityExceeded "select" x 1024), b) := by
  have hcheck := EngineRequest.checkSelectable_misfit hx
  rw [Mechanism.create_backend]
  simp [request, createEngine, Mechanism.setup, EngineRequest.performAll, EngineRequest.perform,
    hexclusive, hcheck, Except.map, Bench.close, DescriptorTable.closeAll]

theorem endsOf_lt (h : misfit? (b.endsOf pairs) = none) :
    ∀ w ∈ pairs.map b.watchedOf, w.number < selectCapacity :=
  fun _ hw => lt_of_misfit?_eq_none h (List.mem_map_of_mem hw)

/-- If the ends fit, the stop descriptor gets the lowest free number, and that is looked at last. -/
theorem performAll_select {r : EngineRequest} (hexclusive : r.exclusive = false)
    (hmemory : Buffer.refusal? r.messageSize = none) (hample : b.IsAmple)
    (hfits : ∀ w ∈ r.watched, w.number < selectCapacity) (hallows : b.table.allows 1 = true) :
    ∃ next : Bench, next.IsAmple ∧ next.table = b.table.afterOpening 1 ∧
      r.performAll [] b Mechanism.select.setup =
        match ensureSelectable (b.table.freeNumber 0) with
        | .ok () => (.ok [b.table.freeNumber 0], next)
        | .error e => (.error e, next.close [b.table.freeNumber 0]) := by
  obtain ⟨hgiven, hnext⟩ := hample.allocate hmemory
  have hsame := (SameBooks.allocate b r.messageSize).table
  cases hasked : b.allocate r.messageSize with
  | mk refused next =>
    rw [hasked] at hgiven hnext hsame
    cases hgiven
    -- asking for the buffer leaves the table alone
    have hopen : next.openOne =
        .ok (b.table.freeNumber 0, { next with table := b.table.afterOpening 1 }) := by
      rw [Bench.openOne, show next.table = b.table from hsame,
        DescriptorTable.openOne_of_allows hallows]
      rfl
    refine ⟨{ next with table := b.table.afterOpening 1 }, hnext, rfl, ?_⟩
    simp only [Mechanism.setup, EngineRequest.performAll, EngineRequest.perform, hexclusive,
      Bool.false_and, Bool.false_eq_true, if_false, EngineRequest.checkSelectable_ok_iff.mpr hfits,
      hasked, EngineRequest.granted, hopen, Except.map, List.nil_append, List.append_nil,
      List.getLastD_cons, List.getLastD_nil]
    cases ensureSelectable (b.table.freeNumber 0) <;> rfl

theorem create_select_within (hexclusive : p.exclusive = false)
    (hmemory : Buffer.refusal? p.messageSize = none) (hample : b.IsAmple)
    (hfits : misfit? (b.endsOf pairs) = none) (hallows : b.table.allows 1 = true)
    (hlow : b.table.freeNumber 0 < selectCapacity) :
    ∃ e b', Mechanism.select.backend.create p pairs b = (.ok e, b') ∧ b'.IsAmple ∧
      b'.table = b.table.afterOpening 1 := by
  obtain ⟨next, hnext, htable, hperform⟩ :=
    performAll_select (r := request .select p pairs b) hexclusive hmemory hample
      (endsOf_lt hfits) hallows
  rw [ensureSelectable_natCast_iff.mpr hlow] at hperform
  show ∃ e b', b.createEngine (request .select p pairs b) = (.ok e, b') ∧ _
  unfold createEngine
  rw [show (request .select p pairs b).mechanism.setup = Mechanism.select.setup from rfl, hperform]
  simp only [shareWatched_eq]
  exact ⟨_, _, rfl, hnext, htable⟩

theorem create_select_beyond (hexclusive : p.exclusive = false)
    (hmemory : Buffer.refusal? p.messageSize = none) (hample : b.IsAmple)
    (hfits : misfit? (b.endsOf pairs) = none) (hallows : b.table.allows 1 = true)
    (hhigh : selectCapacity ≤ b.table.freeNumber 0) :
    (Mechanism.select.backend.create p pairs b).1 =
      .error (.capacityExceeded "select" (b.table.freeNumber 0) 1024) := by
  obtain ⟨next, -, -, hperform⟩ :=
    performAll_select (r := request .select p pairs b) hexclusive hmemory hample
      (endsOf_lt hfits) hallows
  rw [ensureSelectable_misfit hhigh] at hperform
  show (b.createEngine (request .select p pairs b)).1 = _
  unfold createEngine
  rw [show (request .select p pairs b).mechanism.setup = Mechanism.select.setup from rfl, hperform]

/-! ## Engines in a row -/

/-- Every engine finds the ends as they were, and the numbers that those before it have left. -/
theorem after_select (hexclusive : p.exclusive = false)
    (hmemory : Buffer.refusal? p.messageSize = none) (hample : b.IsAmple)
    (hfits : misfit? (b.endsOf pairs) = none) (hallows : ∀ i < k, b.table.allows (i + 1) = true)
    (hlow : ∀ i < k, b.table.freeNumber i < selectCapacity) :
    (∀ i < k, ∃ e, Mechanism.select.backend.outcome p pairs b i = .ok e) ∧
      let next := Mechanism.select.backend.after p pairs b k
      next.IsAmple ∧ next.table = b.table.afterOpening k ∧ next.endsOf pairs = b.endsOf pairs := by
  let needs (i : Nat) (c : Bench) : Prop :=
    c.IsAmple ∧ c.table = b.table.afterOpening i ∧ c.endsOf pairs = b.endsOf pairs
  have hstart : needs 0 b := ⟨hample, b.table.afterOpening_zero.symm, rfl⟩
  refine Backend.after_of_step needs hstart fun i hi c ⟨hample, htable, hends⟩ => ?_
  obtain ⟨e, next, hcreate, hnext, htable'⟩ :=
    create_select_within (b := c) hexclusive hmemory hample (hends.symm ▸ hfits)
      (htable ▸ DescriptorTable.allows_afterOpening (hallows i hi))
      (by rw [htable, DescriptorTable.freeNumber_afterOpening]; exact hlow i hi)
  refine ⟨e, next, hcreate, hnext, ?_, ?_⟩
  · rw [htable', htable, DescriptorTable.afterOpening_afterOpening]
  · rw [endsOf, funext (watchedOf_create hcreate)]
    exact hends

/-! ## The three ways in which a fleet of select engines may end -/

theorem fleet_of_end {x : Nat} (hexclusive : p.exclusive = false)
    (hroom : Fleet.isReservable k = true) (hk : 0 < k) (hx : misfit? (b.endsOf pairs) = some x) :
    let e := BenchError.capacityExceeded "select" x 1024
    Fleet.create Mechanism.select.backend p k pairs b =
      .ok (.error e, b.record (.creationRolledBack "select" 0 0 e)) := by
  have hcreate := create_select_of_end hexclusive hx
  have hfailed : Mechanism.select.backend.outcome p pairs b 0 = _ := congrArg Prod.fst hcreate
  have hsame : Mechanism.select.backend.after p pairs b 1 = b := congrArg Prod.snd hcreate
  have hnone : (List.range 0).map (Mechanism.select.backend.outcome p pairs b) =
      ([] : List EngineHandle).map .ok := rfl
  have hfleet := Fleet.create_of_failed hroom hk hnone hfailed
  rw [Nat.zero_add, hsame] at hfleet
  exact hfleet

theorem fleet_within (hexclusive : p.exclusive = false)
    (hmemory : Buffer.refusal? p.messageSize = none) (hample : b.IsAmple)
    (hroom : Fleet.isReservable k = true) (hfits : misfit? (b.endsOf pairs) = none)
    (hallows : ∀ i < k, b.table.allows (i + 1) = true)
    (hlow : ∀ i < k, b.table.freeNumber i < selectCapacity) :
    ∃ fleet final, Fleet.create Mechanism.select.backend p k pairs b = .ok (.ok fleet, final) ∧
      fleet.length = k ∧ final.table = b.table.afterOpening k := by
  obtain ⟨hmade, -, htable, -⟩ := after_select hexclusive hmemory hample hfits hallows hlow
  obtain ⟨fleet, hfleet⟩ := Backend.exists_made hmade
  exact ⟨fleet, _, Fleet.create_of_made hroom hfleet, Fleet.length_eq_of_made hfleet, htable⟩

theorem fleet_beyond {j : Nat} (hexclusive : p.exclusive = false)
    (hmemory : Buffer.refusal? p.messageSize = none) (hample : b.IsAmple)
    (hroom : Fleet.isReservable k = true) (hfits : misfit? (b.endsOf pairs) = none)
    (hallows : ∀ i < j + 1, b.table.allows (i + 1) = true)
    (hlow : ∀ i < j, b.table.freeNumber i < selectCapacity)
    (hhigh : selectCapacity ≤ b.table.freeNumber j) (hj : j < k) :
    ∃ final, Fleet.create Mechanism.select.backend p k pairs b =
      .ok (.error (.capacityExceeded "select" (b.table.freeNumber j) 1024), final) := by
  obtain ⟨hmade, hready, htable, hends⟩ := after_select hexclusive hmemory hample hfits
    (fun i hi => hallows i (Nat.lt_succ_of_lt hi)) hlow
  obtain ⟨made, hmade⟩ := Backend.exists_made hmade
  have hnumber : (Mechanism.select.backend.after p pairs b j).table.freeNumber 0 =
      b.table.freeNumber j := by
    rw [htable, DescriptorTable.freeNumber_afterOpening, Nat.add_zero]
  have hfailed : Mechanism.select.backend.outcome p pairs b j = _ :=
    create_select_beyond hexclusive hmemory hready (hends ▸ hfits)
      (htable ▸ DescriptorTable.allows_afterOpening (hallows j (Nat.lt_succ_self j)))
      (hnumber ▸ hhigh)
  rw [hnumber] at hfailed
  exact ⟨_, Fleet.create_of_failed hroom hj hmade hfailed⟩

/-! ## Setups -/

/-- The pairs have just been opened, with the numbers from `first` on, and all that follow are
free. -/
structure Fresh (first n : Nat) (pairs : List Nat) (opened : Bench) : Prop where
  ends : opened.endsOf pairs = (List.range n).map (first + 2 * ·)
  gaps : opened.table.gaps = []
  frontier : opened.table.frontier = first + 2 * n
  ample : opened.IsAmple

namespace Fresh

theorem of_openPairs (hb : b.Booked base) (hgaps : b.table.gaps = []) (hample : b.IsAmple)
    (hopen : b.openPairs n = (.ok pairs, opened)) : Fresh b.table.frontier n pairs opened := by
  obtain ⟨-, htable, hkeeps, hnumbers⟩ := openPairs_numbers hb hopen
  obtain ⟨hfresh, hfrontier⟩ := DescriptorTable.afterOpening_fresh hgaps (2 * n)
  rw [← htable] at hfresh hfrontier
  refine ⟨?_, hfresh, hfrontier, hkeeps hample⟩
  rw [endsOf, hnumbers]
  exact List.map_congr_left fun i _ => DescriptorTable.freeNumber_of_fresh hgaps _

theorem freeNumber (h : Fresh first n pairs opened) (i : Nat) :
    opened.table.freeNumber i = first + 2 * n + i := by
  rw [DescriptorTable.freeNumber_of_fresh h.gaps, h.frontier]

/-- Every end lies below the stop descriptors. -/
theorem beyond_of_misfit {x : Nat} (h : Fresh first n pairs opened)
    (hx : misfit? (opened.endsOf pairs) = some x) : 1024 < first + 2 * n := by
  have hhigh := List.find?_some hx
  have hmem := List.mem_of_find?_eq_some hx
  rw [h.ends, List.mem_map] at hmem
  obtain ⟨i, hi, rfl⟩ := hmem
  have hlt := List.mem_range.mp hi
  have hle : 1024 ≤ first + 2 * i := of_decide_eq_true hhigh
  omega

/-- If the last end fits, the stop descriptors do not begin far beyond. -/
theorem le_of_fits (h : Fresh first n pairs opened) (hn : 0 < n)
    (hfits : misfit? (opened.endsOf pairs) = none) : first + 2 * n ≤ 1025 := by
  rw [h.ends] at hfits
  have hlast : first + 2 * (n - 1) < 1024 :=
    lt_of_misfit?_eq_none hfits (List.mem_map_of_mem (List.mem_range.mpr (by omega)))
  omega

theorem allows (h : Fresh first n pairs opened) (hbegin : first + 2 * n ≤ 1025)
    (hbudget : ∀ left, opened.table.budget = some left → k ≤ left) :
    ∀ i < k, i ≤ 1024 - (first + 2 * n) → opened.table.allows (i + 1) = true := by
  intro i hi hnear
  have hlimit : DescriptorTable.numberLimit = 1048576 := rfl
  have hroom : opened.table.frontier + (i + 1) ≤ DescriptorTable.numberLimit := by
    rw [h.frontier, hlimit]
    omega
  exact DescriptorTable.allows_of_fresh h.gaps hroom fun left hleft =>
    Nat.le_trans hi (hbudget left hleft)

end Fresh

/-- What becomes of `k` select engines on `n` pairs that have got the numbers from `first` on. -/
structure Limited (first n k : Nat) (pairs : List Nat) (opened : Bench)
    (result : Except BenchError Fleet) (final : Bench) : Prop where
  ends : opened.endsOf pairs = (List.range n).map (first + 2 * ·)
  succeeds : (∃ fleet, result = .ok fleet) ↔ first + 2 * n + k ≤ 1024
  whole : ∀ fleet, result = .ok fleet →
    fleet.length = k ∧ final.table = opened.table.afterOpening k
  /-- The stop descriptors come after all the pairs. -/
  refused : ∀ e, result = .error e →
    ∃ x, misfit? (opened.endsOf pairs ++ List.range' (first + 2 * n) k) = some x ∧
      e = .capacityExceeded "select" x 1024
  /-- If an end does not fit, nothing is done but to say so. -/
  untouched : ∀ e x, result = .error e → misfit? (opened.endsOf pairs) = some x →
    final = opened.record (.creationRolledBack "select" 0 0 e)
  closed : ∀ e, result = .error e →
    ∀ numbers, opened.table.Accounts numbers → final.table.Accounts numbers

/-- A refusal leaves only one error and one state to look at. -/
theorem Limited.of_error {x : Nat} {final : Bench}
    (hends : opened.endsOf pairs = (List.range n).map (first + 2 * ·))
    (hbeyond : 1024 < first + 2 * n + k)
    (hx : misfit? (opened.endsOf pairs ++ List.range' (first + 2 * n) k) = some x)
    (huntouched : ∀ y, misfit? (opened.endsOf pairs) = some y →
      final = opened.record (.creationRolledBack "select" 0 0 (.capacityExceeded "select" x 1024)))
    (hclosed : ∀ numbers, opened.table.Accounts numbers → final.table.Accounts numbers) :
    Limited first n k pairs opened (.error (.capacityExceeded "select" x 1024)) final where
  ends := hends
  succeeds := ⟨nofun, fun hfit => absurd hfit (Nat.not_le.mpr hbeyond)⟩
  whole := nofun
  refused e he := by
    cases he
    exact ⟨x, hx, rfl⟩
  untouched e y he hy := by
    cases he
    exact huntouched y hy
  closed e he := by
    cases he
    exact hclosed

theorem Limited.result_eq {x : Nat} {result : Except BenchError Fleet} {final : Bench}
    (h : Limited first n k pairs opened result final) (hbeyond : 1024 < first + 2 * n + k)
    (hx : misfit? (opened.endsOf pairs ++ List.range' (first + 2 * n) k) = some x) :
    result = .error (.capacityExceeded "select" x 1024) := by
  cases result with
  | ok fleet => exact absurd (h.succeeds.mp ⟨fleet, rfl⟩) (Nat.not_le.mpr hbeyond)
  | error e =>
    obtain ⟨y, hy, rfl⟩ := h.refused e rfl
    rw [hx] at hy
    cases hy
    rfl

/-- **How many select engines fit.** They are created on pairs opened just before, above all numbers
that are taken, by a process that lacks neither memory nor descriptors: `hmemory` speaks of the
message buffers, `hroom` of the memory the set asks for to keep its engines in, which no number of
engines that is anywhere near the capacity can miss, and `hample` of everything else. -/
theorem limited_setup (start opened : Bench) (base pairs : List Nat) (p : Plan) (n k : Nat)
    (hb : start.Booked base) (hgaps : start.table.gaps = []) (hample : start.IsAmple)
    (hexclusive : p.exclusive = false) (hmemory : Buffer.refusal? p.messageSize = none)
    (hroom : Fleet.isReservable k = true) (hn : 0 < n) (hk : 0 < k)
    (hopen : start.openPairs n = (.ok pairs, opened))
    (hbudget : ∀ left, opened.table.budget = some left → k ≤ left) :
    ∃ result final, Fleet.create Mechanism.select.backend p k pairs opened = .ok (result, final) ∧
      Limited start.table.frontier n k pairs opened result final := by
  have hfresh := Fresh.of_openPairs hb hgaps hample hopen
  have hclosed : ∀ e final,
      Fleet.create Mechanism.select.backend p k pairs opened = .ok (.error e, final) →
      ∀ numbers, opened.table.Accounts numbers → final.table.Accounts numbers :=
    fun _ _ hcreate _ =>
      Fleet.accounts_of_error Mechanism.select.onBench (hb.of_openPairs hopen)
        (hb.isHeld_openPairs hopen) hcreate
  cases hmisfit : misfit? (opened.endsOf pairs) with
  | some x =>
    have hbeyond := hfresh.beyond_of_misfit hmisfit
    have hcreate := fleet_of_end hexclusive hroom hk hmisfit
    refine ⟨_, _, hcreate, .of_error hfresh.ends (Nat.lt_add_right k hbeyond) ?_ (fun _ _ => rfl)
      (hclosed _ _ hcreate)⟩
    rw [misfit?_append, hmisfit, Option.some_or]
  | none =>
    -- only stop descriptors can still be too high
    have hallows := hfresh.allows (hfresh.le_of_fits hn hmisfit) hbudget
    by_cases hfit : start.table.frontier + 2 * n + k ≤ 1024
    · have hlow : ∀ i < k, opened.table.freeNumber i < selectCapacity := fun i hi => by
        rw [hfresh.freeNumber]
        exact Nat.lt_of_lt_of_le (Nat.add_lt_add_left hi _) hfit
      obtain ⟨fleet, final, hcreate, hlength, htable⟩ := fleet_within hexclusive hmemory
        hfresh.ample hroom hmisfit (fun i hi => hallows i hi (by omega)) hlow
      refine ⟨_, final, hcreate, hfresh.ends, ⟨fun _ => hfit, fun _ => ⟨fleet, rfl⟩⟩, ?_, nofun,
        nofun, nofun⟩
      intro made hmade
      cases hmade
      exact ⟨hlength, htable⟩
    · -- the first engine whose stop descriptor does not fit is the one that fails
      let j := 1024 - (start.table.frontier + 2 * n)
      have hnumber : opened.table.freeNumber j = max (start.table.frontier + 2 * n) 1024 := by
        rw [hfresh.freeNumber]
        omega
      have hlow : ∀ i < j, opened.table.freeNumber i < selectCapacity := fun i hi => by
        rw [hfresh.freeNumber]
        show _ < 1024
        omega
      obtain ⟨final, hcreate⟩ := fleet_beyond hexclusive hmemory hfresh.ample hroom hmisfit
        (fun i hi => hallows i (by omega) (Nat.lt_succ_iff.mp hi)) hlow
        (hnumber ▸ Nat.le_max_right _ _) (by omega)
      rw [hnumber] at hcreate
      refine ⟨_, final, hcreate,
        .of_error hfresh.ends (Nat.not_le.mp hfit) ?_ (fun y hy => ?_) (hclosed _ _ hcreate)⟩
      · rw [misfit?_append, hmisfit, Option.none_or]
        exact misfit?_range' hk (Nat.not_le.mp hfit)
      · rw [hmisfit] at hy
        cases hy

/-- Two engines fit on two pairs from number 1018 on, and a third one does not. On three pairs from
number 1019 on, whose last end is the last number that fits, not even the first engine does. -/
theorem limited_setup_last :
    let p : Plan := ⟨.select, 3, 2, 1, false, usualDuration, by decide, by decide, by decide,
      by decide, by decide⟩
    let start (first : Nat) : Bench := { table := { frontier := first, budget := some 7 } }
    let opened (first n : Nat) : Bench := ((start first).openPairs n).2
    let create (first n k : Nat) :=
      Fleet.create Mechanism.select.backend p k (List.range n) (opened first n)
    (∃ fleet final, create 1018 2 2 = .ok (.ok fleet, final) ∧ fleet.length = 2) ∧
    (∃ final, create 1018 2 3 = .ok (.error (.capacityExceeded "select" 1024 1024), final) ∧
      ∀ numbers, (opened 1018 2).table.Accounts numbers → final.table.Accounts numbers) ∧
    ∃ final, create 1019 3 1 = .ok (.error (.capacityExceeded "select" 1025 1024), final) := by
  intro p start opened create
  have hsetup : ∀ first n k, 0 < n → 0 < k → Fleet.isReservable k = true →
      (start first).openPairs n = (.ok (List.range n), opened first n) →
      (∀ left, (opened first n).table.budget = some left → k ≤ left) →
      ∃ result final, create first n k = .ok (result, final) ∧
        Limited first n k (List.range n) (opened first n) result final :=
    fun first n k hn hk hroom hopen hbudget => limited_setup (start first) _ (List.range first) _ p
      n k (booked_start (List.Perm.refl _)) rfl ⟨nofun, nofun⟩ rfl (by decide) hroom hn hk hopen
      hbudget
  refine ⟨?_, ?_, ?_⟩
  · obtain ⟨_, final, hcreate, h⟩ := hsetup 1018 2 2 (by decide) (by decide) (by decide) rfl
      fun left hleft => by cases hleft; decide
    obtain ⟨fleet, rfl⟩ := h.succeeds.mpr (by decide)
    exact ⟨fleet, final, hcreate, (h.whole fleet rfl).1⟩
  · obtain ⟨_, final, hcreate, h⟩ := hsetup 1018 2 3 (by decide) (by decide) (by decide) rfl
      fun left hleft => by cases hleft; decide
    obtain rfl := h.result_eq (x := 1024) (by decide) rfl
    exact ⟨final, hcreate, h.closed _ rfl⟩
  · obtain ⟨_, final, hcreate, h⟩ := hsetup 1019 3 1 (by decide) (by decide) (by decide) rfl
      fun left hleft => by cases hleft; decide
    obtain rfl := h.result_eq (x := 1025) (by decide) rfl
    exact ⟨final, hcreate⟩

end Bench

end ReadinessBench
