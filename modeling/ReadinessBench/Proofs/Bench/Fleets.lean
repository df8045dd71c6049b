import ReadinessBench.Proofs.Bench.Tenancy

/-!
# Fleets in the books

A fleet that cannot be completed leaves the same engines at work as before: each of those made for
it has a number of its own, so taking them back takes back no other. This holds of any backend whose
engines are those of a bench.
-/

namespace ReadinessBench

open Bench

variable {State : Type} {k : Backend State} {s s' : State} {base pairs : List Nat} {p : Plan}

/-! ## Backends of a bench -/

/-- The engines of a backend are those at work on its bench, whatever else it keeps. -/
structure Backend.OnBench (k : Backend State) : Prop where
  bench_setBench : ∀ b s, k.bench (k.setBench b s) = b
  create : ∀ {p pairs s result s'}, k.create p pairs s = (result, s') →
    Created pairs (k.bench s) (k.bench s') result
  destroy : ∀ e s, k.bench (k.destroy e s) = (k.bench s).destroyEngine e.id

theorem Mechanism.onBench (m : Mechanism) : m.backend.OnBench where
  bench_setBench _ _ := rfl
  create {p pairs b result b'} h := by
    rw [m.create_backend] at h
    rw [← map_pair_request m p pairs b]
    exact createEngine_cases h
  destroy _ _ := rfl

theorem Backend.OnBench.bench_record (hk : k.OnBench) (e : Event) (s : State) :
    k.bench (k.record e s) = (k.bench s).record e := by
  rw [record, update, hk.bench_setBench]

/-! ## Destruction of a fleet -/

namespace Bench

variable {b b' c : Bench}

/-- Those at work that are none of these engines. -/
def tenantsBut (b : Bench) (engines : List EngineHandle) : List Tenant :=
  b.tenants.filter fun x => !(engines.map EngineHandle.id).contains x.id

theorem tenantsBut_nil (b : Bench) : b.tenantsBut [] = b.tenants :=
  List.filter_eq_self.mpr fun _ _ => rfl

theorem tenantsBut_reverse (b : Bench) (engines : List EngineHandle) :
    b.tenantsBut engines.reverse = b.tenantsBut engines := by
  simp [tenantsBut]

theorem tenantsBut_congr (h : b'.tenants = b.tenants) (engines : List EngineHandle) :
    b'.tenantsBut engines = b.tenantsBut engines := by
  rw [tenantsBut, h, tenantsBut]

theorem Booked.destroyAll (hk : k.OnBench) (hb : (k.bench s).Booked base)
    (engines : List EngineHandle) : (k.bench (k.destroyAll engines s)).Booked base := by
  induction engines generalizing s with
  | nil => exact hb
  | cons e rest ih =>
    refine ih (s := k.destroy e s) ?_
    rw [hk.destroy]
    exact hb.destroyEngine e.id

theorem isHeld_destroyAll (hk : k.OnBench) (engines : List EngineHandle) (s : State) (q : Nat) :
    (k.bench (k.destroyAll engines s)).isHeld q = (k.bench s).isHeld q :=
  foldl_keeps (fun s => (k.bench s).isHeld q)
    (fun s e => by rw [hk.destroy, isHeld_destroyEngine]) s engines

theorem size_destroyAll (hk : k.OnBench) (engines : List EngineHandle) (s : State) :
    (k.bench (k.destroyAll engines s)).holdings.size = (k.bench s).holdings.size :=
  foldl_keeps (fun s => (k.bench s).holdings.size)
    (fun s e => by rw [hk.destroy, size_destroyEngine]) s engines

theorem tenants_destroyAll (hk : k.OnBench) (engines : List EngineHandle) (s : State) :
    (k.bench (k.destroyAll engines s)).tenants = (k.bench s).tenantsBut engines := by
  induction engines generalizing s with
  | nil => exact (tenantsBut_nil _).symm
  | cons e rest ih =>
    show (k.bench (k.destroyAll rest (k.destroy e s))).tenants = _
    rw [ih, tenantsBut, hk.destroy, tenants_destroyEngine, List.filter_filter, tenantsBut]
    congr 1
    funext x
    rw [List.map_cons, List.contains_cons, Bool.not_or, Bool.and_comm]
    rfl

end Bench

/-! ## Creation of a fleet -/

namespace Fleet

/-- Of the engines of a fleet, as far as it comes, none is left when it fails, and all of them are
there when it does not. Those that had been at work before still are. -/
theorem extend_cases {made : List EngineHandle} {n : Nat} {result : Except BenchError Fleet}
    (hk : k.OnBench) (hb : (k.bench s).Booked base)
    (hheld : ∀ q ∈ pairs, (k.bench s).isHeld q = true)
    (h : extend k p pairs made n s = (result, s')) :
    (k.bench s').Booked base ∧ (∀ q, (k.bench s').isHeld q = (k.bench s).isHeld q) ∧
      (k.bench s').holdings.size = (k.bench s).holdings.size ∧
      (k.bench s').tenantsBut (result.toOption.getD []) = (k.bench s).tenantsBut made := by
  induction n generalizing made s with
  | zero =>
    cases h
    exact ⟨hb, fun _ => rfl, rfl, tenantsBut_reverse _ made⟩
  | succ n ih =>
    rw [extend] at h
    cases hcreate : k.create p pairs s with
    | mk outcome next =>
      rw [hcreate] at h
      have hcreated := hk.create hcreate
      have hbooked := hcreated.booked hb hheld
      cases hcreated with
      -- the event changes no book, and then the engines made before are taken back
      | @failed e hacquired =>
        cases h
        have hsame := SameBooks.record (k.bench next)
          (.creationRolledBack k.name made.length made.length e)
        rw [← hk.bench_record] at hsame
        refine ⟨.destroyAll hk (hsame.booked hbooked) made, fun q => ?_, ?_, ?_⟩
        · rw [isHeld_destroyAll hk, hk.bench_record]
          exact hacquired.isHeld_eq q
        · rw [size_destroyAll hk, hsame.holdings]
          exact congrArg Array.size hacquired.books.holdings
        · show tenantsBut _ [] = _
          rw [tenantsBut_nil, tenants_destroyAll hk]
          exact tenantsBut_congr (hsame.tenants.trans hacquired.books.tenants) made
      | @made x workers hpairs hadmitted =>
        have hsame : ∀ q, (k.bench next).isHeld q = (k.bench s).isHeld q :=
          isHeld_eq_of_holdings hadmitted.holdings fun _ _ => rfl
        obtain ⟨hrest, hhelds, hsize, hothers⟩ :=
          ih hbooked (fun q hq => (hsame q).trans (hheld q hq)) h
        refine ⟨hrest, fun q => (hhelds q).trans (hsame q),
          hsize.trans (size_eq_of_holdings hadmitted.holdings), hothers.trans ?_⟩
        -- the engine made last is gone, and no other has its number
        rw [tenantsBut, hadmitted.tenants, List.filter_append, List.map_cons]
        have hnewest : [x].filter
            (fun y => !(x.id :: made.map EngineHandle.id).contains y.id) = [] := by
          rw [List.filter_cons_of_neg (by simp), List.filter_nil]
        rw [hnewest, List.append_nil]
        apply List.filter_congr
        intro y hy
        have hother : (y.id == x.id) = false := by
          rw [beq_eq_false_iff_ne, hadmitted.id]
          exact Nat.ne_of_lt (hb.numbered y hy)
        rw [List.contains_cons, hother, Bool.false_or]

variable {count : Nat}

/-- A fleet that could not be created has changed neither the pairs nor the engines at work. -/
theorem create_error {e : BenchError} (hk : k.OnBench) (hb : (k.bench s).Booked base)
    (hheld : ∀ q ∈ pairs, (k.bench s).isHeld q = true)
    (h : create k p count pairs s = .ok (.error e, s')) : SameUse (k.bench s) (k.bench s') := by
  unfold create at h
  split at h
  · obtain ⟨-, hsame, hsize, hothers⟩ := extend_cases hk hb hheld (Except.ok.inj h)
    exact ⟨hsame, (tenantsBut_nil _).symm.trans (hothers.trans (tenantsBut_nil _)),
      Nat.le_of_eq hsize.symm⟩
  · cases h

theorem create_booked {result : Except BenchError Fleet} (hk : k.OnBench)
    (hb : (k.bench s).Booked base) (hheld : ∀ q ∈ pairs, (k.bench s).isHeld q = true)
    (h : create k p count pairs s = .ok (result, s')) : (k.bench s').Booked base := by
  unfold create at h
  split at h
  · exact (extend_cases hk hb hheld (Except.ok.inj h)).1
  · cases h

/-- A fleet that is destroyed again has changed neither. -/
theorem create_undone {fleet : Fleet} {t : State} (hk : k.OnBench) (hb : (k.bench s).Booked base)
    (hheld : ∀ q ∈ pairs, (k.bench s).isHeld q = true)
    (h : create k p count pairs s = .ok (.ok fleet, s'))
    (hsame : SameBooks (k.bench s') (k.bench t)) :
    SameUse (k.bench s) (k.bench (fleet.destroy k t)) := by
  unfold create at h
  split at h
  · obtain ⟨-, hhelds, hsize, hothers⟩ := extend_cases hk hb hheld (Except.ok.inj h)
    refine ⟨fun q => ?_, ?_, Nat.le_of_eq ?_⟩
    · rw [destroy, isHeld_destroyAll hk, isHeld, hsame.holdings]
      exact hhelds q
    · rw [destroy, tenants_destroyAll hk, tenantsBut_reverse, tenantsBut_congr hsame.tenants]
      exact hothers.trans (tenantsBut_nil _)
    · rw [destroy, size_destroyAll hk, hsame.holdings, hsize]
  · cases h

end Fleet

/-! ## What a failed fleet leaves open -/

/-- What of a pair does not change while engines come and go. -/
def Holding.ends (h : Holding) : Nat × Nat × Bool := (h.generatorNumber, h.engineNumber, h.held)

namespace Bench

variable {b b' c : Bench}

/-- The same pairs are there, with the same numbers and the same holders. -/
def SameEnds (b b' : Bench) : Prop :=
  ∀ q : Nat, b'.holdings[q]?.map Holding.ends = b.holdings[q]?.map Holding.ends

namespace SameEnds

theorem refl (b : Bench) : SameEnds b b := fun _ => rfl

theorem trans (h : SameEnds b b') (h' : SameEnds b' c) : SameEnds b c :=
  fun q => (h' q).trans (h q)

theorem of_shares (f : Nat → Nat → Nat) (h : ∀ q : Nat, b'.holdings[q]? =
    b.holdings[q]?.map fun x => { x with shares := f q x.shares }) : SameEnds b b' := by
  intro q
  rw [h, Option.map_map]
  rfl

theorem destroyEngine (b : Bench) (id : Nat) : SameEnds b (b.destroyEngine id) := by
  rcases b.destroyEngine_cases id with ⟨-, hsame⟩ | ⟨x, -, h⟩
  · rw [hsame]
    exact refl b
  · exact of_shares (fun q n => n - x.pairs.count q) h.holdings

theorem record (hk : k.OnBench) (e : Event) (s : State) :
    SameEnds (k.bench s) (k.bench (k.record e s)) := by
  rw [hk.bench_record]
  exact refl _

theorem destroyAll (hk : k.OnBench) (engines : List EngineHandle) (s : State) :
    SameEnds (k.bench s) (k.bench (k.destroyAll engines s)) := by
  induction engines generalizing s with
  | nil => exact refl _
  | cons e rest ih =>
    refine trans ?_ (ih (k.destroy e s))
    rw [hk.destroy]
    exact destroyEngine _ e.id

theorem created {result : Except BenchError EngineHandle} (h : Created pairs b b' result) :
    SameEnds b b' := by
  cases h with
  | failed hacquired =>
    intro q
    rw [hacquired.books.holdings]
  | @made x _ _ hadmitted => exact of_shares (fun q n => n + x.pairs.count q) hadmitted.holdings

theorem extend {made : List EngineHandle} {n : Nat} {result : Except BenchError Fleet}
    (hk : k.OnBench) (h : Fleet.extend k p pairs made n s = (result, s')) :
    SameEnds (k.bench s) (k.bench s') := by
  induction n generalizing made s with
  | zero =>
    cases h
    exact refl _
  | succ n ih =>
    rw [Fleet.extend] at h
    split at h <;> rename_i hcreate
    · exact (created (hk.create hcreate)).trans (ih h)
    · cases h
      exact ((created (hk.create hcreate)).trans (record hk _ _)).trans (destroyAll hk made _)

/-- The shares are told by the engines at work, and so are the ends that are open. -/
theorem endNumbers_eq (h : SameEnds b b') (hb : b.Booked base) (hb' : b'.Booked base)
    (htenants : b'.tenants = b.tenants) : b'.endNumbers = b.endNumbers := by
  apply endNumbers_congr
  intro q
  have hends := h q
  cases hq : b.holdings[q]? with
  | none =>
    rw [hq, Option.map_none, Option.map_eq_none_iff] at hends
    rw [hends]
  | some x =>
    rw [hq, Option.map_some, Option.map_eq_some_iff] at hends
    obtain ⟨y, hy, hsame⟩ := hends
    have hshares : y.shares = x.shares := by
      have hheld : y.held = x.held := congrArg (·.2.2) hsame
      rw [hb'.shares q y hy, hb.shares q x hq, hheld, listings, listings, htenants]
    obtain ⟨generator, engine, held, shares⟩ := x
    obtain ⟨generator', engine', held', shares'⟩ := y
    cases hsame
    cases hshares
    rw [hy]

end SameEnds
end Bench

/-- After a fleet could not be created, the same descriptors are open as before. -/
theorem Fleet.accounts_of_error {numbers : List Nat} {count : Nat} {e : BenchError}
    (hk : k.OnBench) (hb : (k.bench s).Booked base)
    (hheld : ∀ q ∈ pairs, (k.bench s).isHeld q = true)
    (h : create k p count pairs s = .ok (.error e, s'))
    (hnumbers : (k.bench s).table.Accounts numbers) : (k.bench s').table.Accounts numbers := by
  have hb' := create_booked hk hb hheld h
  have hsame := create_error hk hb hheld h
  have hends : (k.bench s').endNumbers = (k.bench s).endNumbers := by
    rw [create] at h
    split at h
    · exact (SameEnds.extend hk (Except.ok.inj h)).endNumbers_eq hb hb' hsame.tenants
    · cases h
  have hopen := hb'.numbers
  rw [hends, ownNumbers, hsame.tenants] at hopen
  exact hopen.perm (hb.numbers.perm_of hnumbers)

end ReadinessBench
