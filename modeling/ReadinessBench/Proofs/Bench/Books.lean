import ReadinessBench.Bench.Fleet
import ReadinessBench.Proofs.Descriptor.Account
import ReadinessBench.Proofs.Lists

/-!
# The books of a bench

Which descriptors a bench has open and on whose behalf. The ends of the pairs are in the holdings;
the rest belongs to the engines at work, of which the books know no more than the work they do
leaves as it is.

The books are right when the table accounts for exactly these descriptors, next to those that were
open at the start, and when the shares of every pair are those of its holder and of the engines
that list it.
-/

namespace ReadinessBench

/-- How many descriptors an engine of each mechanism has open for itself. -/
def Mechanism.footprint : Mechanism → Nat
  | .epoll | .ioUring => 2
  | .poll | .select => 1
  | .threads => 0

namespace Holding

/-- The descriptors that a pair has open. -/
def numbers (h : Holding) : List Nat :=
  (if h.held then [h.generatorNumber] else []) ++ (if h.shares = 0 then [] else [h.engineNumber])

def giveBack (h : Holding) : Holding := { h with shares := h.shares - 1 }

def letGo (h : Holding) : Holding := { h with held := false }

theorem numbers_giveBack_last {h : Holding} (hlast : h.shares = 1) :
    h.numbers.Perm ([h.engineNumber] ++ h.giveBack.numbers) := by
  simp only [numbers, giveBack, hlast, Nat.sub_self, if_true, List.append_nil,
    if_neg Nat.one_ne_zero]
  exact List.perm_append_comm

theorem numbers_giveBack {h : Holding} (hlast : h.shares ≠ 1) : h.giveBack.numbers = h.numbers := by
  have hnone : h.shares - 1 = 0 ↔ h.shares = 0 := by omega
  unfold numbers giveBack
  congr 1
  exact if_congr hnone rfl rfl

theorem numbers_addShares {h : Holding} (hshared : h.shares ≠ 0) (n : Nat) :
    ({ h with shares := h.shares + n } : Holding).numbers = h.numbers := by
  have hsome : ¬ h.shares + n = 0 := by omega
  rw [numbers, numbers, if_neg hshared, if_neg hsome]

theorem numbers_letGo {h : Holding} (hheld : h.held = true) :
    h.numbers = [h.generatorNumber] ++ h.letGo.numbers := by
  rw [numbers, if_pos hheld]
  rfl

end Holding

/-- An engine at work, as the books know it. -/
structure Tenant where
  id : Nat
  mechanism : Mechanism
  /-- The pairs it lists. -/
  pairs : List Nat
  owned : List Nat

def Watcher.tenant (id : Nat) (w : Watcher) : Tenant :=
  ⟨id, w.mechanism, w.watched.map Watched.pair, w.owned⟩

namespace Bench

def tenants (b : Bench) : List Tenant := b.watchers.map fun (id, w) => w.tenant id

/-- The pair has not been dropped. -/
def isHeld (b : Bench) (pair : Nat) : Bool := (b.holdings[pair]?.map Holding.held).getD false

/-- An engine at work watches the pair. -/
def isListed (b : Bench) (pair : Nat) : Bool := b.tenants.any (·.pairs.contains pair)

/-- How many of the pairs that have ever been opened are like this. -/
def countPairs (b : Bench) (p : Nat → Bool) : Nat := ((List.range b.holdings.size).filter p).length

/-- How many descriptors the pairs and the engines should have open: one at the generator's end of
a live pair, one at the engines' end of a pair that is live or watched, and the footprints. -/
def expected (b : Bench) : Nat :=
  b.countPairs b.isHeld + b.countPairs (fun pair => b.isHeld pair || b.isListed pair) +
    (b.tenants.map fun x => x.mechanism.footprint).foldr (· + ·) 0

def endNumbers (b : Bench) : List Nat := b.holdings.toList.flatMap Holding.numbers

def ownNumbers (b : Bench) : List Nat := b.tenants.flatMap Tenant.owned

/-- How many times engines at work list the pair. -/
def listings (b : Bench) (pair : Nat) : Nat := (b.tenants.flatMap Tenant.pairs).count pair

/-- The books of the bench are right; the descriptors `base` are open besides. -/
structure Booked (base : List Nat) (b : Bench) : Prop where
  numbers : b.table.Accounts (b.endNumbers ++ (b.ownNumbers ++ base))
  paired : b.sockets.size = b.holdings.size
  shares : ∀ pair h, b.holdings[pair]? = some h → h.shares = h.held.toNat + b.listings pair
  known : ∀ pair, b.holdings.size ≤ pair → b.listings pair = 0
  footprints : ∀ x ∈ b.tenants, x.owned.length = x.mechanism.footprint
  distinct : (b.tenants.map Tenant.id).Nodup
  numbered : ∀ x ∈ b.tenants, x.id < b.nextWatcher

theorem isListed_iff {b : Bench} {pair : Nat} : b.isListed pair = true ↔ 0 < b.listings pair := by
  rw [isListed, List.any_eq_true, listings, List.count_pos_iff, List.mem_flatMap]
  simp only [List.contains_iff_mem]

/-- Nothing that stands in the books has changed. -/
structure SameBooks (b b' : Bench) : Prop where
  table : b'.table = b.table
  sockets : b'.sockets.size = b.sockets.size
  holdings : b'.holdings = b.holdings
  tenants : b'.tenants = b.tenants
  nextWatcher : b'.nextWatcher = b.nextWatcher

namespace SameBooks

variable {b b' c : Bench}

theorem refl (b : Bench) : SameBooks b b := ⟨rfl, rfl, rfl, rfl, rfl⟩

theorem trans (h : SameBooks b b') (h' : SameBooks b' c) : SameBooks b c :=
  ⟨h'.table.trans h.table, h'.sockets.trans h.sockets, h'.holdings.trans h.holdings,
    h'.tenants.trans h.tenants, h'.nextWatcher.trans h.nextWatcher⟩

theorem record (b : Bench) (e : Event) : SameBooks b (b.record e) := ⟨rfl, rfl, rfl, rfl, rfl⟩

theorem setSockets (b : Bench) {sockets : Array SocketPair}
    (hsize : sockets.size = b.sockets.size) : SameBooks b { b with sockets } :=
  ⟨rfl, hsize, rfl, rfl, rfl⟩

theorem updatePair (b : Bench) (pair : Nat) (f : SocketPair → SocketPair) :
    SameBooks b (b.updatePair pair f) :=
  setSockets b Array.size_modify

theorem booked {base : List Nat} (h : SameBooks b b') (hb : b.Booked base) : b'.Booked base := by
  have hlistings : ∀ pair, b'.listings pair = b.listings pair := fun pair => by
    rw [listings, listings, h.tenants]
  constructor
  · rw [endNumbers, ownNumbers, h.table, h.holdings, h.tenants]
    exact hb.numbers
  · rw [h.sockets, h.holdings]
    exact hb.paired
  · intro pair x hx
    rw [hlistings]
    rw [h.holdings] at hx
    exact hb.shares pair x hx
  · intro pair hpair
    rw [hlistings]
    rw [h.holdings] at hpair
    exact hb.known pair hpair
  · rw [h.tenants]
    exact hb.footprints
  · rw [h.tenants]
    exact hb.distinct
  · rw [h.tenants, h.nextWatcher]
    exact hb.numbered

end SameBooks

/-- The same pairs are live and the same engines at work; no more than pairs that came to nothing
has been added. -/
structure SameUse (b b' : Bench) : Prop where
  isHeld : ∀ pair, b'.isHeld pair = b.isHeld pair
  tenants : b'.tenants = b.tenants
  size_le : b.holdings.size ≤ b'.holdings.size

theorem SameUse.refl (b : Bench) : SameUse b b := ⟨fun _ => rfl, rfl, Nat.le_refl _⟩

theorem SameUse.trans {b b' c : Bench} (h : SameUse b b') (h' : SameUse b' c) : SameUse b c :=
  ⟨fun pair => (h'.isHeld pair).trans (h.isHeld pair), h'.tenants.trans h.tenants,
    h.size_le.trans h'.size_le⟩

theorem SameBooks.sameUse {b b' : Bench} (h : SameBooks b b') : SameUse b b' :=
  ⟨fun pair => by rw [isHeld, isHeld, h.holdings], h.tenants,
    Nat.le_of_eq (congrArg Array.size h.holdings).symm⟩

theorem Booked.setTable {base : List Nat} {b : Bench} {table : DescriptorTable}
    (hb : b.Booked base) (htable : table.Accounts (b.endNumbers ++ (b.ownNumbers ++ base))) :
    Booked base { b with table } :=
  ⟨htable, hb.paired, hb.shares, hb.known, hb.footprints, hb.distinct, hb.numbered⟩

/-- Without a pair and without an engine the books say nothing but what is open besides. -/
theorem booked_start {table : DescriptorTable} {base : List Nat} (h : table.Accounts base) :
    Booked base { table } :=
  ⟨h, rfl, nofun, fun _ _ => rfl, nofun, List.nodup_nil, nofun⟩

/-! ## The books tell how many descriptors are open -/

theorem Booked.length_endNumbers {base : List Nat} {b : Bench} (h : b.Booked base) :
    b.endNumbers.length =
      b.countPairs b.isHeld + b.countPairs fun pair => b.isHeld pair || b.isListed pair := by
  rw [endNumbers, length_flatMap_eq, countPairs, countPairs, ← length_filter_add]
  congr 1
  apply List.ext_getElem
  · rw [List.length_map, List.length_map, List.length_range, Array.length_toList]
  · intro i hi _
    rw [List.length_map, Array.length_toList] at hi
    rw [List.getElem_map, List.getElem_map, List.getElem_range, Array.getElem_toList]
    have hi? : b.holdings[i]? = some b.holdings[i] := Array.getElem?_eq_getElem hi
    have hshares := h.shares i _ hi?
    have hheld : b.isHeld i = b.holdings[i].held := by
      rw [isHeld, hi?]
      rfl
    have hlisted : b.isListed i = decide (0 < b.listings i) := by
      rw [Bool.eq_iff_iff, isListed_iff, decide_eq_true_iff]
    rw [hheld, hlisted, Holding.numbers, hshares, List.length_append]
    cases b.holdings[i].held
    -- a pair that has been dropped: its engines' end is open as long as somebody lists it
    · by_cases hnone : b.listings i = 0
      · simp [hnone]
      · simp [hnone, Nat.pos_of_ne_zero hnone]
    · simp

theorem Booked.length_ownNumbers {base : List Nat} {b : Bench} (h : b.Booked base) :
    b.ownNumbers.length = (b.tenants.map fun x => x.mechanism.footprint).foldr (· + ·) 0 := by
  rw [ownNumbers, length_flatMap_eq]
  congr 1
  exact List.map_congr_left h.footprints

theorem Booked.openCount_eq {base : List Nat} {b : Bench} (h : b.Booked base) :
    b.table.openCount = base.length + b.expected := by
  rw [h.numbers.openCount_eq, List.length_append, List.length_append, h.length_endNumbers,
    h.length_ownNumbers, expected]
  omega

private theorem countPairs_of_size_le {b b' : Bench} {p : Nat → Bool}
    (hle : b.holdings.size ≤ b'.holdings.size)
    (hp : ∀ pair, b.holdings.size ≤ pair → p pair = false) : b'.countPairs p = b.countPairs p := by
  obtain ⟨k, hk⟩ := Nat.exists_eq_add_of_le hle
  -- none of the pairs that have come in addition counts
  have hnone : (List.map (b.holdings.size + ·) (List.range k)).filter p = [] := by
    rw [List.filter_eq_nil_iff]
    intro i hi
    obtain ⟨j, -, rfl⟩ := List.mem_map.mp hi
    rw [hp _ (Nat.le_add_right _ j)]
    exact Bool.false_ne_true
  rw [countPairs, hk, List.range_add, List.filter_append, hnone, List.append_nil, countPairs]

theorem isHeld_of_size_le {b : Bench} {pair : Nat} (hpair : b.holdings.size ≤ pair) :
    b.isHeld pair = false := by
  rw [isHeld, Array.getElem?_eq_none hpair]
  rfl

theorem SameUse.expected_eq {base : List Nat} {b b' : Bench} (h : SameUse b b')
    (hb : b.Booked base) : b'.expected = b.expected := by
  have hheld : b'.isHeld = b.isHeld := funext h.isHeld
  have hlisted : b'.isListed = b.isListed := by
    funext pair
    rw [isListed, isListed, h.tenants]
  have hnone : ∀ pair, b.holdings.size ≤ pair → b.isListed pair = false := by
    intro pair hpair
    rw [Bool.eq_false_iff, Ne, isListed_iff, hb.known pair hpair]
    exact Nat.lt_irrefl 0
  rw [expected, expected, hheld, hlisted, h.tenants,
    countPairs_of_size_le h.size_le fun _ => isHeld_of_size_le,
    countPairs_of_size_le h.size_le fun pair hpair => by
      rw [isHeld_of_size_le hpair, hnone pair hpair, Bool.or_false]]

end Bench

end ReadinessBench
