import ReadinessBench.Descriptor.Set
import ReadinessBench.Proofs.Lists
import ReadinessBench.RangeError

/-!
# What a descriptor set holds

Below its capacity a set holds exactly the numbers that were put into it. Beyond there is no room to
hold any, so whoever uses a set has to stay below. The kernel is told besides how far it has to
look, and from that bound on it looks at nothing. Numbers and bound reach it as signed words of 32
bits.
-/

namespace ReadinessBench.DescriptorSet

variable {s t : DescriptorSet} {numbers : List Nat} {n : Nat}

theorem contains_empty (n : Nat) : empty.contains n = false := BitVec.getLsbD_zero

theorem contains_insert (s : DescriptorSet) (number n : Nat) :
    (s.insert number).contains n =
      (s.contains n || decide (number < selectCapacity) && decide (number = n)) := by
  rw [contains, insert, BitVec.getLsbD_or, BitVec.getLsbD_twoPow]
  rfl

theorem ext_contains (h : ∀ n, s.contains n = t.contains n) : s = t := by
  cases s
  cases t
  exact congrArg mk (BitVec.eq_of_getLsbD_eq fun i _ => h i)

theorem contains_foldl_insert (h : ∀ n ∈ numbers, n < selectCapacity) :
    (numbers.foldl insert s).contains n = true ↔ s.contains n = true ∨ n ∈ numbers := by
  -- by induction on the numbers, with the set growing
  induction numbers generalizing s with
  | nil => exact (or_iff_left List.not_mem_nil).symm
  | cons number rest ih =>
    obtain ⟨hfirst, hrest⟩ := List.forall_mem_cons.mp h
    rw [List.foldl_cons, ih hrest, contains_insert, decide_eq_true hfirst, Bool.true_and,
      Bool.or_eq_true, decide_eq_true_eq, or_assoc, List.mem_cons, eq_comm (a := number)]

/-- A set holds what was put into it, if that fits. -/
theorem contains_ofList (h : ∀ n ∈ numbers, n < selectCapacity) :
    (ofList numbers).contains n = true ↔ n ∈ numbers := by
  rw [ofList, contains_foldl_insert h, contains_empty]
  exact or_iff_right Bool.false_ne_true

/-! ## The kernel's look at a set -/

/-- What the kernel leaves of a set: those of its numbers below the bound at which there is
something to read. -/
def scan (s : DescriptorSet) (bound : Nat) (ready : Nat → Bool) : DescriptorSet :=
  ofList ((List.range bound).filter fun n => s.contains n && ready n)

theorem contains_scan {bound : Nat} (hbound : bound ≤ selectCapacity) {ready : Nat → Bool} :
    (s.scan bound ready).contains n = true ↔
      n < bound ∧ s.contains n = true ∧ ready n = true := by
  have hfits : ∀ n ∈ (List.range bound).filter fun n => s.contains n && ready n,
      n < selectCapacity := fun n hn =>
    Nat.lt_of_lt_of_le (List.mem_range.mp (List.mem_of_mem_filter hn)) hbound
  rw [scan, contains_ofList hfits, List.mem_filter, List.mem_range, Bool.and_eq_true]

/-- The bound is the least one that leaves no number out. -/
theorem bound_le_iff {m : Nat} : bound numbers ≤ m ↔ 0 < m ∧ ∀ n ∈ numbers, n < m :=
  foldl_max_lt_iff

theorem lt_bound (h : n ∈ numbers) : n < bound numbers := (bound_le_iff.mp (Nat.le_refl _)).2 n h

/-- Nothing below the bound is left out. -/
theorem contains_scan_ofList (h : ∀ n ∈ numbers, n < selectCapacity) {bound : Nat}
    (hbound : bound ≤ selectCapacity) (hall : ∀ n ∈ numbers, n < bound) {ready : Nat → Bool} :
    ((ofList numbers).scan bound ready).contains n = true ↔ n ∈ numbers ∧ ready n = true := by
  rw [contains_scan hbound, contains_ofList h]
  exact and_iff_right_of_imp fun hready => hall n hready.1

/-! ## Words -/

/-- One more than the highest of these words. Nothing comes after the largest word. -/
def boundWord (words : List Int32) : Except RangeError Int32 :=
  let highest := words.max?.getD 0
  if highest = Int32.maxValue then .error .sumOverflow else .ok (highest + 1)

/-- The word may be used with a set while the kernel is told this bound. -/
def Admits (bound word : Int32) : Prop :=
  0 ≤ word ∧ word < bound ∧ bound ≤ Int32.ofNat selectCapacity

instance (bound word : Int32) : Decidable (Admits bound word) := inferInstanceAs (Decidable (_ ∧ _))

/-- An access to a set at this word, behind a guard. -/
def guarded {α : Type} (bound word : Int32) (access : Nat → α) : Option α :=
  if Admits bound word then some (access word.toNatClampNeg) else none

/-- A set that is built anew from these words, each behind the guard. -/
def rebuild (bound : Int32) (words : List Int32) : Option DescriptorSet :=
  words.foldlM (fun s word => guarded bound word s.insert) .empty

theorem toInt_ofNat {n : Nat} (h : n ≤ selectCapacity) : (Int32.ofNat n).toInt = n :=
  Int32.toInt_ofNat_of_lt (Nat.lt_of_le_of_lt h (by decide))

theorem toNatClampNeg_ofNat {n : Nat} (h : n ≤ selectCapacity) :
    (Int32.ofNat n).toNatClampNeg = n :=
  Int32.toNatClampNeg_ofNat_of_lt (Nat.lt_of_le_of_lt h (by decide))

theorem ofNat_lt_iff {m n : Nat} (hm : m ≤ selectCapacity) (hn : n ≤ selectCapacity) :
    Int32.ofNat m < Int32.ofNat n ↔ m < n := by
  rw [Int32.lt_iff_toInt_lt, toInt_ofNat hm, toInt_ofNat hn, Int.ofNat_lt]

theorem ofNat_le_iff {m n : Nat} (hm : m ≤ selectCapacity) (hn : n ≤ selectCapacity) :
    Int32.ofNat m ≤ Int32.ofNat n ↔ m ≤ n := by
  rw [Int32.le_iff_toInt_le, toInt_ofNat hm, toInt_ofNat hn, Int.ofNat_le]

theorem ofNat_nonneg {n : Nat} (h : n ≤ selectCapacity) : 0 ≤ Int32.ofNat n :=
  (ofNat_le_iff (Nat.zero_le _) h).mpr (Nat.zero_le n)

theorem admits_ofNat {bound n : Nat} (hbound : bound ≤ selectCapacity) (hn : n < bound) :
    Admits (.ofNat bound) (.ofNat n) := by
  have hle : n ≤ selectCapacity := Nat.le_trans (Nat.le_of_lt hn) hbound
  exact ⟨ofNat_nonneg hle, (ofNat_lt_iff hle hbound).mpr hn,
    (ofNat_le_iff hbound (Nat.le_refl _)).mpr hbound⟩

theorem Admits.toNatClampNeg_lt {bound word : Int32} (h : Admits bound word) :
    word.toNatClampNeg < selectCapacity := by
  obtain ⟨hnonneg, hlt, hbound⟩ := h
  rw [Int32.le_iff_toInt_le, Int32.toInt_zero] at hnonneg
  rw [Int32.le_iff_toInt_le, toInt_ofNat (Nat.le_refl _)] at hbound
  rw [Int32.lt_iff_toInt_lt] at hlt
  rw [← Int32.toNat_toInt]
  omega

theorem guarded_of_admits {α : Type} {bound word : Int32} {access : Nat → α}
    (h : Admits bound word) : guarded bound word access = some (access word.toNatClampNeg) :=
  if_pos h

/-- The guard lets all words through that it is there for. -/
theorem rebuild_of_admits {bound : Int32} {words : List Int32}
    (h : ∀ word ∈ words, Admits bound word) :
    rebuild bound words = some (ofList (words.map Int32.toNatClampNeg)) := by
  rw [rebuild, foldlM_eq_some fun s word hword => guarded_of_admits (h word hword), ofList,
    List.foldl_map]

/-- Words that are not negative stand for different numbers. -/
theorem mem_map_toNatClampNeg {words : List Int32} (h : ∀ word ∈ words, 0 ≤ word) {word : Int32}
    (hword : 0 ≤ word) : word.toNatClampNeg ∈ words.map Int32.toNatClampNeg ↔ word ∈ words := by
  refine ⟨fun hmem => ?_, List.mem_map_of_mem⟩
  obtain ⟨other, hother, heq⟩ := List.mem_map.mp hmem
  rw [← Int32.ofNat_toNatClampNeg word hword, ← heq,
    Int32.ofNat_toNatClampNeg other (h other hother)]
  exact hother

/-- Whatever the guard lets through, a set that is built from it holds nothing else. -/
theorem rebuild_exact {bound : Int32} {words : List Int32}
    (h : ∀ word ∈ words, Admits bound word) :
    ∃ s, rebuild bound words = some s ∧ ∀ word, Admits bound word →
      (s.contains word.toNatClampNeg = true ↔ word ∈ words) := by
  have hfits : ∀ n ∈ words.map Int32.toNatClampNeg, n < selectCapacity :=
    List.forall_mem_map.mpr fun other hother => (h other hother).toNatClampNeg_lt
  refine ⟨_, rebuild_of_admits h, fun word hword => ?_⟩
  rw [contains_ofList hfits]
  exact mem_map_toNatClampNeg (fun other hother => (h other hother).1) hword.1

theorem map_toNatClampNeg_ofNat (h : ∀ n ∈ numbers, n < selectCapacity) :
    (numbers.map Int32.ofNat).map Int32.toNatClampNeg = numbers := by
  rw [List.map_map]
  conv_rhs => rw [← List.map_id numbers]
  exact List.map_congr_left fun n hn => toNatClampNeg_ofNat (Nat.le_of_lt (h n hn))

theorem max_ofNat {m n : Nat} (hm : m ≤ selectCapacity) (hn : n ≤ selectCapacity) :
    max (Int32.ofNat m) (Int32.ofNat n) = Int32.ofNat (max m n) := by
  by_cases hle : m ≤ n
  · rw [Nat.max_eq_right hle]
    exact if_pos ((ofNat_le_iff hm hn).mpr hle)
  · rw [Nat.max_eq_left (Nat.le_of_not_le hle)]
    exact if_neg fun hwords => hle ((ofNat_le_iff hm hn).mp hwords)

theorem foldl_max_ofNat {start : Nat} (hstart : start < selectCapacity)
    (h : ∀ n ∈ numbers, n < selectCapacity) :
    (numbers.map Int32.ofNat).foldl max (.ofNat start) = .ofNat (numbers.foldl max start) := by
  induction numbers generalizing start with
  | nil => rfl
  | cons n rest ih =>
    obtain ⟨hfirst, hrest⟩ := List.forall_mem_cons.mp h
    rw [List.map_cons, List.foldl_cons, List.foldl_cons,
      max_ofNat (Nat.le_of_lt hstart) (Nat.le_of_lt hfirst)]
    exact ih (Nat.max_lt.mpr ⟨hstart, hfirst⟩) hrest

/-- The bound of numbers that fit is a word, and adding one to the highest does not overflow. -/
theorem boundWord_ofNat (hsome : numbers ≠ []) (h : ∀ n ∈ numbers, n < selectCapacity) :
    boundWord (numbers.map Int32.ofNat) = .ok (.ofNat (bound numbers)) := by
  have hhighest : (numbers.map Int32.ofNat).max?.getD 0 = .ofNat (numbers.foldl max 0) := by
    cases numbers with
    | nil => exact absurd rfl hsome
    | cons n rest =>
      obtain ⟨hfirst, hrest⟩ := List.forall_mem_cons.mp h
      rw [List.map_cons, List.max?_cons', Option.getD_some, foldl_max_ofNat hfirst hrest,
        List.foldl_cons, Nat.zero_max]
  have hlt : numbers.foldl max 0 < selectCapacity := foldl_max_lt_iff.mpr ⟨by decide, h⟩
  rw [boundWord, hhighest, if_neg, bound, Int32.ofNat_add]
  · rfl
  -- the largest word is far beyond the capacity
  · intro hlargest
    have hvalue : (Int32.ofNat (numbers.foldl max 0)).toInt = 2147483647 := by rw [hlargest]; decide
    rw [toInt_ofNat (Nat.le_of_lt hlt)] at hvalue
    have hcapacity : selectCapacity = 1024 := rfl
    omega

theorem ofNat_bound_le (hsome : numbers ≠ []) (h : ∀ n ∈ numbers, n < selectCapacity)
    {other : Int32} (hall : ∀ n ∈ numbers, Int32.ofNat n < other) :
    Int32.ofNat (bound numbers) ≤ other := by
  have hbelow : ∀ n ∈ numbers, (n : Int) < other.toInt := by
    intro n hn
    have hlt := Int32.lt_iff_toInt_lt.mp (hall n hn)
    rwa [toInt_ofNat (Nat.le_of_lt (h n hn))] at hlt
  -- any of the numbers shows that the other word is positive
  obtain ⟨some, hmem⟩ := List.exists_mem_of_ne_nil numbers hsome
  have hpositive := hbelow some hmem
  have hbound : bound numbers ≤ other.toInt.toNat := by
    refine bound_le_iff.mpr ⟨by omega, fun n hn => ?_⟩
    have hlt := hbelow n hn
    omega
  have hfits : bound numbers ≤ selectCapacity := bound_le_iff.mpr ⟨by decide, h⟩
  rw [Int32.le_iff_toInt_le, toInt_ofNat hfits]
  omega

/-- Whatever words have passed the check, there is a bound for them, and it is the least one. -/
theorem boundWord_of_selectable {words : List Int32} (hsome : words ≠ [])
    (h : ∀ word ∈ words, ensureSelectable word.toInt = .ok ()) :
    ∃ bound, boundWord words = .ok bound ∧ (∀ word ∈ words, Admits bound word) ∧
      ∀ other, (∀ word ∈ words, word < other) → bound ≤ other := by
  have hword : ∀ word ∈ words,
      Int32.ofNat word.toNatClampNeg = word ∧ word.toNatClampNeg < selectCapacity := by
    intro word hmem
    obtain ⟨hnonneg, hlt⟩ := ensureSelectable_ok_iff.mp (h word hmem)
    refine ⟨Int32.ofNat_toNatClampNeg word (Int32.le_iff_toInt_le.mpr hnonneg), ?_⟩
    rw [← Int32.toNat_toInt]
    omega
  -- so the words are those of their numbers
  obtain ⟨numbers, rfl, hfits⟩ : ∃ numbers : List Nat, numbers.map Int32.ofNat = words ∧
      ∀ n ∈ numbers, n < selectCapacity := by
    refine ⟨words.map Int32.toNatClampNeg, ?_, List.forall_mem_map.mpr fun word hmem =>
      (hword word hmem).2⟩
    rw [List.map_map]
    conv_rhs => rw [← List.map_id words]
    exact List.map_congr_left fun word hmem => (hword word hmem).1
  have hnumbers : numbers ≠ [] := fun hnil => hsome (hnil ▸ rfl)
  have hbound : bound numbers ≤ selectCapacity := bound_le_iff.mpr ⟨by decide, hfits⟩
  refine ⟨_, boundWord_ofNat hnumbers hfits, ?_, fun other hall => ?_⟩
  · exact List.forall_mem_map.mpr fun n hn => admits_ofNat hbound (lt_bound hn)
  · exact ofNat_bound_le hnumbers hfits (List.forall_mem_map.mp hall)

end ReadinessBench.DescriptorSet
