import Mathlib.Data.List.Nodup
import Mathlib.Logic.Relation
import ReadinessBench.Cancellation
import ReadinessBench.Proofs.Lists

/-!
# Families of tokens

Tokens are known by the family that they belong to. Who belongs together is a matter of who was
cloned from whom, directly or over any number of clones, some of which may be gone from the list.
Main statement: `kindred_run`.
-/

namespace ReadinessBench

/-- Where the tokens of a list come from. They are numbered in the order in which they come to be,
and a number is never used again. -/
structure Ancestry where
  /-- The token that each token is a clone of, if it is one. -/
  origins : List (Option Nat) := []
  /-- The tokens in the list, by position. -/
  listed : List Nat := []
  /-- The tokens that have been cancelled. -/
  cancelled : List Nat := []

namespace Ancestry

variable {a : Ancestry}

def make (a : Ancestry) (origin : Option Nat) : Ancestry :=
  { a with origins := a.origins ++ [origin], listed := a.listed ++ [a.origins.length] }

/-- The token that a step names, if there is one. -/
def named? (a : Ancestry) : TokenList.Step → Option Nat
  | .fresh => none
  | .clone i | .cancel i | .drop i => a.listed[i]?

def step (a : Ancestry) (x : TokenList.Step) : Ancestry :=
  match x, a.named? x with
  | .fresh, _ => a.make none
  | .clone _, some t => a.make (some t)
  | .cancel _, some t => { a with cancelled := t :: a.cancelled }
  | .drop i, _ => { a with listed := a.listed.eraseIdx i }
  | _, none => a

def run (a : Ancestry) (steps : List TokenList.Step) : Ancestry := steps.foldl step a

def IsClone (a : Ancestry) (s t : Nat) : Prop := a.origins[t]? = some (some s)

/-- The two tokens are of one family: from one of them the other is reached by going from clones
to what they were cloned from, and back. -/
def Kin (a : Ancestry) : Nat → Nat → Prop := Relation.EqvGen a.IsClone

/-- Some token of the family has been cancelled. -/
def IsCancelled (a : Ancestry) (t : Nat) : Prop := ∃ u ∈ a.cancelled, a.Kin t u

theorem IsClone.lt {s t : Nat} (h : a.IsClone s t) : t < a.origins.length :=
  (List.getElem?_eq_some_iff.mp h).1

theorem isClone_make_iff {origin : Option Nat} {s t : Nat} :
    (a.make origin).IsClone s t ↔
      a.IsClone s t ∨ t = a.origins.length ∧ origin = some s := by
  show (a.origins ++ [origin])[t]? = some (some s) ↔ a.origins[t]? = some (some s) ∨ _
  rcases Nat.lt_trichotomy t a.origins.length with ht | rfl | ht
  · rw [List.getElem?_append_left ht]
    simp [Nat.ne_of_lt ht]
  · simp
  · have hnone : a.origins[t]? = none := List.getElem?_eq_none (Nat.le_of_lt ht)
    rw [hnone, List.getElem?_eq_none (by simp; omega)]
    simp [Nat.ne_of_gt ht]

theorem Kin.refl (t : Nat) : a.Kin t t := Relation.EqvGen.refl t

/-- What clones have in common with what they were cloned from is common to the family. -/
theorem Kin.eq_of_clones {s t : Nat} {α : Type} (h : a.Kin s t) (v : Nat → α)
    (hv : ∀ s t, a.IsClone s t → v s = v t) : v s = v t :=
  (eq_equivalence.comap v).eqvGen_iff.mp (Relation.EqvGen.mono hv s t h)

theorem Kin.make {s t : Nat} (h : a.Kin s t) (origin : Option Nat) : (a.make origin).Kin s t :=
  Relation.EqvGen.mono (fun _ _ hclone => isClone_make_iff.mpr (Or.inl hclone)) s t h

theorem length_origins_step (a : Ancestry) (x : TokenList.Step) :
    a.origins.length ≤ (a.step x).origins.length := by
  have hmake : ∀ origin, a.origins.length ≤ (a.make origin).origins.length := by
    intro origin
    show _ ≤ (a.origins ++ [origin]).length
    simp
  unfold step
  split
  · exact hmake none
  · exact hmake _
  · exact Nat.le_refl _
  · exact Nat.le_refl _
  · exact Nat.le_refl _

end Ancestry

namespace TokenList

variable {l : TokenList} {a : Ancestry} {f : Nat → Nat}

/-- No tokens. -/
def blank : TokenList := { families := [], next := 0 }

def run (l : TokenList) (steps : List Step) : TokenList := steps.foldl step l

-- The list that there is to begin with is a list of one token that is no clone.
theorem run_fresh (steps : List Step) : blank.run (.fresh :: steps) = run {} steps := rfl

theorem answersAfter_eq (l : TokenList) (steps : List Step) :
    l.answersAfter steps =
      (List.range steps.length).map fun k => (l.run (steps.take (k + 1))).answers := by
  induction steps generalizing l with
  | nil => rfl
  | cons x rest ih =>
    have hbeginnings := map_take_succ_cons (fun xs => (l.run xs).answers) x rest
    rw [hbeginnings, answersAfter, ih]
    rfl

/-- The token is in the list and gives this answer. -/
def Says (l : TokenList) (a : Ancestry) (t : Nat) (b : Bool) : Prop :=
  (t, b) ∈ a.listed.zip l.answers

instance (l : TokenList) (a : Ancestry) (t : Nat) (b : Bool) : Decidable (l.Says a t b) :=
  inferInstanceAs (Decidable (_ ∈ _))

theorem mem_cancelled_step (x : Step) {g : Nat} (h : g ∈ l.cancelled) :
    g ∈ (l.step x).cancelled := by
  cases x with
  | fresh | drop i => exact h
  | clone i =>
    rw [step]
    split
    · exact h
    · exact h
  | cancel i =>
    rw [step]
    split
    · exact List.mem_cons_of_mem _ h
    · exact h

theorem mem_cancelled_run (steps : List Step) {g : Nat} (h : g ∈ l.cancelled) :
    g ∈ (l.run steps).cancelled := by
  induction steps generalizing l with
  | nil => exact h
  | cons x rest ih => exact ih (mem_cancelled_step x h)

/-- What ties a list to its ancestry, when the family of each token is what `f` says. -/
structure Sound (l : TokenList) (a : Ancestry) (f : Nat → Nat) : Prop where
  families : l.families = a.listed.map f
  cancelled : l.cancelled = a.cancelled.map f
  nodup : a.listed.Nodup
  listed_lt : ∀ t ∈ a.listed, t < a.origins.length
  cancelled_lt : ∀ t ∈ a.cancelled, t < a.origins.length
  next : ∀ t < a.origins.length, f t < l.next
  clone : ∀ s t, a.IsClone s t → s < a.origins.length ∧ f s = f t
  kin : ∀ s < a.origins.length, ∀ t < a.origins.length, f s = f t → a.Kin s t

namespace Sound

theorem start : Sound blank {} id := by
  constructor <;> simp [blank, Ancestry.IsClone]

theorem kin_iff (h : Sound l a f) {s t : Nat} (hs : s < a.origins.length)
    (ht : t < a.origins.length) : a.Kin s t ↔ f s = f t :=
  ⟨fun hkin => hkin.eq_of_clones f fun s t hclone => (h.clone s t hclone).2, h.kin s hs t ht⟩

theorem getElem?_families (h : Sound l a f) (i : Nat) : l.families[i]? = a.listed[i]?.map f := by
  rw [h.families, List.getElem?_map]

/-- From an older token of the same family the way to a new one goes over what that is a clone
of. -/
theorem kin_new (h : Sound l a f) {t p : Nat} (ht : t < a.origins.length)
    (hp : p < a.origins.length) (hsame : f t = f p) :
    (a.make (some p)).Kin t a.origins.length := by
  have hkin : a.Kin t p := h.kin t ht p hp hsame
  have hclone : (a.make (some p)).IsClone p a.origins.length :=
    Ancestry.isClone_make_iff.mpr (Or.inr ⟨rfl, rfl⟩)
  exact .trans t p _ (hkin.make (some p)) (.rel _ _ hclone)

/-- A token that comes to be joins the family of what it is a clone of, or founds one. -/
theorem make (h : Sound l a f) {origin : Option Nat} {g next : Nat} (hnext : l.next ≤ next)
    (hg : g < next) (horigin : ∀ p, origin = some p → p < a.origins.length ∧ f p = g)
    (hfamily : ∀ t < a.origins.length, f t = g → ∃ p, origin = some p) :
    Sound { l with families := l.families ++ [g], next } (a.make origin)
      (Function.update f a.origins.length g) := by
  have hold : ∀ t < a.origins.length, Function.update f a.origins.length g t = f t :=
    fun t ht => Function.update_of_ne (Nat.ne_of_lt ht) g f
  have hnew : Function.update f a.origins.length g a.origins.length = g :=
    Function.update_self a.origins.length g f
  have hmap : ∀ ts : List Nat, (∀ t ∈ ts, t < a.origins.length) →
      ts.map (Function.update f a.origins.length g) = ts.map f :=
    fun ts hts => List.map_congr_left fun t ht => hold t (hts t ht)
  have hjoins : ∀ t < a.origins.length, f t = g → (a.make origin).Kin t a.origins.length := by
    intro t ht hgt
    obtain ⟨p, rfl⟩ := hfamily t ht hgt
    obtain ⟨hp, hgp⟩ := horigin p rfl
    exact h.kin_new ht hp (hgt.trans hgp.symm)
  have hlength : (a.make origin).origins.length = a.origins.length + 1 := List.length_append
  -- from here on it only matters what the new families are, not how they are written
  generalize hf' : Function.update f a.origins.length g = f' at hold hnew hmap ⊢
  constructor
  case families =>
    show l.families ++ [g] = (a.listed ++ [a.origins.length]).map f'
    rw [List.map_append, hmap a.listed h.listed_lt, h.families, List.map_singleton, hnew]
  case cancelled =>
    show l.cancelled = a.cancelled.map f'
    rw [hmap a.cancelled h.cancelled_lt, h.cancelled]
  case nodup =>
    show (a.listed ++ [a.origins.length]).Nodup
    rw [List.nodup_append_comm, List.singleton_append, List.nodup_cons]
    exact ⟨fun hmem => Nat.lt_irrefl _ (h.listed_lt _ hmem), h.nodup⟩
  case listed_lt =>
    intro t ht
    rw [hlength]
    rcases List.mem_append.mp ht with ht | ht
    · exact Nat.lt_succ_of_lt (h.listed_lt t ht)
    · rw [List.mem_singleton.mp ht]
      exact Nat.lt_succ_self _
  case cancelled_lt =>
    intro t ht
    rw [hlength]
    exact Nat.lt_succ_of_lt (h.cancelled_lt t ht)
  case next =>
    intro t ht
    show f' t < next
    rw [hlength, Nat.lt_succ_iff_lt_or_eq] at ht
    rcases ht with ht | rfl
    · rw [hold t ht]
      exact Nat.lt_of_lt_of_le (h.next t ht) hnext
    · rw [hnew]
      exact hg
  case clone =>
    intro s t hclone
    rw [hlength]
    rcases Ancestry.isClone_make_iff.mp hclone with hclone | ⟨rfl, horiginal⟩
    · obtain ⟨hs, heq⟩ := h.clone s t hclone
      rw [hold s hs, hold t hclone.lt, heq]
      exact ⟨Nat.lt_succ_of_lt hs, rfl⟩
    · obtain ⟨hs, hgs⟩ := horigin s horiginal
      rw [hold s hs, hnew, hgs]
      exact ⟨Nat.lt_succ_of_lt hs, rfl⟩
  -- two older tokens are kin as before, and with the new one it is one way or the other
  case kin =>
    intro s hs t ht heq
    rw [hlength, Nat.lt_succ_iff_lt_or_eq] at hs ht
    rcases hs with hs | rfl
    · rw [hold s hs] at heq
      rcases ht with ht | rfl
      · rw [hold t ht] at heq
        exact (h.kin s hs t ht heq).make origin
      · rw [hnew] at heq
        exact hjoins s hs heq
    · rw [hnew] at heq
      rcases ht with ht | rfl
      · rw [hold t ht] at heq
        exact .symm _ _ (hjoins t ht heq.symm)
      · exact .refl _

theorem cancel (h : Sound l a f) {t : Nat} (ht : t < a.origins.length) :
    Sound { l with cancelled := f t :: l.cancelled } { a with cancelled := t :: a.cancelled }
      f where
  families := h.families
  cancelled := by rw [h.cancelled, List.map_cons]
  nodup := h.nodup
  listed_lt := h.listed_lt
  cancelled_lt := List.forall_mem_cons.mpr ⟨ht, h.cancelled_lt⟩
  next := h.next
  clone := h.clone
  kin := h.kin

-- Who belongs together and who has been cancelled does not hang on who is in the list.
theorem drop (h : Sound l a f) (i : Nat) :
    Sound { l with families := l.families.eraseIdx i } { a with listed := a.listed.eraseIdx i }
      f where
  families := by rw [h.families, List.eraseIdx_map]
  cancelled := h.cancelled
  nodup := h.nodup.eraseIdx i
  listed_lt := fun t ht => h.listed_lt t (List.mem_of_mem_eraseIdx ht)
  cancelled_lt := h.cancelled_lt
  next := h.next
  clone := h.clone
  kin := h.kin

theorem step (h : Sound l a f) (x : Step) :
    ∃ f', Sound (l.step x) (a.step x) f' ∧ ∀ t < a.origins.length, f' t = f t := by
  have hnamed : ∀ (i : Nat) t, a.listed[i]? = some t → t < a.origins.length := by
    intro i t ht
    exact h.listed_lt t (List.mem_of_getElem? ht)
  have hupdate : ∀ g, ∀ t < a.origins.length, Function.update f a.origins.length g t = f t := by
    intro g t ht
    exact Function.update_of_ne (Nat.ne_of_lt ht) g f
  cases x with
  | fresh =>
    refine ⟨_, h.make (Nat.le_succ l.next) (Nat.lt_succ_self l.next) ?_ ?_, hupdate _⟩
    · intro p hp
      cases hp
    -- no token is of a family that has not been founded yet
    · intro t ht hfamily
      exact absurd hfamily (Nat.ne_of_lt (h.next t ht))
  | clone i =>
    simp only [TokenList.step, Ancestry.step, Ancestry.named?, h.getElem?_families i]
    cases hi : a.listed[i]? with
    | none => exact ⟨f, h, fun _ _ => rfl⟩
    | some t =>
      have ht := hnamed i t hi
      refine ⟨_, h.make (Nat.le_refl l.next) (h.next t ht) ?_ fun _ _ _ => ⟨t, rfl⟩, hupdate _⟩
      intro p hp
      cases hp
      exact ⟨ht, rfl⟩
  | cancel i =>
    simp only [TokenList.step, Ancestry.step, Ancestry.named?, h.getElem?_families i]
    cases hi : a.listed[i]? with
    | none => exact ⟨f, h, fun _ _ => rfl⟩
    | some t => exact ⟨f, h.cancel (hnamed i t hi), fun _ _ => rfl⟩
  | drop i => exact ⟨f, h.drop i, fun _ _ => rfl⟩

theorem run (h : Sound l a f) (steps : List Step) :
    ∃ f', Sound (l.run steps) (a.run steps) f' ∧ ∀ t < a.origins.length, f' t = f t := by
  induction steps generalizing l a f with
  | nil => exact ⟨f, h, fun _ _ => rfl⟩
  | cons x rest ih =>
    obtain ⟨g, hg, hold⟩ := h.step x
    obtain ⟨f', hf', holder⟩ := ih hg
    refine ⟨f', hf', ?_⟩
    intro t ht
    rw [holder t (Nat.lt_of_lt_of_le ht (a.length_origins_step x)), hold t ht]

/-! ## What the tokens answer -/

theorem answers_eq (h : Sound l a f) :
    l.answers = a.listed.map fun t => l.cancelled.contains (f t) := by
  rw [answers, h.families, List.map_map]
  rfl

theorem contains_iff (h : Sound l a f) {t : Nat} (ht : t ∈ a.listed) :
    l.cancelled.contains (f t) = true ↔ a.IsCancelled t := by
  rw [List.contains_iff_mem, h.cancelled, List.mem_map]
  constructor
  · rintro ⟨u, hu, heq⟩
    exact ⟨u, hu, h.kin t (h.listed_lt t ht) u (h.cancelled_lt u hu) heq.symm⟩
  · rintro ⟨u, hu, hkin⟩
    exact ⟨u, hu, ((h.kin_iff (h.listed_lt t ht) (h.cancelled_lt u hu)).mp hkin).symm⟩

theorem says_iff (h : Sound l a f) {t : Nat} {b : Bool} :
    l.Says a t b ↔ t ∈ a.listed ∧ l.cancelled.contains (f t) = b := by
  have hzip : a.listed.zip (a.listed.map fun t => l.cancelled.contains (f t)) =
      a.listed.map fun t => (t, l.cancelled.contains (f t)) := by
    simpa using List.zip_map' (f := id) (l := a.listed)
  rw [Says, h.answers_eq, hzip, List.mem_map]
  constructor
  · rintro ⟨u, hu, heq⟩
    cases heq
    exact ⟨hu, rfl⟩
  · rintro ⟨ht, rfl⟩
    exact ⟨t, ht, rfl⟩

/-- What is done to one family makes no difference to the tokens of another. -/
theorem says_step (h : Sound l a f) {x : Step} {t : Nat} {b : Bool} (hanswer : l.Says a t b)
    (hother : ∀ u, a.named? x = some u → ¬ a.Kin t u) : (l.step x).Says (a.step x) t b := by
  obtain ⟨ht, hb⟩ := h.says_iff.mp hanswer
  have hlt := h.listed_lt t ht
  obtain ⟨f', hf', hold⟩ := h.step x
  rw [hf'.says_iff, hold t hlt]
  cases x with
  | fresh => exact ⟨List.mem_append_left _ ht, hb⟩
  | clone i =>
    simp only [TokenList.step, Ancestry.step, Ancestry.named?, h.getElem?_families i]
    cases hi : a.listed[i]? with
    | none => exact ⟨ht, hb⟩
    | some u => exact ⟨List.mem_append_left _ ht, hb⟩
  | cancel i =>
    simp only [TokenList.step, Ancestry.step, Ancestry.named?, h.getElem?_families i]
    cases hi : a.listed[i]? with
    | none => exact ⟨ht, hb⟩
    | some u =>
      have hu : u < a.origins.length := h.listed_lt u (List.mem_of_getElem? hi)
      have hne : f t ≠ f u := fun heq => hother u hi (h.kin t hlt u hu heq)
      refine ⟨ht, ?_⟩
      show (f u :: l.cancelled).contains (f t) = b
      rw [List.contains_cons, beq_eq_false_iff_ne.mpr hne, Bool.false_or, hb]
  -- the token that leaves the list is another one
  | drop i =>
    refine ⟨?_, hb⟩
    show t ∈ a.listed.eraseIdx i
    obtain ⟨j, hj⟩ := List.mem_iff_getElem?.mp ht
    refine List.mem_eraseIdx_iff_getElem?.mpr ⟨j, ?_, hj⟩
    rintro rfl
    exact hother t hj (Ancestry.Kin.refl t)

end Sound

/-- **Tokens of one family are cancelled together, and for good.** The steps are any there are; `a`
keeps the book about who was cloned from whom and who has been cancelled, whether or not those
tokens are still in the list. -/
theorem kindred_run (steps more : List Step) (x : Step) :
    let l := blank.run steps
    let a := Ancestry.run {} steps
    (a.listed.Nodup ∧ List.Forall₂ (fun t b => b = true ↔ a.IsCancelled t) a.listed l.answers) ∧
    (∀ t, l.Says a t true → ¬ (l.run more).Says (a.run more) t false) ∧
    (∀ t b, l.Says a t b → (∀ u, a.named? x = some u → ¬ a.Kin t u) →
      (l.step x).Says (a.step x) t b) ∧
    answersAfter {} steps = (List.range steps.length).map
      fun k => (blank.run (.fresh :: steps.take (k + 1))).answers := by
  intro l a
  obtain ⟨f, h, -⟩ := Sound.start.run steps
  refine ⟨⟨h.nodup, ?_⟩, ?_, fun t b => h.says_step, ?_⟩
  · rw [h.answers_eq, List.forall₂_map_right_iff, List.forall₂_same]
    exact fun t ht => h.contains_iff ht
  · intro t hcancelled hundone
    obtain ⟨f', hf', hold⟩ := h.run more
    obtain ⟨ht, hmem⟩ := h.says_iff.mp hcancelled
    have hnot := (hf'.says_iff.mp hundone).2
    rw [hold t (h.listed_lt t ht)] at hnot
    rw [List.contains_iff_mem] at hmem
    rw [List.contains_iff_mem.mpr (mem_cancelled_run more hmem)] at hnot
    cases hnot
  · simp only [run_fresh]
    exact answersAfter_eq {} steps

/-- The token that the family started from is dropped, so that all positions shift; the family is
cancelled through a clone of a clone, and cloned once more. -/
theorem kindred_run_first_dropped :
    let steps : List Step := [.fresh, .clone 0, .fresh, .drop 0, .clone 0, .cancel 2, .clone 0]
    let l := blank.run steps
    let a := Ancestry.run {} steps
    a.listed = [1, 2, 3, 4] ∧ l.answers = [true, false, true, true] ∧
      (l.Says a 1 true ∧ ¬ (l.run [.drop 1, .fresh]).Says (a.run [.drop 1, .fresh]) 1 false) ∧
      (l.Says a 2 false ∧ ¬ a.Kin 2 3 ∧
        (l.step (.cancel 2)).Says (a.step (.cancel 2)) 2 false) := by
  intro steps l a
  obtain ⟨-, hundone, hother, -⟩ := kindred_run steps [.drop 1, .fresh] (.cancel 2)
  -- token 2 neither is a clone nor has any
  have hkin : ¬ a.Kin 2 3 := by
    intro hkin
    have halone : ∀ s t, a.IsClone s t → decide (s = 2) = decide (t = 2) := by
      intro s t hclone
      rcases t with _ | _ | _ | _ | _ | t <;> cases hclone <;> rfl
    exact absurd (hkin.eq_of_clones _ halone) (by decide)
  refine ⟨by decide, by decide, ⟨by decide, hundone 1 (by decide)⟩, by decide, hkin, ?_⟩
  apply hother 2 false (by decide)
  intro u hu
  cases hu
  exact hkin

end TokenList

end ReadinessBench
