/-!
# Random draws

Where a workload goes on is drawn from a source of random numbers. All that is needed of a source is
that what it draws below a bound is below it. The one that is used keeps 64 bits.
-/

namespace ReadinessBench

/-- Something to draw random numbers from, one after the other. Its state is told by a number. -/
class DrawSource where
  /-- A number below the bound, and the state from which the next one is drawn. -/
  below (state bound : Nat) : Nat × Nat
  below_lt (state : Nat) {bound : Nat} (hbound : 0 < bound) : (below state bound).1 < bound

/-- A source with a state of any kind. -/
@[reducible] def DrawSource.ofState {State : Type} (number : State → Nat) (ofNumber : Nat → State)
    (below : State → Nat → Nat × State)
    (hbelow : ∀ s {bound : Nat}, 0 < bound → (below s bound).1 < bound) : DrawSource where
  below state bound :=
    let (n, s) := below (ofNumber state) bound
    (n, number s)
  below_lt _ _ hbound := hbelow _ hbound

/-! ## Draws from folded words -/

/-- A generator of 64-bit words with 64 bits of state. The state steps by an odd constant, so it
takes every value once before it repeats; a word is the folded 128-bit product of the state and a
scrambled state. A draw below a bound takes the high half of the product of a word and the bound,
and draws again in the few cases that would favour some results. -/
structure FoldedWords where
  state : UInt64
  deriving DecidableEq, Repr

namespace FoldedWords

def next (d : FoldedWords) : UInt64 × FoldedWords :=
  let s := d.state + 0x2d358dccaa6c78a5
  let product := s.toNat * (s ^^^ 0x8bb84b93962eacc9).toNat
  (UInt64.ofNat product ^^^ UInt64.ofNat (product / UInt64.size), ⟨s⟩)

/-- A draw that rejects low halves below `threshold`. Once every state has been tried, no further
word can be better. -/
def above (threshold bound : Nat) (d : FoldedWords) : Nat → Nat × FoldedWords
  | 0 => (0, d)
  | tries + 1 =>
    let (word, d) := d.next
    let product := word.toNat * bound
    if product % UInt64.size < threshold then above threshold bound d tries
    else (product / UInt64.size, d)

def below (d : FoldedWords) (bound : Nat) : Nat × FoldedWords :=
  let (word, rest) := d.next
  let product := word.toNat * bound
  if product % UInt64.size < bound then above ((UInt64.size - bound) % bound) bound d (UInt64.size)
  else (product / UInt64.size, rest)

theorem high_lt (word : UInt64) {bound : Nat} (hbound : 0 < bound) :
    word.toNat * bound / UInt64.size < bound :=
  Nat.div_lt_of_lt_mul (Nat.mul_lt_mul_of_pos_right word.toNat_lt_size hbound)

theorem above_lt (threshold : Nat) {bound : Nat} (hbound : 0 < bound) (d : FoldedWords)
    (tries : Nat) :
    (above threshold bound d tries).1 < bound := by
  induction tries generalizing d with
  | zero => exact hbound
  | succ tries ih =>
    rw [above]
    dsimp only
    split
    · exact ih _
    · exact high_lt _ hbound

/-- A draw below a bound is below it, whether or not it had to be made again. -/
theorem below_lt (d : FoldedWords) {bound : Nat} (hbound : 0 < bound) :
    (d.below bound).1 < bound := by
  unfold below
  dsimp only
  split
  · exact above_lt _ hbound _ _
  · exact high_lt _ hbound

end FoldedWords

instance : DrawSource :=
  .ofState (fun d => d.state.toNat) (fun n => ⟨UInt64.ofNat n⟩) FoldedWords.below
    FoldedWords.below_lt

/-! ## Draws -/

/-- A source in some state. -/
structure Draw where
  [source : DrawSource]
  state : Nat

namespace Draw

def below (d : Draw) (bound : Nat) : Nat × Draw :=
  let (n, state) := d.source.below d.state bound
  (n, { d with state })

theorem below_lt (d : Draw) {bound : Nat} (hbound : 0 < bound) : (d.below bound).1 < bound :=
  d.source.below_lt d.state hbound

end Draw

end ReadinessBench
