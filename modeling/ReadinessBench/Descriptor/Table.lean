import ReadinessBench.Failure.Basic

/-!
# Descriptor tables

The operating system names an open descriptor by a small number: a new one gets the lowest number
that is free. The table keeps the free numbers: all from a frontier on, and the gaps below it.

A budget limits how many more descriptors may be opened; closing one gives its place back. Numbers
can also be occupied for no purpose but to push later ones up.
-/

namespace ReadinessBench

structure DescriptorTable where
  /-- Every number from here on is free. -/
  frontier : Nat
  /-- The free numbers below the frontier, in increasing order. -/
  gaps : List Nat := []
  /-- The numbers that are occupied without being open, in increasing order. -/
  occupied : List Nat := []
  /-- How many more descriptors may be opened, if that is limited. -/
  budget : Option Nat := none
  deriving DecidableEq, Repr

namespace DescriptorTable

/-- No process may use this descriptor number or a higher one. -/
def numberLimit : Nat := 1048576

/-- Why no further descriptor can be opened. -/
def refusal : Failure := .errno Errno.tooManyFiles

/-- The table of a process that has its three standard streams open. -/
def initial : DescriptorTable := { frontier := 3 }

def openCount (t : DescriptorTable) : Nat := t.frontier - t.gaps.length - t.occupied.length

/-- Whether the number is open or occupied. -/
def isTaken (t : DescriptorTable) (n : Nat) : Bool := n < t.frontier && !t.gaps.contains n

/-- Refuses the number of no open descriptor. -/
def ensureOpen (t : DescriptorTable) (n : Int) : Except Failure Unit :=
  if 0 ≤ n ∧ t.isTaken n.toNat then .ok () else .error (.errno Errno.badDescriptor)

def hasRoom (t : DescriptorTable) (n : Nat) : Bool :=
  n ≤ (t.gaps.take n).length + (numberLimit - t.frontier)

def allows (t : DescriptorTable) (n : Nat) : Bool :=
  t.hasRoom n &&
    match t.budget with
    | none => true
    | some left => n ≤ left

def takeLowest (t : DescriptorTable) : Nat × DescriptorTable :=
  match t.gaps with
  | g :: rest => (g, { t with gaps := rest })
  | [] => (t.frontier, { t with frontier := t.frontier + 1 })

def spend (t : DescriptorTable) (n : Nat) : DescriptorTable :=
  { t with budget := t.budget.map (· - n) }

def openOne (t : DescriptorTable) : Except Failure (Nat × DescriptorTable) :=
  if t.allows 1 then .ok (t.spend 1).takeLowest else .error refusal

/-- Opens two descriptors at once: either both or none. -/
def openTwo (t : DescriptorTable) : Except Failure (Nat × Nat × DescriptorTable) :=
  if t.allows 2 then
    let (first, t) := (t.spend 2).takeLowest
    let (second, t) := t.takeLowest
    .ok (first, second, t)
  else .error refusal

def insertGap (n : Nat) : List Nat → List Nat
  | [] => [n]
  | g :: rest => if n ≤ g then n :: g :: rest else g :: insertGap n rest

def close (t : DescriptorTable) (n : Nat) : DescriptorTable :=
  { t with gaps := insertGap n t.gaps, budget := t.budget.map (· + 1) }

/-- Closes several descriptors, the last one first. -/
def closeAll (t : DescriptorTable) (ns : List Nat) : DescriptorTable :=
  ns.reverse.foldl close t

/-- Moves the open descriptor `old` to the free number `new`. -/
def move (t : DescriptorTable) (old new : Nat) : DescriptorTable :=
  let t :=
    if new < t.frontier then { t with gaps := t.gaps.erase new }
    else { t with
      gaps := t.gaps ++ List.range' t.frontier (new - t.frontier)
      frontier := new + 1 }
  { t with gaps := insertGap old t.gaps }

/-- Occupies every free number below `n`. -/
def fill (t : DescriptorTable) (n : Nat) : DescriptorTable :=
  let fresh := t.gaps.filter (· < n) ++ List.range' t.frontier (n - t.frontier)
  { t with
    gaps := t.gaps.filter (n ≤ ·)
    frontier := max t.frontier n
    occupied := t.occupied ++ fresh }

def unfill (t : DescriptorTable) : DescriptorTable :=
  { t with gaps := t.occupied.foldr insertGap t.gaps, occupied := [] }

end DescriptorTable

end ReadinessBench
