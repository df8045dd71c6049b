/-!
# Cancellation

A token says whether work is to be given up. Cloned tokens form a family: cancelling one cancels
all of them, for good, and it does not matter which of them still exist. Families know nothing of
each other.
-/

namespace ReadinessBench

/-- A list of tokens, each known by its family. -/
structure TokenList where
  families : List Nat := [0]
  cancelled : List Nat := []
  /-- The family of the next token that is not a clone. -/
  next : Nat := 1
  deriving DecidableEq, Repr

namespace TokenList

inductive Step where
  | fresh
  | clone (position : Nat)
  | cancel (position : Nat)
  | drop (position : Nat)
  deriving DecidableEq, Repr

/-- The list after one step. A position outside the list changes nothing. -/
def step (l : TokenList) : Step → TokenList
  | .fresh => { l with families := l.families ++ [l.next], next := l.next + 1 }
  | .clone i =>
    match l.families[i]? with
    | some f => { l with families := l.families ++ [f] }
    | none => l
  | .cancel i =>
    match l.families[i]? with
    | some f => { l with cancelled := f :: l.cancelled }
    | none => l
  | .drop i => { l with families := l.families.eraseIdx i }

def answers (l : TokenList) : List Bool :=
  l.families.map l.cancelled.contains

def answersAfter (l : TokenList) : List Step → List (List Bool)
  | [] => []
  | x :: rest =>
    let l := l.step x
    l.answers :: l.answersAfter rest

end TokenList

end ReadinessBench
