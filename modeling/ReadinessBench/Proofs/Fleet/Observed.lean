import ReadinessBench.Bench.Fleet

/-!
# A backend that is watched

Any backend can be wrapped so that the state remembers what has been asked of it: every creation
with its outcome, every event written by others than the backend itself, every destruction. The
wrapped backend does on its state exactly what the backend does.
-/

namespace ReadinessBench

/-- One thing that has been done with a backend. -/
inductive Deed where
  | created (outcome : Except BenchError EngineHandle)
  | journalled (events : List Event)
  | destroyed (engine : EngineHandle)

namespace Deed

/-- The engines alive after a deed, newest first, if no other than a live one is destroyed. -/
def alive (engines : List EngineHandle) : Deed → Option (List EngineHandle)
  | .created (.ok e) => some (e :: engines)
  | .created (.error _) | .journalled _ => some engines
  | .destroyed e => if e ∈ engines then some (engines.erase e) else none

/-- The engines alive after all deeds, newest first, if none has been destroyed but live ones. -/
def live (deeds : List Deed) : Option (List EngineHandle) := deeds.foldlM alive []

theorem alive_creations (engines fresh : List EngineHandle) :
    (fresh.map fun e => created (.ok e)).foldlM alive engines =
      some (fresh.reverse ++ engines) := by
  induction fresh generalizing engines with
  | nil => rfl
  | cons e rest ih =>
    rw [List.map_cons, List.foldlM_cons]
    show (rest.map _).foldlM alive (e :: engines) = _
    rw [ih, List.reverse_cons, List.append_assoc]
    rfl

theorem alive_destructions (engines gone : List EngineHandle) :
    (gone.map destroyed).foldlM alive (gone ++ engines) = some engines := by
  induction gone with
  | nil => rfl
  | cons e rest ih =>
    have hfirst : alive (e :: rest ++ engines) (destroyed e) = some (rest ++ engines) := by
      rw [alive, List.cons_append, if_pos List.mem_cons_self, List.erase_cons_head]
    rw [List.map_cons, List.foldlM_cons, hfirst]
    exact ih

end Deed

/-- A state with what has been done. -/
structure Observed (State : Type) where
  state : State
  deeds : List Deed := []

namespace Backend

variable {State : Type}

/-- The backend, watched. -/
def observed (k : Backend State) : Backend (Observed State) where
  name := k.name
  create p pairs s :=
    let (outcome, state) := k.create p pairs s.state
    (outcome, ⟨state, s.deeds ++ [.created outcome]⟩)
  destroy e s := ⟨k.destroy e s.state, s.deeds ++ [.destroyed e]⟩
  bench s := k.bench s.state
  setBench b s :=
    let fresh := b.journal.toList.drop (k.bench s.state).journal.size
    ⟨k.setBench b s.state, s.deeds ++ [.journalled fresh]⟩

/-- The state after so many creations in a row. -/
def after (k : Backend State) (p : Plan) (pairs : List Nat) (s : State) : Nat → State
  | 0 => s
  | n + 1 => (k.create p pairs (k.after p pairs s n)).2

/-- What comes of one of the creations in a row, the first one being number 0. -/
def outcome (k : Backend State) (p : Plan) (pairs : List Nat) (s : State) (n : Nat) :
    Except BenchError EngineHandle :=
  (k.create p pairs (k.after p pairs s n)).1

/-- The deeds of so many creations in a row. -/
def creations (k : Backend State) (p : Plan) (pairs : List Nat) (s : State) (n : Nat) : List Deed :=
  (List.range n).map fun j => .created (k.outcome p pairs s j)

variable {k : Backend State} {p : Plan} {pairs : List Nat} {s : State} {deeds : List Deed}

theorem create_after (n : Nat) :
    k.create p pairs (k.after p pairs s n) = (k.outcome p pairs s n, k.after p pairs s (n + 1)) :=
  rfl

theorem creations_succ (n : Nat) :
    k.creations p pairs s (n + 1) =
      k.creations p pairs s n ++ [.created (k.outcome p pairs s n)] := by
  rw [creations, List.range_succ, List.map_append]
  rfl

theorem creations_of_ok {n : Nat} {made : List EngineHandle}
    (h : (List.range n).map (k.outcome p pairs s) = made.map .ok) :
    k.creations p pairs s n = made.map fun e => .created (.ok e) := by
  have hcomp : k.creations p pairs s n =
      ((List.range n).map (k.outcome p pairs s)).map .created := by
    rw [List.map_map]
    rfl
  rw [hcomp, h, List.map_map]
  rfl

theorem exists_made {n : Nat} (h : ∀ j, j < n → ∃ e, k.outcome p pairs s j = .ok e) :
    ∃ made : List EngineHandle, (List.range n).map (k.outcome p pairs s) = made.map .ok := by
  induction n with
  | zero => exact ⟨[], rfl⟩
  | succ n ih =>
    obtain ⟨made, hmade⟩ := ih fun j hj => h j (Nat.lt_succ_of_lt hj)
    obtain ⟨e, he⟩ := h n (Nat.lt_succ_self n)
    refine ⟨made ++ [e], ?_⟩
    rw [List.range_succ, List.map_append, List.map_append, hmade, List.map_singleton,
      List.map_singleton, he]

/-- Creations succeed one after the other if each leaves what the next one needs. -/
theorem after_of_step (needs : Nat → State → Prop) {n : Nat} (hstart : needs 0 s)
    (hstep : ∀ i < n, ∀ t, needs i t →
      ∃ e t', k.create p pairs t = (.ok e, t') ∧ needs (i + 1) t') :
    (∀ i < n, ∃ e, k.outcome p pairs s i = .ok e) ∧ needs n (k.after p pairs s n) := by
  induction n with
  | zero => exact ⟨nofun, hstart⟩
  | succ n ih =>
    obtain ⟨hmade, hneeds⟩ := ih fun i hi => hstep i (Nat.lt_succ_of_lt hi)
    obtain ⟨e, next, hcreate, hnext⟩ := hstep n (Nat.lt_succ_self n) _ hneeds
    constructor
    · intro i hi
      rcases Nat.lt_succ_iff_lt_or_eq.mp hi with hi | rfl
      · exact hmade i hi
      · exact ⟨e, by rw [outcome, hcreate]⟩
    · rw [after, hcreate]
      exact hnext

/-! ## Being watched changes nothing -/

theorem after_observed (n : Nat) :
    k.observed.after p pairs ⟨s, deeds⟩ n =
      ⟨k.after p pairs s n, deeds ++ k.creations p pairs s n⟩ := by
  induction n with
  | zero =>
    rw [creations, List.range_zero, List.map_nil, List.append_nil]
    rfl
  | succ n ih =>
    rw [after, ih, creations_succ, ← List.append_assoc]
    rfl

theorem outcome_observed (n : Nat) :
    k.observed.outcome p pairs ⟨s, deeds⟩ n = k.outcome p pairs s n := by
  rw [outcome, after_observed]
  rfl

theorem record_observed (e : Event) :
    k.observed.record e ⟨s, deeds⟩ = ⟨k.record e s, deeds ++ [.journalled [e]]⟩ := by
  -- the events behind those that were there before are the new ones
  have hfresh : ((k.bench s).record e).journal.toList.drop (k.bench s).journal.size = [e] := by
    rw [Bench.record, Array.toList_push, ← Array.length_toList, List.drop_left]
  simp only [record, update, observed, hfresh]

theorem destroyAll_observed (engines : List EngineHandle) :
    k.observed.destroyAll engines ⟨s, deeds⟩ =
      ⟨k.destroyAll engines s, deeds ++ engines.map .destroyed⟩ := by
  induction engines generalizing s deeds with
  | nil => rw [List.map_nil, List.append_nil]; rfl
  | cons e rest ih =>
    rw [List.map_cons, List.append_cons]
    exact ih

end Backend

end ReadinessBench
