import Mathlib.Logic.Function.Iterate
import ReadinessBench.Watch.ThreadGroup

/-!
# Rounds of a group that is being ended

A round moves those that have finished by then from the running workers to the joined ones. So the
group stays the same as a whole, round after round.
-/

namespace ReadinessBench.ThreadGroup

variable {g : ThreadGroup}

theorem round_perm (g : ThreadGroup) (finished : Nat → Bool) :
    ((g.round finished).joined ++ (g.round finished).running).Perm (g.joined ++ g.running) := by
  rw [round, List.append_assoc]
  exact (List.filter_append_perm finished g.running).append_left g.joined

theorem wind_of_joined (h : g.running = []) (rounds : List (Nat → Bool)) : g.wind rounds = g := by
  cases rounds with
  | nil => rfl
  | cons finished rest => rw [wind, h, List.isEmpty_nil, if_pos rfl]

theorem wind_cons (h : g.running ≠ []) (finished : Nat → Bool) (rest : List (Nat → Bool)) :
    g.wind (finished :: rest) = (g.round finished).wind rest := by
  rw [wind, if_neg fun hempty => h (List.isEmpty_iff.mp hempty)]

theorem wind_append (g : ThreadGroup) (rounds more : List (Nat → Bool)) :
    g.wind (rounds ++ more) = (g.wind rounds).wind more := by
  induction rounds generalizing g with
  | nil => rfl
  | cons finished rest ih =>
    by_cases h : g.running = []
    · rw [wind_of_joined h, wind_of_joined h, wind_of_joined h]
    · rw [List.cons_append, wind_cons h, wind_cons h, ih]

/-- One more round, if there is anything left to do. -/
theorem wind_concat {rounds : List (Nat → Bool)} (h : (g.wind rounds).running ≠ [])
    (finished : Nat → Bool) : g.wind (rounds ++ [finished]) = (g.wind rounds).round finished := by
  rw [wind_append, wind_cons h, wind]

/-- Whatever the rounds, every worker is either joined or running. -/
theorem wind_perm (g : ThreadGroup) (rounds : List (Nat → Bool)) :
    ((g.wind rounds).joined ++ (g.wind rounds).running).Perm (g.joined ++ g.running) := by
  induction rounds generalizing g with
  | nil => exact List.Perm.refl _
  | cons finished rest ih =>
    by_cases h : g.running = []
    · rw [wind_of_joined h]
    · rw [wind_cons h]
      exact (ih _).trans (g.round_perm finished)

theorem wind_ofSize_perm (n : Nat) (rounds : List (Nat → Bool)) :
    (((ofSize n).wind rounds).joined ++ ((ofSize n).wind rounds).running).Perm (List.range n) :=
  (ofSize n).wind_perm rounds

/-! ## The loop of a worker -/

variable {pair : Nat}

/-- An echo step for each look that finds the flag unset. -/
theorem serve_replicate (pair n : Nat) (looks : List Bool) (d : Duty) :
    serve pair (List.replicate n false ++ looks) d =
      serve pair looks ((fun d => d.echo pair)^[n] d) := by
  induction n generalizing d with
  | zero => rfl
  | succ n ih =>
    rw [List.replicate_succ, List.cons_append, serve, if_neg Bool.false_ne_true, ih,
      Function.iterate_succ_apply]

theorem serve_replicate_false (pair n : Nat) (d : Duty) :
    serve pair (List.replicate n false) d = (fun d => d.echo pair)^[n] d := by
  rw [← List.append_nil (List.replicate n false), serve_replicate, serve]

/-- The look that finds the flag set is the last one. -/
theorem serve_replicate_true (pair n : Nat) (d : Duty) :
    serve pair (List.replicate n false ++ [true]) d = (fun d => d.echo pair)^[n] d := by
  rw [serve_replicate, serve, if_pos rfl]

end ReadinessBench.ThreadGroup
