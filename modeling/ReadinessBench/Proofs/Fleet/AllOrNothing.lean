import ReadinessBench.Bench.Scripted
import ReadinessBench.Proofs.Fleet.Observed

/-!
# Fleets are made whole or not at all

The backend is any backend: its creations succeed and fail as they like. What is done with it is
read off the deeds that it has seen. Main statement: `create_all_or_nothing`.
-/

namespace ReadinessBench.Fleet

variable {State : Type}

/-- What is left when all creations have succeeded. -/
structure Completed (k : Backend State) (p : Plan) (pairs : List Nat) (s : State) (count : Nat)
    (fleet : Fleet) (final : Observed State) : Prop where
  /-- The engines stand in the order of their creation. -/
  engines : fleet.map .ok = (List.range count).map (k.outcome p pairs s)
  deeds : final.deeds = k.creations p pairs s count
  /-- The destruction of the fleet goes through it backwards, and leaves nothing alive. -/
  destroyed : (fleet.destroy k.observed final).deeds =
    k.creations p pairs s count ++ fleet.reverse.map .destroyed
  noneLive : Deed.live (fleet.destroy k.observed final).deeds = some []
  /-- The same happens when nobody watches. -/
  unwatched : create k p count pairs s = .ok (.ok fleet, final.state) ∧
    fleet.destroy k final.state = (fleet.destroy k.observed final).state

/-- What is left when the creation number `i` has been the first to fail. -/
structure RolledBack (k : Backend State) (p : Plan) (pairs : List Nat) (s : State)
    (count i : Nat) (e : BenchError) (final : Observed State) : Prop where
  /-- No creation follows the one that failed. The event comes next, then the destructions of what
  had been made, the newest first. -/
  deeds : ∃ made : List EngineHandle,
    made.map .ok = (List.range i).map (k.outcome p pairs s) ∧
      final.deeds = k.creations p pairs s (i + 1) ++
        .journalled [.creationRolledBack k.name i i e] :: made.reverse.map .destroyed
  warns : (Event.creationRolledBack k.name i i e).level = .warn
  noneLive : Deed.live final.deeds = some []
  /-- The same happens when nobody watches. -/
  unwatched : create k p count pairs s = .ok (.error e, final.state)

/-- Creations that succeed are passed over. -/
theorem extend_of_made {k : Backend State} {p : Plan} {pairs : List Nat} {s : State}
    {made : List EngineHandle} {j n : Nat}
    (h : (List.range j).map (k.outcome p pairs s) = made.map .ok) :
    extend k p pairs [] (j + n) s = extend k p pairs made.reverse n (k.after p pairs s j) := by
  -- by induction on how many succeed; the list kept is the newest first
  induction j generalizing made n with
  | zero =>
    rw [List.range_zero, List.map_nil, eq_comm, List.map_eq_nil_iff] at h
    rw [h, Nat.zero_add]
    rfl
  | succ j ih =>
    rw [List.range_succ, List.map_append, eq_comm, List.map_eq_append_iff] at h
    obtain ⟨older, newest, rfl, holder, hnewest⟩ := h
    rw [List.map_singleton, List.map_eq_singleton_iff] at hnewest
    obtain ⟨e, rfl, he⟩ := hnewest
    rw [Nat.add_assoc, Nat.add_comm 1 n, ih holder.symm, extend, Backend.create_after, ← he,
      List.reverse_append]
    rfl

theorem length_eq_of_made {k : Backend State} {p : Plan} {pairs : List Nat} {s : State}
    {made : List EngineHandle} {j : Nat}
    (h : (List.range j).map (k.outcome p pairs s) = made.map .ok) : made.length = j := by
  have hlength := congrArg List.length h
  rw [List.length_map, List.length_map, List.length_range] at hlength
  exact hlength.symm

theorem create_of_made {k : Backend State} {p : Plan} {pairs : List Nat} {s : State}
    {made : List EngineHandle} {count : Nat} (hroom : isReservable count = true)
    (h : (List.range count).map (k.outcome p pairs s) = made.map .ok) :
    create k p count pairs s = .ok (.ok made, k.after p pairs s count) := by
  have hextend := extend_of_made (n := 0) h
  rw [Nat.add_zero] at hextend
  rw [create, if_pos hroom, hextend, extend, List.reverse_reverse]

theorem create_of_failed {k : Backend State} {p : Plan} {pairs : List Nat} {s : State}
    {made : List EngineHandle} {count i : Nat} {e : BenchError}
    (hroom : isReservable count = true) (hi : i < count)
    (h : (List.range i).map (k.outcome p pairs s) = made.map .ok)
    (he : k.outcome p pairs s i = .error e) :
    create k p count pairs s =
      .ok (.error e, k.destroyAll made.reverse
        (k.record (.creationRolledBack k.name i i e) (k.after p pairs s (i + 1)))) := by
  obtain ⟨n, rfl⟩ : ∃ n, count = i + (n + 1) := ⟨count - i - 1, by omega⟩
  rw [create, if_pos hroom, extend_of_made h, extend, Backend.create_after, he,
    List.length_reverse, length_eq_of_made h]

/-- **A fleet is created whole or not at all.** The backend's creations have any outcomes. If the
first `count` of them are engines, these make the fleet; if one fails, its error is the result,
and all that has been made before is gone. -/
theorem create_all_or_nothing (k : Backend State) (p : Plan) (count : Nat) (pairs : List Nat)
    (s : State) (hroom : isReservable count = true) :
    ((∀ j, j < count → ∃ e, k.outcome p pairs s j = .ok e) →
      ∃ fleet final, create k.observed p count pairs ⟨s, []⟩ = .ok (.ok fleet, final) ∧
        Completed k p pairs s count fleet final) ∧
    ∀ i e, i < count → (∀ j, j < i → ∃ e, k.outcome p pairs s j = .ok e) →
      k.outcome p pairs s i = .error e →
      ∃ final, create k.observed p count pairs ⟨s, []⟩ = .ok (.error e, final) ∧
        RolledBack k p pairs s count i e final := by
  have hwatched : k.observed.outcome p pairs ⟨s, []⟩ = k.outcome p pairs s :=
    funext Backend.outcome_observed
  constructor
  · intro hok
    obtain ⟨made, hmade⟩ := Backend.exists_made hok
    have hdestroyed :
        destroy k.observed made ⟨k.after p pairs s count, k.creations p pairs s count⟩ =
          ⟨destroy k made (k.after p pairs s count),
            k.creations p pairs s count ++ made.reverse.map .destroyed⟩ :=
      Backend.destroyAll_observed made.reverse
    refine ⟨made, ⟨k.after p pairs s count, k.creations p pairs s count⟩, ?_, ?_⟩
    · rw [create_of_made hroom (hwatched ▸ hmade), Backend.after_observed, List.nil_append]
    · refine ⟨hmade.symm, rfl, by rw [hdestroyed], ?_, create_of_made hroom hmade, by
        rw [hdestroyed]⟩
      rw [hdestroyed, Deed.live, Backend.creations_of_ok hmade, List.foldlM_append,
        Deed.alive_creations]
      exact Deed.alive_destructions [] made.reverse
  · intro i e hi hok he
    obtain ⟨made, hmade⟩ := Backend.exists_made hok
    have hcreate := create_of_failed hroom hi (hwatched ▸ hmade)
      ((Backend.outcome_observed i).trans he)
    rw [Backend.after_observed, Backend.record_observed, Backend.destroyAll_observed,
      List.nil_append, List.append_assoc] at hcreate
    refine ⟨_, hcreate, ⟨made, hmade.symm, rfl⟩, rfl, ?_, create_of_failed hroom hi hmade he⟩
    -- the creation that failed and the event leave alive what was alive
    rw [Deed.live, Backend.creations_succ, Backend.creations_of_ok hmade, he,
      List.append_assoc, List.foldlM_append, Deed.alive_creations]
    exact Deed.alive_destructions [] made.reverse

/-- Two scripted engines make a fleet; with the third, whose creation fails, they are undone. -/
theorem create_all_or_nothing_scripted :
    let p : Plan := ⟨.poll, 3, 1, 1, false, usualDuration, by decide, by decide, by decide,
      by decide, by decide⟩
    let k := Stagecraft.backend "scripted"
    let s : Stagecraft := { script := [[], [.workers 3], [.fail ScriptAction.injected]] }
    isReservable 3 = true ∧
    (∃ fleet final, create k.observed p 2 [] ⟨s, []⟩ = .ok (.ok fleet, final) ∧
      Completed k p [] s 2 fleet final) ∧
    ∃ final, create k.observed p 3 [] ⟨s, []⟩ = .ok (.error ScriptAction.injected, final) ∧
      RolledBack k p [] s 3 2 ScriptAction.injected final := by
  intro p k s
  have hmade : ∀ j, j < 2 → ∃ e, k.outcome p [] s j = .ok e := by
    intro j hj
    match j with
    | 0 => exact ⟨⟨0, 1⟩, rfl⟩
    | 1 => exact ⟨⟨1, 3⟩, rfl⟩
  refine ⟨by decide, (create_all_or_nothing k p 2 [] s (by decide)).1 hmade, ?_⟩
  exact (create_all_or_nothing k p 3 [] s (by decide)).2 2 _ (by decide) hmade rfl

end ReadinessBench.Fleet
