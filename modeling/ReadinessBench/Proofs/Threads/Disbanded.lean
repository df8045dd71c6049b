import ReadinessBench.Proofs.Threads.Headway

/-!
# How a group of workers is disbanded

The owner's loop comes to what its rounds come to, nobody is harmed on the way, and it comes to its
end. Main statement: `disbanded_run`.
-/

namespace ReadinessBench

namespace Disbanding

variable {s : Disbanding}

namespace Kept

/-- The workers joined in a round were running at its beginning. -/
theorem exists_joined (h : s.Kept) :
    ∃ joined, s.group.joined = s.atHead.joined ++ joined ∧ joined.Sublist s.atHead.running := by
  obtain ⟨part, -, hstands⟩ := h.stands
  unfold Stands at hstands
  split at hstands
  · exact ⟨[], by rw [hstands.1, List.append_nil], List.nil_sublist _⟩
  · exact ⟨[], by rw [hstands.1, List.append_nil], List.nil_sublist _⟩
  · obtain ⟨-, done, -, hgroup, -⟩ := hstands
    exact ⟨[], by rw [hgroup, List.append_nil], List.nil_sublist _⟩
  · exact ⟨[], by rw [hstands.2.1, List.append_nil]; rfl, List.nil_sublist _⟩
  · exact ⟨[], by rw [hstands.2.1, List.append_nil]; rfl, List.nil_sublist _⟩
  · rename_i joined left _ _
    obtain ⟨-, hgroup, -, -, p, hsplit, -⟩ := hstands
    refine ⟨joined, by rw [hgroup], ?_⟩
    exact (List.sublist_append_left joined left).trans (hsplit ▸ List.filter_sublist)
  · exact ⟨[], by rw [hstands.2.1, List.append_nil], List.nil_sublist _⟩

theorem nodup_joined (h : s.Kept) : s.group.joined.Nodup := by
  obtain ⟨joined, hjoined, hsub⟩ := h.exists_joined
  rw [hjoined]
  exact s.nodup_atHead.sublist (hsub.append_left _)

/-- At the head of the loop, and behind the loop, nothing stands of a round. -/
theorem group_eq (h : s.Kept) (howner : s.owner = .turning ∨ s.owner = .ended) :
    s.group = s.atHead := by
  obtain ⟨part, -, hstands⟩ := h.stands
  unfold Stands at hstands
  rcases howner with howner | howner <;> rw [howner] at hstands
  · exact hstands.1
  · exact hstands.2.1

theorem perm_range (h : s.Kept) (howner : s.owner = .turning ∨ s.owner = .ended) :
    (s.group.joined ++ s.group.running).Perm (List.range s.count) := by
  rw [h.group_eq howner]
  exact ThreadGroup.wind_ofSize_perm s.count _

/-- All are joined when nobody is running any more. -/
theorem joined_perm_iff (h : s.Kept) (howner : s.owner = .turning ∨ s.owner = .ended) :
    s.group.joined.Perm (List.range s.count) ↔ s.group.running = [] := by
  have hall := h.perm_range howner
  constructor
  · intro hjoined
    have hlength := hall.length_eq
    rw [List.length_append, hjoined.length_eq] at hlength
    exact List.eq_nil_of_length_eq_zero (by omega)
  · intro hnone
    rw [hnone, List.append_nil] at hall
    exact hall

end Kept

/-- What is to be said of a group of so many workers, whoever has taken which step so far. -/
structure Disbanded (n : Nat) (s : Disbanding) : Prop where
  /-- The loop comes to what its rounds come to, and every worker is joined or running. -/
  partition : s.owner = .turning ∨ s.owner = .ended →
    s.group = (ThreadGroup.ofSize n).wind (s.rounds.map GroupRound.finished) ∧
      (s.group.joined ++ s.group.running).Perm (List.range n)
  /-- So it was at the beginning of every round before. -/
  rounds : ∀ before r after, s.rounds = before ++ r :: after →
    let g := (ThreadGroup.ofSize n).wind (before.map GroupRound.finished)
    r.Of g ∧ (g.joined ++ g.running).Perm (List.range n)
  /-- In every round all running workers are interrupted, and those found are joined. -/
  deeds : (s.owner = .turning → s.deeds = s.rounds.flatMap GroupRound.deeds) ∧
    (s.owner = .ended → s.deeds = s.rounds.flatMap GroupRound.deeds ++ [.reports])
  /-- They have been interrupted before the owner waits for a notice. -/
  listening : s.owner = .listening →
    s.deeds = s.rounds.flatMap GroupRound.deeds ++ s.group.running.map .interrupts
  /-- Nobody is joined twice, and in the end everybody has been joined. -/
  joined : (s.deeds.filterMap GroupDeed.joined?).Nodup ∧
    (s.owner = .ended → (s.deeds.filterMap GroupDeed.joined?).Perm (List.range n))
  /-- Only workers that have finished are joined, so that no join has to wait. -/
  finished : (∀ w ∈ s.deeds.filterMap GroupDeed.joined?, s.HasFinished w) ∧
    ∀ joined left running, s.owner = .joining joined left running → ∀ w ∈ left, s.HasFinished w
  /-- Nobody is interrupted after being joined. -/
  unharmed : ∀ before w after, s.deeds = before ++ .interrupts w :: after →
    w ∉ before.filterMap GroupDeed.joined?
  /-- From the head of the loop it goes on unless all have been joined. -/
  ends_iff : s.owner = .turning → ∀ hears,
    ((s.step (.owner hears)).owner = .ended ↔
      (s.deeds.filterMap GroupDeed.joined?).Perm (List.range n))
  /-- One warning for each worker that has panicked, and one report when all is over. -/
  journal : s.journal =
    List.replicate (s.group.joined.countP fun w => (s.workers w).panicked)
      (.workerPanicked Mechanism.threads.name) ++
    if s.owner = .ended then [.workersStopped Mechanism.threads.name] else []
  /-- At most one echo step is begun with the flag set, and the worker's loop makes of its looks as
  many echo steps as it was let into. -/
  echoes : ∀ w, (s.workers w).lateEchoes ≤ 1 ∧ ∀ pair d,
    ThreadGroup.serve pair (s.workers w).looks d =
      (fun d => d.echo pair)^[(s.workers w).admissions] d
  /-- With the flag up a worker has finished after five more steps of its own. -/
  leaves : s.stopped = true → ∀ w < n, ∀ more : List Move, 5 ≤ more.count (.worker w) →
    (s.run more).HasFinished w
  /-- The flag is up and the loop has begun as soon as the owner takes a step. -/
  begins : s.owner = .holding → ∀ hears,
    (s.step (.owner hears)).stopped = true ∧ (s.step (.owner hears)).owner = .turning
  /-- Unless the loop ends, another round is over after so many steps of the owner, with notices or
  without. -/
  goesOn : ∀ more : List Move, 3 * n + 7 ≤ more.count (.owner false) →
    (s.run more).owner = .ended ∨ s.rounds.length < (s.run more).rounds.length
  /-- When all workers have finished, the owner comes to the end of its loop. -/
  ends : (∀ w < n, s.HasFinished w) → ∀ more : List Move, 3 * n + 8 ≤ more.count (.owner false) →
    (s.run more).owner = .ended

/-- **However a group is disbanded, it is disbanded in order.** Any number of workers leave their
loops at any time, well or in a panic, before the owner has put up the flag and after it, and their
notices may come early, late or never. -/
theorem disbanded_run (n : Nat) (moves : List Move) :
    Disbanded n (({ count := n } : Disbanding).run moves) := by
  have h : Kept (({ count := n } : Disbanding).run moves) := (start n).run moves
  have hcount : (({ count := n } : Disbanding).run moves).count = n := count_run _ moves
  revert h hcount
  generalize ({ count := n } : Disbanding).run moves = s
  rintro h rfl
  obtain ⟨part, hdeeds, hstands⟩ := h.stands
  unfold Stands at hstands
  refine ⟨fun howner => ⟨h.group_eq howner, h.perm_range howner⟩, ?_, ⟨?_, ?_⟩, ?_, ?_, ?_,
    h.unharmed, ?_, h.journal, fun w => ⟨(h.heeds w).late_le, (h.heeds w).serve_looks⟩,
    ?_, ?_, fun more hmany => h.goesOn ?_, fun hall more hmany => h.ends hall ?_⟩
  · exact fun before r after heq =>
      ⟨h.rounds before r after heq, ThreadGroup.wind_ofSize_perm s.count _⟩
  · intro howner
    rw [howner] at hstands
    rw [hdeeds, hstands.2, List.append_nil]
  · intro howner
    rw [howner] at hstands
    rw [hdeeds, hstands.2.2]
  · intro howner
    rw [howner] at hstands
    rw [hdeeds, hstands.2.2, hstands.2.1]
    rfl
  · rw [h.joins]
    refine ⟨h.nodup_joined, fun howner => ?_⟩
    rw [h.joined_perm_iff (Or.inr howner), h.group_eq (Or.inr howner)]
    rw [howner] at hstands
    exact hstands.1
  · refine ⟨h.joins ▸ h.finished, fun joined left running howner w hw => ?_⟩
    rw [howner] at hstands
    exact hstands.2.2.2.1 w (List.mem_append_right joined hw)
  · intro howner hears
    rw [h.joins, h.joined_perm_iff (Or.inl howner)]
    show (s.act hears).owner = _ ↔ _
    unfold act turn
    rw [howner]
    dsimp only
    split
    · rename_i hempty
      exact iff_of_true rfl (List.isEmpty_iff.mp hempty)
    · rename_i hne
      exact iff_of_false Disbander.noConfusion fun hempty => hne (List.isEmpty_iff.mpr hempty)
  · intro hstopped w hw more hmany
    have hless := stepsLeft_workers_run hstopped hw more
    have hfive := (s.workers w).stepsLeft_le
    exact PairWorker.stepsLeft_eq_zero_iff.mp (by omega)
  · intro howner hears
    show (s.act hears).stopped = _ ∧ (s.act hears).owner = _
    unfold act
    rw [howner]
    exact ⟨rfl, rfl⟩
  · have hhead := h.toEnd_le.1
    omega
  · have hend := h.toEnd_le.2
    omega

/-- The first of two workers has panicked before anybody has asked it to end. The second is still
in its loop when the first is joined, and so it is interrupted once more. -/
theorem disbanded_run_two_workers :
    let leave (w : Nat) : List Move := List.replicate 4 (.worker w)
    let s := ({ count := 2 } : Disbanding).run
      ([.panic 0] ++ leave 0 ++ List.replicate 11 (.owner false) ++ leave 1)
    let more : List Move := List.replicate 14 (.owner false)
    s.owner = .turning ∧ s.deeds = [.interrupts 0, .interrupts 1, .joins 0 true] ∧
      (∀ w < 2, s.HasFinished w) ∧ (s.run more).owner = .ended ∧
      (s.run more).deeds = s.deeds ++ [.interrupts 1, .joins 1 false, .reports] := by
  have hall : ∀ w < 2, (({ count := 2 } : Disbanding).run ([.panic 0] ++
      List.replicate 4 (.worker 0) ++ List.replicate 11 (.owner false) ++
      List.replicate 4 (.worker 1))).HasFinished w := by
    unfold HasFinished
    decide
  refine ⟨by decide, by decide, hall, ?_, by decide⟩
  exact (disbanded_run 2 _).ends hall _ (by decide)

end Disbanding

end ReadinessBench
