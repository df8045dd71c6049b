import ReadinessBench.Proofs.Lists
import ReadinessBench.Proofs.Threads.Disbanding
import ReadinessBench.Proofs.Threads.Rounds

/-!
# What stands of a round

Round by round, the owner interrupts all that are still running and joins those that have finished.
What stands of a round is a matter of where the owner is in it; the workers have no say in that, for
the owner asks about a worker only once in a round, and a worker that has finished stays so.
-/

namespace ReadinessBench

/-! ## The workers -/

/-- Whether a worker in this place may still look at the flag again. -/
def Post.inLoop : Post → Bool
  | .looking | .admitted | .echoing => true
  | _ => false

namespace PairWorker

variable {k : PairWorker} {stopped : Bool}

/-- How often the worker has been let into an echo step. -/
def admissions (k : PairWorker) : Nat := k.echoes + (if k.post = .admitted then 1 else 0)

/-- A worker that has found the flag unset before it was set begins one more echo step. -/
structure Heeds (k : PairWorker) (stopped : Bool) : Prop where
  looks : k.looks = List.replicate k.admissions false ∨
    k.post.inLoop = false ∧ k.looks = List.replicate k.admissions false ++ [true]
  late_le : k.lateEchoes ≤ 1
  late_admitted : k.post = .admitted → k.lateEchoes = 0
  late_unstopped : stopped = false → k.lateEchoes = 0

namespace Heeds

theorem start : ({} : PairWorker).Heeds stopped :=
  ⟨Or.inl rfl, Nat.zero_le _, nofun, fun _ => rfl⟩

theorem stop (h : k.Heeds stopped) : k.Heeds true where
  looks := h.looks
  late_le := h.late_le
  late_admitted := h.late_admitted
  late_unstopped := nofun

/-- A worker in its loop has never found the flag set. -/
theorem looks_of_inLoop (h : k.Heeds stopped) (hpost : k.post.inLoop = true) :
    k.looks = List.replicate k.admissions false := by
  rcases h.looks with hlooks | ⟨hout, -⟩
  · exact hlooks
  · rw [hpost] at hout
    cases hout

theorem next (h : k.Heeds stopped) : (k.next stopped).Heeds stopped := by
  unfold PairWorker.next
  cases hpost : k.post with
  | looking =>
    have hlooks := h.looks_of_inLoop (by rw [hpost]; rfl)
    rw [admissions, hpost] at hlooks
    cases stopped with
    -- the worker leaves its loop with this look
    | true => exact ⟨Or.inr ⟨rfl, congrArg (· ++ [true]) hlooks⟩, h.late_le, nofun, nofun⟩
    | false =>
      refine ⟨Or.inl ?_, h.late_le, fun _ => h.late_unstopped rfl, h.late_unstopped⟩
      show k.looks ++ [false] = List.replicate (k.echoes + 1) false
      rw [hlooks, List.replicate_succ']
      rfl
  | admitted =>
    have hlooks := h.looks_of_inLoop (by rw [hpost]; rfl)
    rw [admissions, hpost] at hlooks
    have hlate := h.late_admitted hpost
    refine ⟨Or.inl hlooks, ?_, nofun, fun hstopped => ?_⟩
    · show (if stopped then k.lateEchoes + 1 else k.lateEchoes) ≤ 1
      split <;> omega
    · show (if stopped then k.lateEchoes + 1 else k.lateEchoes) = 0
      rw [hstopped]
      exact hlate
  | echoing =>
    have hlooks := h.looks_of_inLoop (by rw [hpost]; rfl)
    rw [admissions, hpost] at hlooks
    exact ⟨Or.inl hlooks, h.late_le, nofun, h.late_unstopped⟩
  | leaving =>
    have hlooks := h.looks
    rw [admissions, hpost] at hlooks
    exact ⟨hlooks.imp id fun hout => ⟨rfl, hout.2⟩, h.late_le, nofun, h.late_unstopped⟩
  | noticed =>
    have hlooks := h.looks
    rw [admissions, hpost] at hlooks
    exact ⟨hlooks.imp id fun hout => ⟨rfl, hout.2⟩, h.late_le, nofun, h.late_unstopped⟩
  | finished => exact h

theorem panic (h : k.Heeds stopped) : k.panic.Heeds stopped := by
  have hleaves (hloop : k.post.inLoop = true) (hpost : k.post ≠ .admitted) :
      ({ k with post := .leaving, panicked := true } : PairWorker).Heeds stopped := by
    have hlooks := h.looks_of_inLoop hloop
    rw [admissions, if_neg hpost] at hlooks
    exact ⟨Or.inl hlooks, h.late_le, nofun, h.late_unstopped⟩
  unfold PairWorker.panic
  cases hpost : k.post with
  | looking | echoing => exact hleaves (by rw [hpost]; rfl) (by rw [hpost]; nofun)
  | admitted | leaving | noticed | finished => exact h

/-- What the worker has done is what its loop makes of its looks. -/
theorem serve_looks (h : k.Heeds stopped) (pair : Nat) (d : Duty) :
    ThreadGroup.serve pair k.looks d = (fun d => d.echo pair)^[k.admissions] d := by
  rcases h.looks with hlooks | ⟨-, hlooks⟩ <;> rw [hlooks]
  · exact ThreadGroup.serve_replicate_false pair _ d
  · exact ThreadGroup.serve_replicate_true pair _ d

end Heeds

theorem next_of_finished (h : k.post = .finished) : k.next stopped = k := by
  simp only [next, h]

theorem panic_of_finished (h : k.post = .finished) : k.panic = k := by
  simp only [panic, h]

end PairWorker

/-! ## The owner -/

/-- Who has been joined in the course of some deeds. -/
def GroupDeed.joined? : GroupDeed → Option Nat
  | .joins w _ => some w
  | _ => none

/-- The round belongs to a group that is in this state at its beginning. -/
structure GroupRound.Of (r : GroupRound) (g : ThreadGroup) : Prop where
  running_eq : r.running = g.running
  running_ne : g.running ≠ []
  found_eq : r.found.map Prod.fst = g.running.filter r.finished

/-- A round comes to what it has found, however that was found. -/
theorem GroupRound.finished_of_found {r : GroupRound} {g : ThreadGroup} {p : Nat → Bool}
    (hfound : r.found.map Prod.fst = g.running.filter p) :
    g.running.filter r.finished = g.running.filter p ∧ g.round r.finished = g.round p := by
  have hsame : ∀ w ∈ g.running, r.finished w = p w := by
    intro w hw
    rw [Bool.eq_iff_iff, finished, hfound, List.contains_iff_mem, List.mem_filter]
    exact and_iff_right hw
  have hrest : ∀ w ∈ g.running, (!r.finished w) = !p w := fun w hw => by rw [hsame w hw]
  refine ⟨List.filter_congr hsame, ?_⟩
  rw [ThreadGroup.round, List.filter_congr hsame, List.filter_congr hrest]
  rfl

/-- All running workers have been interrupted. -/
def ThreadGroup.warned (g : ThreadGroup) : ThreadGroup :=
  { g with interrupted := g.interrupted ++ g.running }

namespace Disbanding

variable {s s' : Disbanding} {g : ThreadGroup} {part : List GroupDeed}

/-- The group at the head of the loop, when the round began. -/
def atHead (s : Disbanding) : ThreadGroup :=
  (ThreadGroup.ofSize s.count).wind (s.rounds.map GroupRound.finished)

def HasFinished (s : Disbanding) (w : Nat) : Prop := (s.workers w).post = .finished

/-- What stands of a round that began with this group, by where the owner is in it: how far the
group has come, and what the owner has done since. -/
def Stands (s : Disbanding) (g : ThreadGroup) (part : List GroupDeed) : Prop :=
  match s.owner with
  | .holding | .turning => s.group = g ∧ part = []
  | .interrupting left =>
    g.running ≠ [] ∧ ∃ done, g.running = done ++ left ∧
      s.group = { g with interrupted := g.interrupted ++ done } ∧ part = done.map .interrupts
  | .listening => g.running ≠ [] ∧ s.group = g.warned ∧ part = g.running.map .interrupts
  | .sorting left finished running =>
    g.running ≠ [] ∧ s.group = g.warned ∧ part = g.running.map .interrupts ∧
      (∀ w ∈ finished, s.HasFinished w) ∧
      ∃ done p, g.running = done ++ left ∧ finished = done.filter p ∧ running = done.filter (!p ·)
  | .joining joined left running =>
    g.running ≠ [] ∧ s.group = { g.warned with joined := g.joined ++ joined } ∧
      part = g.running.map .interrupts ++
        joined.map (fun w => .joins w (s.workers w).panicked) ∧
      (∀ w ∈ joined ++ left, s.HasFinished w) ∧
      ∃ p, g.running.filter p = joined ++ left ∧ running = g.running.filter (!p ·)
  | .ended => g.running = [] ∧ s.group = g ∧ part = [.reports]

/-- The workers can change nothing about it. -/
theorem Stands.of_workers (h : s.Stands g part) (howner : s'.owner = s.owner)
    (hgroup : s'.group = s.group)
    (hworkers : ∀ w, s.HasFinished w → s'.workers w = s.workers w) : s'.Stands g part := by
  have hfinished : ∀ w, s.HasFinished w → s'.HasFinished w := by
    intro w hw
    rw [HasFinished, hworkers w hw]
    exact hw
  unfold Stands at h ⊢
  rw [howner, hgroup]
  -- only a round that is being sorted or joined speaks of workers, and of none that still runs
  cases howner : s.owner with
  | holding | turning | interrupting | listening | ended =>
    rw [howner] at h
    exact h
  | sorting left finished running =>
    rw [howner] at h
    obtain ⟨hne, hgroup, hpart, hall, hdone⟩ := h
    exact ⟨hne, hgroup, hpart, fun w hw => hfinished w (hall w hw), hdone⟩
  | joining joined left running =>
    rw [howner] at h
    obtain ⟨hne, hgroup, rfl, hall, hdone⟩ := h
    refine ⟨hne, hgroup, ?_, fun w hw => hfinished w (hall w hw), hdone⟩
    congr 1
    apply List.map_congr_left
    intro w hw
    rw [hworkers w (hall w (List.mem_append_left left hw))]

/-- What holds between any two moves. -/
structure Kept (s : Disbanding) : Prop where
  stands : ∃ part, s.deeds = s.rounds.flatMap GroupRound.deeds ++ part ∧ s.Stands s.atHead part
  rounds : ∀ before r after, s.rounds = before ++ r :: after →
    r.Of ((ThreadGroup.ofSize s.count).wind (before.map GroupRound.finished))
  heeds : ∀ w, (s.workers w).Heeds s.stopped
  finished : ∀ w ∈ s.group.joined, s.HasFinished w
  joins : s.deeds.filterMap GroupDeed.joined? = s.group.joined
  /-- Nobody is interrupted after being joined. -/
  unharmed : ∀ before w after, s.deeds = before ++ .interrupts w :: after →
    w ∉ before.filterMap GroupDeed.joined?
  journal : s.journal =
    List.replicate (s.group.joined.countP fun w => (s.workers w).panicked)
      (.workerPanicked Mechanism.threads.name) ++
    if s.owner = .ended then [.workersStopped Mechanism.threads.name] else []

theorem start (n : Nat) : Kept { count := n } where
  stands := ⟨[], rfl, rfl, rfl⟩
  rounds before r after h := by simp at h
  heeds _ := .start
  finished _ hw := absurd hw List.not_mem_nil
  joins := rfl
  unharmed before w after h := by simp at h
  journal := rfl

/-- The workers of a round are not joined yet. -/
theorem nodup_atHead (s : Disbanding) : (s.atHead.joined ++ s.atHead.running).Nodup :=
  (ThreadGroup.wind_ofSize_perm s.count _).nodup_iff.mpr List.nodup_range

namespace Kept

theorem unharmed_concat (h : s.Kept) {deed : GroupDeed}
    (hdeed : ∀ w, deed = .interrupts w → w ∉ s.group.joined) :
    ∀ before w after, s.deeds ++ [deed] = before ++ .interrupts w :: after →
      w ∉ before.filterMap GroupDeed.joined? := by
  intro before w after heq
  rcases snoc_eq_append_cons heq with ⟨rfl, hw⟩ | ⟨after', hbefore⟩
  · rw [h.joins]
    exact hdeed w hw.symm
  · exact h.unharmed before w after' hbefore

theorem joins_concat (h : s.Kept) (deed : GroupDeed) :
    (s.deeds ++ [deed]).filterMap GroupDeed.joined? = s.group.joined ++ deed.joined?.toList := by
  rw [List.filterMap_append, h.joins]
  cases deed <;> rfl

/-- Nothing is written unless something is done. -/
theorem journal_before (h : s.Kept) (howner : s.owner ≠ .ended) {next : Disbander}
    (hnext : next ≠ .ended) :
    s.journal =
      List.replicate (s.group.joined.countP fun w => (s.workers w).panicked)
        (.workerPanicked Mechanism.threads.name) ++
      if next = .ended then [.workersStopped Mechanism.threads.name] else [] := by
  have hjournal := h.journal
  rw [if_neg howner] at hjournal
  rw [if_neg hnext]
  exact hjournal

theorem journal_concat (h : s.Kept) (howner : s.owner ≠ .ended) (deed : GroupDeed) :
    (s.deeds ++ [deed]).flatMap GroupDeed.events =
      List.replicate (s.group.joined.countP fun w => (s.workers w).panicked)
        (.workerPanicked Mechanism.threads.name) ++ deed.events := by
  have hjournal := h.journal
  rw [if_neg howner, List.append_nil] at hjournal
  rw [List.flatMap_append, List.flatMap_singleton]
  exact congrArg (· ++ deed.events) hjournal

theorem turn (h : s.Kept) (howner : s.owner = .turning) : s.turn.Kept := by
  obtain ⟨part, hdeeds, hstands⟩ := h.stands
  unfold Stands at hstands
  rw [howner] at hstands
  obtain ⟨hgroup, rfl⟩ := hstands
  have hnot : s.owner ≠ .ended := howner ▸ Disbander.noConfusion
  unfold Disbanding.turn
  split
  · rename_i hempty
    have hrunning : s.atHead.running = [] := hgroup ▸ List.isEmpty_iff.mp hempty
    refine ⟨⟨[.reports], ?_, hrunning, hgroup, rfl⟩, h.rounds, h.heeds, h.finished, ?_,
      h.unharmed_concat fun _ => GroupDeed.noConfusion, ?_⟩
    · rw [hdeeds, List.append_nil]
    · exact (h.joins_concat _).trans (List.append_nil _)
    · exact h.journal_concat hnot _
  · rename_i hne
    have hrunning : s.atHead.running ≠ [] := fun hempty =>
      hne (List.isEmpty_iff.mpr (hgroup ▸ hempty))
    refine ⟨⟨[], hdeeds, hrunning, [], ?_, ?_, rfl⟩, h.rounds, h.heeds, h.finished, h.joins,
      h.unharmed, ?_⟩
    · rw [hgroup]
      rfl
    · rw [hgroup]
      show _ = ({ s.atHead with interrupted := s.atHead.interrupted ++ [] } : ThreadGroup)
      rw [List.append_nil]
    · exact h.journal_before hnot Disbander.noConfusion

theorem interrupt (h : s.Kept) {left : List Nat} (howner : s.owner = .interrupting left) :
    (s.interrupt left).Kept := by
  obtain ⟨part, hdeeds, hstands⟩ := h.stands
  unfold Stands at hstands
  rw [howner] at hstands
  obtain ⟨hne, done, hsplit, hgroup, rfl⟩ := hstands
  have hnot : s.owner ≠ .ended := howner ▸ Disbander.noConfusion
  cases left with
  | nil =>
    rw [List.append_nil] at hsplit
    subst hsplit
    exact ⟨⟨_, hdeeds, hne, hgroup, rfl⟩, h.rounds, h.heeds, h.finished, h.joins, h.unharmed,
      h.journal_before hnot Disbander.noConfusion⟩
  | cons w rest =>
    -- it was running at the head of the loop, and in this round nobody has been joined yet
    have hwaiting : w ∉ s.group.joined := by
      have hdistinct := s.nodup_atHead
      rw [hsplit] at hdistinct
      rw [hgroup]
      exact fun hmem => (List.nodup_append.mp hdistinct).2.2 w hmem w (by simp) rfl
    refine ⟨⟨(done ++ [w]).map .interrupts, ?_, hne, done ++ [w], ?_, ?_, rfl⟩, h.rounds, h.heeds,
      h.finished, ?_, h.unharmed_concat ?_, ?_⟩
    · show s.deeds ++ [_] = _
      rw [hdeeds, List.map_append, List.append_assoc]
      rfl
    · rw [List.append_assoc]
      exact hsplit
    · show ({ s.group with interrupted := s.group.interrupted ++ [w] } : ThreadGroup) = _
      rw [hgroup, ← List.append_assoc]
      rfl
    · exact (h.joins_concat _).trans (List.append_nil _)
    · intro w' hw'
      cases hw'
      exact hwaiting
    · exact h.journal_concat hnot _

theorem listen (h : s.Kept) (howner : s.owner = .listening) (hears : Bool) :
    (s.listen hears).Kept := by
  obtain ⟨part, hdeeds, hstands⟩ := h.stands
  unfold Stands at hstands
  rw [howner] at hstands
  obtain ⟨hne, hgroup, rfl⟩ := hstands
  have hnot : s.owner ≠ .ended := howner ▸ Disbander.noConfusion
  unfold Disbanding.listen
  split
  · exact h
  · refine ⟨⟨_, hdeeds, hne, hgroup, rfl, fun _ hw => absurd hw List.not_mem_nil, [],
      fun _ => false, ?_, rfl, rfl⟩, h.rounds, h.heeds, h.finished, h.joins, h.unharmed, ?_⟩
    · rw [hgroup]
      rfl
    · exact h.journal_before hnot Disbander.noConfusion

/-- What is found of one worker says nothing about those looked at before. -/
theorem filter_update {done : List Nat} {w : Nat} (hw : w ∉ done) (p : Nat → Bool) (b : Bool) :
    (done ++ [w]).filter (Function.update p w b) = done.filter p ++ (if b then [w] else []) ∧
      ((done ++ [w]).filter fun x => !Function.update p w b x) =
        done.filter (!p ·) ++ (if b then [] else [w]) := by
  have hsame : ∀ x ∈ done, Function.update p w b x = p x := by
    intro x hx
    apply Function.update_of_ne
    rintro rfl
    exact hw hx
  have hrest : ∀ x ∈ done, (!Function.update p w b x) = !p x := fun x hx => by rw [hsame x hx]
  rw [List.filter_append, List.filter_append, List.filter_congr hsame, List.filter_congr hrest]
  cases b <;> simp

theorem sort (h : s.Kept) {left finished running : List Nat}
    (howner : s.owner = .sorting left finished running) : (s.sort finished running left).Kept := by
  obtain ⟨part, hdeeds, hstands⟩ := h.stands
  unfold Stands at hstands
  rw [howner] at hstands
  obtain ⟨hne, hgroup, rfl, hall, done, p, hsplit, rfl, rfl⟩ := hstands
  have hnot : s.owner ≠ .ended := howner ▸ Disbander.noConfusion
  cases left with
  | nil =>
    rw [List.append_nil] at hsplit
    refine ⟨⟨_, hdeeds, hne, ?_, ?_, hall, p, ?_, ?_⟩, h.rounds, h.heeds, h.finished, h.joins,
      h.unharmed, h.journal_before hnot Disbander.noConfusion⟩
    · show s.group = _
      rw [hgroup, List.append_nil]
      rfl
    · rw [List.map_nil, List.append_nil]
      rfl
    · show s.atHead.running.filter p = _
      rw [hsplit]
      rfl
    · show _ = s.atHead.running.filter (!p ·)
      rw [hsplit]
  | cons w rest =>
    have hw : w ∉ done := by
      have hdistinct := (List.nodup_append.mp s.nodup_atHead).2.1
      rw [hsplit] at hdistinct
      exact fun hmem => (List.nodup_append.mp hdistinct).2.2 w hmem w List.mem_cons_self rfl
    have hnext : s.atHead.running = (done ++ [w]) ++ rest := by
      rw [List.append_assoc]
      exact hsplit
    unfold Disbanding.sort
    dsimp only
    -- what is found here stays found, although the worker may go on
    split
    · rename_i hfinished
      obtain ⟨hfound, hrest⟩ := filter_update hw p true
      rw [if_pos rfl] at hfound hrest
      rw [List.append_nil] at hrest
      refine ⟨⟨_, hdeeds, hne, hgroup, rfl, ?_, done ++ [w], _, hnext, hfound.symm, hrest.symm⟩,
        h.rounds, h.heeds, h.finished, h.joins, h.unharmed,
        h.journal_before hnot Disbander.noConfusion⟩
      intro x hx
      rcases List.mem_append.mp hx with hx | hx
      · exact hall x hx
      · rw [List.mem_singleton.mp hx]
        exact hfinished
    · obtain ⟨hfound, hrest⟩ := filter_update hw p false
      rw [if_neg Bool.false_ne_true] at hfound hrest
      rw [List.append_nil] at hfound
      exact ⟨⟨_, hdeeds, hne, hgroup, rfl, hall, done ++ [w], _, hnext, hfound.symm, hrest.symm⟩,
        h.rounds, h.heeds, h.finished, h.joins, h.unharmed,
        h.journal_before hnot Disbander.noConfusion⟩

theorem join (h : s.Kept) {joined left running : List Nat}
    (howner : s.owner = .joining joined left running) : (s.join joined running left).Kept := by
  obtain ⟨part, hdeeds, hstands⟩ := h.stands
  unfold Stands at hstands
  rw [howner] at hstands
  obtain ⟨hne, hgroup, rfl, hall, p, hsplit, hrunning⟩ := hstands
  have hnot : s.owner ≠ .ended := howner ▸ Disbander.noConfusion
  cases left with
  | nil =>
    rw [List.append_nil] at hsplit hall
    let r : GroupRound := ⟨s.group.running, joined.map fun w => (w, (s.workers w).panicked)⟩
    have hnames : r.found.map Prod.fst = joined := by
      rw [List.map_map]
      exact List.map_id joined
    obtain ⟨hfound, hround⟩ := GroupRound.finished_of_found (hnames.trans hsplit.symm)
    have hof : r.Of s.atHead := by
      refine ⟨?_, hne, ?_⟩
      · show s.group.running = s.atHead.running
        rw [hgroup]
        rfl
      · rw [hnames, hfound, hsplit]
    have hhead : (ThreadGroup.ofSize s.count).wind
        ((s.rounds ++ [r]).map GroupRound.finished) = { s.group with running := running } := by
      rw [List.map_append, List.map_singleton, ThreadGroup.wind_concat hne]
      refine hround.trans ?_
      rw [ThreadGroup.round, hsplit, ← hrunning, hgroup]
      rfl
    refine ⟨⟨[], ?_, hhead.symm, rfl⟩, ?_, h.heeds, h.finished, h.joins, h.unharmed, ?_⟩
    · show s.deeds = (s.rounds ++ [r]).flatMap GroupRound.deeds ++ []
      rw [List.append_nil, List.flatMap_append, List.flatMap_singleton, hdeeds, GroupRound.deeds,
        hof.running_eq, List.map_map]
      rfl
    · intro before r' after heq
      rcases snoc_eq_append_cons heq with ⟨rfl, rfl⟩ | ⟨after', hbefore⟩
      · exact hof
      · exact h.rounds before r' after' hbefore
    · exact h.journal_before hnot Disbander.noConfusion
  | cons w rest =>
    have hw : (s.workers w).post = .finished := hall w (by simp)
    unfold Disbanding.join
    dsimp only
    rw [if_pos hw]
    refine ⟨⟨_, ?_, hne, ?_, rfl, ?_, p, ?_, hrunning⟩, h.rounds, h.heeds, ?_, h.joins_concat _,
      h.unharmed_concat fun _ => GroupDeed.noConfusion, ?_⟩
    · show s.deeds ++ [_] = _
      rw [hdeeds, List.map_append, List.append_assoc, List.append_assoc]
      rfl
    · show ({ s.group with joined := s.group.joined ++ [w] } : ThreadGroup) = _
      rw [hgroup, ← List.append_assoc]
      rfl
    · rw [List.append_assoc]
      exact hall
    · rw [List.append_assoc]
      exact hsplit
    · intro x hx
      rcases List.mem_append.mp hx with hx | hx
      · exact h.finished x hx
      · rw [List.mem_singleton.mp hx]
        exact hw
    · refine (h.journal_concat hnot _).trans ?_
      show _ = List.replicate ((s.group.joined ++ [w]).countP _) _ ++ []
      rw [List.append_nil, List.countP_append, List.countP_singleton, GroupDeed.events]
      cases (s.workers w).panicked with
      | false => exact List.append_nil _
      | true => exact List.replicate_succ'.symm

/-- The owner puts up the flag. -/
theorem stop (h : s.Kept) (howner : s.owner = .holding) :
    ({ s with stopped := true, owner := .turning } : Disbanding).Kept := by
  obtain ⟨part, hdeeds, hstands⟩ := h.stands
  unfold Stands at hstands
  rw [howner] at hstands
  exact ⟨⟨part, hdeeds, hstands⟩, h.rounds, fun w => (h.heeds w).stop, h.finished, h.joins,
    h.unharmed, h.journal_before (howner ▸ Disbander.noConfusion) Disbander.noConfusion⟩

theorem act (h : s.Kept) (hears : Bool) : (s.act hears).Kept := by
  unfold Disbanding.act
  cases howner : s.owner with
  | holding => exact h.stop howner
  | turning => exact h.turn howner
  | interrupting left => exact h.interrupt howner
  | listening => exact h.listen howner hears
  | sorting left finished running => exact h.sort howner
  | joining joined left running => exact h.join howner
  | ended => exact h

/-- The workers go on, except those that have finished. -/
theorem withWorkers (h : s.Kept) {workers : Nat → PairWorker} (notices : Nat)
    (hworkers : ∀ w, s.HasFinished w → workers w = s.workers w)
    (hheeds : ∀ w, (workers w).Heeds s.stopped) :
    ({ s with workers, notices } : Disbanding).Kept := by
  obtain ⟨part, hdeeds, hstands⟩ := h.stands
  refine ⟨⟨part, hdeeds, hstands.of_workers rfl rfl hworkers⟩, h.rounds, hheeds, ?_, h.joins,
    h.unharmed, ?_⟩
  · intro w hw
    have hfinished := h.finished w hw
    show (workers w).post = .finished
    rw [hworkers w hfinished]
    exact hfinished
  · have hcount : (s.group.joined.countP fun w => (workers w).panicked) =
        s.group.joined.countP fun w => (s.workers w).panicked := by
      apply List.countP_congr
      intro w hw
      rw [hworkers w (h.finished w hw)]
    refine h.journal.trans ?_
    rw [← hcount]

theorem setWorker (h : s.Kept) {w : Nat} {k : PairWorker} (notices : Nat)
    (hfinished : s.HasFinished w → k = s.workers w) (hk : k.Heeds s.stopped) :
    ({ s.setWorker w k with notices } : Disbanding).Kept := by
  refine h.withWorkers notices (fun v hv => ?_) (fun v => ?_)
  · by_cases heq : v = w
    · subst heq
      rw [workers_setWorker]
      exact hfinished hv
    · exact workers_setWorker_of_ne heq s k
  · by_cases heq : v = w
    · subst heq
      rw [workers_setWorker]
      exact hk
    · rw [workers_setWorker_of_ne heq]
      exact h.heeds v

theorem step (h : s.Kept) (x : Move) : (s.step x).Kept := by
  cases x with
  | owner hears => exact h.act hears
  | worker w =>
    show (if w < s.count then _ else s).Kept
    split
    · exact h.setWorker _ PairWorker.next_of_finished (h.heeds w).next
    · exact h
  | panic w =>
    show (if w < s.count then _ else s).Kept
    split
    · exact h.setWorker s.notices PairWorker.panic_of_finished (h.heeds w).panic
    · exact h

theorem run (h : s.Kept) (moves : List Move) : (s.run moves).Kept := by
  unfold Disbanding.run
  induction moves generalizing s with
  | nil => exact h
  | cons x rest ih => exact ih (h.step x)

end Kept

/-- The owner leaves the workers alone, and the flag stays up. -/
theorem act_keeps (s : Disbanding) (hears : Bool) :
    (s.act hears).count = s.count ∧ (s.act hears).workers = s.workers ∧
      (s.stopped = true → (s.act hears).stopped = true) := by
  unfold act
  split
  · exact ⟨rfl, rfl, fun _ => rfl⟩
  · unfold turn
    split <;> exact ⟨rfl, rfl, id⟩
  · unfold interrupt
    split <;> exact ⟨rfl, rfl, id⟩
  · unfold listen
    split <;> exact ⟨rfl, rfl, id⟩
  · unfold sort
    split
    · exact ⟨rfl, rfl, id⟩
    · split <;> exact ⟨rfl, rfl, id⟩
  · unfold join
    split
    · exact ⟨rfl, rfl, id⟩
    · split <;> exact ⟨rfl, rfl, id⟩
  · exact ⟨rfl, rfl, id⟩

theorem workers_act (s : Disbanding) (hears : Bool) : (s.act hears).workers = s.workers :=
  (s.act_keeps hears).2.1

theorem stopped_act (s : Disbanding) (hears : Bool) (h : s.stopped = true) :
    (s.act hears).stopped = true :=
  (s.act_keeps hears).2.2 h

theorem count_step (s : Disbanding) (x : Move) : (s.step x).count = s.count := by
  cases x with
  | owner hears => exact (s.act_keeps hears).1
  | worker w => exact (apply_ite Disbanding.count _ _ _).trans (ite_self _)
  | panic w => exact (apply_ite Disbanding.count _ _ _).trans (ite_self _)

theorem count_run (s : Disbanding) (moves : List Move) : (s.run moves).count = s.count := by
  unfold run
  induction moves generalizing s with
  | nil => rfl
  | cons x rest ih => exact (ih (s.step x)).trans (s.count_step x)

end Disbanding

end ReadinessBench
