import ReadinessBench.Proofs.Bench.Hindered
import ReadinessBench.Proofs.Bench.Unbroken
import ReadinessBench.Proofs.Descriptor.Reach
import ReadinessBench.Watch.Service

/-!
# A worker that stays within its sets

A worker that waits with select uses its set without looking whether there is room for the number:
that has been looked after before the worker was built. Here its loop is written a second time. It
uses words for numbers, builds the set anew in every turn, and there is a guard before each use of
the set; between two turns others may change whatever they share with the worker. The guard never
finds anything, and the bound up to which the kernel looks leaves none of the worker's descriptors
out. Main statement: `confined_worker`.
-/

namespace ReadinessBench

open DescriptorSet (Admits boundWord guarded)

/-- What a wait comes to, and how others have left by then what they share with the worker. -/
structure Moment where
  stop : StopCounter
  sockets : Array SocketPair
  /-- The numbers at which there is something to read. -/
  ready : Nat → Bool

def Moment.meet (m : Moment) (d : Duty) : Duty := { d with stop := m.stop, sockets := m.sockets }

/-- What a worker that waits with select is built with, next to its duty. -/
structure SelectWorker where
  /-- How far the kernel has to look in each wait. -/
  bound : Int32
  stopNumber : Nat

namespace SelectWorker

/-- The descriptors that it ever uses a set with. -/
def numbers (w : SelectWorker) (watched : List Watched) : List Nat :=
  w.stopNumber :: watched.map Watched.number

def words (w : SelectWorker) (watched : List Watched) : List Int32 :=
  (w.numbers watched).map Int32.ofNat

/-- One turn without a guard: the kernel scans the set, and the worker handles what is left. -/
def turn (w : SelectWorker) (m : Moment) (d : Duty) : Verdict × Duty :=
  SelectLoop.wake
    ((SelectLoop.interest w.stopNumber d.watched).scan w.bound.toNatClampNeg m.ready)
    w.stopNumber (m.meet d)

/-- Echoes on the watched pairs that are found in the set, behind the guard. -/
def guardedEchoes (w : SelectWorker) (readable : DescriptorSet) (d : Duty) : Option Duty :=
  d.watched.foldlM (fun d x => do
    let found ← guarded w.bound (.ofNat x.number) readable.contains
    return if found then d.echo x.pair else d) d

/-- Handles a wake-up as `SelectLoop.wake` does, behind the guard. -/
def guardedWake (w : SelectWorker) (readable : DescriptorSet) (d : Duty) :
    Option (Verdict × Duty) := do
  let raised ← guarded w.bound (.ofNat w.stopNumber) readable.contains
  let (ended, d) := if raised then d.acknowledge else (false, d)
  if ended then return (.exit, d)
  else
    let d ← w.guardedEchoes readable d
    return (.goOn, d)

/-- The loop over what the waits bring, behind the guard: nothing comes of it once the guard has
found something. -/
def run (w : SelectWorker) :
    List (Except Failure Moment) → Duty → Option (ServiceEnd × List Event × Duty)
  | [], d => do
    let _ ← DescriptorSet.rebuild w.bound (w.words d.watched)
    return (.waiting, [], d)
  | .ok m :: rest, d => do
    let interest ← DescriptorSet.rebuild w.bound (w.words d.watched)
    match ← w.guardedWake (interest.scan w.bound.toNatClampNeg m.ready) (m.meet d) with
    | (.goOn, d) => w.run rest d
    | (.exit, d) => return (.stopped, [], d)
    | (.collapse r, d) => return (.collapsed r, [], d)
  | .error f :: rest, d => do
    let _ ← DescriptorSet.rebuild w.bound (w.words d.watched)
    match retryWait Mechanism.select.name f with
    | (true, _) => w.run rest d
    | (false, events) => return (.broken, events, d)

/-- The bound is that of the worker's numbers, and a set has room for all of them. -/
structure Fits (w : SelectWorker) (watched : List Watched) : Prop where
  bound_eq : w.bound = .ofNat (SelectLoop.scanBound w.stopNumber watched)
  below : ∀ n ∈ w.numbers watched, n < selectCapacity

end SelectWorker

/-- The kernel's part as it is played for an engine on a bench. -/
def Watcher.moment (w : Watcher) (sockets : Array SocketPair) : Moment where
  stop := w.stop
  sockets := sockets
  ready n := n = w.stopNumber && w.stop.isReadable ||
    w.watched.any fun x => x.number = n && (w.duty sockets).hasRequest x.pair

namespace SelectWorker

variable {w : SelectWorker} {watched : List Watched} {d : Duty} {m : Moment}

theorem mem_numbers {n : Nat} :
    n ∈ w.numbers watched ↔ n ∈ watched.map Watched.number ++ [w.stopNumber] := by
  rw [numbers, List.mem_cons, List.mem_append, List.mem_singleton, or_comm]

theorem stopNumber_mem_numbers : w.stopNumber ∈ w.numbers watched := List.mem_cons_self

theorem number_mem_numbers {x : Watched} (hx : x ∈ watched) : x.number ∈ w.numbers watched :=
  List.mem_cons_of_mem _ (List.mem_map_of_mem hx)

theorem ends_ne_nil : watched.map Watched.number ++ [w.stopNumber] ≠ [] :=
  List.append_ne_nil_of_right_ne_nil _ (List.cons_ne_nil _ _)

namespace Fits

theorem scanBound_le (h : w.Fits watched) :
    SelectLoop.scanBound w.stopNumber watched ≤ selectCapacity :=
  ReadinessBench.scanBound_le (fun _ hx => h.below _ (number_mem_numbers hx))
    (h.below _ stopNumber_mem_numbers)

theorem lt_scanBound {n : Nat} (hn : n ∈ w.numbers watched) :
    n < SelectLoop.scanBound w.stopNumber watched :=
  DescriptorSet.lt_bound (mem_numbers.mp hn)

/-- The list that the highest number is taken from. -/
theorem ends_lt (h : w.Fits watched) :
    ∀ n ∈ watched.map Watched.number ++ [w.stopNumber], n < selectCapacity :=
  fun n hn => h.below n (mem_numbers.mpr hn)

theorem toNatClampNeg_bound (h : w.Fits watched) :
    w.bound.toNatClampNeg = SelectLoop.scanBound w.stopNumber watched := by
  rw [h.bound_eq, DescriptorSet.toNatClampNeg_ofNat h.scanBound_le]

theorem toInt_bound (h : w.Fits watched) :
    w.bound.toInt = SelectLoop.scanBound w.stopNumber watched := by
  rw [h.bound_eq, DescriptorSet.toInt_ofNat h.scanBound_le]

theorem admits (h : w.Fits watched) {n : Nat} (hn : n ∈ w.numbers watched) :
    Admits w.bound (.ofNat n) :=
  h.bound_eq ▸ DescriptorSet.admits_ofNat h.scanBound_le (lt_scanBound hn)

theorem admits_words (h : w.Fits watched) : ∀ word ∈ w.words watched, Admits w.bound word :=
  List.forall_mem_map.mpr fun _ hn => h.admits hn

theorem guarded_eq (h : w.Fits watched) {α : Type} {n : Nat} (hn : n ∈ w.numbers watched)
    (access : Nat → α) : guarded w.bound (.ofNat n) access = some (access n) := by
  rw [DescriptorSet.guarded_of_admits (h.admits hn),
    DescriptorSet.toNatClampNeg_ofNat (Nat.le_of_lt (h.below n hn))]

/-- The set that is built behind the guard is the one that is built without. -/
theorem rebuild_eq (h : w.Fits watched) :
    DescriptorSet.rebuild w.bound (w.words watched) =
      some (SelectLoop.interest w.stopNumber watched) := by
  rw [DescriptorSet.rebuild_of_admits h.admits_words, words,
    DescriptorSet.map_toNatClampNeg_ofNat h.below]
  rfl

/-- The kernel finds all of the worker's descriptors, and no others. -/
theorem contains_scan (h : w.Fits watched) {ready : Nat → Bool} {n : Nat} :
    ((SelectLoop.interest w.stopNumber watched).scan w.bound.toNatClampNeg ready).contains n =
      true ↔ n ∈ w.numbers watched ∧ ready n = true := by
  rw [h.toNatClampNeg_bound]
  exact DescriptorSet.contains_scan_ofList h.below h.scanBound_le fun _ => lt_scanBound

theorem guardedEchoes_eq (h : w.Fits d.watched) (readable : DescriptorSet) :
    w.guardedEchoes readable d = some (d.watched.foldl
      (fun d x => if readable.contains x.number then d.echo x.pair else d) d) := by
  refine foldlM_eq_some (fun s x hx => ?_) d
  rw [h.guarded_eq (number_mem_numbers hx)]
  rfl

theorem guardedWake_eq (h : w.Fits d.watched) (readable : DescriptorSet) :
    w.guardedWake readable d = some (SelectLoop.wake readable w.stopNumber d) := by
  unfold guardedWake SelectLoop.wake
  rw [h.guarded_eq stopNumber_mem_numbers]
  -- the stop request may have been acknowledged, but the watched pairs are the same
  have hlooked : (if readable.contains w.stopNumber then d.acknowledge else (false, d)).2.watched =
      d.watched := by
    split <;> rfl
  dsimp only [Option.bind_eq_bind, Option.bind_some]
  generalize (if readable.contains w.stopNumber then d.acknowledge else (false, d)) = looked
    at hlooked ⊢
  obtain ⟨ended, e⟩ := looked
  cases ended with
  | true => rfl
  | false =>
    have hechoes := guardedEchoes_eq (w := w) (d := e) (hlooked ▸ h) readable
    simp only [Bool.false_eq_true, if_false, hechoes, Option.bind_some]
    rfl

end Fits

theorem watched_turn (w : SelectWorker) (m : Moment) (d : Duty) :
    (w.turn m d).2.watched = d.watched :=
  (SelectLoop.wake_work _ _ (m.meet d)).watched_eq

/-- The guard changes nothing: not in the first turn, and then the pairs are still the same. -/
theorem Fits.run_eq (h : w.Fits d.watched) (brought : List (Except Failure Moment)) :
    w.run brought d = some (serve Mechanism.select.name w.turn brought d) := by
  induction brought generalizing d with
  | nil =>
    -- the set has been built, and the wait goes on
    rw [run, h.rebuild_eq]
    rfl
  | cons first rest ih =>
    cases first with
    | error f =>
      rw [run, h.rebuild_eq, serve]
      dsimp only [Option.bind_eq_bind, Option.bind_some]
      obtain ⟨again, events⟩ := retryWait Mechanism.select.name f
      cases again with
      | true => exact ih h
      | false => rfl
    | ok m =>
      have hsame := w.watched_turn m d
      rw [run, h.rebuild_eq, serve]
      dsimp only [Option.bind_eq_bind, Option.bind_some]
      rw [Fits.guardedWake_eq (d := m.meet d) h]
      show (match w.turn m d with
        | (.goOn, d) => w.run rest d
        | (.exit, d) => some (.stopped, [], d)
        | (.collapse r, d) => some (.collapsed r, [], d)) = _
      generalize w.turn m d = turned at hsame ⊢
      obtain ⟨verdict, e⟩ := turned
      cases verdict with
      -- the worker goes on with the same pairs, so its numbers still fit
      | goOn => exact ih (hsame ▸ h)
      | exit => rfl
      | collapse r => rfl

/-- A bound that leaves the stop descriptor out is found in the first turn. -/
example (buffer : Buffer) (sockets : Array SocketPair) :
    (⟨6, 9⟩ : SelectWorker).run [] { watched := [⟨0, 5⟩], buffer, stop := {}, sockets } = none :=
  rfl

end SelectWorker

/-! ## The kernel's part on a bench -/

namespace Watcher

variable {engine : Watcher} {s : SelectWorker} {sockets : Array SocketPair}

theorem ready_moment {n : Nat} :
    (engine.moment sockets).ready n = true ↔
      n = engine.stopNumber ∧ engine.stop.isReadable = true ∨
        ∃ x ∈ engine.watched, (engine.duty sockets).hasRequest x.pair = true ∧ x.number = n := by
  simp only [moment, Bool.or_eq_true, Bool.and_eq_true, decide_eq_true_eq, List.any_eq_true]
  exact or_congr_right (exists_congr fun x => and_congr_right fun _ => and_comm)

theorem mem_numbers_of_ready (hstop : engine.stopNumber = s.stopNumber) {n : Nat}
    (h : (engine.moment sockets).ready n = true) : n ∈ s.numbers engine.watched := by
  rcases ready_moment.mp h with ⟨rfl, -⟩ | ⟨x, hx, -, rfl⟩
  · exact hstop ▸ SelectWorker.stopNumber_mem_numbers
  · exact SelectWorker.number_mem_numbers hx

theorem contains_selectReport (h : s.Fits engine.watched)
    (hstop : engine.stopNumber = s.stopNumber) {n : Nat} :
    (engine.selectReport (engine.duty sockets)).contains n = true ↔
      (engine.moment sockets).ready n = true := by
  let found := (engine.watched.filter ((engine.duty sockets).hasRequest ·.pair)).map Watched.number
  have hmem (n : Nat) : (n ∈ if engine.stop.isReadable then engine.stopNumber :: found else found) ↔
      (engine.moment sockets).ready n = true := by
    rw [ready_moment]
    cases engine.stop.isReadable <;> simp [found, and_assoc]
  rw [← hmem]
  exact DescriptorSet.contains_ofList fun n hn =>
    h.below n (mem_numbers_of_ready hstop ((hmem n).mp hn))

/-- On a bench, the report of a wait is what the kernel's scan leaves of the worker's set. -/
theorem selectReport_eq (h : s.Fits engine.watched) (hstop : engine.stopNumber = s.stopNumber) :
    engine.selectReport (engine.duty sockets) =
      (SelectLoop.interest s.stopNumber engine.watched).scan s.bound.toNatClampNeg
        (engine.moment sockets).ready := by
  refine DescriptorSet.ext_contains fun n => Bool.eq_iff_iff.mpr ?_
  rw [contains_selectReport h hstop, h.contains_scan]
  exact (and_iff_right_of_imp (mem_numbers_of_ready hstop)).symm

theorem wake_eq_turn (h : s.Fits engine.watched) (hselect : engine.mechanism = .select)
    (hstop : engine.stopNumber = s.stopNumber) :
    engine.wake sockets =
      engine.ofDuty (s.turn (engine.moment sockets) (engine.duty sockets)).2 := by
  unfold wake
  rw [hselect]
  show engine.ofDuty (SelectLoop.wake _ engine.stopNumber _).2 = _
  rw [selectReport_eq h hstop, hstop]
  rfl

end Watcher

/-! ## What creation sees to -/

namespace SelectWorker

variable {r : EngineRequest} {b next : Bench} {owned : List Nat}

/-- The worker that is built when a select engine has looked at all numbers. -/
theorem exists_fits (h : r.performAll [] b Mechanism.select.setup = (.ok owned, next)) :
    ∃ w : SelectWorker, owned = [w.stopNumber] ∧ w.Fits r.watched := by
  obtain ⟨hwatched, hlast⟩ := EngineRequest.selectable_of_performAll h
  rcases Bench.performAll_cases (.of_sameBooks (.refl b)) h with
    ⟨_, hok, -, hcount⟩ | ⟨_, herror, -⟩
  · cases hok
    obtain ⟨stopNumber, rfl⟩ := List.length_eq_one_iff.mp hcount
    exact ⟨⟨.ofNat (SelectLoop.scanBound stopNumber r.watched), stopNumber⟩, rfl, rfl,
      List.forall_mem_cons.mpr ⟨hlast, List.forall_mem_map.mpr hwatched⟩⟩
  · cases herror

/-- All that the worker does with its sets is within their reach. -/
structure Confined (w : SelectWorker) (watched : List Watched) : Prop where
  /-- There is a word behind the highest number, and this is the bound. -/
  built : boundWord ((watched.map Watched.number ++ [w.stopNumber]).map Int32.ofNat) = .ok w.bound
  bound_eq : w.bound.toInt = SelectLoop.scanBound w.stopNumber watched
  /-- Every number used lies between zero and the bound, and that within the capacity. -/
  within : ∀ word ∈ w.words watched, Admits w.bound word
  least : ∀ other : Int32, (∀ word ∈ w.words watched, word < other) → w.bound ≤ other
  /-- In every turn, whatever happens before it, the set holds the worker's numbers. -/
  rebuilt : ∃ interest, DescriptorSet.rebuild w.bound (w.words watched) = some interest ∧
    ∀ n, interest.contains n = true ↔ n ∈ w.numbers watched
  /-- The kernel leaves none of them out. -/
  scanned : ∀ ready, ∀ n ∈ w.numbers watched,
    ((SelectLoop.interest w.stopNumber watched).scan w.bound.toNatClampNeg ready).contains n =
      ready n
  /-- The guard never finds anything, whatever the waits bring. -/
  guarded : ∀ brought d, d.watched = watched →
    w.run brought d = some (serve Mechanism.select.name w.turn brought d)
  /-- An engine on a bench with these numbers has no other turns. -/
  driven : ∀ engine : Watcher, engine.mechanism = .select → engine.watched = watched →
    engine.stopNumber = w.stopNumber → ∀ sockets, engine.wake sockets =
      engine.ofDuty (w.turn (engine.moment sockets) (engine.duty sockets)).2

theorem Fits.confined {w : SelectWorker} {watched : List Watched} (h : w.Fits watched) :
    w.Confined watched where
  built := h.bound_eq ▸ DescriptorSet.boundWord_ofNat ends_ne_nil h.ends_lt
  bound_eq := h.toInt_bound
  within := h.admits_words
  least _ hall := h.bound_eq ▸ DescriptorSet.ofNat_bound_le ends_ne_nil h.ends_lt fun _ hn =>
    List.forall_mem_map.mp hall _ (mem_numbers.mpr hn)
  rebuilt := ⟨_, h.rebuild_eq, fun _ => DescriptorSet.contains_ofList h.below⟩
  scanned _ _ hn := Bool.eq_iff_iff.mpr (h.contains_scan.trans (and_iff_right hn))
  guarded brought _ hd := Fits.run_eq (hd ▸ h) brought
  driven _ hselect hwatched hstop _ := Watcher.wake_eq_turn (hwatched ▸ h) hselect hstop

end SelectWorker

/-- **Select stays within its sets.** Any pairs are listed, and the engine is created on any bench;
once all its steps are performed the worker is built, whether or not it can be started then. -/
theorem confined_worker (r : EngineRequest) (b next : Bench) (owned : List Nat)
    (hselect : r.mechanism = .select)
    (hbuilt : r.performAll [] b r.mechanism.setup = (.ok owned, next)) :
    (∀ words, words ≠ [] → (∀ word ∈ words, ensureSelectable word.toInt = .ok ()) →
      ∃ bound, boundWord words = .ok bound ∧ (∀ word ∈ words, Admits bound word) ∧
        ∀ other, (∀ word ∈ words, word < other) → bound ≤ other) ∧
    (∀ bound words, (∀ word ∈ words, Admits bound word) →
      ∃ set, DescriptorSet.rebuild bound words = some set ∧ ∀ word, Admits bound word →
        (set.contains word.toNatClampNeg = true ↔ word ∈ words)) ∧
    ∃ w : SelectWorker, owned = [w.stopNumber] ∧ w.Confined r.watched ∧
      ∀ h e b', b.createUnder r h = (.ok e, b') →
        ∃ engine, (e.id, engine) ∈ b'.watchers ∧ engine.mechanism = .select ∧
          engine.watched = r.watched ∧ engine.stopNumber = w.stopNumber := by
  refine ⟨fun _ => DescriptorSet.boundWord_of_selectable,
    fun _ _ => DescriptorSet.rebuild_exact, ?_⟩
  have hsteps := hbuilt
  rw [hselect] at hsteps
  obtain ⟨w, rfl, hfits⟩ := SelectWorker.exists_fits hsteps
  refine ⟨w, rfl, hfits.confined, fun h e b' hcreate => ?_⟩
  have hengine := Bench.createEngine_of_createUnder hcreate
  unfold Bench.createEngine at hengine
  rw [hbuilt] at hengine
  cases hengine
  exact ⟨_, List.mem_append_right _ (List.mem_singleton.mpr rfl), hselect, rfl, rfl⟩

set_option maxRecDepth 5000 in
/-- The pair takes the numbers 1021 and 1022 and is listed twice, and the stop descriptor gets the
last number that fits. The bound is the capacity. -/
theorem confined_worker_last_number :
    let opened := (({ table := { frontier := 1021 } } : Bench).openPairs 1).2
    let r : EngineRequest := ⟨.select, 4, false, [opened.watchedOf 0, opened.watchedOf 0]⟩
    r.mechanism = .select ∧
      ∃ next, r.performAll [] opened r.mechanism.setup = (.ok [1023], next) ∧
        ∃ w : SelectWorker, w.stopNumber = 1023 ∧ w.bound = 1024 ∧ w.Confined r.watched := by
  intro opened r
  obtain ⟨next, hbuilt⟩ : ∃ next, r.performAll [] opened r.mechanism.setup = (.ok [1023], next) :=
    ⟨_, rfl⟩
  refine ⟨rfl, next, hbuilt, ?_⟩
  obtain ⟨-, -, w, hstop, hconfined, -⟩ := confined_worker r opened next [1023] rfl hbuilt
  have hnumber : w.stopNumber = 1023 := (List.cons.inj hstop).1.symm
  have hbound := hconfined.bound_eq
  rw [hnumber] at hbound
  exact ⟨w, hnumber, Int32.toInt_inj.mp hbound, hconfined⟩

end ReadinessBench
