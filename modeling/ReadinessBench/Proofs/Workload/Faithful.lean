import ReadinessBench.Proofs.Workload.Pace

/-!
# What the workload reports is what happened

The calls of a course are whole rounds followed by the calls of a round under way, and which calls
those can be is told by the stage of the workload. So the count of round trips, the fault and the
end of the run can be read off the calls and the looks. Main statement: `faithful_run`.
-/

namespace ReadinessBench

namespace Call

/-- A call that went well. -/
def good (operation : CallKind) (size pair : Nat) : Call :=
  ⟨operation, pair, .ok size, false, some false⟩

/-- The calls of a round that has come to its end. -/
def whole (size pair : Nat) : List Call := [good .write size pair, good .read size pair]

end Call

namespace Course

open Call

variable {s : Course} {size : Nat}

/-- The stage in which the result of a call waits to be judged. -/
def judging : CallKind → Except Failure Nat → Stage
  | .write, result => .sent result
  | .read, result => .received result

/-- The calls that come before a call in its round. -/
def before (size pair : Nat) : CallKind → List Call
  | .write => []
  | .read => [good .write size pair]

/-- The calls of the round under way, by stage. -/
inductive Stands (size pair : Nat) (cancelled : Bool) : Stage → List Call → Prop where
  | ready : Stands size pair cancelled .ready []
  | sending : Stands size pair cancelled .sending []
  | receiving : Stands size pair cancelled .receiving [good .write size pair]
  | sent (result : Except Failure Nat) (late : Bool) (hlate : late = true → cancelled = true) :
    Stands size pair cancelled (.sent result) [⟨.write, pair, result, late, none⟩]
  | received (result : Except Failure Nat) (late : Bool) (hlate : late = true → cancelled = true) :
    Stands size pair cancelled (.received result)
      [good .write size pair, ⟨.read, pair, result, late, none⟩]
  | drawing : Stands size pair cancelled .drawing []
  | stopped (hcancelled : cancelled = true) : Stands size pair cancelled (.over none) []
  | stoppedAfter (operation : CallKind) (result : Except Failure Nat) (late : Bool)
      (hcancelled : cancelled = true) :
      Stands size pair cancelled (.over none)
        (before size pair operation ++ [⟨operation, pair, result, late, some true⟩])
  | faulted (operation : CallKind) (result : Except Failure Nat) (e : BenchError)
      (hfault : checkTransfer operation.name size result = .error e) :
      Stands size pair cancelled (.over (some e))
        (before size pair operation ++ [⟨operation, pair, result, false, some false⟩])

/-- Whole rounds on these pairs, and then the calls of the round under way. -/
structure Recorded (size : Nat) (s : Course) (pairs : List Nat) (tail : List Call) : Prop where
  size_eq : s.workload.message.size = size
  calls : s.calls = pairs.flatMap (whole size) ++ tail
  roundTrips : s.workload.roundTrips = pairs.length
  stands : Stands size s.workload.current s.cancelled s.workload.stage tail
  /-- The pair of the first round is the first one, and that of each other round was drawn. -/
  targets : 0 :: s.draws =
    match s.workload.stage with
    | .drawing => pairs
    | _ => pairs ++ [s.workload.current]
  /-- A look that finds the token cancelled is the last one. -/
  ended : s.workload.stage = .over none ↔ s.looks.getLast? = some true

theorem look_judging {operation : CallKind} {result : Except Failure Nat}
    (hstage : s.workload.stage = judging operation result) :
    s.look = { s with
      workload := s.workload.look s.cancelled
      looks := s.looks ++ [s.cancelled]
      calls := s.calls.modifyLast fun c => { c with found := some s.cancelled } } := by
  cases operation <;> simp only [look, hstage, judging]

/-- How the workload goes on after a call that went well. -/
def afterGood (w : Workload) : CallKind → Workload
  | .write => { w with stage := .receiving }
  | .read => { w with stage := .drawing, roundTrips := w.roundTrips + 1 }

theorem workload_look_judging {w : Workload} {operation : CallKind}
    {result : Except Failure Nat} (hstage : w.stage = judging operation result) (cancelled : Bool) :
    w.look cancelled =
      if cancelled then { w with stage := .over none }
      else match checkTransfer operation.name w.message.size result with
        | .ok () => afterGood w operation
        | .error e => { w with stage := .over (some e) } := by
  unfold Workload.look
  rw [hstage]
  cases operation with
  | write => rfl
  | read => rfl

theorem checkTransfer_ok_iff {operation : String} {result : Except Failure Nat} :
    checkTransfer operation size result = .ok () ↔ result = .ok size := by
  cases result with
  | ok moved =>
    rw [checkTransfer, Except.ok.injEq]
    split
    · simp_all
    · simp_all
  | error f => simp [checkTransfer]

namespace Recorded

variable {pairs : List Nat} {tail : List Call}

theorem start (pairs : Nat) (message : Buffer) :
    Recorded message.size (start pairs message) [] [] :=
  ⟨rfl, rfl, rfl, .ready, rfl, by simp [Course.start]⟩

theorem cancel (h : Recorded size s pairs tail) :
    Recorded size (s.step .cancel) pairs tail := by
  refine ⟨h.size_eq, h.calls, h.roundTrips, ?_, h.targets, h.ended⟩
  have hstands := h.stands
  show Stands size s.workload.current true s.workload.stage tail
  generalize s.workload.stage = stage at hstands
  cases hstands with
  | ready => exact .ready
  | sending => exact .sending
  | receiving => exact .receiving
  | sent result late => exact .sent result late fun _ => rfl
  | received result late => exact .received result late fun _ => rfl
  | drawing => exact .drawing
  | stopped => exact .stopped rfl
  | stoppedAfter operation result late => exact .stoppedAfter operation result late rfl
  | faulted operation result e hfault => exact .faulted operation result e hfault

/-- The look after a call judges it, unless the token is cancelled. -/
theorem judge (operation : CallKind) {result : Except Failure Nat} {late : Bool}
    (h : Recorded size s pairs (before size s.workload.current operation ++
      [⟨operation, s.workload.current, result, late, none⟩]))
    (hstage : s.workload.stage = judging operation result)
    (hlate : late = true → s.cancelled = true) :
    ∃ pairs tail, Recorded size s.look pairs tail := by
  have htargets : 0 :: s.draws = pairs ++ [s.workload.current] := by
    have hkept := h.targets
    rw [hstage] at hkept
    cases operation with
    | write => exact hkept
    | read => exact hkept
  have hcalls : s.calls.modifyLast (fun c => { c with found := some s.cancelled }) =
      pairs.flatMap (whole size) ++ (before size s.workload.current operation ++
        [⟨operation, s.workload.current, result, late, some s.cancelled⟩]) := by
    rw [h.calls, ← List.append_assoc, List.modifyLast_concat, List.append_assoc]
  rw [look_judging hstage, workload_look_judging hstage, h.size_eq]
  cases hcancelled : s.cancelled with
  -- the result is not looked at, be it good or bad
  | true =>
    rw [hcancelled] at hcalls
    refine ⟨pairs, _, h.size_eq, hcalls, h.roundTrips, ?_, htargets, ?_⟩
    · exact .stoppedAfter operation result late rfl
    · exact ⟨fun _ => List.getLast?_concat, fun _ => rfl⟩
  | false =>
    rw [hcancelled] at hcalls
    -- a token that is not cancelled now was not cancelled when the call began
    have hnotLate : late = false := by
      cases late with
      | false => rfl
      | true => rw [hlate rfl] at hcancelled; cases hcancelled
    subst hnotLate
    have hgoesOn : ∀ stage : Stage, stage ≠ .over none →
        (stage = .over none ↔ (s.looks ++ [false]).getLast? = some true) := by
      intro stage hstage
      rw [List.getLast?_concat]
      exact ⟨fun hover => absurd hover hstage, fun hlast => nomatch hlast⟩
    cases hcheck : checkTransfer operation.name size result with
    | error e =>
      refine ⟨pairs, _, h.size_eq, hcalls, h.roundTrips, ?_, htargets, ?_⟩
      · exact .faulted operation result e hcheck
      · exact hgoesOn _ (by simp)
    | ok =>
      obtain rfl : result = .ok size := checkTransfer_ok_iff.mp hcheck
      cases operation with
      | write =>
        refine ⟨pairs, [good .write size s.workload.current], h.size_eq, hcalls, h.roundTrips,
          .receiving, htargets, hgoesOn _ (by simp [afterGood])⟩
      -- the round is whole now
      | read =>
        refine ⟨pairs ++ [s.workload.current], [], h.size_eq, ?_, ?_, .drawing, htargets,
          hgoesOn _ (by simp [afterGood])⟩
        · show List.modifyLast _ s.calls = _
          rw [hcalls, List.flatMap_append, List.append_nil]
          rfl
        · show s.workload.roundTrips + 1 = _
          rw [h.roundTrips, List.length_append, List.length_singleton]

theorem look (h : Recorded size s pairs tail) : ∃ pairs tail, Recorded size s.look pairs tail := by
  have hstands := h.stands
  generalize hstage : s.workload.stage = stage at hstands
  cases hstands with
  | ready =>
    have htargets := h.targets
    rw [hstage] at htargets
    simp only [Course.look, Workload.look, hstage]
    cases hcancelled : s.cancelled with
    | true =>
      refine ⟨pairs, [], h.size_eq, h.calls, h.roundTrips, .stopped rfl, htargets, ?_⟩
      exact ⟨fun _ => List.getLast?_concat, fun _ => rfl⟩
    | false =>
      refine ⟨pairs, [], h.size_eq, h.calls, h.roundTrips, .sending, htargets, ?_⟩
      show Stage.sending = .over none ↔ (s.looks ++ [false]).getLast? = some true
      rw [List.getLast?_concat]
      constructor <;> (intro h; cases h)
  | sent result late hlate => exact h.judge .write hstage hlate
  | received result late hlate => exact h.judge .read hstage hlate
  | sending | receiving | drawing | stopped | stoppedAfter | faulted =>
    have hsame : s.look = s := by simp only [Course.look, hstage]
    exact ⟨pairs, _, by rw [hsame]; exact h⟩

theorem write (h : Recorded size s pairs tail) (result : Except Failure Nat) :
    ∃ tail, Recorded size (s.step (.write result)) pairs tail := by
  rw [Course.step]
  split
  · rename_i hstage
    obtain ⟨hsize, hcalls, hrounds, hstands, htargets, hended⟩ := h
    rw [hstage] at hstands htargets hended
    cases hstands
    have hwrote : s.workload.wrote result = { s.workload with stage := .sent result } := by
      simp only [Workload.wrote, hstage]
    rw [hwrote]
    refine ⟨_, hsize, ?_, hrounds, .sent result s.cancelled id, htargets, ?_⟩
    · show s.calls ++ _ = _
      rw [hcalls, List.append_nil]
    · constructor
      · intro hover
        cases hover
      · intro hlast
        cases hended.mpr hlast
  · exact ⟨tail, h⟩

theorem read (h : Recorded size s pairs tail) (result : Except Failure Bytes) :
    ∃ tail, Recorded size (s.step (.read result)) pairs tail := by
  rw [Course.step]
  split
  · rename_i hstage
    obtain ⟨hsize, hcalls, hrounds, hstands, htargets, hended⟩ := h
    rw [hstage] at hstands htargets hended
    cases hstands
    obtain ⟨message, hread, hmessage⟩ : ∃ message, s.workload.read result =
        { s.workload with message, stage := .received (result.map List.length) } ∧
          message.size = s.workload.message.size := by
      cases result with
      | ok data =>
        simp only [Workload.read, hstage]
        exact ⟨_, rfl, Buffer.size_overwrite _ data⟩
      | error f =>
        simp only [Workload.read, hstage]
        exact ⟨_, rfl, rfl⟩
    rw [hread]
    refine ⟨_, hmessage.trans hsize, ?_, hrounds, .received _ s.cancelled id, htargets, ?_⟩
    · show s.calls ++ _ = _
      rw [hcalls, List.append_assoc]
      rfl
    · constructor
      · intro hover
        cases hover
      · intro hlast
        cases hended.mpr hlast
  · exact ⟨tail, h⟩

theorem draw (h : Recorded size s pairs tail) (pair : Nat) :
    ∃ tail, Recorded size (s.step (.draw pair)) pairs tail := by
  rw [Course.step]
  split
  · rename_i hstage
    obtain ⟨hsize, hcalls, hrounds, hstands, htargets, hended⟩ := h
    rw [hstage] at hstands htargets hended
    cases hstands
    have hdrew : s.workload.drew pair = { s.workload with current := pair, stage := .ready } := by
      simp only [Workload.drew, hstage]
    rw [hdrew]
    refine ⟨[], hsize, hcalls, hrounds, .ready, ?_, ?_⟩
    · exact congrArg (· ++ [pair]) htargets
    · constructor
      · intro hover
        cases hover
      · intro hlast
        cases hended.mpr hlast
  · exact ⟨tail, h⟩

theorem step (h : Recorded size s pairs tail) (x : Move) :
    ∃ pairs tail, Recorded size (s.step x) pairs tail := by
  cases x with
  | cancel => exact ⟨pairs, tail, h.cancel⟩
  | look => exact h.look
  | write result => exact ⟨pairs, h.write result⟩
  | read result => exact ⟨pairs, h.read result⟩
  | draw pair => exact ⟨pairs, h.draw pair⟩

theorem run (h : Recorded size s pairs tail) (moves : List Move) :
    ∃ pairs tail, Recorded size (s.run moves) pairs tail := by
  unfold Course.run
  induction moves generalizing s pairs tail with
  | nil => exact ⟨pairs, tail, h⟩
  | cons x rest ih =>
    obtain ⟨pairs', tail', hnext⟩ := h.step x
    exact ih hnext

end Recorded

/-! ## Reading the calls -/

theorem isGood_good (operation : CallKind) (size pair : Nat) :
    (good operation size pair).isGood size = true := by
  simp [isGood, good]

theorem checkTransfer_error_iff {operation : CallKind} {result : Except Failure Nat}
    {e : BenchError} (pair : Nat) (late : Bool) (found : Option Bool) :
    checkTransfer operation.name size result = .error e ↔
      result ≠ .ok size ∧ e = Call.fault size ⟨operation, pair, result, late, found⟩ := by
  cases result with
  | ok moved =>
    by_cases hmoved : moved = size
    · simp [checkTransfer, hmoved]
    · rw [checkTransfer, if_neg hmoved]
      constructor
      · intro h
        cases h
        exact ⟨fun hok => hmoved (Except.ok.inj hok), rfl⟩
      · rintro ⟨-, rfl⟩
        rfl
  | error f => simp [checkTransfer, Call.fault, eq_comm]

theorem length_flatMap_whole (pairs : List Nat) :
    (pairs.flatMap (whole size)).length = 2 * pairs.length := by
  induction pairs with
  | nil => rfl
  | cons pair rest ih =>
    rw [List.flatMap_cons, List.length_append, ih, List.length_cons]
    show 2 + _ = _
    omega

theorem getElem?_flatMap_whole (pairs : List Nat) (i : Nat) :
    (pairs.flatMap (whole size))[i]? =
      pairs[i / 2]?.map (good (if i % 2 = 0 then .write else .read) size) := by
  -- two calls at a time
  induction pairs generalizing i with
  | nil => simp
  | cons pair rest ih =>
    match i with
    | 0 => rfl
    | 1 => rfl
    | i + 2 =>
      have hhalf : (i + 2) / 2 = i / 2 + 1 := by omega
      have hparity : (i + 2) % 2 = i % 2 := by omega
      rw [hhalf, hparity, List.getElem?_cons_succ, ← ih i]
      rfl

theorem mem_flatMap_whole {pairs : List Nat} {c : Call} (h : c ∈ pairs.flatMap (whole size)) :
    ∃ operation pair, c = good operation size pair := by
  obtain ⟨pair, -, hc⟩ := List.mem_flatMap.mp h
  rcases List.mem_cons.mp hc with hwrite | hread
  · exact ⟨.write, pair, hwrite⟩
  · exact ⟨.read, pair, List.mem_singleton.mp hread⟩

theorem rounds_flatMap_whole (pairs : List Nat) (tail : List Call) :
    rounds (pairs.flatMap (whole size) ++ tail) =
      pairs.map (fun pair => (good .write size pair, some (good .read size pair))) ++
        rounds tail := by
  induction pairs with
  | nil => rfl
  | cons pair rest ih =>
    rw [List.map_cons, List.cons_append, ← ih]
    rfl

/-- The calls of the round under way: none, or a write that went well, or one that is not known to
have gone well, with those before it. -/
theorem Stands.calls_cases {pair : Nat} {cancelled : Bool} {stage : Stage} {tail : List Call}
    (h : Stands size pair cancelled stage tail) :
    tail = [] ∨ tail = [good .write size pair] ∨ ∃ c : Call, c.isGood size = false ∧
      c.pair = pair ∧ tail = before size pair c.operation ++ [c] := by
  cases h with
  | ready | sending | drawing | stopped => exact Or.inl rfl
  | receiving => exact Or.inr (Or.inl rfl)
  | sent result late =>
    refine Or.inr (Or.inr ⟨⟨.write, pair, result, late, none⟩, ?_, rfl, rfl⟩)
    cases result <;> simp [isGood]
  | received result late =>
    refine Or.inr (Or.inr ⟨⟨.read, pair, result, late, none⟩, ?_, rfl, rfl⟩)
    cases result <;> simp [isGood]
  | stoppedAfter operation result late =>
    refine Or.inr (Or.inr ⟨⟨operation, pair, result, late, some true⟩, ?_, rfl, rfl⟩)
    cases result <;> simp [isGood]
  | faulted operation result e hfault =>
    refine Or.inr (Or.inr ⟨⟨operation, pair, result, false, some false⟩, ?_, rfl, rfl⟩)
    have hbad := ((checkTransfer_error_iff pair false (some false)).mp hfault).1
    cases result with
    | ok moved => simpa [isGood] using hbad
    | error f => rfl

theorem Stands.of_getElem? {pair : Nat} {cancelled : Bool} {stage : Stage} {tail : List Call}
    (h : Stands size pair cancelled stage tail) {i : Nat} {c : Call} (hc : tail[i]? = some c) :
    i < 2 ∧ c.operation = (if i % 2 = 0 then .write else .read) ∧ c.pair = pair := by
  rcases h.calls_cases with rfl | rfl | ⟨last, -, hpair, rfl⟩
  · cases hc
  · match i with
    | 0 =>
      cases hc
      exact ⟨by omega, rfl, rfl⟩
    | i + 1 => cases hc
  · cases hoperation : last.operation with
    | write =>
      rw [hoperation] at hc
      match i with
      | 0 =>
        cases hc
        exact ⟨by omega, hoperation, hpair⟩
      | i + 1 => cases hc
    | read =>
      rw [hoperation] at hc
      match i with
      | 0 =>
        cases hc
        exact ⟨by omega, rfl, rfl⟩
      | 1 =>
        cases hc
        exact ⟨by omega, hoperation, hpair⟩
      | i + 2 => cases hc

namespace Recorded

variable {pairs : List Nat} {tail : List Call}

theorem targets_of_ne_nil (h : Recorded size s pairs tail) (htail : tail ≠ []) :
    0 :: s.draws = pairs ++ [s.workload.current] := by
  have htargets := h.targets
  have hstands := h.stands
  generalize s.workload.stage = stage at htargets hstands
  cases stage with
  | drawing =>
    cases hstands
    exact absurd rfl htail
  | _ => exact htargets

theorem getElem?_targets (h : Recorded size s pairs tail) {i : Nat} {pair : Nat}
    (hpair : pairs[i]? = some pair) : (0 :: s.draws)[i]? = some pair := by
  have hlt : i < pairs.length := (List.getElem?_eq_some_iff.mp hpair).1
  rw [h.targets]
  split
  · exact hpair
  · rw [List.getElem?_append_left hlt, hpair]

theorem alternating (h : Recorded size s pairs tail) {i : Nat} {c : Call}
    (hc : s.calls[i]? = some c) :
    c.operation = (if i % 2 = 0 then .write else .read) ∧
      (0 :: s.draws)[i / 2]? = some c.pair := by
  rw [h.calls, List.getElem?_append, length_flatMap_whole] at hc
  split at hc
  -- the call is one of a whole round
  · rw [getElem?_flatMap_whole] at hc
    obtain ⟨pair, hpair, rfl⟩ := Option.map_eq_some_iff.mp hc
    exact ⟨rfl, h.getElem?_targets hpair⟩
  -- the call is one of the round under way, whose pair was drawn last
  · rename_i hge
    obtain ⟨j, rfl⟩ : ∃ j, i = 2 * pairs.length + j := ⟨i - 2 * pairs.length, by omega⟩
    rw [Nat.add_sub_cancel_left] at hc
    have htail : tail ≠ [] := by
      rintro rfl
      cases hc
    have hlast : (0 :: s.draws)[pairs.length]? = some s.workload.current := by
      rw [h.targets_of_ne_nil htail]
      exact List.getElem?_concat_length
    obtain ⟨hj, hoperation, hpair⟩ := h.stands.of_getElem? hc
    have hparity : (2 * pairs.length + j) % 2 = j % 2 := by omega
    have hround : (2 * pairs.length + j) / 2 = pairs.length := by omega
    rw [hparity, hround, hlast, hpair]
    exact ⟨hoperation, rfl⟩

theorem countP_isRoundTrip (h : Recorded size s pairs tail) :
    (rounds s.calls).countP (isRoundTrip size) = s.workload.roundTrips := by
  have hwhole : (pairs.map fun pair => (good .write size pair, some (good .read size pair))).countP
      (isRoundTrip size) = pairs.length := by
    rw [List.countP_map, List.countP_eq_length]
    intro pair _
    show ((good .write size pair).isGood size && (good .read size pair).isGood size) = true
    rw [isGood_good, isGood_good, Bool.and_self]
  have htail : (rounds tail).countP (isRoundTrip size) = 0 := by
    rcases h.stands.calls_cases with rfl | rfl | ⟨c, hbad, -, rfl⟩
    · rfl
    · rfl
    · cases hoperation : c.operation with
      | write => rfl
      | read => simp [before, rounds, isRoundTrip, hbad]
  rw [h.calls, rounds_flatMap_whole, List.countP_append, hwhole, htail, h.roundTrips,
    Nat.add_zero]

theorem earlier (h : Recorded size s pairs tail) {c : Call} (hc : c ∈ s.calls.dropLast) :
    c.result = .ok size := by
  have hwhole : c ∈ pairs.flatMap (whole size) → c.result = .ok size := by
    intro hmem
    obtain ⟨operation, pair, rfl⟩ := mem_flatMap_whole hmem
    rfl
  rw [h.calls] at hc
  -- the last call is dropped, and of a round under way at most a good write is left
  rcases h.stands.calls_cases with rfl | rfl | ⟨last, -, -, rfl⟩
  · rw [List.append_nil] at hc
    exact hwhole (List.dropLast_subset _ hc)
  · rw [List.dropLast_concat] at hc
    exact hwhole hc
  · rw [← List.append_assoc, List.dropLast_concat, List.mem_append] at hc
    rcases hc with hmem | hmem
    · exact hwhole hmem
    · cases hoperation : last.operation with
      | write =>
        rw [hoperation] at hmem
        cases hmem
      | read =>
        rw [hoperation] at hmem
        rw [List.mem_singleton.mp hmem]
        rfl

theorem countP_late_le (h : Recorded size s pairs tail) : s.calls.countP Call.late ≤ 1 := by
  have hwhole : (pairs.flatMap (whole size)).countP Call.late = 0 := by
    rw [List.countP_eq_zero]
    intro c hc
    obtain ⟨operation, pair, rfl⟩ := mem_flatMap_whole hc
    exact Bool.false_ne_true
  have htail : tail.countP Call.late ≤ 1 := by
    rcases h.stands.calls_cases with rfl | rfl | ⟨last, -, -, rfl⟩
    · exact Nat.zero_le 1
    · exact Nat.zero_le 1
    · have hbefore : (before size s.workload.current last.operation).countP Call.late = 0 := by
        cases last.operation <;> rfl
      rw [List.countP_append, hbefore, Nat.zero_add]
      exact List.countP_le_length
  rw [h.calls, List.countP_append, hwhole, Nat.zero_add]
  exact htail

/-- There is a fault exactly if the last call went badly and was judged, and then it is the fault of
that call. -/
theorem fault_iff (h : Recorded size s pairs tail) (e : BenchError) :
    s.workload.fault = some e ↔ ∃ c, s.calls.getLast? = some c ∧ c.result ≠ .ok size ∧
      c.found = some false ∧ e = c.fault size := by
  have hwhole : ∀ c ∈ pairs.flatMap (whole size), c.result = .ok size := by
    intro c hc
    obtain ⟨operation, pair, rfl⟩ := mem_flatMap_whole hc
    rfl
  have hlast : ∀ (operation : CallKind) (last : Call),
      tail = before size s.workload.current operation ++ [last] →
        s.calls.getLast? = some last := by
    rintro operation last rfl
    rw [h.calls, ← List.append_assoc, List.getLast?_concat]
  have hstands := h.stands
  rw [Workload.fault]
  generalize s.workload.stage = stage at hstands
  constructor
  · intro hfault
    cases hstands with
    -- only a look that judges a call leaves a fault
    | faulted operation result e' hcheck =>
      obtain rfl : e' = e := Option.some.inj hfault
      obtain ⟨hbad, hsaid⟩ := (checkTransfer_error_iff s.workload.current false (some false)).mp
        hcheck
      exact ⟨_, hlast operation _ rfl, hbad, rfl, hsaid⟩
    | _ => cases hfault
  · rintro ⟨c, hc, hbad, hfound, rfl⟩
    cases hstands with
    | ready | sending | drawing | stopped =>
      have hmem := List.mem_of_getLast? hc
      rw [h.calls, List.append_nil] at hmem
      exact absurd (hwhole c hmem) hbad
    | receiving =>
      obtain rfl := Option.some.inj ((hlast .write _ rfl).symm.trans hc)
      exact absurd rfl hbad
    -- nobody has looked since the call
    | sent result late =>
      obtain rfl := Option.some.inj ((hlast .write _ rfl).symm.trans hc)
      cases hfound
    | received result late =>
      obtain rfl := Option.some.inj ((hlast .read _ rfl).symm.trans hc)
      cases hfound
    | stoppedAfter operation result late =>
      obtain rfl := Option.some.inj ((hlast operation _ rfl).symm.trans hc)
      cases hfound
    | faulted operation result e hcheck =>
      obtain rfl := Option.some.inj ((hlast operation _ rfl).symm.trans hc)
      exact congrArg some ((checkTransfer_error_iff _ _ _).mp hcheck).2

theorem fault_eq_none_iff (h : Recorded size s pairs tail) (hover : s.workload.isOver = true) :
    s.workload.fault = none ↔ s.looks.getLast? = some true := by
  rw [← h.ended]
  unfold Workload.isOver at hover
  split at hover
  · rename_i f hstage
    rw [Workload.fault, hstage, Stage.over.injEq]
  · cases hover

end Recorded

/-- A workload is over when a look has ended it, or when it has judged a call that went badly. -/
theorem Recorded.isOver_iff {pairs : List Nat} {tail : List Call} (h : Recorded size s pairs tail) :
    s.workload.isOver = true ↔ s.looks.getLast? = some true ∨ ∃ c, s.calls.getLast? = some c ∧
      c.result ≠ .ok size ∧ c.found = some false := by
  have hstage : s.workload.isOver = true ↔
      s.workload.stage = .over none ∨ ∃ e, s.workload.fault = some e := by
    unfold Workload.isOver Workload.fault
    cases s.workload.stage with
    | «over» fault => cases fault <;> simp
    | _ => simp
  rw [hstage, h.ended]
  refine or_congr_right ⟨?_, ?_⟩
  · rintro ⟨e, he⟩
    obtain ⟨c, hlast, hbad, hfound, -⟩ := (h.fault_iff e).mp he
    exact ⟨c, hlast, hbad, hfound⟩
  · rintro ⟨c, hlast, hbad, hfound⟩
    exact ⟨c.fault size, (h.fault_iff _).mpr ⟨c, hlast, hbad, hfound, rfl⟩⟩

theorem Recorded.two_mul_roundTrips_le {pairs : List Nat} {tail : List Call}
    (h : Recorded size s pairs tail) : 2 * s.workload.roundTrips ≤ s.calls.length := by
  rw [h.roundTrips, h.calls, List.length_append, length_flatMap_whole]
  exact Nat.le_add_right _ _

/-! ## The report -/

/-- What the calls, the looks and the report of a course have to do with each other. -/
structure Faithful (size : Nat) (s : Course) : Prop where
  /-- Writes and reads take turns, on the first pair and then on the drawn ones. -/
  alternating : ∀ i c, s.calls[i]? = some c →
    c.operation = (if i % 2 = 0 then .write else .read) ∧ (0 :: s.draws)[i / 2]? = some c.pair
  roundTrips : s.workload.roundTrips = (rounds s.calls).countP (isRoundTrip size)
  earlier : ∀ c ∈ s.calls.dropLast, c.result = .ok size
  late : s.calls.countP Call.late ≤ 1
  stopped : s.workload.isOver = true →
    (s.workload.fault = none ↔ s.looks.getLast? = some true)
  /-- A look that finds the token cancelled ends the workload, and nothing else ends it without a
  fault. -/
  ended : s.workload.stage = .over none ↔ s.looks.getLast? = some true
  isOver_iff : s.workload.isOver = true ↔ s.looks.getLast? = some true ∨
    ∃ c, s.calls.getLast? = some c ∧ c.result ≠ .ok size ∧ c.found = some false
  faulted : ∀ e, s.workload.fault = some e ↔ ∃ c, s.calls.getLast? = some c ∧
    c.result ≠ .ok size ∧ c.found = some false ∧ e = c.fault size
  /-- Whatever the journal holds already, one error is added to it if there is a fault, and none
  otherwise. -/
  reported : ∀ t : Traffic, t.workload = s.workload → ∃ events,
    t.report.journal.toList = t.bench.journal.toList ++ events ∧
      events.filter (·.level = .error) = (s.workload.fault.map .workloadFaulted).toList
  result : ∀ (elapsed cpu : Span) (e : BenchError),
    (⟨⟨elapsed, s.workload.roundTrips, cpu⟩, s.workload.fault⟩ : Report).result = .error e ↔
      s.workload.fault = some e
  /-- Until it is over the workload waits for one thing after the other, six in each round. -/
  paced : s.workload.isOver = false → s.taken + 1 = s.workload.progress
  /-- It takes everything it waits for when it comes, and goes on until it is over. -/
  advances : ∀ moves, s.Serves moves → (s.run moves).workload.isOver = true ∨
    (s.run moves).taken = s.taken + moves.countP (·.brings.isSome)
  /-- When the token is cancelled, the second thing that comes ends it, if not the first. -/
  heeds : s.cancelled = true → ∀ moves, s.Serves moves → 2 ≤ moves.countP (·.brings.isSome) →
    (s.run moves).workload.isOver = true
  /-- What is over stays as it is. -/
  stays : s.workload.isOver = true → ∀ moves, (s.run moves).workload = s.workload
  /-- A count of 64 bits is exact as long as fewer than `2^65` calls have been made. -/
  counted : 2 * s.workload.roundTrips ≤ s.calls.length ∧ (s.calls.length < 2 * UInt64.size →
    (UInt64.ofNat s.workload.roundTrips).toNat = s.workload.roundTrips)

theorem exists_report (t : Traffic) : ∃ events,
    t.report.journal.toList = t.bench.journal.toList ++ events ∧
      events.filter (·.level = .error) = (t.workload.fault.map Event.workloadFaulted).toList := by
  unfold Traffic.report
  cases t.workload.fault with
  | none =>
    refine ⟨[.workloadFinished t.workload.roundTrips], ?_, rfl⟩
    simp [Bench.record]
  | some e =>
    refine ⟨[.workloadFaulted e, .workloadFinished t.workload.roundTrips], ?_, rfl⟩
    simp [Bench.record]

theorem Recorded.faithful {pairs : List Nat} {tail : List Call}
    (h : Recorded size s pairs tail) (hpaced : s.Paced) : Faithful size s where
  alternating _ _ hc := h.alternating hc
  roundTrips := h.countP_isRoundTrip.symm
  earlier _ hc := h.earlier hc
  late := h.countP_late_le
  stopped := h.fault_eq_none_iff
  faulted := h.fault_iff
  reported t ht := ht ▸ exists_report t
  result elapsed cpu e := by
    unfold Report.result
    cases s.workload.fault <;> simp
  ended := h.ended
  isOver_iff := h.isOver_iff
  paced := hpaced
  advances _ hserves := taken_run hserves
  heeds hcancelled _ hserves hmany :=
    isOver_run_of_cancelled hcancelled hserves (Nat.le_trans s.workload.stage.patience_le hmany)
  stays hover moves := workload_run_of_over hover moves
  counted := by
    refine ⟨h.two_mul_roundTrips_le, fun hfew => ?_⟩
    have hcalls := h.two_mul_roundTrips_le
    exact UInt64.toNat_ofNat_of_lt' (by omega)

/-- **The report of a workload is true to its course.** There are any number of pairs and a message
of any size; calls bring any number of bytes or any failure, any pairs are drawn, and the token is
cancelled at any moment or never. -/
theorem faithful_run (pairs : Nat) (message : Buffer) (moves : List Move) :
    Faithful message.size ((start pairs message).run moves) := by
  obtain ⟨_, _, h⟩ := (Recorded.start pairs message).run moves
  exact h.faithful ((paced_start pairs message).run moves)

/-- One round trip on the first pair; then the second one is drawn, and the token is cancelled while
its write is under way. -/
theorem faithful_run_cancelled :
    let s := (start 2 (.zeroed 1)).run
      [.look, .write (.ok 1), .look, .read (.ok [7]), .look, .draw 1, .look, .cancel]
    let more : List Move := [.write (.error Timer.interruption), .look]
    s.workload.isOver = false ∧ (s.run more).workload.isOver = true ∧
      (s.run more).workload.fault = none ∧ (s.run more).workload.roundTrips = 1 ∧
      (s.run more).calls.map Call.late = [false, false, true] := by
  refine ⟨rfl, ?_, rfl, rfl, rfl⟩
  refine (faithful_run 2 (.zeroed 1) _).heeds rfl _ ?_ (Nat.le_refl 2)
  exact ⟨Or.inr (Or.inr rfl), Or.inr (Or.inr rfl), trivial⟩

end Course

end ReadinessBench
