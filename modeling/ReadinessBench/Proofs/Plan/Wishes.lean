import Mathlib.Data.List.Induction
import ReadinessBench.Plan
import ReadinessBench.Proofs.Lists

/-!
# The last wish counts

A draft is filled in one wish at a time, and nothing is checked before the end. So what comes of
checking it hangs on the last wish for each of its fields and on nothing else: not on the order in
which fields are filled in, not on wishes that were taken back, and not on checks that have failed
on the way. Main statement: `build_last_wishes`.
-/

namespace ReadinessBench

theorem Span.isPositive_iff (s : Span) : s.isPositive = true ↔ s.totalNanos ≠ 0 := by
  have hsecond : nanosPerSecond ≠ 0 := by decide
  simp only [isPositive, totalNanos, Bool.or_eq_true, decide_eq_true_eq, ne_eq,
    Nat.add_eq_zero_iff, Nat.mul_eq_zero, hsecond, or_false, not_and_or]

theorem Mechanism.supportsExclusive_iff (m : Mechanism) :
    m.supportsExclusive = true ↔ m = .epoll ∨ m = .ioUring := by
  cases m <;> decide

/-! ## Sensible drafts -/

namespace Draft

/-- What can be wrong with a draft, in the order in which it is complained about. -/
def complaints (d : Draft) : List (Bool × BenchError) :=
  [(d.engines = 0, .invalidOption "num-engines"), (d.pairs = 0, .invalidOption "num-fds"),
    (d.messageSize = 0, .invalidOption "msg-size"),
    (d.duration.totalNanos = 0, .invalidOption "duration-secs"),
    (d.exclusive && d.mechanism ≠ .epoll && d.mechanism ≠ .ioUring,
      .unsupportedExclusive d.mechanism.name)]

def complaint? (d : Draft) : Option BenchError := (d.complaints.find? Prod.fst).map Prod.snd

/-- Nothing is wrong with the draft. -/
structure IsSensible (d : Draft) : Prop where
  engines : d.engines ≠ 0
  pairs : d.pairs ≠ 0
  messageSize : d.messageSize ≠ 0
  duration : d.duration.totalNanos ≠ 0
  exclusive : d.exclusive = false ∨ d.mechanism = .epoll ∨ d.mechanism = .ioUring

end Draft

namespace Plan

/-- The draft that a plan came from. -/
def draft (p : Plan) : Draft where
  mechanism := p.mechanism
  engines := p.engines
  pairs := p.pairs
  messageSize := p.messageSize
  exclusive := p.exclusive
  duration := p.duration

theorem draft_injective {p p' : Plan} (h : p.draft = p'.draft) : p = p' := by
  obtain ⟨⟩ := p
  obtain ⟨⟩ := p'
  simp_all [draft]

theorem isSensible_draft (p : Plan) : p.draft.IsSensible where
  engines := p.engines_pos
  pairs := p.pairs_pos
  messageSize := p.messageSize_pos
  duration := p.duration.isPositive_iff.mp p.duration_pos
  exclusive := by
    show p.exclusive = false ∨ p.mechanism = .epoll ∨ p.mechanism = .ioUring
    rw [← p.mechanism.supportsExclusive_iff, ← Bool.not_eq_true]
    exact Decidable.not_or_of_imp p.exclusive_supported

end Plan

namespace Draft

theorem complaint?_eq_none_iff {d : Draft} : d.complaint? = none ↔ d.IsSensible := by
  rw [complaint?, Option.map_eq_none_iff, List.find?_eq_none]
  simp only [complaints, List.forall_mem_cons, decide_eq_true_eq, Bool.and_eq_true, ne_eq]
  constructor
  · intro ⟨hengines, hpairs, hsize, hduration, hexclusive, _⟩
    refine ⟨hengines, hpairs, hsize, hduration, ?_⟩
    cases hwanted : d.exclusive with
    | false => exact Or.inl rfl
    | true =>
      right
      by_contra hother
      exact hexclusive ⟨⟨hwanted, fun h => hother (Or.inl h)⟩, fun h => hother (Or.inr h)⟩
  · intro h
    refine ⟨h.engines, h.pairs, h.messageSize, h.duration, ?_, by simp⟩
    rintro ⟨⟨hwanted, hepoll⟩, huring⟩
    rcases h.exclusive with hnot | hmechanism | hmechanism
    · rw [hwanted] at hnot
      cases hnot
    · exact hepoll hmechanism
    · exact huring hmechanism

theorem check_cases (d : Draft) :
    (∃ p, d.check = .ok p ∧ p.draft = d ∧ d.complaint? = none) ∨
      ∃ e, d.check = .error e ∧ d.complaint? = some e := by
  have hduration := d.duration.isPositive_iff
  have hsupports := d.mechanism.supportsExclusive_iff
  unfold check
  -- one case for each complaint, with all earlier ones refuted, and one for a plan
  split
  · next hengines => exact Or.inr ⟨_, rfl, by simp [complaint?, complaints, hengines]⟩
  split
  · next hengines hpairs =>
    exact Or.inr ⟨_, rfl, by simp [complaint?, complaints, hengines, hpairs]⟩
  split
  · next hengines hpairs hsize =>
    exact Or.inr ⟨_, rfl, by simp [complaint?, complaints, hengines, hpairs, hsize]⟩
  split
  · next hengines hpairs hsize hzero =>
    rw [hzero] at hduration
    exact Or.inr ⟨_, rfl, by simp_all [complaint?, complaints]⟩
  split
  · next hengines hpairs hsize hlong hexclusive =>
    exact Or.inr ⟨_, rfl, by simp_all [complaint?, complaints]⟩
  · next hengines hpairs hsize hlong hexclusive =>
    refine Or.inl ⟨_, rfl, rfl, complaint?_eq_none_iff.mpr ⟨hengines, hpairs, hsize, ?_, ?_⟩⟩
    · exact hduration.mp (by simpa using hlong)
    · rw [← hsupports]
      cases hwanted : d.exclusive with
      | false => exact Or.inl rfl
      | true => exact Or.inr (by simpa [hwanted] using hexclusive)

theorem check_eq_ok_iff {d : Draft} {p : Plan} : d.check = .ok p ↔ p.draft = d := by
  rcases d.check_cases with ⟨p', hp', hdraft, -⟩ | ⟨e, he, hcomplaint⟩
  · rw [hp', Except.ok.injEq, ← hdraft]
    exact ⟨fun h => by rw [h], fun h => Plan.draft_injective h.symm⟩
  · rw [he]
    constructor
    · intro h
      cases h
    -- a draft that a plan came from is sensible
    · rintro rfl
      rw [complaint?_eq_none_iff.mpr p.isSensible_draft] at hcomplaint
      cases hcomplaint

theorem exists_check_eq_ok_iff {d : Draft} : (∃ p, d.check = .ok p) ↔ d.IsSensible := by
  rw [← complaint?_eq_none_iff]
  rcases d.check_cases with ⟨p, hp, -, hnone⟩ | ⟨e, he, hcomplaint⟩
  · exact ⟨fun _ => hnone, fun _ => ⟨p, hp⟩⟩
  · simp [he, hcomplaint]

theorem check_eq_error_iff {d : Draft} {e : BenchError} :
    d.check = .error e ↔ d.complaint? = some e := by
  rcases d.check_cases with ⟨p, hp, -, hnone⟩ | ⟨e', he', hcomplaint⟩
  · simp [hp, hnone]
  · simp [he', hcomplaint]

/-! ## Fields and wishes -/

/-- A field of a draft; every wish is about one. -/
inductive Field where
  | mechanism
  | engines
  | pairs
  | messageSize
  | exclusive
  | duration
  deriving DecidableEq, Repr

def Setting.field : Setting → Field
  | .mechanism _ => .mechanism
  | .engines _ => .engines
  | .pairs _ => .pairs
  | .messageSize _ => .messageSize
  | .exclusive _ => .exclusive
  | .duration _ => .duration

/-- The wish that stands in a field of the draft. -/
def wish (d : Draft) : Field → Setting
  | .mechanism => .mechanism d.mechanism
  | .engines => .engines d.engines
  | .pairs => .pairs d.pairs
  | .messageSize => .messageSize d.messageSize
  | .exclusive => .exclusive d.exclusive
  | .duration => .duration d.duration

/-- The last of the wishes for a field, or what is usual. -/
def lastWish (f : Field) (settings : List Setting) : Setting :=
  (settings.filter (·.field = f)).getLast?.getD (wish {} f)

theorem eq_of_wish_eq {d d' : Draft} (h : ∀ f, d.wish f = d'.wish f) : d = d' := by
  obtain ⟨⟩ := d
  obtain ⟨⟩ := d'
  have hmechanism := h .mechanism
  have hengines := h .engines
  have hpairs := h .pairs
  have hsize := h .messageSize
  have hexclusive := h .exclusive
  have hduration := h .duration
  simp_all [wish]

theorem wish_set (d : Draft) (s : Setting) (f : Field) :
    (d.set s).wish f = if s.field = f then s else d.wish f := by
  cases s <;> cases f <;> rfl

theorem lastWish_concat (f : Field) (settings : List Setting) (s : Setting) :
    lastWish f (settings ++ [s]) = if s.field = f then s else lastWish f settings := by
  unfold lastWish
  by_cases hs : s.field = f
  · simp [hs]
  · simp [hs]

theorem wish_foldl (settings : List Setting) (f : Field) :
    (settings.foldl set {}).wish f = lastWish f settings := by
  induction settings using List.reverseRecOn with
  | nil => rfl
  | append_singleton settings s ih =>
    rw [List.foldl_append, List.foldl_cons, List.foldl_nil, wish_set, lastWish_concat, ih]

/-! ## Two wishes -/

theorem set_set_of_field_ne (d : Draft) {s t : Setting} (h : s.field ≠ t.field) :
    (d.set s).set t = (d.set t).set s := by
  apply eq_of_wish_eq
  intro f
  simp only [wish_set]
  by_cases hs : s.field = f
  · have ht : t.field ≠ f := fun ht => h (hs.trans ht.symm)
    rw [if_neg ht, if_pos hs, if_pos hs]
  · rw [if_neg hs, if_neg hs]

theorem lastWish_of_field_eq {s t : Setting} (h : s.field = t.field)
    (before between after : List Setting) (f : Field) :
    lastWish f (before ++ s :: (between ++ t :: after)) =
      lastWish f (before ++ (between ++ t :: after)) := by
  unfold lastWish
  rw [List.filter_append, List.filter_append, List.getLast?_append, List.getLast?_append]
  by_cases hs : s.field = f
  -- the later wish for the same field hides the earlier one
  · have hlast : ((between ++ t :: after).filter (·.field = f)).getLast? ≠ none := by
      rw [ne_eq, List.getLast?_eq_none_iff, List.filter_eq_nil_iff]
      intro hnone
      exact hnone t (by simp) (by simp [← h, hs])
    obtain ⟨last, hlast⟩ := Option.ne_none_iff_exists'.mp hlast
    rw [List.filter_cons_of_pos (by simp [hs]), List.getLast?_cons, hlast]
    rfl
  · rw [List.filter_cons_of_neg (by simp [hs])]

/-! ## Drafts that are filled in from the start -/

/-- What comes of these wishes. -/
def build (settings : List Setting) : Except BenchError Plan := (settings.foldl set {}).check

theorem build_congr {settings settings' : List Setting}
    (h : ∀ f, lastWish f settings = lastWish f settings') : build settings = build settings' := by
  have hdraft : settings.foldl set {} = settings'.foldl set {} := by
    apply eq_of_wish_eq
    intro f
    rw [wish_foldl, wish_foldl, h f]
  rw [build, hdraft, build]

theorem build_of_field_ne {s t : Setting} (h : s.field ≠ t.field) (before after : List Setting) :
    build (before ++ s :: t :: after) = build (before ++ t :: s :: after) := by
  have hswap := set_set_of_field_ne (before.foldl set {}) h
  simp only [build, List.foldl_append, List.foldl_cons, hswap]

theorem checks_setting_cons (d : Draft) (last : Option Plan) (s : Setting) (rest : List Change) :
    ∃ last', (d.checks last (.setting s :: rest)).map (Except.map Prod.fst) =
      (d.set s).check :: ((d.set s).checks last' rest).map (Except.map Prod.fst) := by
  simp only [checks, change]
  cases (d.set s).check with
  | error e => exact ⟨last, rfl⟩
  | ok p => exact ⟨some p, rfl⟩

/-- Every check on the way gives what the wishes up to it come to, whatever the checks before it
have given. -/
theorem checks_settings (d : Draft) (last : Option Plan) (settings : List Setting) :
    (d.checks last (settings.map .setting)).map (Except.map Prod.fst) =
      (List.range settings.length).map fun k => ((settings.take (k + 1)).foldl set d).check := by
  induction settings generalizing d last with
  | nil => rfl
  | cons s rest ih =>
    have hbeginnings := map_take_succ_cons (fun ss => (ss.foldl set d).check) s rest
    obtain ⟨last', hcons⟩ := d.checks_setting_cons last s (rest.map .setting)
    rw [hbeginnings, List.map_cons, hcons, ih]
    rfl

/-- **A plan is made of the last wishes.** The wishes come in any order and any number. What comes
of them is a plan with exactly the last wish for every field, or the first of the complaints about
those; what was wished for before, or checked in between, makes no difference. -/
theorem build_last_wishes (settings : List Setting) :
    (∃ d : Draft, (∀ f, d.wish f = lastWish f settings) ∧
      (∀ p, build settings = .ok p ↔ p.draft = d) ∧
      ((∃ p, build settings = .ok p) ↔ d.IsSensible) ∧
      ∀ e, build settings = .error e ↔ d.complaint? = some e) ∧
    (∀ settings', (∀ f, lastWish f settings = lastWish f settings') →
      build settings = build settings') ∧
    (∀ s t before after, s.field ≠ t.field →
      build (before ++ s :: t :: after) = build (before ++ t :: s :: after)) ∧
    (∀ s t before between after, s.field = t.field →
      build (before ++ s :: (between ++ t :: after)) = build (before ++ (between ++ t :: after))) ∧
    (checks {} none (settings.map .setting)).map (Except.map Prod.fst) =
      (List.range settings.length).map fun k => build (settings.take (k + 1)) := by
  refine ⟨⟨settings.foldl set {}, wish_foldl settings, fun p => check_eq_ok_iff,
    exists_check_eq_ok_iff, fun e => check_eq_error_iff⟩, fun _ => build_congr,
    fun s t before after h => build_of_field_ne h before after, ?_,
    checks_settings {} none settings⟩
  intro s t before between after h
  exact build_congr (lastWish_of_field_eq h before between after)

/-- No engines are taken back, poll cannot be exclusive, and epoll can; checks fail on the way. -/
theorem build_last_wishes_taken_back :
    let settings : List Setting := [.engines 0, .exclusive true, .mechanism .poll, .engines 3,
      .mechanism .epoll]
    let inOrder : List Setting := [.mechanism .epoll, .engines 3, .pairs 1, .exclusive true]
    let p : Plan := ⟨.epoll, 3, 1, 1, true, usualDuration, by decide, by decide, by decide,
      by decide, by decide⟩
    (checks {} none (settings.map .setting)).map (Except.map Prod.fst) =
      [.error (.invalidOption "num-engines"), .error (.invalidOption "num-engines"),
        .error (.invalidOption "num-engines"), .error (.unsupportedExclusive "poll"), .ok p] ∧
    ((∀ f, lastWish f settings = lastWish f inOrder) ∧ build settings = build inOrder) ∧
    ((Setting.exclusive true).field ≠ (Setting.mechanism .poll).field ∧
      build settings = build [.engines 0, .mechanism .poll, .exclusive true, .engines 3,
        .mechanism .epoll]) ∧
    (Setting.engines 0).field = (Setting.engines 3).field ∧
      build settings =
        build [.exclusive true, .mechanism .poll, .engines 3, .mechanism .epoll] := by
  intro settings inOrder p
  obtain ⟨-, hsame, hswap, htakenBack, hchecks⟩ := build_last_wishes settings
  have hlast : ∀ f, lastWish f settings = lastWish f inOrder := by
    intro f
    cases f <;> decide
  refine ⟨hchecks.trans (by decide), ⟨hlast, hsame inOrder hlast⟩, ⟨by decide, ?_⟩, rfl, ?_⟩
  · exact hswap (.exclusive true) (.mechanism .poll) [.engines 0] [.engines 3, .mechanism .epoll]
      (by decide)
  · exact htakenBack (.engines 0) (.engines 3) [] [.exclusive true, .mechanism .poll]
      [.mechanism .epoll] rfl

end Draft

end ReadinessBench
