import ReadinessBench.Proofs.Bench.Pairs

/-!
# Engines in the books

However far the creation of an engine gets, what it has opened is either the engine's, once it is
at work, or closed again. Its destruction closes what is its own and gives back exactly the shares
that it has taken.
-/

namespace ReadinessBench

/-- How many descriptors a step opens. -/
def SetupStep.descriptors : SetupStep → Nat
  | .descriptor _ => 1
  | _ => 0

theorem Mechanism.descriptors_setup (m : Mechanism) :
    (m.setup.map SetupStep.descriptors).foldr (· + ·) 0 = m.footprint := by
  cases m <;> rfl

namespace Bench

variable {b b' c : Bench} {base opened fresh : List Nat} {pair q : Nat}

/-- Between two moments these descriptors have been opened, and nothing else has changed in the
books. -/
structure Acquired (b b' : Bench) (opened : List Nat) : Prop where
  accounts : ∀ numbers, b.table.Accounts numbers → b'.table.Accounts (opened ++ numbers)
  books : SameBooks { b with table := b'.table } b'

namespace Acquired

theorem of_sameBooks (h : SameBooks b b') : Acquired b b' [] where
  accounts numbers hb := by
    rw [h.table]
    exact hb
  books := ⟨rfl, h.sockets, h.holdings, h.tenants, h.nextWatcher⟩

theorem trans (h : Acquired b b' opened) (h' : Acquired b' c fresh) :
    Acquired b c (opened ++ fresh) where
  accounts numbers hb := by
    apply (h'.accounts _ (h.accounts numbers hb)).perm
    rw [List.append_assoc]
    exact List.perm_append_comm_assoc fresh opened numbers
  books := ⟨rfl, h'.books.sockets.trans h.books.sockets, h'.books.holdings.trans h.books.holdings,
    h'.books.tenants.trans h.books.tenants, h'.books.nextWatcher.trans h.books.nextWatcher⟩

theorem close (h : Acquired b b' opened) : Acquired b (b'.close opened) [] where
  accounts numbers hb := (h.accounts numbers hb).closeAll
  books := ⟨rfl, h.books.sockets, h.books.holdings, h.books.tenants, h.books.nextWatcher⟩

theorem openOne {n : Nat} (h : b.openOne = .ok (n, b')) : Acquired b b' [n] := by
  unfold Bench.openOne at h
  cases hopen : b.table.openOne with
  | error f =>
    rw [hopen] at h
    cases h
  | ok r =>
    obtain ⟨m, table⟩ := r
    rw [hopen] at h
    cases h
    exact ⟨fun _ hb => hb.openOne hopen, rfl, rfl, rfl, rfl, rfl⟩

/-- Something that failed half-way has left the books as they were. -/
theorem booked (h : Acquired b b' []) (hb : b.Booked base) : b'.Booked base :=
  h.books.booked (hb.setTable (h.accounts _ hb.numbers))

theorem isHeld_eq (h : Acquired b b' opened) (q : Nat) : b'.isHeld q = b.isHeld q := by
  rw [isHeld, isHeld, h.books.holdings]

end Acquired

/-! ## Setting up -/

theorem updateAll_same (watched : List Watched) (f : SocketPair → SocketPair) :
    SameBooks b (watched.foldl (fun b w => b.updatePair w.pair f) b) := by
  induction watched generalizing b with
  | nil => exact SameBooks.refl b
  | cons w rest ih => exact (SameBooks.updatePair b w.pair f).trans ih

theorem SameBooks.allocate (b : Bench) (size : Nat) : SameBooks b (b.allocate size).2 := by
  unfold Bench.allocate
  split
  · exact refl b
  · exact ⟨rfl, rfl, rfl, rfl, rfl⟩

theorem SameBooks.allocateEach (b : Bench) (size n : Nat) :
    SameBooks b (b.allocateEach size n).2 := by
  induction n generalizing b with
  | zero => exact refl b
  | succ n ih =>
    have hfirst := allocate b size
    rw [Bench.allocateEach]
    split
    · rename_i heq
      rw [heq] at hfirst
      exact hfirst.trans (ih _)
    · exact hfirst

/-- Memory is asked for without any change in the books. -/
theorem granted_cases (context : String) {asked : Option Failure × Bench}
    (hsame : SameBooks b asked.2) :
    SameBooks b (EngineRequest.granted context asked).2 ∧
      ((EngineRequest.granted context asked).1 = .ok [] ∨
        ∃ e, (EngineRequest.granted context asked).1 = .error e) := by
  obtain ⟨refusal, next⟩ := asked
  cases refusal with
  | none => exact ⟨hsame, Or.inl rfl⟩
  | some f => exact ⟨hsame, Or.inr ⟨_, rfl⟩⟩

private theorem checked_cases {α : Type} (x : Except BenchError α) :
    ((x.map fun _ => ([] : List Nat)) = .ok []) ∨
      ∃ e, (x.map fun _ => ([] : List Nat)) = .error e := by
  cases x with
  | ok => exact Or.inl rfl
  | error e => exact Or.inr ⟨e, rfl⟩

/-- A step opens one descriptor, or it fails or succeeds without any change in the books. -/
theorem perform_cases {r : EngineRequest} {step : SetupStep}
    {result : Except BenchError (List Nat)} (h : r.perform opened b step = (result, b')) :
    (∃ n, b.openOne = .ok (n, b') ∧ result = .ok [n] ∧ step.descriptors = 1) ∨
      SameBooks b b' ∧ (result = .ok [] ∧ step.descriptors = 0 ∨ ∃ e, result = .error e) := by
  cases step with
  | checkExclusive =>
    rw [EngineRequest.perform] at h
    split at h <;> cases h
    · exact Or.inr ⟨SameBooks.refl b, Or.inr ⟨_, rfl⟩⟩
    · exact Or.inr ⟨SameBooks.refl b, Or.inl ⟨rfl, rfl⟩⟩
  | blockReads =>
    cases h
    exact Or.inr ⟨updateAll_same r.watched _, Or.inl ⟨rfl, rfl⟩⟩
  | checkSelectable =>
    rw [EngineRequest.perform, Prod.mk.injEq] at h
    obtain ⟨rfl, rfl⟩ := h
    exact Or.inr ⟨SameBooks.refl b, (checked_cases _).imp_left fun hok => ⟨hok, rfl⟩⟩
  | buffer =>
    obtain ⟨hsame, hresult⟩ := granted_cases Buffer.context
      (SameBooks.allocate b r.messageSize)
    rw [EngineRequest.perform] at h
    rw [h] at hsame hresult
    exact Or.inr ⟨hsame, hresult.imp_left fun hok => ⟨hok, rfl⟩⟩
  | workers =>
    obtain ⟨hsame, hresult⟩ := granted_cases Buffer.context
      (SameBooks.allocateEach b r.messageSize r.watched.length)
    rw [EngineRequest.perform] at h
    split at h <;> rename_i heq <;> rw [heq] at hsame hresult <;> cases h
    · exact Or.inr ⟨hsame, hresult.imp_left fun hok => ⟨hok, rfl⟩⟩
    · exact Or.inr ⟨hsame.trans (SameBooks.record _ _), Or.inr ⟨_, rfl⟩⟩
  | slots =>
    obtain ⟨hsame, hresult⟩ := granted_cases slotsContext
      (SameBooks.allocate b (bytesPerSlot * (r.watched.length + 1)))
    rw [EngineRequest.perform] at h
    rw [h] at hsame hresult
    exact Or.inr ⟨hsame, hresult.imp_left fun hok => ⟨hok, rfl⟩⟩
  | descriptor context =>
    rw [EngineRequest.perform] at h
    split at h
    · rename_i hopen
      cases h
      exact Or.inl ⟨_, hopen, rfl, rfl⟩
    · cases h
      exact Or.inr ⟨SameBooks.refl b, Or.inr ⟨_, rfl⟩⟩
  | register context =>
    rw [EngineRequest.perform] at h
    split at h <;> cases h
    · exact Or.inr ⟨SameBooks.refl b, Or.inl ⟨rfl, rfl⟩⟩
    · exact Or.inr ⟨SameBooks.refl b, Or.inr ⟨_, rfl⟩⟩
  | checkLastSelectable =>
    rw [EngineRequest.perform, Prod.mk.injEq] at h
    obtain ⟨rfl, rfl⟩ := h
    exact Or.inr ⟨SameBooks.refl b, (checked_cases _).imp_left fun hok => ⟨hok, rfl⟩⟩

/-- What the steps have opened stays open only if all of them succeed. -/
theorem performAll_cases {r : EngineRequest} {steps : List SetupStep}
    {result : Except BenchError (List Nat)} (hopened : Acquired c b opened)
    (h : r.performAll opened b steps = (result, b')) :
    (∃ owned, result = .ok owned ∧ Acquired c b' owned ∧
        owned.length = opened.length + (steps.map SetupStep.descriptors).foldr (· + ·) 0) ∨
      ∃ e, result = .error e ∧ Acquired c b' [] := by
  -- by induction on the steps, with what has been opened so far growing
  induction steps generalizing opened b with
  | nil =>
    cases h
    exact Or.inl ⟨opened, rfl, hopened, rfl⟩
  | cons step rest ih =>
    rw [EngineRequest.performAll] at h
    cases hstep : r.perform opened b step with
    | mk done next =>
      rw [hstep] at h
      rcases perform_cases hstep with ⟨n, hopen, rfl, hcount⟩ | ⟨hsame, ⟨rfl, hcount⟩ | ⟨e, rfl⟩⟩
      · have hnext := ih (hopened.trans (Acquired.openOne hopen)) h
        rw [List.length_append, List.length_singleton, Nat.add_assoc] at hnext
        rw [List.map_cons, List.foldr_cons, hcount]
        exact hnext
      · have hnext := ih (hopened.trans (Acquired.of_sameBooks hsame)) h
        rw [List.append_nil] at hnext
        rw [List.map_cons, List.foldr_cons, hcount, Nat.zero_add]
        exact hnext
      -- all that has been opened by earlier steps is closed again
      · cases h
        refine Or.inr ⟨e, rfl, ?_⟩
        have hfailed := hopened.trans (Acquired.of_sameBooks hsame)
        rw [List.append_nil] at hfailed
        exact hfailed.close

end Bench

end ReadinessBench
