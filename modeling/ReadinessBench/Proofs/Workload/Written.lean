import Mathlib.Data.List.Basic
import ReadinessBench.Workload.Report

/-!
# What is written of a report

A measurement is written in characters of one byte each, so a sink that fills up cuts its text at
some byte and no sooner, wherever the pieces end in which the text goes out. The fault of a report
plays no part in that: it is complained about only when all has been written. Main statement:
`written_report`.
-/

namespace ReadinessBench

/-- The bytes of some text. -/
def bytesOf (text : List Char) : List UInt8 := text.flatMap String.utf8EncodeChar

/-- Text whose characters have one byte each. -/
def IsPlain (text : List Char) : Prop := ∀ c ∈ text, c.utf8Size = 1

instance (text : List Char) : Decidable (IsPlain text) :=
  List.decidableBAll (fun c : Char => c.utf8Size = 1) text

theorem isPlain_append {a b : List Char} : IsPlain (a ++ b) ↔ IsPlain a ∧ IsPlain b :=
  List.forall_mem_append

theorem isPlain_cons {c : Char} {text : List Char} :
    IsPlain (c :: text) ↔ c.utf8Size = 1 ∧ IsPlain text :=
  List.forall_mem_cons

theorem isPlain_replicate {n : Nat} {c : Char} (hc : c.utf8Size = 1) :
    IsPlain (List.replicate n c) := by
  intro x hx
  rw [List.eq_of_mem_replicate hx, hc]

theorem isPlain_toDigits (n : Nat) : IsPlain (Nat.toDigits 10 n) := by
  intro c hc
  -- a digit is no higher than '9'
  have hdigit := Nat.isDigit_of_mem_toDigits (by decide) (by decide) hc
  rw [Char.isDigit, Bool.and_eq_true, decide_eq_true_eq, decide_eq_true_eq] at hdigit
  exact Char.utf8Size_eq_one_iff.2 (UInt32.le_trans hdigit.2 (by decide))

theorem isPlain_intercalate {separator : List Char} (hseparator : IsPlain separator)
    {texts : List (List Char)} (h : ∀ text ∈ texts, IsPlain text) :
    IsPlain (separator.intercalate texts) := by
  induction texts with
  | nil => exact fun c hc => absurd hc List.not_mem_nil
  | cons text texts ih =>
    obtain ⟨htext, htexts⟩ := List.forall_mem_cons.1 h
    cases texts with
    | nil => rwa [List.intercalate_singleton]
    | cons next texts =>
      rw [List.intercalate_cons_cons]
      exact isPlain_append.2 ⟨isPlain_append.2 ⟨htext, hseparator⟩, ih htexts⟩

theorem bytesOf_append (a b : List Char) : bytesOf (a ++ b) = bytesOf a ++ bytesOf b :=
  List.flatMap_append

theorem bytesOf_eq_map {text : List Char} (h : IsPlain text) :
    bytesOf text = text.map fun c => c.val.toUInt8 := by
  induction text with
  | nil => rfl
  | cons c text ih =>
    obtain ⟨hc, htext⟩ := isPlain_cons.1 h
    rw [bytesOf, List.flatMap_cons, String.utf8EncodeChar_eq_singleton hc, List.map_cons]
    exact congrArg _ (ih htext)

/-- In plain text the first bytes are those of the first characters. -/
theorem bytesOf_take {text : List Char} (h : IsPlain text) (n : Nat) :
    bytesOf (text.take n) = (bytesOf text).take n := by
  have htake : IsPlain (text.take n) := fun c hc => h c (List.mem_of_mem_take hc)
  rw [bytesOf_eq_map htake, bytesOf_eq_map h, List.map_take]

theorem length_bytesOf {text : List Char} (h : IsPlain text) :
    (bytesOf text).length = text.length := by
  rw [bytesOf_eq_map h, List.length_map]

namespace Decimal

theorem isPlain_positional (d : Decimal) : IsPlain d.positional := by
  have hzero : '0'.utf8Size = 1 := by decide
  rw [positional]
  dsimp only
  split
  · split
    · exact isPlain_replicate (n := 1) hzero
    · exact isPlain_append.2 ⟨isPlain_toDigits _, isPlain_replicate hzero⟩
  · exact isPlain_append.2 ⟨isPlain_toDigits _, isPlain_cons.2 ⟨by decide,
      isPlain_append.2 ⟨isPlain_replicate hzero, isPlain_toDigits _⟩⟩⟩

end Decimal

namespace Measurement

variable (m : Measurement)

theorem isPlain_field {text : String} (h : text ∈ m.fields) : IsPlain text.toList := by
  have hreport (d : Decimal) : IsPlain d.reportText.toList := by
    rw [Decimal.reportText, String.toList_ofList]
    exact d.isPlain_positional
  have hcount : IsPlain (toString m.roundTrips).toList := by
    rw [Nat.toString_eq_repr, Nat.toList_repr]
    exact isPlain_toDigits _
  simp only [fields, List.mem_cons, List.not_mem_nil, or_false] at h
  rcases h with rfl | rfl | rfl | rfl | rfl
  · exact hreport _
  · exact hcount
  · exact hreport _
  · exact hreport _
  · exact hreport _

theorem text_eq : m.text = header ++ "\n" ++ m.row ++ "\n" := by
  have hjoin (a b c d : String) : String.join [a ++ b, c ++ d] = a ++ b ++ c ++ d := by
    simp [String.join, String.append_assoc]
  exact hjoin _ _ _ _

theorem isPlain_text : IsPlain m.text.toList := by
  have hrow : IsPlain m.row.toList := by
    rw [row, String.toList_intercalate]
    refine isPlain_intercalate (by decide) fun text htext => ?_
    obtain ⟨field, hfield, rfl⟩ := List.mem_map.1 htext
    exact m.isPlain_field hfield
  rw [text_eq]
  simp only [String.toList_append, isPlain_append]
  exact ⟨⟨⟨by decide, by decide⟩, hrow⟩, by decide⟩

end Measurement

namespace Sink

variable (s : Sink)

theorem write_nil : s.write [] = (.ok (), s) := by
  obtain ⟨written, room, failsToFlush, whenFull, whenFlushed, h⟩ := s
  cases room with
  | none => simp [write]
  | some room => simp [write]

/-- Text goes out in pieces as it goes out whole. -/
theorem write_append (a b : List Char) :
    s.write (a ++ b) =
      match s.write a with
      | (.ok (), t) => t.write b
      | (.error f, t) => (.error f, t) := by
  obtain ⟨written, room, failsToFlush, whenFull, whenFlushed, h⟩ := s
  cases room with
  | none => simp [write]
  | some room =>
    by_cases ha : a.length ≤ room
    · -- What is left after `a` is what the cut leaves of `b`.
      have hfits : a.length + b.length ≤ room ↔ b.length ≤ room - a.length := by omega
      simp only [write, if_pos ha, List.take_append, List.take_of_length_le ha,
        List.length_append, List.append_assoc, Nat.sub_add_eq, hfits]
    · have hfits : ¬ (a ++ b).length ≤ room := by
        rw [List.length_append]
        omega
      have htaken : (a ++ b).take room = a.take room :=
        List.take_append_of_le_length (by omega)
      simp only [write, if_neg ha, if_neg hfits, htaken]

theorem writeAll_eq_write (pieces : List (List Char)) :
    s.writeAll pieces = s.write pieces.flatten := by
  induction pieces generalizing s with
  | nil => exact (write_nil s).symm
  | cons piece pieces ih =>
    rw [writeAll, List.flatten_cons, write_append]
    cases s.write piece with
    | mk result t =>
      cases result with
      | ok _ => exact ih t
      | error f => rfl

end Sink

namespace Measurement

variable (m : Measurement) (s : Sink)

theorem flatten_lines : (m.lines.map String.toList).flatten = m.text.toList := by
  rw [text, String.toList_join, List.flatMap_def]

theorem writeTo_eq :
    m.writeTo s =
      match s.write m.text.toList with
      | (.ok (), t) => (t.flush, t)
      | (.error f, t) => (.error f, t) := by
  have hpieces : s.writeAll (m.lines.map String.toList) = s.write m.text.toList := by
    rw [Sink.writeAll_eq_write, flatten_lines]
  rw [← hpieces]
  exact rfl

theorem writeTo_written {room : Nat} (hroom : s.room = some room) :
    (m.writeTo s).2.written = s.written ++ m.text.toList.take room := by
  rw [writeTo_eq, Sink.write, hroom]
  by_cases h : m.text.toList.length ≤ room
  · simp only [if_pos h]
  · simp only [if_neg h]

theorem writeTo_result {room : Nat} (hroom : s.room = some room) :
    (m.writeTo s).1 =
      if m.text.toList.length ≤ room then s.flush else .error s.whenFull := by
  rw [writeTo_eq, Sink.write, hroom]
  by_cases h : m.text.toList.length ≤ room
  · simp only [if_pos h]
    rfl
  · simp only [if_neg h]

theorem writeTo_ok_iff {room : Nat} (hroom : s.room = some room) :
    (m.writeTo s).1 = .ok () ↔ m.text.toList.length ≤ room ∧ s.failsToFlush = false := by
  rw [writeTo_result m s hroom, Sink.flush]
  by_cases h : m.text.toList.length ≤ room
  · cases hflush : s.failsToFlush <;> simp [h]
  · simp [h]

/-- The sink complains of being full before it complains of the flush. -/
theorem error_of_writeTo {room : Nat} {f : Failure} (hroom : s.room = some room)
    (hf : (m.writeTo s).1 = .error f) :
    f = if m.text.toList.length ≤ room then s.whenFlushed else s.whenFull := by
  rw [writeTo_result m s hroom, Sink.flush] at hf
  by_cases h : m.text.toList.length ≤ room
  · rw [if_pos h] at hf ⊢
    cases hflush : s.failsToFlush with
    | true => simpa [hflush] using hf.symm
    | false => simp [hflush] at hf
  · rw [if_neg h] at hf ⊢
    exact (Except.error.inj hf).symm

end Measurement

/-- What follows the message of an error: its source, if it has one. -/
def BenchError.behind (e : BenchError) : String :=
  match e.source with
  | some f => ": " ++ f.text
  | none => ""

namespace Complaint

theorem line_ofFailure (context : String) (f : Failure) :
    (ofFailure context f).line = "error: " ++ (context ++ ": " ++ f.text) := rfl

theorem line_ofError (context : String) (e : BenchError) :
    (ofError context e).line =
      "error: " ++ (context ++ ": " ++ e.message ++ e.behind) := by
  rw [line, ofError, BenchError.chain, BenchError.behind]
  cases e.source with
  | none => exact congrArg _ (String.append_empty).symm
  | some f => exact congrArg _ (String.append_assoc ..)

end Complaint

namespace Report

/-- How figures `m` go to a sink that takes `room` more bytes, and what is complained about. -/
structure Delivered (m : Measurement) (s : Sink) (room : Nat) : Prop where
  text_eq : m.text = Measurement.header ++ "\n" ++ m.row ++ "\n"
  written : bytesOf (m.writeTo s).2.written =
    bytesOf s.written ++ (bytesOf m.text.toList).take room
  /-- Whatever the pieces in which the text goes out. -/
  pieces : ∀ pieces, pieces.flatten = m.text.toList →
    s.writeAll pieces = s.writeAll (m.lines.map String.toList)
  ok_iff : (m.writeTo s).1 = .ok () ↔
    (bytesOf m.text.toList).length ≤ room ∧ s.failsToFlush = false
  refused : ∀ f, (m.writeTo s).1 = .error f →
    f = if (bytesOf m.text.toList).length ≤ room then s.whenFlushed else s.whenFull
  finish_snd : ∀ fault, ((⟨m, fault⟩ : Report).finish s).2 = (m.writeTo s).2
  finish_ok_iff : ∀ fault, ((⟨m, fault⟩ : Report).finish s).1 = .ok () ↔
    (m.writeTo s).1 = .ok () ∧ fault = none
  /-- A failed write goes before a fault. -/
  unwritten : ∀ fault f, (m.writeTo s).1 = .error f →
    ∃ c, ((⟨m, fault⟩ : Report).finish s).1 = .error c ∧
      c.line = "error: " ++ ("failed to write statistics" ++ ": " ++ f.text)
  /-- A fault is complained about when all has been written. -/
  aborted : ∀ e, (m.writeTo s).1 = .ok () →
    (∃ c, ((⟨m, some e⟩ : Report).finish s).1 = .error c ∧
      c.line = "error: " ++ ("benchmark aborted" ++ ": " ++ e.message ++ e.behind)) ∧
    bytesOf ((⟨m, some e⟩ : Report).finish s).2.written =
      bytesOf s.written ++ bytesOf m.text.toList

variable {m : Measurement} {s : Sink} {room : Nat}

theorem finish_of_error {f : Failure} (h : (m.writeTo s).1 = .error f)
    (fault : Option BenchError) :
    (⟨m, fault⟩ : Report).finish s =
      (.error (.ofFailure "failed to write statistics" f), (m.writeTo s).2) := by
  rw [finish, ← Prod.eta (m.writeTo s), h]

theorem finish_of_ok (h : (m.writeTo s).1 = .ok ()) (fault : Option BenchError) :
    (⟨m, fault⟩ : Report).finish s =
      (match fault with
        | some e => .error (.ofError "benchmark aborted" e)
        | none => .ok (), (m.writeTo s).2) := by
  rw [finish, ← Prod.eta (m.writeTo s), h]
  cases fault with
  | none => rfl
  | some e => rfl

theorem finish_snd (fault : Option BenchError) :
    ((⟨m, fault⟩ : Report).finish s).2 = (m.writeTo s).2 := by
  cases h : (m.writeTo s).1 with
  | ok => rw [finish_of_ok h]
  | error f => rw [finish_of_error h]

theorem finish_ok_iff (fault : Option BenchError) :
    ((⟨m, fault⟩ : Report).finish s).1 = .ok () ↔ (m.writeTo s).1 = .ok () ∧ fault = none := by
  cases h : (m.writeTo s).1 with
  | error f => simp [finish_of_error h]
  | ok =>
    rw [finish_of_ok h]
    cases fault with
    | none => simp
    | some e => simp

/-- The figures go out up to the byte at which the sink is full, whatever the fault. A sink comes
with one condition, `Sink.isInterruption_whenFull`: what it says when it is full is not that it has
been interrupted. An interrupted writer has not failed but is asked again, and if it was asked for
ever, the report would have no end. All other failures, transient or not, are covered. -/
theorem written_report (m : Measurement) (s : Sink) (room : Nat) :
    Delivered m { s with room := some room } room := by
  have hlength := length_bytesOf m.isPlain_text
  generalize hs : ({ s with room := some room } : Sink) = t
  have hroom : t.room = some room := by rw [← hs]
  have hwritten : bytesOf (m.writeTo t).2.written =
      bytesOf t.written ++ (bytesOf m.text.toList).take room := by
    rw [m.writeTo_written t hroom, bytesOf_append, bytesOf_take m.isPlain_text]
  refine ⟨m.text_eq, hwritten, fun pieces hpieces => ?_, ?_, fun f hf => ?_, finish_snd,
    finish_ok_iff, fun fault f hf => ?_, fun e hok => ⟨?_, ?_⟩⟩
  · rw [Sink.writeAll_eq_write, Sink.writeAll_eq_write, hpieces, Measurement.flatten_lines]
  · rw [hlength]
    exact m.writeTo_ok_iff t hroom
  · rw [hlength]
    exact m.error_of_writeTo t hroom hf
  · refine ⟨.ofFailure "failed to write statistics" f, ?_, Complaint.line_ofFailure _ f⟩
    rw [finish_of_error hf]
  · refine ⟨.ofError "benchmark aborted" e, ?_, Complaint.line_ofError _ e⟩
    rw [finish_of_ok hok]
  · have hfits := ((m.writeTo_ok_iff t hroom).1 hok).1
    rw [← hlength] at hfits
    rw [finish_snd, hwritten, List.take_of_length_le hfits]

end Report

end ReadinessBench
