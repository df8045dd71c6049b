import ReadinessBench.Command.Arguments
import ReadinessBench.Proofs.Text.Unquoted

/-!
# Rejected words

A mechanism is known by its name and by its alias, and no two mechanisms share one. A word that
names none, and a flag that is neither of the two digits, are complained about in a message of one
line in which the word stands quoted, so that the message shows which word it was. Main statement:
`rejected_words`.
-/

namespace ReadinessBench

/-- The word is the mechanism's name or its alias. -/
def Mechanism.GoesBy (m : Mechanism) (word : String) : Prop := word = m.name ∨ word = m.byname

/-- A message repeats a word: the word stands quoted behind a fixed text and can be read back from
there, and nothing in the message ends the line or is a control. -/
structure Repeats (about word message : String) : Prop where
  text : message = about ++ Text.quoted word
  recovered : Text.unquote (message.toList.drop about.length) = some word.toList
  oneLine : ∀ c ∈ message.toList, c ∉ Text.lineBreaks
  noControl : ∀ c ∈ message.toList, Text.isControl c = false

theorem repeats_quoted (about : String) (habout : about.toList.any Text.isHidden = false)
    (word : String) : Repeats about word (about ++ Text.quoted word) := by
  have htext : (about ++ Text.quoted word).toList = about.toList ++ Text.quote word.toList := by
    rw [String.toList_append, Text.toList_quoted]
  have hshown : ∀ c ∈ (about ++ Text.quoted word).toList, Text.isHidden c = false := by
    intro c hc
    rw [htext] at hc
    rcases List.mem_append.mp hc with hc | hc
    · exact eq_false_of_ne_true (List.any_eq_false.mp habout c hc)
    · exact Text.not_hidden_of_mem_quote hc
  refine ⟨rfl, ?_, ?_, ?_⟩
  · rw [htext, ← String.length_toList, List.drop_left, Text.unquote_quote]
  · intro c hc hbreak
    have hhidden := Text.isHidden_of_mem_lineBreaks c hbreak
    rw [hshown c hc] at hhidden
    cases hhidden
  · intro c hc
    apply eq_false_of_ne_true
    intro hcontrol
    have hhidden := Text.isHidden_of_isControl hcontrol
    rw [hshown c hc] at hhidden
    cases hhidden

/-- What is repeated can be told from the message. -/
theorem Repeats.word_eq {about word word' message : String} (h : Repeats about word message)
    (h' : Repeats about word' message) : word = word' := by
  have hrecovered := h.recovered
  rw [h'.recovered, Option.some.injEq] at hrecovered
  exact String.toList_inj.mp hrecovered.symm

/-! ## Mechanisms -/

namespace Mechanism

/-- No name or alias is that of two mechanisms. -/
theorem GoesBy.unique {m m' : Mechanism} {word : String} (h : m.GoesBy word)
    (h' : m'.GoesBy word) : m = m' := by
  have hapart : ∀ m ∈ all, ∀ m' ∈ all, m ≠ m' →
      m.name ≠ m'.name ∧ m.name ≠ m'.byname ∧ m.byname ≠ m'.name ∧ m.byname ≠ m'.byname := by
    decide
  apply Decidable.byContradiction
  intro hne
  obtain ⟨hnames, hleft, hright, hbynames⟩ := hapart m m.mem_all m' m'.mem_all hne
  rcases h with rfl | rfl <;> rcases h' with h' | h'
  · exact hnames h'
  · exact hleft h'
  · exact hright h'
  · exact hbynames h'

theorem named?_eq_some_iff {m : Mechanism} {word : String} :
    named? word = some m ↔ m.GoesBy word := by
  have hfound {m : Mechanism} (h : named? word = some m) : m.GoesBy word := by
    have hm := List.find?_some h
    rw [Bool.or_eq_true, decide_eq_true_iff, decide_eq_true_iff] at hm
    exact hm.imp Eq.symm Eq.symm
  refine ⟨hfound, fun h => ?_⟩
  cases hword : named? word with
  | some m' => rw [(hfound hword).unique h]
  | none =>
    -- all mechanisms are looked at
    have hm := List.find?_eq_none.mp hword m m.mem_all
    rw [Bool.or_eq_true, decide_eq_true_iff, decide_eq_true_iff] at hm
    exact absurd (h.imp Eq.symm Eq.symm) hm

theorem parse_eq_ok_iff {m : Mechanism} {word : String} : parse word = .ok m ↔ m.GoesBy word := by
  rw [← named?_eq_some_iff, parse]
  cases named? word with
  | some m' => simp
  | none => simp

theorem parse_of_nameless {word : String} (h : ∀ m : Mechanism, ¬ m.GoesBy word) :
    parse word = .error (.unknownEngine word) := by
  have hnone : named? word = none := by
    rw [Option.eq_none_iff_forall_ne_some]
    exact fun m hm => h m (named?_eq_some_iff.mp hm)
  rw [parse, hnone]

end Mechanism

theorem repeats_unknownEngine (word : String) :
    Repeats "unknown engine " word (BenchError.unknownEngine word).message :=
  repeats_quoted "unknown engine " (by decide +kernel) word

theorem repeats_of_readFlag {word message : String}
    (h : Command.readFlag word = .error message) :
    Repeats "expected 0 or 1, got " word message := by
  unfold Command.readFlag at h
  split at h
  · cases h
  split at h
  · cases h
  · cases h
    exact repeats_quoted "expected 0 or 1, got " (by decide +kernel) word

theorem readFlag_eq_error {word : String} (hzero : word ≠ "0") (hone : word ≠ "1") :
    ∃ message, Command.readFlag word = .error message := by
  rw [Command.readFlag, if_neg hzero, if_neg hone]
  exact ⟨_, rfl⟩

/-- **Rejected words are told on one line and can be told apart.** -/
theorem rejected_words :
    (∀ word m, Mechanism.parse word = .ok m ↔ m.GoesBy word) ∧
    (∀ word (m m' : Mechanism), m.GoesBy word → m'.GoesBy word → m = m') ∧
    (∀ word, (∀ m : Mechanism, ¬ m.GoesBy word) →
      Mechanism.parse word = .error (.unknownEngine word) ∧
        Repeats "unknown engine " word (BenchError.unknownEngine word).message) ∧
    (∀ word word', (BenchError.unknownEngine word).message =
      (BenchError.unknownEngine word').message → word = word') ∧
    (∀ word, word ≠ "0" → word ≠ "1" → ∃ message, Command.readFlag word = .error message ∧
      Repeats "expected 0 or 1, got " word message) ∧
    (∀ word word' message, Command.readFlag word = .error message →
      Command.readFlag word' = .error message → word = word') := by
  refine ⟨fun word m => Mechanism.parse_eq_ok_iff, fun word m m' h h' => h.unique h',
    ?_, ?_, ?_, ?_⟩
  · exact fun word hword => ⟨Mechanism.parse_of_nameless hword, repeats_unknownEngine word⟩
  · intro word word' hsame
    have h := repeats_unknownEngine word
    rw [hsame] at h
    exact h.word_eq (repeats_unknownEngine word')
  · intro word hzero hone
    obtain ⟨message, hmessage⟩ := readFlag_eq_error hzero hone
    exact ⟨message, hmessage, repeats_of_readFlag hmessage⟩
  · intro word word' message h h'
    exact (repeats_of_readFlag h).word_eq (repeats_of_readFlag h')

end ReadinessBench
