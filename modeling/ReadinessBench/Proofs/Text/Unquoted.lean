import ReadinessBench.Text.Quoted

/-!
# Quoted text is read back

Reading a quoted word takes one character or one escape after the other up to the closing quote.
What has been quoted is read back as it was, so no two words look alike when they are quoted, and
nothing of a quoted word is hidden or ends the line. Main statements: `unquote_quote` and
`not_hidden_of_mem_quote`.
-/

namespace ReadinessBench.Text

/-! ## Code points in hexadecimal digits -/

def hexValue (c : Char) : Nat :=
  if c.isDigit then c.toNat - '0'.toNat else c.toNat - 'a'.toNat + 10

/-- The number that hexadecimal digits make. -/
def hexNumber (digits : List Char) : Nat := digits.foldl (fun n c => 16 * n + hexValue c) 0

theorem hexValue_digitChar : ∀ d < 16, hexValue (Nat.digitChar d) = d := by decide

theorem hexNumber_toDigits (n : Nat) : hexNumber (Nat.toDigits 16 n) = n := by
  induction n using Nat.strongRecOn with
  | ind n ih =>
    rw [Nat.toDigits_eq_if (by decide)]
    split
    · next hlt =>
      show 16 * 0 + hexValue n.digitChar = n
      rw [hexValue_digitChar n hlt, Nat.mul_zero, Nat.zero_add]
    · next hge =>
      -- all digits but the last make the quotient
      have hquotient : hexNumber (Nat.toDigits 16 (n / 16)) = n / 16 := ih _ (by omega)
      rw [hexNumber, List.foldl_append]
      show 16 * hexNumber (Nat.toDigits 16 (n / 16)) + hexValue (n % 16).digitChar = n
      rw [hquotient, hexValue_digitChar _ (Nat.mod_lt n (by decide))]
      omega

/-- A digit in hexadecimal is printed as it is and closes no brace. -/
def IsPrintable (c : Char) : Prop := 0x20 ≤ c.toNat ∧ c.toNat < 0x7f

instance (c : Char) : Decidable (IsPrintable c) := inferInstanceAs (Decidable (_ ∧ _))

theorem digitChar_printable :
    ∀ d < 16, IsPrintable (Nat.digitChar d) ∧ Nat.digitChar d ≠ '\x7d' := by
  decide

theorem toDigits_printable (n : Nat) :
    ∀ c ∈ Nat.toDigits 16 n, IsPrintable c ∧ c ≠ '\x7d' := by
  induction n using Nat.strongRecOn with
  | ind n ih =>
    intro c hc
    rw [Nat.toDigits_eq_if (by decide)] at hc
    split at hc
    · next hlt =>
      rw [List.mem_singleton.mp hc]
      exact digitChar_printable n hlt
    · next hge =>
      rcases List.mem_append.mp hc with hmem | hlast
      · exact ih (n / 16) (by omega) c hmem
      · rw [List.mem_singleton.mp hlast]
        exact digitChar_printable _ (Nat.mod_lt n (by decide))

/-! ## Reading -/

/-- What a backslash and one character stand for. -/
def escaped? : Char → Option Char
  | '0' => some '\x00'
  | 't' => some '\t'
  | 'r' => some '\r'
  | 'n' => some '\n'
  | '"' => some '"'
  | '\\' => some '\\'
  | _ => none

/-- Reads one character as it is written between double quotes, and what follows it. -/
def readOne? : List Char → Option (Char × List Char)
  | [] => none
  | '\\' :: 'u' :: '\x7b' :: rest =>
    let digits := rest.takeWhile (· ≠ '\x7d')
    some (Char.ofNat (hexNumber digits), (rest.drop digits.length).tail)
  | '\\' :: c :: rest => (escaped? c).map fun x => (x, rest)
  | c :: rest => if c = '"' ∨ c = '\\' then none else some (c, rest)

theorem length_lt_of_readOne? {text rest : List Char} {c : Char}
    (h : readOne? text = some (c, rest)) : rest.length < text.length := by
  unfold readOne? at h
  split at h
  · cases h
  · cases h
    simp only [List.length_tail, List.length_drop, List.length_cons]
    omega
  · obtain ⟨x, -, hx⟩ := Option.map_eq_some_iff.mp h
    cases hx
    simp only [List.length_cons]
    omega
  · split at h
    · cases h
    · cases h
      exact Nat.lt_succ_self _

/-- Reads characters up to the closing quote, behind which nothing may stand. -/
def unescape (text : List Char) : Option (List Char) :=
  if text = ['"'] then some []
  else
    match _hread : readOne? text with
    | none => none
    | some (c, rest) => (unescape rest).map (c :: ·)
termination_by text.length
decreasing_by exact length_lt_of_readOne? _hread

/-- Reads a word between double quotes. -/
def unquote : List Char → Option (List Char)
  | '"' :: text => unescape text
  | _ => none

theorem readOne?_codePointEscape (c : Char) (rest : List Char) :
    readOne? (codePointEscape c ++ rest) = some (c, rest) := by
  -- no digit is a closing brace, so that the number ends where it has been closed
  have hdigits : (Nat.toDigits 16 c.toNat ++ '\x7d' :: rest).takeWhile (· ≠ '\x7d') =
      Nat.toDigits 16 c.toNat := by
    rw [List.takeWhile_append_of_pos fun x hx => decide_eq_true (toDigits_printable _ x hx).2]
    rw [List.takeWhile_cons_of_neg (by decide), List.append_nil]
  have htext : codePointEscape c ++ rest =
      '\\' :: 'u' :: '\x7b' :: (Nat.toDigits 16 c.toNat ++ '\x7d' :: rest) := by
    simp [codePointEscape]
  rw [htext, readOne?]
  simp only [hdigits, hexNumber_toDigits, Char.ofNat_toNat, List.drop_left, List.tail_cons]

/-- However a character is written, it is read back. -/
theorem readOne?_escape (c : Char) (rest : List Char) :
    readOne? (escape c ++ rest) = some (c, rest) := by
  unfold escape
  split
  · next h => rw [h]; rfl
  split
  · next h => rw [h]; rfl
  split
  · next h => rw [h]; rfl
  split
  · next h => rw [h]; rfl
  split
  · next h => rw [h]; rfl
  split
  · next h => rw [h]; rfl
  -- what is left is neither a quote nor a backslash, and may stand for itself
  next hquote hbackslash =>
  split
  · exact readOne?_codePointEscape c rest
  · show readOne? (c :: rest) = some (c, rest)
    rw [readOne?, if_neg (by simp [hquote, hbackslash])]
    · exact fun _ hc => absurd hc hbackslash
    · exact fun _ _ hc => absurd hc hbackslash

theorem unescape_escaped (word : List Char) :
    unescape (word.flatMap escape ++ ['"']) = some word := by
  induction word with
  | nil =>
    rw [unescape]
    rfl
  | cons c word ih =>
    have htext : (c :: word).flatMap escape ++ ['"'] =
        escape c ++ (word.flatMap escape ++ ['"']) := by
      rw [List.flatMap_cons, List.append_assoc]
    have hread := readOne?_escape c (word.flatMap escape ++ ['"'])
    -- a closing quote alone would not be read as a character
    have hopen : escape c ++ (word.flatMap escape ++ ['"']) ≠ ['"'] := by
      intro hclosing
      rw [hclosing] at hread
      cases hread
    rw [htext, unescape, if_neg hopen]
    split
    · next h => rw [hread] at h; cases h
    · next h =>
      rw [hread] at h
      cases h
      rw [ih]
      rfl

theorem unquote_quote (word : List Char) : unquote (quote word) = some word :=
  unescape_escaped word

/-! ## Nothing is hidden -/

theorem not_hidden_of_printable {c : Char} (h : IsPrintable c) : isHidden c = false := by
  obtain ⟨hlow, hhigh⟩ := h
  have hcontrol : isControl c = false := by
    simp only [isControl, Bool.or_eq_false_iff, Bool.and_eq_false_iff, decide_eq_false_iff_not]
    omega
  have hascii : decide (0x80 ≤ c.toNat) = false := decide_eq_false (by omega)
  rw [isHidden, hcontrol, hascii]
  rfl

theorem not_hidden_of_mem_codePointEscape {c x : Char} (hx : x ∈ codePointEscape c) :
    isHidden x = false := by
  have hopening : ∀ x ∈ ['\\', 'u', '\x7b'], IsPrintable x := by
    simp [IsPrintable]
  have hclosing : ∀ x ∈ ['\x7d'], IsPrintable x := List.forall_mem_singleton.mpr (by decide)
  apply not_hidden_of_printable
  unfold codePointEscape at hx
  rcases List.mem_append.mp hx with hx | hx
  · rcases List.mem_append.mp hx with hx | hx
    · exact hopening x hx
    · exact (toDigits_printable c.toNat x hx).1
  · exact hclosing x hx

/-- What would not show is shown by its code point. -/
theorem not_hidden_of_mem_escape {c x : Char} (hx : x ∈ escape c) : isHidden x = false := by
  have hshort (y : Char) (hy : IsPrintable y) (hx : x ∈ ['\\', y]) : isHidden x = false := by
    apply not_hidden_of_printable
    rcases List.mem_cons.mp hx with rfl | hx
    · decide
    · rwa [List.mem_singleton.mp hx]
  unfold escape at hx
  split at hx
  · exact hshort '0' (by decide) hx
  split at hx
  · exact hshort 't' (by decide) hx
  split at hx
  · exact hshort 'r' (by decide) hx
  split at hx
  · exact hshort 'n' (by decide) hx
  split at hx
  · exact hshort '"' (by decide) hx
  split at hx
  · exact hshort '\\' (by decide) hx
  split at hx
  · exact not_hidden_of_mem_codePointEscape hx
  · next hshown =>
    rw [List.mem_singleton.mp hx]
    exact eq_false_of_ne_true hshown

theorem not_hidden_of_mem_quote {word : List Char} {x : Char} (hx : x ∈ quote word) :
    isHidden x = false := by
  have hmark : isHidden '"' = false := not_hidden_of_printable (by decide)
  rcases List.mem_append.mp hx with hx | hx
  · rcases List.mem_cons.mp hx with rfl | hx
    · exact hmark
    · obtain ⟨c, -, hc⟩ := List.mem_flatMap.mp hx
      exact not_hidden_of_mem_escape hc
  · rwa [List.mem_singleton.mp hx]

/-! ## Line breaks -/

/-- The characters at which a line may end: line feed, vertical tab, form feed, carriage return,
next line, line separator and paragraph separator. -/
def lineBreaks : List Char := ['\n', '\x0b', '\x0c', '\r', '\u0085', '\u2028', '\u2029']

theorem isHidden_of_mem_lineBreaks : ∀ c ∈ lineBreaks, isHidden c = true :=
  List.all_eq_true.mp (by decide +kernel)

end ReadinessBench.Text
