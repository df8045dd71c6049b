import ReadinessBench.Text.Hidden

/-!
# Quoted text

A word that a message repeats is written between double quotes, with everything escaped that
would break the line, hide or be mistaken for the closing quote. So a message stays on one line
and shows exactly which word was meant.
-/

namespace ReadinessBench.Text

/-- The code point of `c` in braces, in lowercase hexadecimal digits without leading zeros. -/
def codePointEscape (c : Char) : List Char :=
  ['\\', 'u', '\x7b'] ++ Nat.toDigits 16 c.toNat ++ ['\x7d']

/-- How `c` is written between double quotes. -/
def escape (c : Char) : List Char :=
  if c = '\x00' then ['\\', '0']
  else if c = '\t' then ['\\', 't']
  else if c = '\r' then ['\\', 'r']
  else if c = '\n' then ['\\', 'n']
  else if c = '"' then ['\\', '"']
  else if c = '\\' then ['\\', '\\']
  else if isHidden c then codePointEscape c
  else [c]

def quote (word : List Char) : List Char :=
  '"' :: word.flatMap escape ++ ['"']

/-- A word between double quotes, with hidden characters, quotes and backslashes escaped. -/
def quoted (word : String) : String :=
  String.ofList (quote word.toList)

theorem toList_quoted (word : String) : (quoted word).toList = quote word.toList := by
  simp [quoted]

end ReadinessBench.Text
