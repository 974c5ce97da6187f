import MediaPaths.Unicode.Property

/-!
# Texts in quotes

The form in which messages show a text they found: in double quotes, with backslashes before quotes
and backslashes, short escapes for tab, carriage return, line feed and the null character, and the
code of every other character that has no image of its own or merges into the one before it.
-/

namespace MediaPaths.Text

/-- How one character is shown inside quotes. -/
def quoteChar (c : Char) : List Char :=
  if c == '\x00' then ['\\', '0']
  else if c == '\t' then ['\\', 't']
  else if c == '\r' then ['\\', 'r']
  else if c == '\n' then ['\\', 'n']
  else if c == '\\' || c == '"' then ['\\', c]
  else if Unicode.graphemeExtenders.contains c || Unicode.unprintable.contains c then
    ['\\', 'u', '\x7b'] ++ Nat.toDigits 16 c.toNat ++ ['\x7d']
  else [c]

/-- A text in quotes. -/
def quoted (s : String) : String :=
  String.ofList ('"' :: s.toList.flatMap quoteChar ++ ['"'])

end MediaPaths.Text
