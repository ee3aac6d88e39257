import RowFilter.Text.EscapeTable

/-!
# Escaped texts

A text between quotation marks as shown to a developer: quotation marks, backslashes and the common
control characters have escapes of their own, and what is not shown is written by its code point.
-/

namespace RowFilter

namespace Text

/-- Escape of a character in a quoted text, or the character itself. -/
def escapeChar (c : Char) : List Char :=
  if c = '\x00' then ['\\', '0']
  else if c = '\t' then ['\\', 't']
  else if c = '\r' then ['\\', 'r']
  else if c = '\n' then ['\\', 'n']
  else if c = '"' then ['\\', '"']
  else if c = '\\' then ['\\', '\\']
  else if EscapeTable.hidden.any fun r => r.1 ≤ c.toNat && c.toNat ≤ r.2 then
    ['\\', 'u', '\x7b'] ++ Nat.toDigits 16 c.toNat ++ ['\x7d']
  else [c]

/-- A text between quotation marks, escaped. -/
def escaped (s : String) : String :=
  String.ofList ('"' :: s.toList.flatMap escapeChar ++ ['"'])

end Text

end RowFilter
