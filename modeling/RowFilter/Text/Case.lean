import RowFilter.Text.CaseTables

/-!
# Case mapping of texts

Full case mapping after the Unicode standard, independent of any language: a character maps to one
or several characters, and a capital sigma becomes the final form at the end of a word.
-/

namespace RowFilter

namespace CaseTables

/-- Image of a code point under the first run that covers it. -/
def image? (runs : List Run) (n : Nat) : Option Nat :=
  (runs.find? fun r => r.first ≤ n && n ≤ r.last && (n - r.first) % r.stride = 0).map fun r =>
    ((n : Int) + r.offset).toNat

/-- The code point lies in one of the ranges. -/
def covers (ranges : List (Nat × Nat)) (n : Nat) : Bool :=
  ranges.any fun r => r.1 ≤ n && n ≤ r.2

end CaseTables

namespace Text

open CaseTables

/-- Lowercase of a character on its own. -/
def lowerChar (c : Char) : List Char :=
  match lowercaseExpansions.lookup c.toNat with
  | some ns => ns.map Char.ofNat
  | none => [Char.ofNat ((image? lowercase c.toNat).getD c.toNat)]

/-- Uppercase of a character. -/
def upperChar (c : Char) : List Char :=
  match uppercaseExpansions.lookup c.toNat with
  | some ns => ns.map Char.ofNat
  | none => [Char.ofNat ((image? uppercase c.toNat).getD c.toNat)]

/-- The first character that is not passed over is cased. -/
def meetsCased (cs : List Char) : Bool :=
  match cs.dropWhile fun c => covers ignorable c.toNat with
  | [] => false
  | c :: _ => covers cased c.toNat

/-- Capital sigma. -/
def capitalSigma : Char := 'Σ'

/-- Lowercase of the characters `cs` that follow the characters `before`, nearest first. A capital
sigma is final if a cased character precedes it and none follows. -/
def lowerFrom (before : List Char) : List Char → List Char
  | [] => []
  | c :: cs =>
    let image :=
      if c = capitalSigma then
        if meetsCased before && !meetsCased cs then ['ς'] else ['σ']
      else lowerChar c
    image ++ lowerFrom (c :: before) cs

/-- Lowercase of a text. -/
def lower (s : String) : String := String.ofList (lowerFrom [] s.toList)

/-- Uppercase of a text. -/
def upper (s : String) : String := String.ofList (s.toList.flatMap upperChar)

end Text

end RowFilter
