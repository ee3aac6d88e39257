/-!
# Slices of texts

Positions count characters. A slice is cut only if it lies in the text as a whole.
-/

namespace RowFilter

namespace Text

/-- The `count` characters from position `start`, if the text has them. -/
def slice? (s : String) (start count : Int) : Option String :=
  if 0 ≤ start ∧ 0 ≤ count ∧ start + count ≤ s.length then
    some (String.ofList ((s.toList.drop start.toNat).take count.toNat))
  else none

/-- The characters `needle` stand next to each other somewhere in a list of characters. -/
def isInfix (needle : List Char) : List Char → Bool
  | [] => needle.isEmpty
  | c :: cs => needle.isPrefixOf (c :: cs) || isInfix needle cs

/-- The first text occurs in the second. -/
def occursIn (needle s : String) : Bool := isInfix needle.toList s.toList

/-- The first text is the start of the second. -/
def startsWith (needle s : String) : Bool :=
  needle.toList.isPrefixOf s.toList

/-- The first text is the end of the second. -/
def endsWith (needle s : String) : Bool :=
  needle.toList.isSuffixOf s.toList

/-- Order of texts by their code points, which is also that of their bytes. -/
def compare (s t : String) : Ordering := Ord.compare s t

/-- A text between apostrophes, with each apostrophe of the text written twice. -/
def quoted (s : String) : String :=
  "'" ++ String.ofList (s.toList.flatMap fun c => if c = '\'' then ['\'', '\''] else [c]) ++ "'"

end Text

end RowFilter
