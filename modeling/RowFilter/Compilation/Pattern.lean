import RowFilter.Error
import RowFilter.Text.Case
import RowFilter.Value.Order

/-!
# Patterns and truth of constants

The three methods that search a text, as comparators with a pattern and as tests on constants, and
the truth of comparisons between constants.
-/

namespace RowFilter

/-- Where a method looks for its argument in a text. -/
inductive PatternKind where
  | contains
  | startsWith
  | endsWith
deriving DecidableEq, Repr

namespace PatternKind

/-- The method of a name. -/
def ofMethod? (method : String) : Option PatternKind :=
  if method = "contains" then some contains
  else if method = "starts_with" then some startsWith
  else if method = "ends_with" then some endsWith
  else none

/-- Comparator of a method. -/
def comparator : PatternKind → Comparator
  | contains => .like
  | startsWith => .likeLeft
  | endsWith => .likeRight

/-- The pattern of a text: wildcards are added where the method leaves room, unless the text already
brings one there. -/
def wrap (kind : PatternKind) (wildcard : Char) (s : String) : String :=
  let cs := s.toList
  String.ofList <| match kind with
    | contains => if cs.contains wildcard then cs else wildcard :: cs ++ [wildcard]
    | startsWith => if cs.getLast? = some wildcard then cs else cs ++ [wildcard]
    | endsWith => if cs.head? = some wildcard then cs else wildcard :: cs

/-- The method on constant texts. -/
def holds (kind : PatternKind) (receiver arg : String) : Bool :=
  match kind with
  | contains => Text.occursIn arg receiver
  | startsWith => Text.startsWith arg receiver
  | endsWith => Text.endsWith arg receiver

end PatternKind

namespace Value

/-- A value with lowercase text; other kinds, lists of texts included, stay as they are. -/
def lowered : Value → Value
  | text s => text (Text.lower s)
  | v => v

/-- A value as compared with or without regard to letter case. -/
def loweredIf (ignoreCase : Bool) (v : Value) : Value := if ignoreCase then v.lowered else v

/-- Truth of a comparison between constants, if it has one: by order where the two are comparable,
and by equality where they are not. -/
def comparison? (comparator : Comparator) (ignoreCase : Bool) (left right : Value) : Option Bool :=
  let a := left.loweredIf ignoreCase
  let b := right.loweredIf ignoreCase
  if !comparator.isOrdering then none
  else
    match a.compare? b with
    | some order => comparator.matchesOrdering order
    | none =>
      match comparator with
      | .equal => some (a.same b)
      | .unequal => some (!a.same b)
      | _ => none

/-- Truth of a search method on constants, if it has one. A list contains the values that are the
same as one of its items, whatever their letter case. -/
def pattern? (kind : PatternKind) (ignoreCase : Bool) (receiver arg : Value) : Option Bool :=
  match receiver, arg with
  | text s, text t =>
    if ignoreCase then some (kind.holds (Text.lower s) (Text.lower t)) else some (kind.holds s t)
  | list items, arg => if kind = .contains then some (items.any (·.same arg)) else none
  | _, _ => none

end Value

end RowFilter
