import RowFilter.Error
import RowFilter.Predicate.Comparison
import RowFilter.Text.Blank

/-!
# Configuration of the compilation
-/

namespace RowFilter

/-- What a caller can set of the compilation. -/
structure Config where
  /-- The wildcard of patterns. -/
  wildcard : Char
  /-- How deep the compilation of an expression may nest. -/
  maxDepth : Nat
deriving DecidableEq, Repr

namespace Config

/-- The configuration where none is given. -/
def default : Config := { wildcard := defaultWildcard, maxDepth := 64 }

instance : Inhabited Config := ⟨default⟩

/-- Refuse a configuration that admits no expression, or whose wildcard is blank. -/
def validate (c : Config) : Except Error Unit :=
  if c.maxDepth = 0 then .error .depthZero
  else if Text.isBlank c.wildcard then .error .blankWildcard
  else .ok ()

end Config

end RowFilter
