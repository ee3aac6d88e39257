import RowFilter.Config.Basic
import RowFilter.Config.Toml

/-!
# Configurations from text

A configuration is written as up to two assignments, of the wildcard and of the depth; what is not
assigned keeps its default. Names other than these, names assigned twice and values of the wrong
kind are refused.
-/

namespace RowFilter

namespace Config

/-- The wildcard of an assigned value: a text of one character. -/
def wildcardOf? : Toml.Scalar → Option Char
  | .text [c] => some c
  | _ => none

/-- The depth of an assigned value: a natural number of 64 bits. -/
def depthOf? : Toml.Scalar → Option Nat
  | .integer n => if 0 ≤ n ∧ n < UInt64.size then some n.toNat else none
  | _ => none

/-- The values assigned to a name. -/
def assigned (name : String) (assignments : List (String × Toml.Scalar)) : List Toml.Scalar :=
  (assignments.filter fun a => a.1 = name).map Prod.snd

/-- The value of a setting that is assigned at most once. -/
def setting? {α : Type} (read : Toml.Scalar → Option α) (unset : α) : List Toml.Scalar → Option α
  | [] => some unset
  | [v] => read v
  | _ => none

/-- Configuration of a list of assignments. -/
def ofAssignments? (assignments : List (String × Toml.Scalar)) : Option Config := do
  guard (assignments.all fun a => a.1 = "wildcard" || a.1 = "max_depth")
  let wildcard ← setting? wildcardOf? default.wildcard (assigned "wildcard" assignments)
  let maxDepth ← setting? depthOf? default.maxDepth (assigned "max_depth" assignments)
  return { wildcard, maxDepth }

/-- Configuration of a document. -/
def parse (source : String) : Except Error Config :=
  match (Toml.assignments? source).bind ofAssignments? with
  | none => .error .malformedConfig
  | some config => config.validate.map fun _ => config

end Config

end RowFilter
