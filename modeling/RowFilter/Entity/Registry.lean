import RowFilter.Entity.Basic
import RowFilter.Error

/-!
# Registry of entities

The registry binds paths to entities. A path is bound once and keeps its entity: registering the
same entity again changes nothing, and registering another under the path fails.
-/

namespace RowFilter

/-- The entities registered so far. -/
structure Registry where
  /-- The registered entities, one for each path. -/
  entities : List Entity
deriving DecidableEq, Repr

namespace Registry

/-- The registry without entities. -/
def empty : Registry := ⟨[]⟩

instance : Inhabited Registry := ⟨empty⟩

/-- The entity bound to a path. -/
def find? (r : Registry) (path : String) : Option Entity :=
  r.entities.find? (·.path = path)

/-- Bind an entity to its path. -/
def register (r : Registry) (e : Entity) : Except Error Registry :=
  match r.find? e.path with
  | none => .ok ⟨r.entities ++ [e]⟩
  | some bound => if bound = e then .ok r else .error (.entityConflict e.path)

/-- The entity bound to a path, or the error that none is. -/
def entity (r : Registry) (path : String) : Except Error Entity :=
  match r.find? path with
  | some e => .ok e
  | none => .error (.unknownEntity path)

/-- The field of a name of the entity bound to a path. -/
def field (r : Registry) (path name : String) : Except Error Field := do
  let e ← r.entity path
  match e.field? name with
  | some f => .ok f
  | none => .error (.unknownMember .model path name)

theorem path_of_find? {r : Registry} {path : String} {e : Entity} (h : r.find? path = some e) :
    e.path = path := by
  simpa using List.find?_some h

/-- Looking up a path after binding a new entity. -/
theorem find?_append (r : Registry) (e : Entity) (path : String) :
    (Registry.mk (r.entities ++ [e])).find? path =
      (r.find? path).or (if e.path = path then some e else none) := by
  simp only [find?, List.find?_append, List.find?_cons, List.find?_nil]
  by_cases h : e.path = path <;> simp [h]

end Registry

end RowFilter
