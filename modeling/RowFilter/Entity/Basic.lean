import RowFilter.Value.Basic

/-!
# Entities and rows

An entity declares the fields of the rows that a filter is about. Filters name an entity by its
path.
-/

namespace RowFilter

/-- Declared type of a field. -/
inductive FieldType where
  | bool
  | int
  | uint
  | float32
  | float64
  | text
  | date
  | list (item : FieldType)
deriving DecidableEq, Repr

namespace FieldType

/-- Kind of the values of a type. -/
def kind : FieldType → Kind
  | bool => .bool
  | int => .int
  | uint => .uint
  | float32 => .float32
  | float64 => .float64
  | text => .text
  | date => .date
  | list _ => .list

/-- Text of a type; a list shows the type of its items. -/
def label : FieldType → String
  | list item => "List<" ++ item.label ++ ">"
  | t => t.kind.label

end FieldType

/-- A declared field. -/
structure Field where
  /-- The name of the field. -/
  name : String
  /-- The type of its values. -/
  type : FieldType
  /-- Whether the field may hold null. -/
  nullable : Bool
deriving DecidableEq, Repr

namespace Field

/-- Kind of the values of a field. -/
def kind (f : Field) : Kind := f.type.kind

end Field

/-- A declared entity. Two declarations are the same entity only if everything agrees, the name of
the declaration included. -/
structure Entity where
  /-- The name of the declaration. -/
  name : String
  /-- The path by which filters name the entity. -/
  path : String
  /-- The declared fields, in order. -/
  fields : List Field
deriving DecidableEq, Repr

namespace Entity

/-- The first field of a name. -/
def field? (e : Entity) (name : String) : Option Field :=
  e.fields.find? (·.name = name)

theorem name_of_field? {e : Entity} {name : String} {f : Field} (h : e.field? name = some f) :
    f.name = name := by
  simpa using List.find?_some h

end Entity

/-- A row gives values to names; a name without a value is missing. -/
structure Row where
  /-- The value under a name. -/
  value? : String → Option Value

namespace Row

/-- The row of a list of named values, of which the first counts. -/
def ofList (entries : List (String × Value)) : Row := ⟨fun name => entries.lookup name⟩

end Row

end RowFilter
