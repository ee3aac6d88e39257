import RowFilter.Entity.Registry
import RowFilter.Text.Escape

/-!
# Member references

A member reference names a member of an owner. Made from a declared entity it carries the field;
otherwise the field is looked up in the registry when it is asked for, and may be kept from then on.
What a reference names does not depend on whether it carries its field.
-/

namespace RowFilter

/-- A reference to a member of an owner. -/
structure MemberRef where
  /-- Path of the owning entity. -/
  owner : String
  /-- Name of the member. -/
  name : String
  /-- The declared field, where it is known. -/
  field? : Option Field
deriving DecidableEq, Repr

namespace MemberRef

/-- The reference to a member by name alone. -/
def named (owner name : String) : MemberRef := ⟨owner, name, none⟩

/-- The reference to a declared member of an entity. -/
def ofEntity (e : Entity) (name : String) : Except Error MemberRef :=
  match e.field? name with
  | some f => .ok ⟨e.path, f.name, some f⟩
  | none => .error (.unknownMember .compile e.path name)

/-- Two references name the same member of the same owner. -/
def agrees (a b : MemberRef) : Bool := a.owner == b.owner && a.name == b.name

/-- The reference without the field it may carry. -/
def unresolved (m : MemberRef) : MemberRef := named m.owner m.name

/-- The field of a reference: the one it carries, or the one of the registry. -/
def field (m : MemberRef) (registry : Registry) : Except Error Field :=
  match m.field? with
  | some f => .ok f
  | none => registry.field m.owner m.name

/-- The reference with its field, if the field is known. -/
def resolved (m : MemberRef) (registry : Registry) : MemberRef :=
  match m.field registry with
  | .ok f => { m with field? := some f }
  | .error _ => m

/-- Kind of the values of the referenced field. -/
def kind (m : MemberRef) (registry : Registry) : Except Error Kind :=
  (m.field registry).map Field.kind

/-- Text of a reference. -/
def text (m : MemberRef) : String := m.owner ++ "." ++ m.name

/-- Text of a reference as shown to a developer: with escapes, and whether it carries its field. -/
def debugText (m : MemberRef) : String :=
  "MemberRef \x7b owner: " ++ Text.escaped m.owner ++ ", member: " ++ Text.escaped m.name
    ++ ", resolved: " ++ toString m.field?.isSome ++ " \x7d"

/-- References agree exactly if they are equal once the fields they carry are dropped. -/
theorem agrees_iff {a b : MemberRef} : a.agrees b = true ↔ a.unresolved = b.unresolved := by
  simp [agrees, unresolved, named]

end MemberRef

end RowFilter
