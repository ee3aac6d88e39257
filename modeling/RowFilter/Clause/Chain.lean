import RowFilter.SortedMap
import RowFilter.Term.Member

/-!
# Chains of entries

A set clause and a sort clause are built entry by entry, each link holding one entry and the chain
built before it. Read as a whole a chain is the non-empty list of its entries, oldest first.
-/

namespace RowFilter

/-- A non-empty sequence of members with a payload each, newest entry outermost. -/
inductive Chain (α : Type) where
  /-- The chain of one entry. -/
  | start (ref : MemberRef) (payload : α)
  /-- A chain with one more entry. -/
  | link (prior : Chain α) (ref : MemberRef) (payload : α)
deriving DecidableEq, Repr

namespace Chain

variable {α β : Type}

/-- Reference of the newest entry. -/
def ref : Chain α → MemberRef
  | start ref _ | link _ ref _ => ref

/-- Payload of the newest entry. -/
def payload : Chain α → α
  | start _ payload | link _ _ payload => payload

/-- The chain without its newest entry, if it had another. -/
def prior? : Chain α → Option (Chain α)
  | start _ _ => none
  | link prior _ _ => some prior

/-- The entries of a chain, oldest first. -/
def entries : Chain α → List (MemberRef × α)
  | start ref payload => [(ref, payload)]
  | link prior ref payload => prior.entries ++ [(ref, payload)]

/-- The chain of a first entry and the entries after it. -/
def ofEntries (first : MemberRef × α) (rest : List (MemberRef × α)) : Chain α :=
  rest.foldl (fun c e => link c e.1 e.2) (start first.1 first.2)

/-- The payloads by name of the member, whatever its owner; later entries win. -/
def toMap (c : Chain α) : List (String × α) :=
  SortedMap.ofList (c.entries.map fun e => (e.1.name, e.2))

/-- Two chains have the same entries up to the fields that member references carry. -/
def agrees (same : α → α → Bool) : Chain α → Chain α → Bool
  | start a x, start b y => a.agrees b && same x y
  | link c a x, link d b y => c.agrees same d && a.agrees b && same x y
  | _, _ => false

@[simp]
theorem entries_link (c : Chain α) (ref : MemberRef) (payload : α) :
    (link c ref payload).entries = c.entries ++ [(ref, payload)] := rfl

end Chain

end RowFilter
