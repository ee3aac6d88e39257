import RowFilter.Digest.Sha256
import RowFilter.Digest.Stream
import RowFilter.Digest.Xxh3

/-!
# Fingerprints and structural hashes

Both are digests of the same bytes: the stream of a tree or a clause after the name of its domain
(`Digestible.digested`), so that what is of different domains has different inputs.
-/

namespace RowFilter

/-- A fingerprint: 32 bytes, ordered from the first byte on. -/
structure Fingerprint where
  /-- The bytes of the fingerprint. -/
  bytes : List UInt8
  /-- There are 32 of them. -/
  length_bytes : bytes.length = 32
deriving DecidableEq

namespace Fingerprint

/-- The fingerprint of a sequence of bytes. -/
def ofStream (stream : List UInt8) : Fingerprint := ⟨Sha256.digest stream, Sha256.length_digest _⟩

/-- The bytes as one natural number. -/
def toNat (f : Fingerprint) : Nat := ofBigEndian f.bytes

instance : Ord Fingerprint := ⟨fun a b => compare a.toNat b.toNat⟩

/-- Hexadecimal text of a fingerprint. -/
def text (f : Fingerprint) : String := hexText f.bytes

end Fingerprint

/-- Names of the domains of digests. -/
inductive Domain where
  | predicate
  | term
  | setClause
  | sortClause
deriving DecidableEq, Repr

namespace Domain

/-- The name that heads the digested bytes. -/
def name : Domain → String
  | predicate => "criteria:v1"
  | term => "operation:v1"
  | setClause => "name_value:v1"
  | sortClause => "order_by:v1"

/-- A stream after the name of its domain. -/
def stream (d : Domain) (bytes : List UInt8) : List UInt8 := d.name.toUTF8.toList ++ bytes

end Domain

/-- What a digest can be of: a tree or a clause. -/
inductive Digestible where
  | predicate (p : Predicate)
  | term (t : Term)
  | setClause (c : SetClause)
  | sortClause (c : SortClause)

namespace Digestible

/-- The domain of a tree or a clause. -/
def domain : Digestible → Domain
  | predicate _ => .predicate
  | term _ => .term
  | setClause _ => .setClause
  | sortClause _ => .sortClause

/-- Stream of a tree or a clause. -/
def stream : Digestible → List UInt8
  | predicate p => p.stream
  | term t => t.stream
  | setClause c => c.stream
  | sortClause c => c.stream

/-- The bytes that every digest is of: the name of the domain, then the stream. -/
def digested (x : Digestible) : List UInt8 := x.domain.stream x.stream

/-- Fingerprint of the digested bytes. -/
def fingerprint (x : Digestible) : Fingerprint := .ofStream x.digested

/-- Structural hash of the digested bytes. -/
def structuralHash (x : Digestible) : UInt64 := Xxh3.hash x.digested

/-- The fingerprint shows nothing but the domain and the stream. -/
theorem fingerprint_congr {x y : Digestible} (hdomain : x.domain = y.domain)
    (hstream : x.stream = y.stream) : x.fingerprint = y.fingerprint := by
  rw [fingerprint, fingerprint, digested, digested, hdomain, hstream]

end Digestible

/-- Fingerprint of a predicate. -/
def Predicate.fingerprint (p : Predicate) : Fingerprint := (Digestible.predicate p).fingerprint

/-- Structural hash of a predicate. -/
def Predicate.structuralHash (p : Predicate) : UInt64 := (Digestible.predicate p).structuralHash

/-- Fingerprint of a term. -/
def Term.fingerprint (t : Term) : Fingerprint := (Digestible.term t).fingerprint

/-- Structural hash of a term. -/
def Term.structuralHash (t : Term) : UInt64 := (Digestible.term t).structuralHash

/-- Fingerprint of a set clause. -/
def SetClause.fingerprint (c : SetClause) : Fingerprint := (Digestible.setClause c).fingerprint

/-- Fingerprint of a sort clause. -/
def SortClause.fingerprint (c : SortClause) : Fingerprint := (Digestible.sortClause c).fingerprint

end RowFilter
