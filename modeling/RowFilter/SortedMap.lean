/-!
# Sorted maps

A finite map as a list of pairs in ascending order of the keys. `insert` keeps the order and lets
the new value win.
-/

namespace RowFilter

namespace SortedMap

variable {κ ν : Type} [Ord κ]

/-- The value under a key. -/
def find? (m : List (κ × ν)) (k : κ) : Option ν :=
  (m.find? fun e => compare e.1 k == .eq).map Prod.snd

/-- The map with a value under a key, in place of any value under it before. -/
def insert : List (κ × ν) → κ → ν → List (κ × ν)
  | [], k, v => [(k, v)]
  | e :: m, k, v =>
    match compare k e.1 with
    | .lt => (k, v) :: e :: m
    | .eq => (k, v) :: m
    | .gt => e :: insert m k v

/-- The map of a list of pairs, of which the last under a key counts. -/
def ofList (entries : List (κ × ν)) : List (κ × ν) :=
  entries.foldl (fun m e => insert m e.1 e.2) []

end SortedMap

end RowFilter
