/-!
# Comparators

The comparators of filters. Two disjoint families take a right side: the equal family asks for a
match, the greater family for an order or for no match. The others stand alone.
-/

namespace RowFilter

/-- How the two sides of a comparison relate. -/
inductive Comparator where
  | absent
  | equal
  | greater
  | greaterOrEqual
  | lesser
  | lesserOrEqual
  | unequal
  | like
  | likeLeft
  | likeRight
  | unlike
  | isNull
  | isNotNull
  | isIn
  | notIn
  | exists
  | notExists
deriving DecidableEq, Repr

namespace Comparator

/-- All comparators, in the order of their tags. -/
def all : List Comparator :=
  [absent, equal, greater, greaterOrEqual, lesser, lesserOrEqual, unequal, like, likeLeft,
    likeRight, unlike, isNull, isNotNull, isIn, notIn, .exists, notExists]

theorem mem_all (c : Comparator) : c ∈ all := by cases c <;> simp [all]

/-- The byte that stands for a comparator in encodings. -/
def tag : Comparator → UInt8
  | absent => 0
  | equal => 1
  | greater => 2
  | greaterOrEqual => 3
  | lesser => 4
  | lesserOrEqual => 5
  | unequal => 6
  | like => 7
  | likeLeft => 8
  | likeRight => 9
  | unlike => 10
  | isNull => 11
  | isNotNull => 12
  | isIn => 13
  | notIn => 14
  | .exists => 15
  | notExists => 16

/-- Name of a comparator. -/
def label : Comparator → String
  | absent => "None"
  | equal => "Equal"
  | greater => "Greater"
  | greaterOrEqual => "GreaterOrEqual"
  | lesser => "Lesser"
  | lesserOrEqual => "LesserOrEqual"
  | unequal => "Unequal"
  | like => "Like"
  | likeLeft => "LikeLeft"
  | likeRight => "LikeRight"
  | unlike => "Unlike"
  | isNull => "IsNull"
  | isNotNull => "IsNotNull"
  | isIn => "In"
  | notIn => "NotIn"
  | .exists => "Exists"
  | notExists => "NotExists"

/-- What a query writer puts between the two sides. -/
def token : Comparator → String
  | absent => ""
  | equal => "="
  | greater => ">"
  | greaterOrEqual => ">="
  | lesser => "<"
  | lesserOrEqual => "<="
  | unequal => "<>"
  | like | likeLeft | likeRight => " like "
  | unlike => " not like "
  | isNull => " is null "
  | isNotNull => " is not null "
  | isIn => " in "
  | notIn => " not in "
  | .exists => " exists "
  | notExists => " not exists "

/-- Comparators that ask for a match with the right side. -/
def isEqualFamily : Comparator → Bool
  | equal | like | likeLeft | likeRight | isIn => true
  | _ => false

/-- Comparators that ask for an order, or for no match with the right side. -/
def isGreaterFamily : Comparator → Bool
  | greater | greaterOrEqual | lesser | lesserOrEqual | unequal | unlike | notIn => true
  | _ => false

/-- Comparators that take a right side. -/
def acceptsValue (c : Comparator) : Bool := c.isEqualFamily || c.isGreaterFamily

/-- Comparators that the order of two values decides. -/
def isOrdering : Comparator → Bool
  | equal | greater | greaterOrEqual | lesser | lesserOrEqual | unequal => true
  | _ => false

/-- The comparator after the two sides have changed places. -/
def reverse : Comparator → Comparator
  | greater => lesser
  | lesser => greater
  | greaterOrEqual => lesserOrEqual
  | lesserOrEqual => greaterOrEqual
  | c => c

/-- Whether an order of the two sides satisfies the comparator, where order decides it. -/
def matchesOrdering : Comparator → Ordering → Option Bool
  | equal, o => some (o == .eq)
  | unequal, o => some (o != .eq)
  | greater, o => some (o == .gt)
  | greaterOrEqual, o => some (o != .lt)
  | lesser, o => some (o == .lt)
  | lesserOrEqual, o => some (o != .gt)
  | _, _ => none

/-- The comparator for a list on the right: equality becomes membership, and every comparator of
the greater family becomes its absence. -/
def forList (c : Comparator) : Comparator :=
  if c = equal then isIn else if c.isGreaterFamily then notIn else c

/-- The comparator for a text with wildcards on the right. -/
def forWildcard (c : Comparator) : Comparator :=
  if c = equal then like else if c.isGreaterFamily then unlike else c

@[simp]
theorem reverse_reverse (c : Comparator) : c.reverse.reverse = c := by cases c <;> rfl

/-- Changing the sides changes the order to its opposite. -/
theorem matchesOrdering_reverse (c : Comparator) (o : Ordering) :
    c.reverse.matchesOrdering o.swap = c.matchesOrdering o := by
  cases c <;> cases o <;> rfl

@[simp]
theorem forList_forList (c : Comparator) : c.forList.forList = c.forList := by cases c <;> rfl

@[simp]
theorem forWildcard_forWildcard (c : Comparator) : c.forWildcard.forWildcard = c.forWildcard := by
  cases c <;> rfl

end Comparator

end RowFilter
