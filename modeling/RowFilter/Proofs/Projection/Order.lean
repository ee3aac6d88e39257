import RowFilter.Projection

/-!
# The order of a projection

A tree to project is a term or a predicate, and its nodes are the terms and predicates below it;
`Node.children` has those right below a node, in reading order, a plain value as its assigned
literal. `Node.visits` lists the nodes of a tree with every node after its children.

Whatever the methods of a projection do, and in whatever monad, they are called once for each node
on this list and in its order, each with what the node itself holds. `Projection.logging` adds the
calls to a log beside the effects that the methods have, and `Node.run_project_logging` says what
the log is.
-/

namespace RowFilter

/-! ### Nodes -/

/-- A node of a tree that is projected. -/
inductive Node where
  | term (t : Term)
  | predicate (p : Predicate)

/-- The node of an operand; a plain value is its assigned literal. -/
def Operand.node (o : Operand) : Node := .term o.toTerm

/-- The node of a right side, if there is one. -/
def RightSide.node? : RightSide → Option Node
  | .empty => none
  | .operand t => some (.term t)
  | .predicate p => some (.predicate p)
  | .value v => some (.term (.ofValue v))

/-- The node of the inner side of a subquery. -/
def Inner.node : Inner → Node
  | .foreignKey t => .term t
  | .predicate p => .predicate p

/-- The nodes right below a node, in reading order. -/
def Node.children : Node → List Node
  | .term (.member _) | .term (.literal _ _) => []
  | .term (.binary l _ r) => [l.node, r.node]
  | .term (.unary _ t args) => .term t :: args.map .term
  | .predicate (.joined p _ q) => [.predicate p, .predicate q]
  | .predicate (.solo _ p) => [.predicate p]
  | .predicate (.comparison l _ r _) => .term l :: r.node?.toList
  | .predicate (.subquery o x _) => [.term o, x.node]
  | .predicate (.shortCircuit _) => []

/-- Project the tree of a node. -/
def Node.project {m : Type → Type} [Monad m] {α : Type} (π : Projection m α) : Node → m α
  | .term t => t.project π
  | .predicate p => p.project π

/-! ### Visits -/

mutual

/-- The nodes of a term, each after those below it. -/
def Term.visits : Term → List Node
  | .member ref => [.term (.member ref)]
  | .literal v assigned => [.term (.literal v assigned)]
  | .binary l s r => l.visits ++ r.visits ++ [.term (.binary l s r)]
  | .unary s t args => t.visits ++ Term.visitsOfAll args ++ [.term (.unary s t args)]

/-- The nodes of an operand, each after those below it. -/
def Operand.visits : Operand → List Node
  | .term t => t.visits
  | .value v => [.term (.ofValue v)]

/-- The nodes of arguments, one argument after the other. -/
def Term.visitsOfAll : List Term → List Node
  | [] => []
  | t :: ts => t.visits ++ Term.visitsOfAll ts

end

mutual

/-- The nodes of a predicate, each after those below it. -/
def Predicate.visits : Predicate → List Node
  | .joined p op q => p.visits ++ q.visits ++ [.predicate (.joined p op q)]
  | .solo op p => p.visits ++ [.predicate (.solo op p)]
  | .comparison l c r i => l.visits ++ r.visits ++ [.predicate (.comparison l c r i)]
  | .subquery o x n => o.visits ++ x.visits ++ [.predicate (.subquery o x n)]
  | .shortCircuit b => [.predicate (.shortCircuit b)]

/-- The nodes of a right side, each after those below it. -/
def RightSide.visits : RightSide → List Node
  | .empty => []
  | .operand t => t.visits
  | .predicate p => p.visits
  | .value v => [.term (.ofValue v)]

/-- The nodes of the inner side of a subquery, each after those below it. -/
def Inner.visits : Inner → List Node
  | .foreignKey t => t.visits
  | .predicate p => p.visits

end

/-- The nodes of a tree, each after those below it. -/
def Node.visits : Node → List Node
  | .term t => t.visits
  | .predicate p => p.visits

theorem Operand.visits_node (o : Operand) : o.node.visits = o.visits := by
  cases o <;> rfl

theorem RightSide.visits_node? (r : RightSide) : r.node?.toList.flatMap Node.visits = r.visits := by
  cases r with
  | empty => rfl
  | _ => exact List.append_nil _

theorem Inner.visits_node (x : Inner) : x.node.visits = x.visits := by
  cases x <;> rfl

theorem Term.visitsOfAll_eq_flatMap (ts : List Term) :
    visitsOfAll ts = (ts.map Node.term).flatMap Node.visits := by
  induction ts with
  | nil => rfl
  | cons t ts ih =>
    rw [visitsOfAll, List.map_cons, List.flatMap_cons, ih]
    rfl

/-- The children of a node are visited one after the other, with all below them, and the node comes
last. -/
theorem Node.visits_eq_children (n : Node) : n.visits = n.children.flatMap visits ++ [n] := by
  cases n with
  | term t =>
    cases t with
    | member | literal => rfl
    | binary l s r =>
      rw [children, List.flatMap_cons, List.flatMap_singleton, l.visits_node, r.visits_node]
      rfl
    | unary s t args =>
      rw [children, List.flatMap_cons, ← Term.visitsOfAll_eq_flatMap]
      rfl
  | predicate p =>
    cases p with
    | joined p op q =>
      rw [children, List.flatMap_cons, List.flatMap_singleton]
      rfl
    | solo op p =>
      rw [children, List.flatMap_singleton]
      rfl
    | comparison l c r i =>
      rw [children, List.flatMap_cons, r.visits_node?]
      rfl
    | subquery o x n =>
      rw [children, List.flatMap_cons, List.flatMap_singleton, x.visits_node]
      rfl
    | shortCircuit b => rfl

/-! ### Calls -/

namespace Projection

/-- A call of a method, with what it is given beside outputs. -/
inductive Call where
  | member (ref : MemberRef)
  | literal (value : Value) (assigned : Bool)
  | binary (sign : Sign)
  | unary (sign : Sign)
  | logical (op : Connective)
  | compare (comparator : Comparator) (ignoreCase : Bool)
  | subquery (comparator : Comparator)
  | shortCircuit (b : Bool)

/-- The method that is called. -/
def Call.method : Call → ProjectionMethod
  | member _ => .member
  | literal _ _ => .literal
  | binary _ => .binary
  | unary _ => .unary
  | logical _ => .logical
  | compare _ _ => .compare
  | subquery _ => .subquery
  | shortCircuit _ => .shortCircuit

variable {m : Type → Type} [Monad m] {α β : Type}

/-- Do what a method does, and add its call to the log. -/
def logged (mark : Call → β) (call : Call) (x : m α) : StateT (List β) m α :=
  fun log => (fun a => (a, log ++ [mark call])) <$> x

/-- The projection that does what another one does and logs the calls. -/
def logging (mark : Call → β) (π : Projection m α) : Projection (StateT (List β) m) α where
  member ref := logged mark (.member ref) (π.member ref)
  literal v assigned := logged mark (.literal v assigned) (π.literal v assigned)
  binary s l r := logged mark (.binary s) (π.binary s l r)
  unary s t args := logged mark (.unary s) (π.unary s t args)
  logical op l r := logged mark (.logical op) (π.logical op l r)
  compare l c r i := logged mark (.compare c i) (π.compare l c r i)
  subquery c o x := logged mark (.subquery c) (π.subquery c o x)
  shortCircuit b := logged mark (.shortCircuit b) (π.shortCircuit b)

end Projection

/-- The call that a node asks for. -/
def Node.call : Node → Projection.Call
  | .term (.member ref) => .member ref
  | .term (.literal v assigned) => .literal v assigned
  | .term (.binary _ s _) => .binary s
  | .term (.unary s _ _) => .unary s
  | .predicate (.joined _ op _) | .predicate (.solo op _) => .logical op
  | .predicate (.comparison _ c _ i) => .compare c i
  | .predicate (.subquery _ _ n) => .subquery (Predicate.subqueryComparator n)
  | .predicate (.shortCircuit b) => .shortCircuit b

/-! ### Logs -/

section

variable {m : Type → Type} [Monad m] {α β γ : Type}

/-- A computation adds a list to the log and otherwise does what another one does. -/
def Logs (x : StateT (List β) m α) (calls : List β) (y : m α) : Prop :=
  ∀ log, x.run log = (fun a => (a, log ++ calls)) <$> y

theorem logs_logged (mark : Projection.Call → β) (call : Projection.Call) (x : m α) :
    Logs (Projection.logged mark call x) [mark call] x :=
  fun _ => rfl

theorem logs_pure [LawfulMonad m] (a : α) : Logs (pure a : StateT (List β) m α) [] (pure a) := by
  intro log
  simp

/-- A sequence logs what its parts log, if the second part logs the same after every outcome. -/
theorem Logs.bind [LawfulMonad m] {x : StateT (List β) m α} {f : α → StateT (List β) m γ}
    {calls calls' : List β} {y : m α} {g : α → m γ} (hx : Logs x calls y)
    (hf : ∀ a, Logs (f a) calls' (g a)) : Logs (x >>= f) (calls ++ calls') (y >>= g) := by
  intro log
  rw [StateT.run_bind, hx log, bind_map_left, map_bind]
  refine bind_congr fun a => ?_
  rw [hf a (log ++ calls), List.append_assoc]

theorem Logs.map [LawfulMonad m] {x : StateT (List β) m α} {calls : List β} {y : m α}
    (hx : Logs x calls y) (f : α → γ) : Logs (f <$> x) calls (f <$> y) := by
  have h := hx.bind fun a => logs_pure (f a)
  rwa [List.append_nil, bind_pure_comp, bind_pure_comp] at h

variable (mark : Projection.Call → β) (π : Projection m α)

/-- The entries of the calls for a list of nodes. -/
def callsOf (ns : List Node) : List β := ns.map fun n => mark n.call

theorem callsOf_append (ns ns' : List Node) :
    callsOf mark (ns ++ ns') = callsOf mark ns ++ callsOf mark ns' :=
  List.map_append

mutual

/-- Projecting a term logs a call for each of its nodes. -/
theorem Term.logs_project [LawfulMonad m] : ∀ t : Term,
    Logs (t.project (π.logging mark)) (callsOf mark t.visits) (t.project π)
  | .member _ => logs_logged mark _ _
  | .literal _ _ => logs_logged mark _ _
  | .binary l s r => by
    rw [Term.visits, callsOf_append, callsOf_append, List.append_assoc]
    refine (l.logs_project).bind fun a => (r.logs_project).bind fun b => ?_
    exact logs_logged mark _ _
  | .unary s t args => by
    rw [Term.visits, callsOf_append, callsOf_append, List.append_assoc]
    refine (t.logs_project).bind fun a => (Term.logs_projectArgs args).bind fun bs => ?_
    exact logs_logged mark _ _

/-- Projecting an operand logs a call for each of its nodes. -/
theorem Operand.logs_project [LawfulMonad m] : ∀ o : Operand,
    Logs (o.project (π.logging mark)) (callsOf mark o.visits) (o.project π)
  | .term t => t.logs_project
  | .value _ => logs_logged mark _ _

/-- Projecting arguments logs a call for each of their nodes. -/
theorem Term.logs_projectArgs [LawfulMonad m] : ∀ ts : List Term,
    Logs (Term.projectArgs (π.logging mark) ts) (callsOf mark (Term.visitsOfAll ts))
      (Term.projectArgs π ts)
  | [] => logs_pure []
  | t :: ts => by
    rw [Term.visitsOfAll, callsOf_append]
    refine (t.logs_project).bind fun a => ?_
    have hrest := (Term.logs_projectArgs ts).map (a :: ·)
    rwa [map_eq_pure_bind, map_eq_pure_bind] at hrest

end

mutual

/-- Projecting a predicate logs a call for each of its nodes. -/
theorem Predicate.logs_project [LawfulMonad m] : ∀ p : Predicate,
    Logs (p.project (π.logging mark)) (callsOf mark p.visits) (p.project π)
  | .joined p op q => by
    rw [Predicate.visits, callsOf_append, callsOf_append, List.append_assoc]
    refine (p.logs_project).bind fun a => (q.logs_project).bind fun b => ?_
    exact logs_logged mark _ _
  | .solo op p => by
    rw [Predicate.visits, callsOf_append]
    exact (p.logs_project).bind fun a => logs_logged mark _ _
  | .comparison l c r i => by
    rw [Predicate.visits, callsOf_append, callsOf_append, List.append_assoc]
    refine (l.logs_project mark π).bind fun a => (r.logs_project).bind fun b => ?_
    exact logs_logged mark _ _
  | .subquery o x n => by
    rw [Predicate.visits, callsOf_append, callsOf_append, List.append_assoc]
    refine (o.logs_project mark π).bind fun a => (x.logs_project).bind fun b => ?_
    exact logs_logged mark _ _
  | .shortCircuit _ => logs_logged mark _ _

/-- Projecting a right side logs a call for each of its nodes. -/
theorem RightSide.logs_project [LawfulMonad m] : ∀ r : RightSide,
    Logs (r.project (π.logging mark)) (callsOf mark r.visits) (r.project π)
  | .empty => logs_pure none
  | .operand t => (t.logs_project mark π).map some
  | .predicate p => (p.logs_project).map some
  | .value _ => (logs_logged mark _ _).map some

/-- Projecting an inner side logs a call for each of its nodes. -/
theorem Inner.logs_project [LawfulMonad m] : ∀ x : Inner,
    Logs (x.project (π.logging mark)) (callsOf mark x.visits) (x.project π)
  | .foreignKey t => t.logs_project mark π
  | .predicate p => p.logs_project

end

/-- Projecting a tree with a log has the outcome and the effects that it has without, and adds a
call for each node in the order of the visits. -/
theorem Node.run_project_logging [LawfulMonad m] (n : Node) (log : List β) :
    (n.project (π.logging mark)).run log =
      (fun a => (a, log ++ callsOf mark n.visits)) <$> n.project π := by
  cases n with
  | term t => exact t.logs_project mark π log
  | predicate p => exact p.logs_project mark π log

end

/-! ### The listing -/

/-- The projection that answers the terms of its calls, without a list. -/
def Projection.terms : Projection Id Projected where
  member ref := .member ref.owner ref.name
  literal v assigned := .literal v assigned
  binary s l r := .binary s l r
  unary s t args := .unary s t args
  logical op l r := .logical op l r
  compare l c r i := .compare l c r i
  subquery c o x := .subquery c o x
  shortCircuit b := .shortCircuit b

/-- The listing logs the methods of the calls of which it answers the terms. -/
theorem Projection.listing_eq_logging : listing = logging Call.method terms := rfl

/-- The listing of a tree answers the terms of the calls, and lists the methods of its nodes in the
order of the visits. -/
theorem Node.run_project_listing (n : Node) (log : List ProjectionMethod) :
    (n.project .listing).run log =
      (n.project .terms, log ++ callsOf Projection.Call.method n.visits) := by
  rw [Projection.listing_eq_logging]
  exact n.run_project_logging Projection.Call.method .terms log

end RowFilter
