import CallWatch.Naming.Directory

/-! Directories given by their contexts: a list of nodes with what is bound in each. A name resolves
to the first binding of its kind whose first component it equals. -/

namespace CallWatch

inductive BindingTarget
  | context (node : Except DirectoryError ContextId)
  | object (object : Except DirectoryError RemoteObject)

/-- Whether a target is a context or an object. -/
def BindingTarget.kind : BindingTarget → BindingKind
  | context _ => .context
  | object _ => .object

structure NodeBinding where
  name : List NameComponent
  target : BindingTarget

structure Node where
  bindings : List NodeBinding
  /-- How many bindings the first page holds at most, where the node has a limit of its own. -/
  page : Option Nat
  listError : Option DirectoryError
  /-- Whether a listing has an iterator even if no bindings are left for it. -/
  alwaysIterator : Bool
  /-- The error of the iterator, and after how many bindings it comes. -/
  iteratorError : Option (Nat × DirectoryError)

namespace Node

def empty : Node :=
  ⟨[], none, none, false, none⟩

/-- The bindings behind the first page, cut off by the iterator's error. -/
def overflow (node : Node) (rest : List Binding) : Overflow :=
  match node.iteratorError with
  | some (after, error) =>
    if after ≤ rest.length then ⟨rest.take after, some error⟩ else ⟨rest, none⟩
  | none => ⟨rest, none⟩

def list (node : Node) (howMany : Nat) : Except DirectoryError Listing :=
  match node.listError with
  | some error => .error error
  | none =>
    let bindings := node.bindings.map fun b => (⟨b.name, b.target.kind⟩ : Binding)
    let page := (node.page.elim howMany (min howMany))
    let rest := bindings.drop page
    .ok ⟨bindings.take page,
      if rest.isEmpty && !node.alwaysIterator then none else some (node.overflow rest)⟩

def find? (node : Node) (kind : BindingKind) (component : NameComponent) : Option BindingTarget :=
  (node.bindings.find? fun b => b.target.kind = kind ∧ b.name.head? = some component).map (·.target)

end Node

/-- The directory with the given nodes, the others being empty. -/
def Directory.ofNodes (nodes : List Node) : Directory where
  list context howMany := (nodes.getD context .empty).list howMany
  resolveContext context component :=
    match (nodes.getD context .empty).find? .context component with
    | some (.context node) => node
    | _ => .error (.notFound component.id)
  resolveObject context component :=
    match (nodes.getD context .empty).find? .object component with
    | some (.object object) => object
    | _ => .error (.notFound component.id)

end CallWatch
