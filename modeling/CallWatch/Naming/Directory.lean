import CallWatch.Error

/-! The naming directory as the monitor sees it: contexts, known by a handle, that list their
bindings and resolve names, and objects that give their reference. A listing has a first page and,
if that does not hold all bindings, an iterator over the others. Every call may fail. -/

namespace CallWatch

structure NameComponent where
  id : String
  kind : String
  deriving DecidableEq

/-- A component as a segment of a path: its id, and its kind behind a dot if it has one. -/
def NameComponent.segment (c : NameComponent) : String :=
  if c.kind = "" then c.id else c.id ++ "." ++ c.kind

/-- What a name is bound to. -/
inductive BindingKind
  | context
  | object
  deriving DecidableEq

structure Binding where
  name : List NameComponent
  kind : BindingKind
  deriving DecidableEq

/-- The bindings behind the first page, and how their iterator ends: with none left, or in an
error. -/
structure Overflow where
  bindings : List Binding
  error : Option DirectoryError
  deriving DecidableEq

structure Listing where
  page : List Binding
  overflow : Option Overflow
  deriving DecidableEq

/-- An object, by its answers: its stringified reference, and whether it has ceased to exist. -/
structure RemoteObject where
  reference : Except DirectoryError String
  gone : Except DirectoryError Bool

abbrev ContextId := Nat

/-- A naming directory, by the answers of its contexts. -/
structure Directory where
  /-- The bindings of a context, with at most so many on the first page. -/
  list : ContextId → Nat → Except DirectoryError Listing
  resolveContext : ContextId → NameComponent → Except DirectoryError ContextId
  resolveObject : ContextId → NameComponent → Except DirectoryError RemoteObject

/-- A directory in the course of a walk. It may change between two calls: this is the directory that
answers the call before which so many others were made. -/
abbrev Directory.Course := Nat → Directory

/-- The ways to the root of the directory: the runtime's initial reference, and a reference by
address. -/
structure Connector where
  initial : Except DirectoryError ContextId
  byReference : String → Except DirectoryError ContextId

end CallWatch
