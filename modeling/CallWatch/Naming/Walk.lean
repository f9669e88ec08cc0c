import CallWatch.Naming.Entry

/-! The walk through a naming directory, in pre-order and over an explicit stack. Each frame of the
stack is a context that has been listed and not left, with the bindings that are left in it. A
failure below a context loses only what lies below it. The walk ends on every directory, since a
step takes a binding from the top frame, and frames are entered to a fixed depth only. -/

namespace CallWatch

/-- A call that the walk makes to the directory. An iterator has the number of its handing out. -/
inductive DirectoryCall
  | list (context : ContextId) (howMany : Nat)
  | next (context : ContextId) (iterator : Nat)
  | destroy (context : ContextId) (iterator : Nat)
  | resolveContext (context : ContextId) (component : NameComponent)
  | resolveObject (context : ContextId) (component : NameComponent)
  deriving DecidableEq

/-- A context that has been listed and not left. -/
structure Frame where
  context : ContextId
  path : String
  page : List Binding
  /-- The iterator, while it is alive: its number, and what it has left to give. -/
  iterator : Option (Nat × Overflow)

namespace Frame

def left (f : Frame) : Nat :=
  f.page.length + f.iterator.elim 0 (·.2.bindings.length)

/-- The next binding: from the page, then from the iterator, which is destroyed when it has ended.
-/
def next (f : Frame) : Option Binding × Frame × List DirectoryCall :=
  match f.page, f.iterator with
  | binding :: page, _ => (some binding, { f with page }, [])
  | [], none => (none, f, [])
  | [], some (number, overflow) =>
    match overflow.bindings with
    | binding :: bindings =>
      (some binding, { f with iterator := some (number, { overflow with bindings }) },
        [.next f.context number])
    | [] =>
      (none, { f with iterator := none }, [.next f.context number, .destroy f.context number])

theorem left_next {f g : Frame} {binding : Binding} {calls : List DirectoryCall}
    (h : f.next = (some binding, g, calls)) : f.left = g.left + 1 := by
  unfold next at h
  split at h
  · next hp =>
    simp only [Prod.mk.injEq] at h
    obtain ⟨-, rfl, -⟩ := h
    simp only [left, hp, List.length_cons]
    omega
  · simp at h
  · next hp hi =>
    split at h
    · next hb =>
      simp only [Prod.mk.injEq] at h
      obtain ⟨-, rfl, -⟩ := h
      simp [left, hp, hi, hb]
    · simp at h

/-- The path of a binding in the context of a frame. -/
def childPath (f : Frame) (component : NameComponent) : String :=
  if f.path = "" then component.segment else f.path ++ "/" ++ component.segment

end Frame

structure Trail where
  entries : Array TopologyEntry
  calls : Array DirectoryCall
  iterators : Nat

structure Walk extends Trail where
  /-- The open frames, the deepest first. -/
  stack : List Frame

namespace Walk

/-- The number of bindings that are left in each frame shrinks from the right to the left: the top
frame goes, or loses a binding, or loses one and gets a frame above it. -/
inductive Shrinks : List Nat → List Nat → Prop
  | leave (n : Nat) (below : List Nat) : Shrinks below (n :: below)
  | use (n : Nat) (below : List Nat) : Shrinks (n :: below) ((n + 1) :: below)
  | enter (m n : Nat) (below : List Nat) (h : below.length < Limits.walkDepth) :
      Shrinks (m :: n :: below) ((n + 1) :: below)

theorem acc_cons (room : Nat) : ∀ below : List Nat, Acc Shrinks below →
    Limits.walkDepth ≤ below.length + room → ∀ n, Acc Shrinks (n :: below) := by
  induction room with
  | zero =>
    intro below hb hroom n
    induction n with
    | zero =>
      refine ⟨_, fun y hy => ?_⟩
      cases hy with
      | leave => exact hb
    | succ n ih =>
      refine ⟨_, fun y hy => ?_⟩
      cases hy with
      | leave => exact hb
      | use => exact ih
      | enter _ _ _ h => omega
  | succ room ihRoom =>
    intro below hb hroom n
    induction n with
    | zero =>
      refine ⟨_, fun y hy => ?_⟩
      cases hy with
      | leave => exact hb
    | succ n ih =>
      refine ⟨_, fun y hy => ?_⟩
      cases hy with
      | leave => exact hb
      | use => exact ih
      | enter m _ _ h => exact ihRoom _ ih (by simp only [List.length_cons]; omega) m

theorem wellFounded_shrinks : WellFounded Shrinks := by
  refine ⟨fun counts => ?_⟩
  induction counts with
  | nil => exact ⟨_, fun y hy => by cases hy⟩
  | cons n below ih => exact acc_cons Limits.walkDepth below ih (by omega) n

structure Counts where
  counts : List Nat

instance : WellFoundedRelation Counts where
  rel a b := Shrinks a.counts b.counts
  wf := InvImage.wf Counts.counts wellFounded_shrinks

/-- The numbers of bindings left in the frames, the deepest first. -/
def left (w : Walk) : Counts :=
  ⟨w.stack.map Frame.left⟩

def empty : Walk :=
  ⟨⟨#[], #[], 0⟩, []⟩

/-- Lists a context and puts its frame on the stack. -/
def enter (d : Directory.Course) (context : ContextId) (path : String) (w : Walk) :
    Except DirectoryError Unit × Walk :=
  let answer := (d w.calls.size).list context Limits.listPage
  let w := { w with calls := w.calls.push (.list context Limits.listPage) }
  match answer with
  | .error e => (.error e, w)
  | .ok listing =>
    let frame := ⟨context, path, listing.page, listing.overflow.map (w.iterators, ·)⟩
    let iterators := w.iterators + if listing.overflow.isSome then 1 else 0
    (.ok (), { w with stack := frame :: w.stack, iterators })

/-- Resolves a bound context and enters it, if both succeed. -/
def descend (d : Directory.Course) (context : ContextId) (component : NameComponent)
    (path : String) (w : Walk) : Walk :=
  let answer := (d w.calls.size).resolveContext context component
  let w := { w with calls := w.calls.push (.resolveContext context component) }
  match answer with
  | .error _ => w
  | .ok child => (w.enter d child path).2

/-- The entry of a binding under a name, and for a context within the depth the way into it. -/
def visit (d : Directory.Course) (frame : Frame) (component : NameComponent) (kind : BindingKind)
    (w : Walk) : Walk :=
  let path := frame.childPath component
  match kind with
  | .context =>
    let w := { w with entries := w.entries.push (.bare path component .context) }
    if Limits.walkDepth < w.stack.length then w else w.descend d frame.context component path
  | .object =>
    { w with
      entries := w.entries.push
        (.ofObject path component ((d w.calls.size).resolveObject frame.context component))
      calls := w.calls.push (.resolveObject frame.context component) }

/-- One step: the next binding of the top frame, or the way out of it. A binding without a name is
passed over. There is none when the stack is empty. -/
def step? (d : Directory.Course) (w : Walk) : Option Walk :=
  match w.stack with
  | [] => none
  | frame :: below =>
    match frame.next with
    | (none, _, calls) => some { w with stack := below, calls := w.calls ++ calls }
    | (some binding, frame, calls) =>
      let w := { w with stack := frame :: below, calls := w.calls ++ calls }
      match binding.name with
      | [] => some w
      | component :: _ => some (w.visit d frame component binding.kind)

theorem stack_enter (d : Directory.Course) (context : ContextId) (path : String) (w : Walk) :
    (w.enter d context path).2.stack = w.stack ∨
      ∃ frame, (w.enter d context path).2.stack = frame :: w.stack := by
  unfold enter
  dsimp only
  split
  · exact .inl rfl
  · exact .inr ⟨_, rfl⟩

theorem stack_visit (d : Directory.Course) (frame : Frame) (component : NameComponent)
    (kind : BindingKind) (w : Walk) :
    (w.visit d frame component kind).stack = w.stack ∨
      w.stack.length ≤ Limits.walkDepth ∧
        ∃ child, (w.visit d frame component kind).stack = child :: w.stack := by
  unfold visit
  dsimp only
  split
  · split
    · exact .inl rfl
    · next h =>
      unfold descend
      dsimp only
      split
      · exact .inl rfl
      · rcases stack_enter d _ _ _ with hs | ⟨child, hs⟩
        · exact .inl hs
        · exact .inr ⟨Nat.le_of_not_lt h, child, hs⟩
  · exact .inl rfl

theorem shrinks_of_step {d : Directory.Course} {w v : Walk} (h : w.step? d = some v) :
    Shrinks v.left.counts w.left.counts := by
  unfold step? at h
  split at h
  · simp at h
  · next top below hs =>
    split at h
    · obtain rfl := Option.some.inj h
      simp only [left, hs, List.map_cons]
      exact .leave _ _
    · next binding rest calls hn =>
      have hleft := Frame.left_next hn
      dsimp only at h
      split at h
      · obtain rfl := Option.some.inj h
        simp only [left, hs, List.map_cons, hleft]
        exact .use _ _
      · next component _ _ =>
        obtain rfl := Option.some.inj h
        have hv := stack_visit d rest component binding.kind
          { w with stack := rest :: below, calls := w.calls ++ calls }
        simp only [left, hs, List.map_cons, hleft]
        rcases hv with hv | ⟨hlen, child, hv⟩
        · rw [hv]
          exact .use _ _
        · rw [hv]
          refine .enter _ _ _ ?_
          simp only [List.length_cons] at hlen
          simp only [List.length_map]
          omega

/-- The walk when its stack has become empty. -/
def run (d : Directory.Course) (w : Walk) : Walk :=
  match h : w.step? d with
  | none => w
  | some next =>
    have := shrinks_of_step h
    run d next
termination_by w.left

end Walk

/-- The entries below the root of a directory, unless the root cannot be listed, and the calls that
the walk makes. -/
def Directory.Course.walk (d : Directory.Course) (root : ContextId) :
    Except DirectoryError (List TopologyEntry) × List DirectoryCall :=
  match Walk.empty.enter d root "" with
  | (.error e, w) => (.error e, w.calls.toList)
  | (.ok (), w) => (.ok (w.run d).entries.toList, (w.run d).calls.toList)

def Directory.walk (d : Directory) (root : ContextId) :
    Except DirectoryError (List TopologyEntry) × List DirectoryCall :=
  Course.walk (fun _ => d) root

end CallWatch
