import CallWatch.Naming.Walk

/-! The walk as a recursion. A context is visited by its first page and then by its iterator; a
binding of an object adds the entry of that object, which is written out for every answer to its
resolving, its stringifying and its probe (`objectEntry`). A binding of a context adds its own entry
and then, if it is not too deep and can be resolved and listed, what the visit of that context
adds. The walk over a stack of frames leaves just what this recursion leaves, on every directory
and also on one that changes between two calls (`walk_eq_preorder`). -/

namespace CallWatch

namespace Trail

def entry (t : Trail) (e : TopologyEntry) : Trail :=
  { t with entries := t.entries.push e }

def call (t : Trail) (c : DirectoryCall) : Trail :=
  { t with calls := t.calls.push c }

theorem append_nil (t : Trail) :
    { t with calls := t.calls ++ ([] : List DirectoryCall) } = t := rfl

end Trail

namespace Directory.Course

/-- The entry of a context: its place, and no more. -/
def contextEntry (path : String) (component : NameComponent) : TopologyEntry where
  path
  name := component.id
  kind := component.kind
  type := .context
  ior := none
  host := none
  port := none
  iorLength := none
  isAlive := none
  error := none

/-- The entry of an object. If its resolving or its stringifying fails, no more is known of it than
this error; if its probe fails, its reference is known beside the error. -/
def objectEntry (path : String) (component : NameComponent)
    (resolved : Except DirectoryError RemoteObject) : TopologyEntry :=
  let unreachable (e : DirectoryError) : TopologyEntry :=
    { path, name := component.id, kind := component.kind, type := .object
      ior := none, host := none, port := none, iorLength := none
      isAlive := some false, error := some e.message }
  match resolved with
  | .error e => unreachable e
  | .ok object =>
    match object.reference with
    | .error e => unreachable e
    | .ok ior =>
      { path, name := component.id, kind := component.kind, type := .object
        ior := some ior
        host := (Endpoint.parse? ior).map (·.host)
        port := (Endpoint.parse? ior).bind (·.port)
        iorLength := (Ior.parse? ior).map (·.byteLength)
        isAlive := match object.gone with
          | .ok gone => some !gone
          | .error _ => some false
        error := match object.gone with
          | .ok _ => none
          | .error e => some e.message }

theorem bare_eq_contextEntry (path : String) (component : NameComponent) :
    .bare path component .context = contextEntry path component := rfl

theorem ofObject_eq_objectEntry (path : String) (component : NameComponent)
    (resolved : Except DirectoryError RemoteObject) :
    .ofObject path component resolved = objectEntry path component resolved := by
  rcases resolved with e | ⟨reference, gone⟩
  · rfl
  · rcases reference with e | ior
    · rfl
    · rcases gone with e | gone <;> rfl

/-- The path of what is bound in a context with a path. -/
def pathBelow (path : String) (component : NameComponent) : String :=
  if path = "" then component.segment else path ++ "/" ++ component.segment

/-- Visits a binding. One without a name is passed over, and what is below a context is left to
`descend`. -/
def visitBinding (d : Directory.Course) (descend : NameComponent → String → Trail → Trail)
    (context : ContextId) (path : String) (t : Trail) (binding : Binding) : Trail :=
  match binding.name with
  | [] => t
  | component :: _ =>
    let path := pathBelow path component
    match binding.kind with
    | .context => descend component path (t.entry (contextEntry path component))
    | .object =>
      let resolved := (d t.calls.size).resolveObject context component
      (t.entry (objectEntry path component resolved)).call (.resolveObject context component)

/-- Visits the bindings of a page, and then those that an iterator gives until it has ended. -/
def visitListing (visit : Trail → Binding → Trail) (context : ContextId) (page : List Binding)
    (iterator : Option (Nat × Overflow)) (t : Trail) : Trail :=
  let t := page.foldl visit t
  match iterator with
  | none => t
  | some (number, overflow) =>
    let next (t : Trail) : Trail := t.call (.next context number)
    let t := overflow.bindings.foldl (fun t binding => visit (next t) binding) t
    (next t).call (.destroy context number)

/-- Lists a context and visits its bindings, if it can be listed. -/
def visitContext (d : Directory.Course)
    (descend : ContextId → NameComponent → String → Trail → Trail) (context : ContextId)
    (path : String) (t : Trail) : Except DirectoryError Unit × Trail :=
  let listed := t.call (.list context Limits.listPage)
  match (d t.calls.size).list context Limits.listPage with
  | .error e => (.error e, listed)
  | .ok listing =>
    let iterators := t.iterators + if listing.overflow.isSome then 1 else 0
    (.ok (), visitListing (d.visitBinding (descend context) context path) context listing.page
      (listing.overflow.map (t.iterators, ·)) { listed with iterators })

/-- Visits what is bound under a name at a depth, if that is not too deep, and if it can be resolved
and listed. -/
def descend (d : Directory.Course) (depth : Nat) (context : ContextId) (component : NameComponent)
    (path : String) (t : Trail) : Trail :=
  if 32 < depth then t
  else
    let resolved := t.call (.resolveContext context component)
    match (d t.calls.size).resolveContext context component with
    | .error _ => resolved
    | .ok child => (d.visitContext (d.descend (depth + 1)) child path resolved).2
termination_by 33 - depth

/-- The entries and the calls of the recursion below a root, unless the root cannot be listed. -/
def preorder (d : Directory.Course) (root : ContextId) :
    Except DirectoryError (List TopologyEntry) × List DirectoryCall :=
  match d.visitContext (d.descend 1) root "" Walk.empty.toTrail with
  | (.error e, t) => (.error e, t.calls.toList)
  | (.ok (), t) => (.ok t.entries.toList, t.calls.toList)

def visitFrame (d : Directory.Course) (depth : Nat) (frame : Frame) (t : Trail) : Trail :=
  visitListing (d.visitBinding (d.descend (depth + 1) frame.context) frame.context frame.path)
    frame.context frame.page frame.iterator t

end Directory.Course

namespace Walk

variable {d : Directory.Course}

theorem run_of_step {w v : Walk} (h : w.step? d = some v) : w.run d = v.run d := by
  rw [run]
  split
  · next hnone => simp [hnone] at h
  · next next hnext =>
    obtain rfl := Option.some.inj (hnext.symm.trans h)
    rfl

theorem run_of_stack_nil (t : Trail) : run d ⟨t, []⟩ = ⟨t, []⟩ := by
  rw [run]
  split
  · rfl
  · next next hnext => simp [step?] at hnext

/-- A frame on top of others is left with the trail of the recursion. -/
def Unwinds (d : Directory.Course) (below : List Frame) : Prop :=
  ∀ (frame : Frame) (t : Trail),
    run d ⟨t, frame :: below⟩ = run d ⟨d.visitFrame below.length frame t, below⟩

/-- Entering a context, and leaving it again by steps, is visiting it by recursion. -/
theorem run_enter {stack : List Frame} (unwinds : Unwinds d stack) (context : ContextId)
    (path : String) (t : Trail) :
    run d (enter d context path ⟨t, stack⟩).2 =
      run d ⟨(d.visitContext (d.descend (stack.length + 1)) context path t).2, stack⟩ := by
  unfold enter Directory.Course.visitContext
  cases (d t.calls.size).list context Limits.listPage with
  | error e => rfl
  | ok listing =>
    exact unwinds ⟨context, path, listing.page, listing.overflow.map (t.iterators, ·)⟩ _

theorem run_visit {frame : Frame} {below : List Frame}
    (deeper : below.length < Limits.walkDepth → Unwinds d (frame :: below))
    (component : NameComponent) (names : List NameComponent) (kind : BindingKind) (t : Trail) :
    run d (visit d frame component kind ⟨t, frame :: below⟩) =
      run d ⟨d.visitBinding (d.descend (below.length + 1) frame.context) frame.context frame.path t
        ⟨component :: names, kind⟩, frame :: below⟩ := by
  cases kind with
  | object =>
    simp only [visit, Directory.Course.ofObject_eq_objectEntry]
    rfl
  | context =>
    have hdepth : Limits.walkDepth = 32 := rfl
    simp only [visit, Directory.Course.visitBinding, List.length_cons, hdepth]
    rw [Directory.Course.descend]
    by_cases hdeep : 32 < below.length + 1
    · rw [if_pos hdeep, if_pos hdeep]
      rfl
    · rw [if_neg hdeep, if_neg hdeep]
      have hunwinds := deeper (by omega)
      unfold Walk.descend
      dsimp only [Trail.entry]
      cases (d t.calls.size).resolveContext frame.context component with
      | error e => rfl
      | ok child => exact run_enter hunwinds child _ _

theorem run_binding {frame rest : Frame} {binding : Binding} {calls : List DirectoryCall}
    (next : frame.next = (some binding, rest, calls)) {below : List Frame}
    (deeper : below.length < Limits.walkDepth → Unwinds d (rest :: below)) (t : Trail) :
    run d ⟨t, frame :: below⟩ =
      run d ⟨d.visitBinding (d.descend (below.length + 1) rest.context) rest.context rest.path
        { t with calls := t.calls ++ calls } binding, rest :: below⟩ := by
  obtain ⟨name, kind⟩ := binding
  cases name with
  | nil =>
    refine run_of_step ?_
    simp only [step?, next]
    rfl
  | cons component names =>
    rw [← run_visit deeper component names kind]
    refine run_of_step ?_
    simp only [step?, next]

theorem run_end {frame rest : Frame} {calls : List DirectoryCall}
    (next : frame.next = (none, rest, calls)) (below : List Frame) (t : Trail) :
    run d ⟨t, frame :: below⟩ = run d ⟨{ t with calls := t.calls ++ calls }, below⟩ := by
  refine run_of_step ?_
  simp only [step?, next]

/-- If every frame above a frame is left with the trail of the recursion, so is that frame. -/
theorem unwinds_of_deeper {below : List Frame}
    (deeper : below.length < Limits.walkDepth → ∀ frame, Unwinds d (frame :: below)) :
    Unwinds d below := by
  rintro ⟨context, path, page, iterator⟩ t
  -- On what is left of the frame: the page goes first, and the iterator after it.
  induction page generalizing t with
  | cons binding page ih =>
    rw [run_binding rfl (fun h => deeper h _), ih, Trail.append_nil]
    rfl
  | nil =>
    cases iterator with
    | none =>
      rw [run_end rfl, Trail.append_nil]
      rfl
    | some iterator =>
      obtain ⟨number, bindings, error⟩ := iterator
      induction bindings generalizing t with
      | nil =>
        rw [run_end rfl]
        rfl
      | cons binding bindings ih =>
        rw [run_binding rfl (fun h => deeper h _), ih]
        rfl

theorem unwinds (d : Directory.Course) (below : List Frame)
    (h : below.length ≤ Limits.walkDepth) : Unwinds d below := by
  -- On how many frames may still be put on these.
  induction hroom : Limits.walkDepth - below.length generalizing below with
  | zero => exact unwinds_of_deeper fun hdeeper => by omega
  | succ room ih =>
    refine unwinds_of_deeper fun hdeeper frame => ih (frame :: below) ?_ ?_
    · exact hdeeper
    · rw [List.length_cons]
      omega

end Walk

namespace Directory.Course

/-- The walk over a stack of frames leaves what the recursion leaves. -/
theorem walk_eq_preorder (d : Directory.Course) (root : ContextId) :
    d.walk root = d.preorder root := by
  have hunwinds := Walk.unwinds d [] (Nat.zero_le _)
  have hrun := Walk.run_enter hunwinds root "" Walk.empty.toTrail
  rw [Walk.run_of_stack_nil] at hrun
  unfold walk preorder
  unfold Walk.enter visitContext at hrun ⊢
  dsimp only at hrun ⊢
  cases hlist : (d Walk.empty.calls.size).list root Limits.listPage with
  | error e => rfl
  | ok listing =>
    rw [hlist] at hrun
    exact congrArg (fun w : Walk => (Except.ok w.entries.toList, w.calls.toList)) hrun

theorem preorder_eq_error_iff (d : Directory.Course) (root : ContextId) (e : DirectoryError) :
    (d.preorder root).1 = .error e ↔ (d 0).list root Limits.listPage = .error e := by
  have hlist : (d Walk.empty.calls.size).list root Limits.listPage =
      (d 0).list root Limits.listPage := rfl
  unfold preorder visitContext
  rw [hlist]
  cases (d 0).list root Limits.listPage with
  | error e' => simp
  | ok listing => simp

end Directory.Course

end CallWatch
