import CallWatch.Naming.Walk

/-! Walks, step by step. A tour is a walk under way with the names by which it came to where it is:
those on the way from the root to the context of its top frame, and for each entry the chain of
names from the root to the binding. The names are kept beside the walk and change nothing in it.
`Step` says all that a step can come to, and `Reached` which states a walk from a root comes to; the
walk ends in one of them, in which no frame is open (`exists_reached_end`). -/

namespace CallWatch

/-- All that a frame can come to when its next binding is asked for. -/
inductive Frame.Gives (f : Frame) : Option Binding × Frame × List DirectoryCall → Prop
  | page (binding : Binding) (page : List Binding) (listed : f.page = binding :: page) :
      Gives f (some binding, { f with page }, [])
  | iterator (number : Nat) (overflow : Overflow) (binding : Binding) (bindings : List Binding)
      (seen : f.page = []) (alive : f.iterator = some (number, overflow))
      (left : overflow.bindings = binding :: bindings) :
      Gives f (some binding, { f with iterator := some (number, { overflow with bindings }) },
        [.next f.context number])
  | ended (number : Nat) (overflow : Overflow) (seen : f.page = [])
      (alive : f.iterator = some (number, overflow)) (left : overflow.bindings = []) :
      Gives f (none, { f with iterator := none },
        [.next f.context number, .destroy f.context number])
  | done (seen : f.page = []) (none_alive : f.iterator = none) : Gives f (none, f, [])

theorem Frame.gives_next (f : Frame) : f.Gives f.next := by
  unfold Frame.next
  split
  · next _ binding page hpage => exact .page binding page hpage
  · next hpage hiterator => exact .done hpage hiterator
  · next number overflow hpage hiterator =>
    split
    · next binding bindings hbindings =>
      exact .iterator number overflow binding bindings hpage hiterator hbindings
    · next hbindings => exact .ended number overflow hpage hiterator hbindings

/-- A walk with the names by which it came to where it is. -/
structure Tour where
  walk : Walk
  /-- The names on the way from the root to the top frame, the last one first. -/
  way : List NameComponent
  /-- The names from the root to the binding of each entry. -/
  chains : List (List NameComponent)

namespace Tour

/-- The top frame is left, after some calls. -/
def leave (t : Tour) (below : List Frame) (calls : List DirectoryCall) : Tour :=
  { t with
    walk := { t.walk with stack := below, calls := t.walk.calls ++ calls }
    way := t.way.tail }

def call (t : Tour) (c : DirectoryCall) : Tour :=
  { t with walk := { t.walk with calls := t.walk.calls.push c } }

/-- The entry of a binding in the context of the top frame. -/
def report (t : Tour) (component : NameComponent) (entry : TopologyEntry) : Tour :=
  { t with
    walk := { t.walk with entries := t.walk.entries.push entry }
    chains := t.chains ++ [(component :: t.way).reverse] }

/-- A frame is put on the stack for a context that was listed. -/
def enter (t : Tour) (context : ContextId) (path : String) (way : List NameComponent)
    (listing : Listing) : Tour :=
  { t with
    walk := { t.walk with
      stack := ⟨context, path, listing.page, listing.overflow.map (t.walk.iterators, ·)⟩ ::
        t.walk.stack
      iterators := t.walk.iterators + if listing.overflow.isSome then 1 else 0 }
    way }

/-- The walk takes the next binding of its top frame, after some calls. -/
inductive Takes (t : Tour) (binding : Binding) (rest : Frame) : Tour → Prop
  | of_next (frame : Frame) (below : List Frame) (calls : List DirectoryCall)
      (stack : t.walk.stack = frame :: below) (next : frame.next = (some binding, rest, calls)) :
      Takes t binding rest
        { t with walk := { t.walk with stack := rest :: below, calls := t.walk.calls ++ calls } }

/-- All that a step of a walk can come to. -/
inductive Step (d : Directory.Course) (t : Tour) : Tour → Prop
  | leave (frame rest : Frame) (below : List Frame) (calls : List DirectoryCall)
      (stack : t.walk.stack = frame :: below) (next : frame.next = (none, rest, calls)) :
      Step d t (t.leave below calls)
  | skip {u : Tour} (rest : Frame) (kind : BindingKind) (takes : t.Takes ⟨[], kind⟩ rest u) :
      Step d t u
  | object {u : Tour} (rest : Frame) (component : NameComponent) (names : List NameComponent)
      (takes : t.Takes ⟨component :: names, .object⟩ rest u) :
      Step d t ((u.report component (.ofObject (rest.childPath component) component
        ((d u.walk.calls.size).resolveObject rest.context component))).call
          (.resolveObject rest.context component))
  | deep {u : Tour} (rest : Frame) (component : NameComponent) (names : List NameComponent)
      (takes : t.Takes ⟨component :: names, .context⟩ rest u)
      (deep : Limits.walkDepth < u.walk.stack.length) :
      Step d t (u.report component (.bare (rest.childPath component) component .context))
  | unresolved {u : Tour} (rest : Frame) (component : NameComponent) (names : List NameComponent)
      (takes : t.Takes ⟨component :: names, .context⟩ rest u)
      (near : u.walk.stack.length ≤ Limits.walkDepth) (e : DirectoryError)
      (failed : (d u.walk.calls.size).resolveContext rest.context component = .error e) :
      Step d t ((u.report component (.bare (rest.childPath component) component .context)).call
        (.resolveContext rest.context component))
  | unlisted {u : Tour} (rest : Frame) (component : NameComponent) (names : List NameComponent)
      (takes : t.Takes ⟨component :: names, .context⟩ rest u)
      (near : u.walk.stack.length ≤ Limits.walkDepth) (child : ContextId)
      (resolved : (d u.walk.calls.size).resolveContext rest.context component = .ok child)
      (e : DirectoryError)
      (failed : (d (u.walk.calls.size + 1)).list child Limits.listPage = .error e) :
      Step d t (((u.report component (.bare (rest.childPath component) component .context)).call
        (.resolveContext rest.context component)).call (.list child Limits.listPage))
  | enter {u : Tour} (rest : Frame) (component : NameComponent) (names : List NameComponent)
      (takes : t.Takes ⟨component :: names, .context⟩ rest u)
      (near : u.walk.stack.length ≤ Limits.walkDepth) (child : ContextId)
      (resolved : (d u.walk.calls.size).resolveContext rest.context component = .ok child)
      (listing : Listing)
      (listed : (d (u.walk.calls.size + 1)).list child Limits.listPage = .ok listing) :
      Step d t ((((u.report component (.bare (rest.childPath component) component .context)).call
        (.resolveContext rest.context component)).call (.list child Limits.listPage)).enter child
          (rest.childPath component) (component :: t.way) listing)

/-- The walk from a root that was listed. -/
def start (root : ContextId) (listing : Listing) : Tour :=
  (call ⟨.empty, [], []⟩ (.list root Limits.listPage)).enter root "" [] listing

/-- The states that the walk from a root comes to. -/
inductive Reached (d : Directory.Course) (root : ContextId) : Tour → Prop
  | start (listing : Listing) (listed : (d 0).list root Limits.listPage = .ok listing) :
      Reached d root (start root listing)
  | step {t u : Tour} (reached : Reached d root t) (step : Step d t u) : Reached d root u

/-- The calls that are made between two states of a walk. -/
def made (t u : Tour) : List DirectoryCall :=
  u.walk.calls.toList.drop t.walk.calls.size

variable {d : Directory.Course} {root : ContextId} {t u : Tour}

theorem size_call (t : Tour) (c : DirectoryCall) :
    (t.call c).walk.calls.size = t.walk.calls.size + 1 :=
  Array.size_push ..

theorem mem_made_call {c call : DirectoryCall} (h : call ∈ made t (u.call c)) :
    call ∈ made t u ∨ call = c := by
  simp only [made, Tour.call, Array.toList_push, List.drop_append] at h
  rcases List.mem_append.mp h with h | h
  · exact .inl h
  · exact .inr (List.mem_singleton.mp (List.mem_of_mem_drop h))

/-- The top frame gives a binding with the calls by which it is taken. -/
theorem Takes.exists_next {binding : Binding} {rest : Frame} (takes : t.Takes binding rest u) :
    ∃ frame below, t.walk.stack = frame :: below ∧
      frame.next = (some binding, rest, made t u) := by
  cases takes with
  | of_next frame below calls stack next =>
    refine ⟨frame, below, stack, ?_⟩
    rw [next]
    simp [made]

theorem Takes.way_eq {binding : Binding} {rest : Frame} (takes : t.Takes binding rest u) :
    u.way = t.way := by
  cases takes
  rfl

theorem Takes.chains_eq {binding : Binding} {rest : Frame} (takes : t.Takes binding rest u) :
    u.chains = t.chains := by
  cases takes
  rfl

theorem step?_of_takes {binding : Binding} {rest : Frame} (takes : t.Takes binding rest u) :
    t.walk.step? d = some (match binding.name with
      | [] => u.walk
      | component :: _ => u.walk.visit d rest component binding.kind) := by
  obtain ⟨name, kind⟩ := binding
  cases takes with
  | of_next frame below calls stack next => cases name <;> simp only [Walk.step?, stack, next]

/-- A step of a tour is a step of its walk. -/
theorem Step.step?_eq (step : Step d t u) : t.walk.step? d = some u.walk := by
  cases step with
  | leave frame rest below calls stack next =>
    simp only [Walk.step?, stack, next]
    rfl
  | skip rest kind takes => exact step?_of_takes takes
  | object rest component names takes => exact step?_of_takes takes
  | deep rest component names takes deep =>
    rw [step?_of_takes takes]
    simp only [Walk.visit, if_pos deep]
    rfl
  | unresolved rest component names takes near e failed =>
    rw [step?_of_takes takes]
    simp only [Walk.visit, if_neg (Nat.not_lt.mpr near), Walk.descend, failed]
    rfl
  | unlisted rest component names takes near child resolved e failed =>
    rw [step?_of_takes takes]
    simp only [Walk.visit, if_neg (Nat.not_lt.mpr near), Walk.descend, resolved, Walk.enter,
      Array.size_push, failed]
    rfl
  | enter rest component names takes near child resolved listing listed =>
    rw [step?_of_takes takes]
    simp only [Walk.visit, if_neg (Nat.not_lt.mpr near), Walk.descend, resolved, Walk.enter,
      Array.size_push, listed]
    rfl

/-- A tour goes on as long as a frame is open. -/
theorem exists_step_of_stack_ne_nil (d : Directory.Course) (h : t.walk.stack ≠ []) :
    ∃ u, Step d t u := by
  obtain ⟨frame, below, stack⟩ := List.exists_cons_of_ne_nil h
  obtain ⟨given, rest, calls, next⟩ : ∃ given rest calls, frame.next = (given, rest, calls) :=
    ⟨_, _, _, rfl⟩
  cases given with
  | none => exact ⟨_, .leave frame rest below calls stack next⟩
  | some binding =>
    have takes := Takes.of_next frame below calls stack next
    obtain ⟨name, kind⟩ := binding
    cases name with
    | nil => exact ⟨_, .skip rest kind takes⟩
    | cons component names =>
      cases kind with
      | object => exact ⟨_, .object rest component names takes⟩
      | context =>
        rcases Nat.lt_or_ge Limits.walkDepth (below.length + 1) with deep | near
        · exact ⟨_, .deep rest component names takes deep⟩
        · cases resolved : (d (t.walk.calls ++ calls).size).resolveContext rest.context
            component with
          | error e => exact ⟨_, .unresolved rest component names takes near e resolved⟩
          | ok child =>
            cases listed : (d ((t.walk.calls ++ calls).size + 1)).list child Limits.listPage with
            | error e =>
              exact ⟨_, .unlisted rest component names takes near child resolved e listed⟩
            | ok listing =>
              exact ⟨_, .enter rest component names takes near child resolved listing listed⟩

theorem step?_eq_none_iff : t.walk.step? d = none ↔ t.walk.stack = [] := by
  constructor
  · intro hnone
    cases hstack : t.walk.stack with
    | nil => rfl
    | cons frame below =>
      obtain ⟨u, step⟩ := exists_step_of_stack_ne_nil d (t := t) (by simp [hstack])
      simp [step.step?_eq] at hnone
  · intro h
    simp only [Walk.step?, h]

/-- Every step of a walk is one of its tour. -/
theorem exists_step {w : Walk} (h : t.walk.step? d = some w) : ∃ u, Step d t u ∧ u.walk = w := by
  have hopen : t.walk.stack ≠ [] := fun hnil => by simp [step?_eq_none_iff.mpr hnil] at h
  obtain ⟨u, step⟩ := exists_step_of_stack_ne_nil d hopen
  exact ⟨u, step, Option.some.inj (step.step?_eq.symm.trans h)⟩

/-- From each state that a walk comes to, it comes to one in which no frame is open. -/
theorem Reached.exists_run (reached : Reached d root t) :
    ∃ u, Reached d root u ∧ u.walk = t.walk.run d ∧ u.walk.stack = [] := by
  generalize hw : t.walk = w
  fun_induction Walk.run d w generalizing t with
  | case1 w hnone =>
    subst hw
    exact ⟨t, reached, rfl, step?_eq_none_iff.mp hnone⟩
  | case2 w next hnext _ ih =>
    subst hw
    obtain ⟨u, step, hu⟩ := exists_step hnext
    exact ih (reached.step step) hu

/-- A walk fails at once if its root cannot be listed, and else it ends in a state in which no frame
is open. -/
theorem exists_reached_end (d : Directory.Course) (root : ContextId) :
    (∃ e, (d 0).list root Limits.listPage = .error e ∧
      d.walk root = (.error e, [.list root Limits.listPage])) ∨
    ∃ t, Reached d root t ∧ t.walk.stack = [] ∧
      d.walk root = (.ok t.walk.entries.toList, t.walk.calls.toList) := by
  have hsize : Walk.empty.calls.size = 0 := rfl
  unfold Directory.Course.walk Walk.enter
  rw [hsize]
  cases listed : (d 0).list root Limits.listPage with
  | error e => exact .inl ⟨e, rfl, rfl⟩
  | ok listing =>
    obtain ⟨t, reached, hrun, hstack⟩ := (Reached.start listing listed).exists_run
    refine .inr ⟨t, reached, hstack, ?_⟩
    rw [hrun]
    rfl

end Tour

end CallWatch
