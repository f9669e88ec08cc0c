import CallWatch.Naming.Graph
import CallWatch.Proofs.Naming.Tour
import Mathlib.Data.List.Forall2
import Mathlib.Order.WellFounded

/-! How deep a walk goes. No walk takes steps without end, whatever its directory answers, and the
walk below a root never has more than thirty-three frames open. As many names lead to a binding as
frames are open when it is found, so that no entry lies deeper than that. A context as deep as that
is reported, and it is neither resolved nor listed. -/

namespace CallWatch

namespace TopologyEntry

/-- The component that an entry was made for. -/
def component (e : TopologyEntry) : NameComponent :=
  ⟨e.name, e.kind⟩

/-- What is known of an object does not change where its entry stands. -/
theorem place_ofObject (path : String) (c : NameComponent)
    (object : Except DirectoryError RemoteObject) :
    (ofObject path c object).path = path ∧ (ofObject path c object).component = c := by
  unfold ofObject
  dsimp only
  split
  · exact ⟨rfl, rfl⟩
  · split
    · exact ⟨rfl, rfl⟩
    · unfold probed
      split <;> exact ⟨rfl, rfl⟩

end TopologyEntry

/-- Whether a call is one on the way into a context. -/
def DirectoryCall.isDescent : DirectoryCall → Bool
  | resolveContext .. | list .. => true
  | _ => false

theorem Frame.not_isDescent_of_next {f rest : Frame} {given : Option Binding}
    {calls : List DirectoryCall} (next : f.next = (given, rest, calls)) :
    ∀ call ∈ calls, call.isDescent = false := by
  cases next ▸ f.gives_next <;> simp [DirectoryCall.isDescent]

namespace Tour

variable {d : Directory.Course} {root : ContextId} {t u : Tour}

/-- An entry with the names that lead to its binding, which are not too many. -/
structure Leads (chain : List NameComponent) (entry : TopologyEntry) : Prop where
  last : chain.getLast? = some entry.component
  length_le : chain.length ≤ Limits.walkDepth + 1

/-- As many names lead to the top frame as frames are open below it, and they are not too many. -/
structure Shallow (t : Tour) : Prop where
  height : t.walk.stack.length ≤ Limits.walkDepth + 1
  way : t.walk.stack ≠ [] → t.way.length + 1 = t.walk.stack.length
  entries : List.Forall₂ Leads t.chains t.walk.entries.toList

theorem Shallow.call (h : t.Shallow) (c : DirectoryCall) : (t.call c).Shallow :=
  ⟨h.height, h.way, h.entries⟩

theorem Shallow.leave (h : t.Shallow) {frame : Frame} {below : List Frame}
    (stack : t.walk.stack = frame :: below) (calls : List DirectoryCall) :
    (t.leave below calls).Shallow := by
  have hheight := h.height
  have hway := h.way (by simp [stack])
  rw [stack, List.length_cons] at hheight hway
  refine ⟨Nat.le_of_succ_le hheight, fun hopen => ?_, h.entries⟩
  have hpos := List.length_pos_iff.mpr hopen
  simp only [Tour.leave, List.length_tail] at hpos ⊢
  omega

theorem Shallow.take (h : t.Shallow) {binding : Binding} {rest : Frame}
    (takes : t.Takes binding rest u) : u.Shallow ∧ u.walk.stack ≠ [] := by
  cases takes with
  | of_next frame below calls stack next =>
    have hway := h.way (by simp [stack])
    have hheight := h.height
    rw [stack] at hway hheight
    exact ⟨⟨hheight, fun _ => hway, h.entries⟩, by simp⟩

theorem Shallow.report (h : t.Shallow) (hopen : t.walk.stack ≠ []) {component : NameComponent}
    {entry : TopologyEntry} (named : entry.component = component) :
    (t.report component entry).Shallow := by
  refine ⟨h.height, h.way, ?_⟩
  have hlast : Leads (component :: t.way).reverse entry := by
    refine ⟨by simp [named], ?_⟩
    rw [List.length_reverse, List.length_cons, h.way hopen]
    exact h.height
  simp only [Tour.report, Array.toList_push]
  exact List.rel_append h.entries (.cons hlast .nil)

theorem Shallow.enter (h : t.Shallow) (near : t.walk.stack.length ≤ Limits.walkDepth)
    (hopen : t.walk.stack ≠ []) (context : ContextId) (path : String) (component : NameComponent)
    (listing : Listing) : (t.enter context path (component :: t.way) listing).Shallow :=
  ⟨Nat.succ_le_succ near, fun _ => congrArg (· + 1) (h.way hopen), h.entries⟩

theorem Shallow.step (h : t.Shallow) (step : Step d t u) : u.Shallow := by
  cases step with
  | leave frame rest below calls stack next => exact h.leave stack calls
  | skip rest kind takes => exact (h.take takes).1
  | object rest component names takes =>
    obtain ⟨htaken, hopen⟩ := h.take takes
    exact (htaken.report hopen (TopologyEntry.place_ofObject ..).2).call _
  | deep rest component names takes deep =>
    obtain ⟨htaken, hopen⟩ := h.take takes
    exact htaken.report hopen rfl
  | unresolved rest component names takes near e failed =>
    obtain ⟨htaken, hopen⟩ := h.take takes
    exact (htaken.report hopen rfl).call _
  | unlisted rest component names takes near child resolved e failed =>
    obtain ⟨htaken, hopen⟩ := h.take takes
    exact ((htaken.report hopen rfl).call _).call _
  | enter rest component names takes near child resolved listing listed =>
    obtain ⟨htaken, hopen⟩ := h.take takes
    rw [← takes.way_eq]
    exact (((htaken.report hopen rfl).call _).call _).enter near hopen child _ component listing

theorem Reached.shallow (reached : Reached d root t) : t.Shallow := by
  induction reached with
  | start listing listed => exact ⟨Nat.le_add_left 1 _, fun _ => rfl, .nil⟩
  | step _ step ih => exact ih.step step

theorem Takes.not_isDescent {binding : Binding} {rest : Frame} (takes : t.Takes binding rest u) :
    ∀ call ∈ made t u, call.isDescent = false := by
  obtain ⟨frame, below, -, next⟩ := takes.exists_next
  exact Frame.not_isDescent_of_next next

/-- A context is resolved or listed only when it is reported, and not too deep. -/
theorem Shallow.exists_chain_of_descent (h : t.Shallow) (step : Step d t u)
    (descent : ∃ call ∈ made t u, call.isDescent = true) :
    ∃ chain, u.chains = t.chains ++ [chain] ∧ chain.length ≤ Limits.walkDepth := by
  have hnear {v : Tour} {rest : Frame} {component : NameComponent} {names : List NameComponent}
      (takes : t.Takes ⟨component :: names, .context⟩ rest v)
      (near : v.walk.stack.length ≤ Limits.walkDepth) :
      ∃ chain, v.chains ++ [(component :: v.way).reverse] = t.chains ++ [chain] ∧
        chain.length ≤ Limits.walkDepth := by
    obtain ⟨htaken, hopen⟩ := h.take takes
    refine ⟨_, by rw [takes.chains_eq], ?_⟩
    rw [List.length_reverse, List.length_cons, htaken.way hopen]
    exact near
  obtain ⟨call, hmem, hcall⟩ := descent
  cases step with
  | leave frame rest below calls stack next =>
    have hmade : made t (t.leave below calls) = calls := by simp [made, Tour.leave]
    rw [hmade] at hmem
    simp [Frame.not_isDescent_of_next next call hmem] at hcall
  | skip rest kind takes => simp [takes.not_isDescent call hmem] at hcall
  | object rest component names takes =>
    rcases mem_made_call hmem with hmem | rfl
    · simp [takes.not_isDescent call hmem] at hcall
    · simp [DirectoryCall.isDescent] at hcall
  | deep rest component names takes deep => simp [takes.not_isDescent call hmem] at hcall
  | unresolved rest component names takes near e failed => exact hnear takes near
  | unlisted rest component names takes near child resolved e failed => exact hnear takes near
  | enter rest component names takes near child resolved listing listed => exact hnear takes near

/-- No walk takes steps without end, and the walk from a root ends, unless the root cannot be
listed: it comes to a state from which there is no step, and gives the entries and the calls of that
state. It never has more than thirty-three frames open, and each entry that it reports is that of
the last of at most thirty-three names that lead to it from the root. When it finds a context at
that depth, all that it does is report it, and all calls to resolve or list a context are made when
one at a lesser depth is reported. -/
theorem walk_ends (d : Directory.Course) (root : ContextId) :
    (¬∃ states : ℕ → Walk, ∀ i, (states i).step? d = some (states (i + 1))) ∧
    ((∃ e, d.walk root = (.error e, [.list root Limits.listPage])) ∨
      ∃ t, Reached d root t ∧ t.walk.step? d = none ∧
        d.walk root = (.ok t.walk.entries.toList, t.walk.calls.toList)) ∧
    (∀ t, Reached d root t → t.walk.stack.length ≤ 33 ∧
      List.Forall₂ (fun chain entry => chain.getLast? = some entry.component ∧ chain.length ≤ 33)
        t.chains t.walk.entries.toList) ∧
    (∀ t taken rest component names, Reached d root t →
      t.Takes ⟨component :: names, .context⟩ rest taken → (component :: t.way).length = 33 →
      let reported := taken.report component (.bare (rest.childPath component) component .context)
      t.walk.step? d = some reported.walk ∧
        ∀ call ∈ made t reported, call.isDescent = false) ∧
    ∀ t u, Reached d root t → Step d t u → (∃ call ∈ made t u, call.isDescent = true) →
      ∃ chain, u.chains = t.chains ++ [chain] ∧ chain.length ≤ 32 := by
  refine ⟨?_, ?_, ?_, ?_, ?_⟩
  · rintro ⟨states, hstates⟩
    have hwf : IsWellFounded (List ℕ) Walk.Shrinks := ⟨Walk.wellFounded_shrinks⟩
    obtain ⟨i, hi⟩ := WellFounded.not_rel_apply_succ (r := Walk.Shrinks)
      fun i => (states i).left.counts
    exact hi (Walk.shrinks_of_step (hstates i))
  · rcases exists_reached_end d root with ⟨e, -, hwalk⟩ | ⟨t, reached, hstack, hwalk⟩
    · exact .inl ⟨e, hwalk⟩
    · exact .inr ⟨t, reached, step?_eq_none_iff.mpr hstack, hwalk⟩
  · intro t reached
    exact ⟨reached.shallow.height, reached.shallow.entries.imp fun _ _ h => ⟨h.last, h.length_le⟩⟩
  · intro t taken rest component names reached takes hdepth reported
    have hopen := (reached.shallow.take takes)
    have hway := hopen.1.way hopen.2
    rw [takes.way_eq] at hway
    rw [List.length_cons, hway] at hdepth
    have hdeep : Limits.walkDepth < taken.walk.stack.length := by
      rw [hdepth]
      decide
    exact ⟨(Step.deep rest component names takes hdeep).step?_eq, takes.not_isDescent⟩
  · intro t u reached step descent
    exact reached.shallow.exists_chain_of_descent step descent

/-- A context that is bound under itself is found at every depth, and at the last one it is reported
only. -/
theorem walk_ends_of_loop :
    let a : NameComponent := ⟨"a", ""⟩
    let d : Directory.Course := fun _ => .ofNodes
      [⟨[⟨[a], .context (.ok 0)⟩], none, none, false, none⟩]
    ∃ t u, Reached d 0 t ∧ t.walk.step? d = some u.walk ∧
      u.chains = t.chains ++ [List.replicate 33 a] ∧ ∀ call ∈ made t u, call.isDescent = false := by
  intro a d
  have hdown : ∀ n ≤ 32, ∃ t path below, Reached d 0 t ∧ t.way = List.replicate n a ∧
      t.walk.stack = ⟨0, path, [⟨[a], .context⟩], none⟩ :: below := by
    intro n hn
    induction n with
    | zero => exact ⟨_, "", [], .start _ rfl, rfl, rfl⟩
    | succ n ih =>
      obtain ⟨t, path, below, reached, hway, stack⟩ := ih (Nat.le_of_succ_le hn)
      have takes := Takes.of_next _ below [] stack rfl
      have hopen := reached.shallow.way (by simp [stack])
      have near : below.length + 1 ≤ Limits.walkDepth := by
        rw [hway, stack, List.length_replicate, List.length_cons] at hopen
        exact hopen ▸ hn
      refine ⟨_, _, _, reached.step (.enter _ a [] takes near 0 rfl _ rfl), ?_, rfl⟩
      exact congrArg (a :: ·) hway
  obtain ⟨t, path, below, reached, hway, stack⟩ := hdown 32 (Nat.le_refl _)
  have takes := Takes.of_next _ below [] stack rfl
  have hlast := (walk_ends d 0).2.2.2.1 t _ _ a [] reached takes (by rw [hway]; rfl)
  refine ⟨t, _, reached, hlast.1, ?_, hlast.2⟩
  simp [Tour.report, hway]

end Tour

end CallWatch
