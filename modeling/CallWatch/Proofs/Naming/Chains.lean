import CallWatch.Proofs.Naming.Depth

/-! The paths of entries. Each is the chain of names that leads to its binding, joined by slashes,
from the first name on whose segment is not empty. A context with an empty path is taken for the
root by what is bound in it, so that empty segments at the start of a chain leave no trace, and
neither do their slashes. -/

namespace CallWatch

namespace NameComponent

/-- The segments of a chain, joined by slashes. -/
def joined (chain : List NameComponent) : String :=
  "/".intercalate (chain.map segment)

/-- A chain from its first component on whose segment is not empty. -/
def named (chain : List NameComponent) : List NameComponent :=
  chain.dropWhile (·.segment = "")

/-- No id and no kind in a chain has a slash in it. -/
def Unslashed (chain : List NameComponent) : Prop :=
  ∀ c ∈ chain, '/' ∉ c.id.toList ∧ '/' ∉ c.kind.toList

variable {c : NameComponent} {chain other : List NameComponent}

theorem named_cons_of_ne (h : c.segment ≠ "") : named (c :: chain) = c :: chain := by
  simp [named, h]

theorem named_cons_of_eq (h : c.segment = "") : named (c :: chain) = named chain := by
  simp [named, h]

theorem named_eq_self (h : ∀ first ∈ chain.head?, first.segment ≠ "") : named chain = chain := by
  cases chain with
  | nil => rfl
  | cons first below => exact named_cons_of_ne (h first rfl)

theorem Unslashed.named (h : Unslashed chain) : Unslashed (named chain) :=
  fun c hmem => h c ((List.dropWhile_suffix _).mem hmem)

theorem joined_concat (h : chain ≠ []) (c : NameComponent) :
    joined (chain ++ [c]) = joined chain ++ "/" ++ c.segment := by
  rw [joined, List.map_append, List.map_singleton,
    String.intercalate_append_of_ne_nil (by simpa using h) (List.cons_ne_nil _ _),
    String.intercalate_singleton]
  rfl

theorem joined_cons (h : chain ≠ []) (c : NameComponent) :
    joined (c :: chain) = c.segment ++ "/" ++ joined chain := by
  rw [joined, List.map_cons, String.intercalate_cons_of_ne_nil (by simpa using h)]
  rfl

@[simp] theorem joined_nil : joined [] = "" :=
  String.intercalate_nil

@[simp] theorem joined_singleton (c : NameComponent) : joined [c] = c.segment :=
  String.intercalate_singleton

theorem joined_named_eq_empty_iff : joined (named chain) = "" ↔ named chain = [] := by
  induction chain with
  | nil => exact ⟨fun _ => rfl, fun _ => joined_nil⟩
  | cons c chain ih =>
    by_cases hc : c.segment = ""
    · rw [named_cons_of_eq hc]
      exact ih
    · rw [named_cons_of_ne hc]
      cases chain with
      | nil => simp [hc]
      | cons b rest => simp [joined_cons, hc]

/-- The path of a binding is found from that of its context. -/
theorem joined_named_concat (chain : List NameComponent) (c : NameComponent) :
    joined (named (chain ++ [c])) =
      if joined (named chain) = "" then c.segment else joined (named chain) ++ "/" ++ c.segment := by
  simp only [joined_named_eq_empty_iff]
  induction chain with
  | nil =>
    rw [if_pos (show named [] = [] from rfl), List.nil_append]
    by_cases hc : c.segment = ""
    · rw [named_cons_of_eq hc, hc]
      exact joined_nil
    · rw [named_cons_of_ne hc, joined_singleton]
  | cons b chain ih =>
    rw [List.cons_append]
    by_cases hb : b.segment = ""
    · rw [named_cons_of_eq hb, named_cons_of_eq hb]
      exact ih
    · rw [named_cons_of_ne hb, named_cons_of_ne hb, if_neg (List.cons_ne_nil _ _),
        ← List.cons_append, joined_concat (List.cons_ne_nil _ _)]

theorem length_joined_named_le (chain : List NameComponent) :
    (joined (named chain)).length ≤ (joined chain).length := by
  induction chain with
  | nil => exact Nat.le_refl _
  | cons c chain ih =>
    by_cases hc : c.segment = ""
    · rw [named_cons_of_eq hc]
      cases chain with
      | nil => simp [named]
      | cons b rest =>
        rw [joined_cons (List.cons_ne_nil _ _), String.length_append]
        omega
    · rw [named_cons_of_ne hc]

/-- Nothing is lost at the start of a chain unless a slash is. -/
theorem joined_named_eq_iff (c : NameComponent) (chain : List NameComponent) :
    joined (named (c :: chain)) = joined (c :: chain) ↔ c.segment ≠ "" ∨ chain = [] := by
  by_cases hc : c.segment = ""
  · cases chain with
    | nil => simp [named, hc]
    | cons b rest =>
      -- The two differ in length only: an id may begin with a slash.
      have hle := length_joined_named_le (b :: rest)
      have hne : joined (named (b :: rest)) ≠ joined (c :: b :: rest) := fun heq => by
        rw [heq, joined_cons (List.cons_ne_nil _ _), String.length_append, String.length_append]
          at hle
        have hslash : "/".length = 1 := rfl
        omega
      simp [named_cons_of_eq hc, hc, hne]
  · simp [named_cons_of_ne hc, hc]

theorem slash_not_mem_segment (h : '/' ∉ c.id.toList ∧ '/' ∉ c.kind.toList) :
    '/' ∉ c.segment.toList := by
  unfold segment
  split
  · exact h.1
  · simp [h.1, h.2]

/-- Where there are no slashes in the segments, they are found in what is joined from them. -/
theorem joined_inj (h : Unslashed chain) (hother : Unslashed other) (hne : chain ≠ [])
    (hne' : other ≠ []) (heq : joined chain = joined other) :
    chain.map segment = other.map segment := by
  have hsplit {l : List NameComponent} (hl : Unslashed l) (hnil : l ≠ []) :
      (joined l).toList.splitOn '/' = (l.map segment).map String.toList := by
    rw [joined, String.toList_intercalate]
    refine List.splitOn_intercalate '/' ?_ (by simpa using hnil)
    intro chars hmem
    simp only [List.map_map, List.mem_map] at hmem
    obtain ⟨c, hc, rfl⟩ := hmem
    exact slash_not_mem_segment (hl c hc)
  have hmap := hsplit hother hne'
  rw [← heq, hsplit h hne] at hmap
  exact List.map_injective_iff.mpr (fun _ _ => String.toList_injective) hmap

/-- Two chains without slashes have the same path just if they have the same segments from the
first one on that is not empty. -/
theorem joined_named_inj (h : Unslashed chain) (hother : Unslashed other) :
    joined (named chain) = joined (named other) ↔
      (named chain).map segment = (named other).map segment := by
  constructor
  · intro heq
    by_cases hnil : named chain = []
    · rw [joined_named_eq_empty_iff.mpr hnil, eq_comm, joined_named_eq_empty_iff] at heq
      rw [hnil, heq]
    · have hnil' : named other ≠ [] := fun h =>
        hnil (joined_named_eq_empty_iff.mp (heq.trans (joined_named_eq_empty_iff.mpr h)))
      exact joined_inj h.named hother.named hnil hnil' heq
  · intro heq
    rw [joined, heq, joined]

end NameComponent

open NameComponent

theorem Frame.path_of_next {f rest : Frame} {given : Option Binding} {calls : List DirectoryCall}
    (next : f.next = (given, rest, calls)) : rest.path = f.path := by
  cases next ▸ f.gives_next <;> rfl

namespace Tour

variable {d : Directory.Course} {root : ContextId} {t u : Tour}

/-- The path of each frame is that of the names on the way to it. -/
def Spelled : List Frame → List NameComponent → Prop
  | [], _ => True
  | frame :: below, way =>
    frame.path = joined (named way.reverse) ∧ Spelled below way.tail

/-- The paths of the open frames and of all entries are found from the names that lead to them. -/
structure Signed (t : Tour) : Prop where
  frames : Spelled t.walk.stack t.way
  entries : List.Forall₂ (fun chain entry => entry.path = joined (named chain)) t.chains
    t.walk.entries.toList

theorem Signed.call (h : t.Signed) (c : DirectoryCall) : (t.call c).Signed :=
  ⟨h.frames, h.entries⟩

theorem Signed.leave (h : t.Signed) {frame : Frame} {below : List Frame}
    (stack : t.walk.stack = frame :: below) (calls : List DirectoryCall) :
    (t.leave below calls).Signed := by
  have hframes := h.frames
  rw [stack] at hframes
  exact ⟨hframes.2, h.entries⟩

/-- The path of a binding that is taken is found from the names that lead to it. -/
theorem Signed.take (h : t.Signed) {binding : Binding} {rest : Frame}
    (takes : t.Takes binding rest u) : u.Signed ∧
      ∀ component, rest.childPath component = joined (named (component :: u.way).reverse) := by
  cases takes with
  | of_next frame below calls stack next =>
    obtain ⟨hpath, hbelow⟩ : Spelled (frame :: below) t.way := stack ▸ h.frames
    rw [← Frame.path_of_next next] at hpath
    refine ⟨⟨⟨hpath, hbelow⟩, h.entries⟩, fun component => ?_⟩
    rw [List.reverse_cons, joined_named_concat, ← hpath]
    rfl

theorem Signed.report (h : t.Signed) {component : NameComponent} {entry : TopologyEntry}
    (path : entry.path = joined (named (component :: t.way).reverse)) :
    (t.report component entry).Signed := by
  refine ⟨h.frames, ?_⟩
  simp only [Tour.report, Array.toList_push]
  exact List.rel_append h.entries (.cons path .nil)

theorem Signed.enter (h : t.Signed) {path : String} {component : NameComponent}
    (hpath : path = joined (named (component :: t.way).reverse)) (context : ContextId)
    (listing : Listing) : (t.enter context path (component :: t.way) listing).Signed :=
  ⟨⟨hpath, h.frames⟩, h.entries⟩

theorem Signed.step (h : t.Signed) (step : Step d t u) : u.Signed := by
  cases step with
  | leave frame rest below calls stack next => exact h.leave stack calls
  | skip rest kind takes => exact (h.take takes).1
  | object rest component names takes =>
    obtain ⟨htaken, hpath⟩ := h.take takes
    exact (htaken.report ((TopologyEntry.place_ofObject ..).1.trans (hpath component))).call _
  | deep rest component names takes deep =>
    obtain ⟨htaken, hpath⟩ := h.take takes
    exact htaken.report (hpath component)
  | unresolved rest component names takes near e failed =>
    obtain ⟨htaken, hpath⟩ := h.take takes
    exact (htaken.report (hpath component)).call _
  | unlisted rest component names takes near child resolved e failed =>
    obtain ⟨htaken, hpath⟩ := h.take takes
    exact ((htaken.report (hpath component)).call _).call _
  | enter rest component names takes near child resolved listing listed =>
    obtain ⟨htaken, hpath⟩ := h.take takes
    rw [← takes.way_eq]
    exact (((htaken.report (hpath component)).call _).call _).enter (hpath component) child listing

theorem Reached.signed (reached : Reached d root t) : t.Signed := by
  induction reached with
  | start listing listed => exact ⟨⟨joined_nil.symm, trivial⟩, .nil⟩
  | step _ step ih => exact ih.step step

/-- In each state that a walk comes to, the one in which it ends included, there is a chain of names
for each entry, the last of which is that of the binding, and the path of the entry is the chain
joined by slashes from the first segment on that is not empty. This is the whole chain joined by
slashes just if its first segment is not empty or it has one name only. Where ids and kinds have no
slashes, the same path means the same segments from the first one on that is not empty, so that
chains which start with such a segment and are not equally long have different paths. -/
theorem paths_of_chains (d : Directory.Course) (root : ContextId) :
    ((∃ e, (d.walk root).1 = .error e) ∨ ∃ t, Reached d root t ∧ t.walk.stack = [] ∧
      (d.walk root).1 = .ok t.walk.entries.toList) ∧
    ∀ t, Reached d root t →
      List.Forall₂ (fun chain entry => chain.getLast? = some entry.component ∧
        entry.path = joined (named chain) ∧ ∀ first below, chain = first :: below →
          (entry.path = joined chain ↔ first.segment ≠ "" ∨ below = []))
        t.chains t.walk.entries.toList ∧
      ∀ chain entry, (chain, entry) ∈ t.chains.zip t.walk.entries.toList →
        ∀ chain' entry', (chain', entry') ∈ t.chains.zip t.walk.entries.toList →
          Unslashed chain → Unslashed chain' →
            (entry.path = entry'.path ↔ (named chain).map segment = (named chain').map segment) ∧
            ((∀ first ∈ chain.head?, first.segment ≠ "") →
              (∀ first ∈ chain'.head?, first.segment ≠ "") →
                chain.length ≠ chain'.length → entry.path ≠ entry'.path) := by
  refine ⟨?_, fun t reached => ⟨?_, ?_⟩⟩
  · rcases exists_reached_end d root with ⟨e, -, hwalk⟩ | ⟨t, reached, hstack, hwalk⟩
    · exact .inl ⟨e, by rw [hwalk]⟩
    · exact .inr ⟨t, reached, hstack, by rw [hwalk]⟩
  · have hleads := reached.shallow.entries
    refine List.forall₂_iff_zip.mpr ⟨hleads.length_eq, fun {chain entry} hmem => ?_⟩
    have hpath := List.forall₂_zip reached.signed.entries hmem
    refine ⟨(List.forall₂_zip hleads hmem).last, hpath, ?_⟩
    rintro first below rfl
    rw [hpath]
    exact joined_named_eq_iff first below
  · intro chain entry hmem chain' entry' hmem' hchain hchain'
    have hiff : entry.path = entry'.path ↔
        (named chain).map segment = (named chain').map segment := by
      rw [List.forall₂_zip reached.signed.entries hmem,
        List.forall₂_zip reached.signed.entries hmem']
      exact joined_named_inj hchain hchain'
    refine ⟨hiff, fun hfirst hfirst' hlength heq => hlength ?_⟩
    have hmap := hiff.mp heq
    rw [named_eq_self hfirst, named_eq_self hfirst'] at hmap
    simpa using congrArg List.length hmap

/-- What is bound in a context without a name has the path that it would have in the root. -/
theorem path_of_nameless_context :
    let blank : NameComponent := ⟨"", ""⟩
    let x : NameComponent := ⟨"x", ""⟩
    let unbound : NodeBinding := ⟨[x], .context (.error (.notFound "x"))⟩
    let d : Directory.Course := fun _ => .ofNodes
      [⟨[⟨[blank], .context (.ok 1)⟩, unbound], none, none, false, none⟩,
        ⟨[unbound], none, none, false, none⟩]
    let entries : List TopologyEntry :=
      [.bare "" blank .context, .bare "x" x .context, .bare "x" x .context]
    (d.walk 0).1 = .ok entries ∧
    (∃ t, Reached d 0 t ∧ t.walk.stack = [] ∧ t.walk.entries.toList = entries ∧
      t.chains = [[blank], [blank, x], [x]]) ∧
    joined [blank, x] = "/x" := by
  intro blank x unbound d entries
  refine ⟨?_, ?_, by decide⟩
  · simp [Directory.Course.walk, Walk.enter, Walk.run, Walk.step?, Frame.next, d, Walk.empty,
      Directory.ofNodes, Node.list, Node.overflow, blank, x, unbound, entries, Limits.listPage,
      Walk.visit, Walk.descend, Limits.walkDepth, Node.find?, BindingTarget.kind, Frame.childPath,
      NameComponent.segment]
  · have listed : Reached d 0 _ := .start _ rfl
    have entered := listed.step
      (.enter _ blank [] (.of_next _ _ _ rfl rfl) (by decide) 1 rfl _ rfl)
    have below := entered.step
      (.unresolved _ x [] (.of_next _ _ _ rfl rfl) (by decide) (.notFound "x") rfl)
    have left := below.step (.leave _ _ _ _ rfl rfl)
    have beside := left.step
      (.unresolved _ x [] (.of_next _ _ _ rfl rfl) (by decide) (.notFound "x") rfl)
    have ended := beside.step (.leave _ _ _ _ rfl rfl)
    exact ⟨_, ended, rfl, rfl, rfl⟩

end Tour

end CallWatch
