import CallWatch.Naming.Graph
import CallWatch.Proofs.Naming.Tour

/-! The iterators that the listings of a walk hand to it. They are numbered as they are handed out,
and at all times those that are alive are the ones of the open frames. Each is asked for the next
binding until it has none left, when the page of its context has been seen, and it is destroyed
then. -/

namespace CallWatch

namespace DirectoryCall

/-- The number of the iterator that a call is made on. -/
def iterator? : DirectoryCall → Option Nat
  | next _ number | destroy _ number => some number
  | _ => none

/-- The number of the iterator that a call destroys. -/
def destroyed? : DirectoryCall → Option Nat
  | destroy _ number => some number
  | _ => none

/-- The calls on an iterator. -/
def on (number : Nat) (calls : List DirectoryCall) : List DirectoryCall :=
  calls.filter (·.iterator? = some number)

theorem on_append (number : Nat) (calls added : List DirectoryCall) :
    on number (calls ++ added) = on number calls ++ on number added :=
  List.filter_append ..

theorem on_eq_nil {number : Nat} {calls : List DirectoryCall}
    (h : ∀ call ∈ calls, call.iterator? ≠ some number) : on number calls = [] := by
  simpa [on] using h

theorem on_eq_self {number : Nat} {calls : List DirectoryCall}
    (h : ∀ call ∈ calls, call.iterator? = some number) : on number calls = calls := by
  simpa [on] using h

/-- Whether an iterator is destroyed is seen from the calls on it. -/
theorem mem_destroyed_iff {number : Nat} {calls : List DirectoryCall} :
    number ∈ calls.filterMap destroyed? ↔ ∃ context, .destroy context number ∈ on number calls := by
  simp only [List.mem_filterMap, on, List.mem_filter]
  constructor
  · rintro ⟨call, hmem, hcall⟩
    cases call with
    | destroy context _ =>
      obtain rfl := Option.some.inj hcall
      exact ⟨context, hmem, by simp [iterator?]⟩
    | _ => simp [destroyed?] at hcall
  · rintro ⟨context, hmem, -⟩
    exact ⟨_, hmem, rfl⟩

end DirectoryCall

namespace Directory.Course

/-- The iterator that a call hands out, with its context. -/
def handedBy? (d : Directory.Course) (i : Nat) : DirectoryCall → Option (ContextId × Overflow)
  | .list context howMany =>
    match (d i).list context howMany with
    | .ok listing => listing.overflow.map (context, ·)
    | .error _ => none
  | _ => none

/-- The iterators that some calls hand out, by their numbers. -/
def handed (d : Directory.Course) (calls : List DirectoryCall) : List (ContextId × Overflow) :=
  calls.zipIdx.filterMap fun (call, i) => d.handedBy? i call

/-- The iterators that have been handed out and not been destroyed. -/
def alive (d : Directory.Course) (calls : List DirectoryCall) : List Nat :=
  (List.range (d.handed calls).length).filter (· ∉ calls.filterMap DirectoryCall.destroyed?)

theorem handed_concat (d : Directory.Course) (calls : List DirectoryCall) (call : DirectoryCall) :
    d.handed (calls ++ [call]) = d.handed calls ++ (d.handedBy? calls.length call).toList := by
  simp only [handed, List.zipIdx_append, List.filterMap_append]
  cases h : d.handedBy? calls.length call <;> simp [h]

theorem exists_handed_append (d : Directory.Course) (calls added : List DirectoryCall) :
    ∃ more, d.handed (calls ++ added) = d.handed calls ++ more := by
  simp only [handed, List.zipIdx_append, List.filterMap_append]
  exact ⟨_, rfl⟩

/-- No iterator changes its number. -/
theorem handed_append_getElem? {d : Directory.Course} {calls : List DirectoryCall} {number : Nat}
    {given : ContextId × Overflow} (h : (d.handed calls)[number]? = some given)
    (added : List DirectoryCall) : (d.handed (calls ++ added))[number]? = some given := by
  obtain ⟨more, hmore⟩ := d.exists_handed_append calls added
  obtain ⟨hlt, -⟩ := List.getElem?_eq_some_iff.mp h
  rw [hmore, List.getElem?_append_left hlt, h]

end Directory.Course

open Directory.Course DirectoryCall

variable {d : Directory.Course} {root : ContextId} {calls added : List DirectoryCall} {number : Nat}
  {context : ContextId} {rest : Overflow}

/-- After some calls, an iterator that was handed out has given some of its bindings, and it has not
been destroyed. -/
def Overflow.InUse (d : Directory.Course) (calls : List DirectoryCall) (context : ContextId)
    (number : Nat) (rest : Overflow) : Prop :=
  ∃ given, (d.handed calls)[number]? =
      some (context, { rest with bindings := given ++ rest.bindings }) ∧
    on number calls = List.replicate given.length (.next context number)

/-- After some calls, an iterator that was handed out has been asked for each of its bindings and
once more, and then it was destroyed. -/
def Overflow.Spent (d : Directory.Course) (calls : List DirectoryCall) (context : ContextId)
    (number : Nat) (overflow : Overflow) : Prop :=
  (d.handed calls)[number]? = some (context, overflow) ∧
    on number calls =
      List.replicate (overflow.bindings.length + 1) (.next context number) ++
        [.destroy context number]

namespace Overflow

theorem InUse.append (h : InUse d calls context number rest)
    (hadded : on number added = []) : InUse d (calls ++ added) context number rest := by
  obtain ⟨given, hgiven, hon⟩ := h
  refine ⟨given, handed_append_getElem? hgiven added, ?_⟩
  rw [on_append, hadded, List.append_nil, hon]

theorem Spent.append (h : Spent d calls context number rest)
    (hadded : on number added = []) : Spent d (calls ++ added) context number rest := by
  refine ⟨handed_append_getElem? h.1 added, ?_⟩
  rw [on_append, hadded, List.append_nil, h.2]

theorem InUse.next {binding : Binding} {bindings : List Binding}
    (h : InUse d calls context number rest) (hrest : rest.bindings = binding :: bindings) :
    InUse d (calls ++ [.next context number]) context number { rest with bindings } := by
  obtain ⟨given, hgiven, hon⟩ := h
  refine ⟨given ++ [binding], ?_, ?_⟩
  · rw [handed_append_getElem? hgiven, hrest]
    simp
  · rw [on_append, hon, on_eq_self (by simp [iterator?]), List.length_append]
    exact List.replicate_succ'.symm

theorem InUse.ended (h : InUse d calls context number rest) (hrest : rest.bindings = []) :
    ∃ overflow, Spent d (calls ++ [.next context number, .destroy context number]) context number
      overflow := by
  obtain ⟨given, hgiven, hon⟩ := h
  refine ⟨_, handed_append_getElem? hgiven _, ?_⟩
  rw [on_append, hon, on_eq_self (by simp [iterator?]), hrest, List.append_nil,
    List.replicate_succ', List.append_assoc]
  rfl

theorem InUse.not_destroyed (h : InUse d calls context number rest) :
    number ∉ calls.filterMap destroyed? := by
  obtain ⟨given, -, hon⟩ := h
  rw [mem_destroyed_iff, hon]
  simp

theorem Spent.destroyed (h : Spent d calls context number rest) :
    number ∈ calls.filterMap destroyed? := by
  rw [mem_destroyed_iff, h.2]
  exact ⟨context, by simp⟩

end Overflow

/-- The number of the iterator of a frame, while it is alive. -/
def Frame.number? (f : Frame) : Option Nat :=
  f.iterator.map (·.1)

theorem Frame.mem_numbers_iff {frames : List Frame} :
    number ∈ frames.filterMap Frame.number? ↔
      ∃ f ∈ frames, ∃ rest, f.iterator = some (number, rest) := by
  simp [List.mem_filterMap, Frame.number?, Option.map_eq_some_iff]

theorem Frame.on_eq_nil {f : Frame} (hcalls : ∀ call ∈ calls, call.iterator? = f.number?)
    (h : number ∉ [f].filterMap Frame.number?) : on number calls = [] :=
  DirectoryCall.on_eq_nil fun call hmem hnumber =>
    h (List.mem_filterMap.mpr ⟨f, List.mem_singleton_self f, hcalls call hmem ▸ hnumber⟩)

namespace Tour

variable {t u : Tour}

/-- The iterators of the open frames are in use, all different, and those of other frames are
spent. -/
structure Kept (d : Directory.Course) (t : Tour) : Prop where
  count : t.walk.iterators = (d.handed t.walk.calls.toList).length
  apart : (t.walk.stack.filterMap Frame.number?).Nodup
  inUse : ∀ frame ∈ t.walk.stack, ∀ number rest, frame.iterator = some (number, rest) →
    rest.InUse d t.walk.calls.toList frame.context number
  spent : ∀ number < t.walk.iterators, number ∉ t.walk.stack.filterMap Frame.number? →
    ∃ context overflow, Overflow.Spent d t.walk.calls.toList context number overflow
  unknown : ∀ number, t.walk.iterators ≤ number → on number t.walk.calls.toList = []

theorem Kept.exists_inUse (h : Kept d t) (hmem : number ∈ t.walk.stack.filterMap Frame.number?) :
    ∃ context rest, Overflow.InUse d t.walk.calls.toList context number rest := by
  obtain ⟨frame, hframe, rest, hiterator⟩ := Frame.mem_numbers_iff.mp hmem
  exact ⟨_, rest, h.inUse frame hframe number rest hiterator⟩

theorem Kept.lt (h : Kept d t) (hmem : number ∈ t.walk.stack.filterMap Frame.number?) :
    number < t.walk.iterators := by
  obtain ⟨_, _, given, hgiven, -⟩ := h.exists_inUse hmem
  rw [h.count]
  exact (List.getElem?_eq_some_iff.mp hgiven).1

/-- What some open frames come to leaves the iterators of all others alone. -/
theorem Kept.replace (h : Kept d t) (before after : List Frame) (added : List DirectoryCall)
    {below : List Frame} (stack : t.walk.stack = before ++ below)
    (stack' : u.walk.stack = after ++ below)
    (calls : u.walk.calls.toList = t.walk.calls.toList ++ added)
    (iterators : u.walk.iterators = t.walk.iterators)
    (quiet : d.handed (t.walk.calls.toList ++ added) = d.handed t.walk.calls.toList)
    (numbers : (after.filterMap Frame.number?).Sublist (before.filterMap Frame.number?))
    (others : ∀ number ∉ before.filterMap Frame.number?, on number added = [])
    (inUse : ∀ frame ∈ after, ∀ number rest, frame.iterator = some (number, rest) →
      rest.InUse d (t.walk.calls.toList ++ added) frame.context number)
    (spent : ∀ number ∈ before.filterMap Frame.number?, number ∉ after.filterMap Frame.number? →
      ∃ context overflow,
        Overflow.Spent d (t.walk.calls.toList ++ added) context number overflow) :
    Kept d u := by
  have happart := h.apart
  rw [stack, List.filterMap_append] at happart
  constructor
  case count => rw [iterators, calls, quiet, h.count]
  case apart =>
    rw [stack', List.filterMap_append]
    exact happart.sublist (numbers.append (.refl _))
  case inUse =>
    intro frame hmem number rest hiterator
    rw [calls]
    rw [stack'] at hmem
    rcases List.mem_append.mp hmem with hmem | hmem
    · exact inUse frame hmem number rest hiterator
    -- No iterator belongs to two frames, so that those below are not touched.
    · have hbelow := Frame.mem_numbers_iff.mpr ⟨frame, hmem, rest, hiterator⟩
      refine (h.inUse frame (by simp [stack, hmem]) number rest hiterator).append (others _ ?_)
      exact fun hbefore => (List.nodup_append.mp happart).2.2 _ hbefore _ hbelow rfl
  case spent =>
    intro number hlt hclosed
    rw [stack', List.filterMap_append, List.mem_append, not_or] at hclosed
    rw [calls]
    by_cases hbefore : number ∈ before.filterMap Frame.number?
    · exact spent number hbefore hclosed.1
    · obtain ⟨context, overflow, hspent⟩ := h.spent number (iterators ▸ hlt) (by
        rw [stack, List.filterMap_append, List.mem_append, not_or]
        exact ⟨hbefore, hclosed.2⟩)
      exact ⟨context, overflow, hspent.append (others number hbefore)⟩
  case unknown =>
    intro number hle
    rw [iterators] at hle
    have hbefore : number ∉ before.filterMap Frame.number? := fun hmem => by
      have hopen : number ∈ t.walk.stack.filterMap Frame.number? := by
        rw [stack, List.filterMap_append]
        exact List.mem_append_left _ hmem
      exact Nat.not_lt.mpr hle (h.lt hopen)
    rw [calls, on_append, h.unknown number hle, others number hbefore]
    rfl

theorem Kept.report (h : Kept d t) (component : NameComponent) (entry : TopologyEntry) :
    Kept d (t.report component entry) :=
  ⟨h.count, h.apart, h.inUse, h.spent, h.unknown⟩

theorem Kept.call (h : Kept d t) {c : DirectoryCall} (hnumber : c.iterator? = none)
    (hnone : d.handedBy? t.walk.calls.size c = none) : Kept d (t.call c) := by
  refine h.replace [] [] [c] rfl rfl (by simp [Tour.call]) rfl ?_ .slnil
    (fun number _ => on_eq_nil (by simp [hnumber])) (by simp) (by simp)
  rw [handed_concat, Array.length_toList, hnone]
  simp

theorem Kept.take {binding : Binding} {rest : Frame} (h : Kept d t)
    (takes : t.Takes binding rest u) : Kept d u := by
  cases takes with
  | of_next frame below calls stack next =>
    cases next ▸ frame.gives_next with
    | page binding page listed =>
      refine h.replace [frame] [{ frame with page }] [] stack rfl (by simp) rfl (by simp) (.refl _)
        (fun _ _ => rfl) ?_ fun number hmem hnot => absurd hmem hnot
      intro f hf number rest hiterator
      obtain rfl := List.mem_singleton.mp hf
      rw [List.append_nil]
      exact h.inUse frame (by simp [stack]) number rest hiterator
    | iterator number overflow binding bindings seen alive left =>
      have hnumber : frame.number? = some number := by rw [Frame.number?, alive]; rfl
      have hinUse := h.inUse frame (by simp [stack]) number overflow alive
      let rest : Frame := { frame with iterator := some (number, { overflow with bindings }) }
      have hsame : [rest].filterMap Frame.number? = [frame].filterMap Frame.number? := by
        rw [List.filterMap_cons_some hnumber]
        rfl
      refine h.replace [frame] [rest] [.next frame.context number] stack rfl (by simp) rfl ?_
        (hsame ▸ .refl _) ?_ ?_ fun other hmem hnot => absurd (hsame ▸ hmem) hnot
      · simp [handed_concat, handedBy?]
      · exact fun _ => Frame.on_eq_nil (by simp [iterator?, hnumber])
      · intro f hf _ _ hiterator
        obtain rfl := List.mem_singleton.mp hf
        obtain ⟨rfl, rfl⟩ := Prod.mk.inj (Option.some.inj hiterator)
        exact hinUse.next left

theorem Kept.leave (h : Kept d t) {frame rest : Frame} {below : List Frame}
    {calls : List DirectoryCall} (stack : t.walk.stack = frame :: below)
    (next : frame.next = (none, rest, calls)) : Kept d (t.leave below calls) := by
  cases next ▸ frame.gives_next with
  | done seen none_alive =>
    have hnumber : frame.number? = none := by rw [Frame.number?, none_alive]; rfl
    refine h.replace [frame] [] [] stack rfl
      (by simp [Tour.leave]) rfl (by simp) (by simp) (fun _ _ => rfl) (by simp) ?_
    simp [hnumber]
  | ended number overflow seen alive left =>
    have hnumber : frame.number? = some number := by rw [Frame.number?, alive]; rfl
    have hinUse := h.inUse frame (by simp [stack]) number overflow alive
    refine h.replace [frame] []
      [.next frame.context number, .destroy frame.context number] stack rfl
      (by simp [Tour.leave]) rfl ?_ (by simp) ?_ (by simp) ?_
    · rw [List.append_cons, handed_concat, handed_concat]
      simp [handedBy?]
    · exact fun _ => Frame.on_eq_nil (by simp [iterator?, hnumber])
    · intro other hother _
      obtain rfl : other = number := by simpa [hnumber] using hother
      exact ⟨_, hinUse.ended left⟩

/-- An iterator that is handed out gets a number that no other one has. -/
theorem Kept.hand (h : Kept d t) (frame : Frame) {overflow : Overflow} {c : DirectoryCall}
    (stack : u.walk.stack = frame :: t.walk.stack)
    (alive : frame.iterator = some (t.walk.iterators, overflow))
    (calls : u.walk.calls.toList = t.walk.calls.toList ++ [c])
    (iterators : u.walk.iterators = t.walk.iterators + 1) (hnumber : c.iterator? = none)
    (hands : d.handedBy? t.walk.calls.size c = some (frame.context, overflow)) : Kept d u := by
  have hnumbers : u.walk.stack.filterMap Frame.number? =
      t.walk.iterators :: t.walk.stack.filterMap Frame.number? := by
    rw [stack, List.filterMap_cons_some (by rw [Frame.number?, alive]; rfl)]
  have hhanded : d.handed u.walk.calls.toList =
      d.handed t.walk.calls.toList ++ [(frame.context, overflow)] := by
    rw [calls, handed_concat, Array.length_toList, hands]
    rfl
  have hon (number : Nat) : on number [c] = [] := on_eq_nil (by simp [hnumber])
  constructor
  case count => rw [iterators, hhanded, List.length_append, h.count, List.length_singleton]
  case apart =>
    rw [hnumbers]
    exact List.nodup_cons.mpr ⟨fun hmem => Nat.lt_irrefl _ (h.lt hmem), h.apart⟩
  case inUse =>
    intro f hmem number rest hiterator
    rw [stack] at hmem
    rcases List.mem_cons.mp hmem with rfl | hmem
    · obtain ⟨rfl, rfl⟩ := Prod.mk.inj (Option.some.inj (alive.symm.trans hiterator))
      refine ⟨[], ?_, ?_⟩
      · rw [hhanded, h.count]
        exact List.getElem?_concat_length
      · rw [calls, on_append, h.unknown _ (Nat.le_refl _), hon]
        rfl
    · rw [calls]
      exact (h.inUse f hmem number rest hiterator).append (hon number)
  case spent =>
    intro number hlt hclosed
    rw [hnumbers, List.mem_cons, not_or] at hclosed
    obtain ⟨context, overflow, hspent⟩ := h.spent number (by omega) hclosed.2
    rw [calls]
    exact ⟨context, overflow, hspent.append (hon number)⟩
  case unknown =>
    intro number hle
    rw [calls, on_append, h.unknown number (by omega), hon]
    rfl

theorem Kept.enter (h : Kept d t) {context : ContextId} {listing : Listing}
    (listed : (d t.walk.calls.size).list context Limits.listPage = .ok listing) (path : String)
    (way : List NameComponent) :
    Kept d ((t.call (.list context Limits.listPage)).enter context path way listing) := by
  have hby : d.handedBy? t.walk.calls.size (.list context Limits.listPage) =
      listing.overflow.map (context, ·) := by
    simp only [handedBy?, listed]
  cases hoverflow : listing.overflow with
  | none =>
    refine (h.call rfl (by rw [hby, hoverflow]; rfl)).replace []
      [⟨context, path, listing.page, none⟩] [] rfl ?_ (by simp [Tour.enter]) ?_ (by simp) .slnil
      (fun _ _ => rfl) (by simp) (by simp)
    · simp [Tour.enter, Tour.call, hoverflow]
    · simp [Tour.enter, hoverflow]
  | some overflow =>
    -- The call and the frame are taken together: between them, the iterator belongs to no frame.
    refine h.hand ⟨context, path, listing.page, some (t.walk.iterators, overflow)⟩
      (c := .list context Limits.listPage) ?_ rfl ?_ ?_ rfl (by rw [hby, hoverflow]; rfl)
    · simp [Tour.enter, Tour.call, hoverflow]
    · simp [Tour.enter, Tour.call]
    · simp [Tour.enter, Tour.call, hoverflow]

theorem Kept.step (h : Kept d t) (step : Step d t u) : Kept d u := by
  cases step with
  | leave frame rest below calls stack next => exact h.leave stack next
  | skip rest kind takes => exact h.take takes
  | object rest component names takes => exact ((h.take takes).report ..).call rfl rfl
  | deep rest component names takes deep => exact (h.take takes).report ..
  | unresolved rest component names takes near e failed =>
    exact ((h.take takes).report ..).call rfl rfl
  | @unlisted taken rest component names takes near child resolved e failed =>
    refine (((h.take takes).report ..).call rfl rfl).call rfl ?_
    rw [size_call]
    simp only [handedBy?, Tour.report, failed]
  | enter rest component names takes near child resolved listing listed =>
    exact (((h.take takes).report ..).call rfl rfl).enter (by rw [size_call]; exact listed) ..

theorem Reached.kept (reached : Reached d root t) : Kept d t := by
  induction reached with
  | start listing listed =>
    have hempty : Kept d ⟨.empty, [], []⟩ :=
      ⟨rfl, .nil, by simp [Walk.empty], by simp [Walk.empty], fun _ _ => rfl⟩
    exact hempty.enter listed ..
  | step _ step ih => exact ih.step step

theorem Kept.alive_perm (h : Kept d t) :
    (d.alive t.walk.calls.toList).Perm (t.walk.stack.filterMap Frame.number?) := by
  refine (List.perm_ext_iff_of_nodup (List.nodup_range.filter _) h.apart).mpr fun number => ?_
  simp only [List.mem_filter, List.mem_range, ← h.count, decide_eq_true_eq]
  constructor
  · rintro ⟨hlt, hnot⟩
    by_cases hopen : number ∈ t.walk.stack.filterMap Frame.number?
    · exact hopen
    · obtain ⟨_, _, hspent⟩ := h.spent number hlt hopen
      exact absurd hspent.destroyed hnot
  · intro hopen
    obtain ⟨_, _, hinUse⟩ := h.exists_inUse hopen
    exact ⟨h.lt hopen, hinUse.not_destroyed⟩

/-- Calls on an iterator are made only when the top frame is asked for its next binding. -/
theorem Step.mem_next (step : Step d t u) {call : DirectoryCall} (hmem : call ∈ made t u)
    (hnumber : call.iterator? ≠ none) :
    ∃ frame below, t.walk.stack = frame :: below ∧ call ∈ frame.next.2.2 := by
  have htake {v : Tour} {binding : Binding} {rest : Frame} (takes : t.Takes binding rest v)
      (hmem : call ∈ made t v) :
      ∃ frame below, t.walk.stack = frame :: below ∧ call ∈ frame.next.2.2 := by
    obtain ⟨frame, below, stack, next⟩ := takes.exists_next
    exact ⟨frame, below, stack, next ▸ hmem⟩
  have hquiet {v : Tour} {c : DirectoryCall} (hnone : c.iterator? = none)
      (hmem : call ∈ made t (v.call c)) : call ∈ made t v :=
    (mem_made_call hmem).resolve_right fun heq => hnumber (heq ▸ hnone)
  cases step with
  | leave frame rest below calls stack next =>
    have hmade : made t (t.leave below calls) = calls := by simp [made, Tour.leave]
    exact ⟨frame, below, stack, next ▸ hmade ▸ hmem⟩
  | skip rest kind takes => exact htake takes hmem
  | object rest component names takes => exact htake takes (hquiet rfl hmem)
  | deep rest component names takes deep => exact htake takes hmem
  | unresolved rest component names takes near e failed => exact htake takes (hquiet rfl hmem)
  | unlisted rest component names takes near child resolved e failed =>
    exact htake takes (hquiet rfl (hquiet rfl hmem))
  | enter rest component names takes near child resolved listing listed =>
    exact htake takes (hquiet rfl (hquiet rfl hmem))

/-- A frame uses no iterator but its own, and only when its page has been seen. -/
theorem Step.exists_frame (step : Step d t u) {call : DirectoryCall} (hmem : call ∈ made t u)
    (hnumber : call.iterator? = some number) :
    ∃ frame below rest, t.walk.stack = frame :: below ∧ frame.page = [] ∧
      frame.iterator = some (number, rest) := by
  obtain ⟨frame, below, stack, hcall⟩ := step.mem_next hmem (by simp [hnumber])
  refine ⟨frame, below, ?_⟩
  have hgives := frame.gives_next
  generalize frame.next = given at hgives hcall
  cases hgives with
  | page | done => cases hcall
  | iterator other overflow binding bindings seen alive left =>
    obtain rfl := List.mem_singleton.mp hcall
    obtain rfl : other = number := Option.some.inj hnumber
    exact ⟨overflow, stack, seen, alive⟩
  | ended other overflow seen alive left =>
    obtain rfl : other = number := by
      rcases List.mem_cons.mp hcall with rfl | hcall
      · exact Option.some.inj hnumber
      · obtain rfl := List.mem_singleton.mp hcall
        exact Option.some.inj hnumber
    exact ⟨overflow, stack, seen, alive⟩

/-- Whatever the directory answers to each call, each iterator that a listing hands to a walk is
asked for its bindings, one after another, and once more, which is when it has none left or fails;
then it is destroyed, and no other call is made on it. In each state of the walk, the iterators that
are alive are those of the open frames, one at most for each of them, and the calls of a step are on
no iterator but that of the top frame, of whose page no binding is left. -/
theorem iterators_destroyed_once (d : Directory.Course) (root : ContextId) :
    (∀ number context overflow,
      (d.handed (d.walk root).2)[number]? = some (context, overflow) →
        on number (d.walk root).2 =
          List.replicate (overflow.bindings.length + 1) (.next context number) ++
            [.destroy context number]) ∧
    (∀ number, (d.handed (d.walk root).2).length ≤ number → on number (d.walk root).2 = []) ∧
    ∀ t, Reached d root t →
      (d.alive t.walk.calls.toList).Perm (t.walk.stack.filterMap Frame.number?) ∧
      ∀ u, Step d t u → ∀ call ∈ made t u, ∀ number, call.iterator? = some number →
        ∃ frame below rest, t.walk.stack = frame :: below ∧ frame.page = [] ∧
          frame.iterator = some (number, rest) := by
  refine ⟨?_, ?_, fun t reached => ⟨reached.kept.alive_perm, ?_⟩⟩
  · intro number context overflow hhanded
    rcases exists_reached_end d root with ⟨e, failed, hwalk⟩ | ⟨t, reached, hstack, hwalk⟩
    · simp [hwalk, handed, handedBy?, failed] at hhanded
    · simp only [hwalk] at hhanded ⊢
      have hkept := reached.kept
      obtain ⟨hlt, -⟩ := List.getElem?_eq_some_iff.mp hhanded
      obtain ⟨_, _, hsome, hon⟩ := hkept.spent number (hkept.count ▸ hlt) (by simp [hstack])
      obtain ⟨rfl, rfl⟩ := Prod.mk.inj (Option.some.inj (hhanded.symm.trans hsome))
      exact hon
  · intro number hle
    rcases exists_reached_end d root with ⟨e, failed, hwalk⟩ | ⟨t, reached, hstack, hwalk⟩
    · rw [hwalk]
      exact on_eq_nil (by simp [iterator?])
    · simp only [hwalk] at hle ⊢
      exact reached.kept.unknown number (reached.kept.count ▸ hle)
  · intro u step call hmem number hnumber
    exact step.exists_frame hmem hnumber

/-- The iterator of a context and that of a context below it, of which the first one fails. -/
theorem iterators_destroyed_once_of_nested :
    let component : NameComponent := ⟨"a", ""⟩
    let failed : DirectoryError := .callFailed "lost"
    let d : Directory.Course := fun _ => .ofNodes
      [⟨[⟨[component], .context (.ok 1)⟩], some 0, none, false, some (1, failed)⟩,
        ⟨[⟨[], .context (.ok 0)⟩], some 0, none, false, none⟩]
    (d.walk 0).2 = [.list 0 1000, .next 0 0, .resolveContext 0 component, .list 1 1000,
      .next 1 1, .next 1 1, .destroy 1 1, .next 0 0, .destroy 0 0] ∧
    d.handed (d.walk 0).2 = [(0, ⟨[⟨[component], .context⟩], some failed⟩),
      (1, ⟨[⟨[], .context⟩], none⟩)] ∧
    on 0 (d.walk 0).2 = [.next 0 0, .next 0 0, .destroy 0 0] ∧
    on 1 (d.walk 0).2 = [.next 1 1, .next 1 1, .destroy 1 1] := by
  intro component failed d
  have hcalls : (d.walk 0).2 = [.list 0 1000, .next 0 0, .resolveContext 0 component, .list 1 1000,
      .next 1 1, .next 1 1, .destroy 1 1, .next 0 0, .destroy 0 0] := by
    simp [Directory.Course.walk, Walk.enter, Walk.run, Walk.step?, Frame.next, d, Walk.empty,
      Directory.ofNodes, Node.list, Node.overflow, component, Limits.listPage,
      Walk.visit, Walk.descend, Limits.walkDepth, Node.find?, BindingTarget.kind]
  have hhanded : d.handed (d.walk 0).2 = [(0, ⟨[⟨[component], .context⟩], some failed⟩),
      (1, ⟨[⟨[], .context⟩], none⟩)] := by
    rw [hcalls]
    rfl
  have hend := (iterators_destroyed_once d 0).1
  rw [hhanded] at hend
  exact ⟨hcalls, hhanded, hend 0 _ _ rfl, hend 1 _ _ rfl⟩

end Tour

end CallWatch
