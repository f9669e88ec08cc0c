import CallWatch.Naming.Graph
import CallWatch.Proofs.Naming.Preorder

/-! The entries of a directory that does not change, by a recursion that passes nothing on from one
binding to the next: those of a context are those of its bindings, one after another, and a binding
of a context is followed by what is below it. -/

namespace CallWatch

/-- All bindings of a listing. -/
def Listing.bindings (l : Listing) : List Binding :=
  l.page ++ l.overflow.elim [] (·.bindings)

namespace Directory

/-- The entries of a binding at a depth, with those below it. -/
def entries (d : Directory) (depth : Nat) (context : ContextId) (path : String)
    (binding : Binding) : List TopologyEntry :=
  match binding.name with
  | [] => []
  | component :: _ =>
    let path := Course.pathBelow path component
    match binding.kind with
    | .object => [Course.objectEntry path component (d.resolveObject context component)]
    | .context =>
      Course.contextEntry path component ::
        if 32 < depth then []
        else
          match d.resolveContext context component with
          | .error _ => []
          | .ok child =>
            match d.list child Limits.listPage with
            | .error _ => []
            | .ok listing => listing.bindings.flatMap (d.entries (depth + 1) child path)
termination_by 33 - depth

theorem entries_foldl {visit : Trail → Binding → Trail} {added : Binding → List TopologyEntry}
    (hvisit : ∀ t binding, (visit t binding).entries.toList = t.entries.toList ++ added binding)
    (bindings : List Binding) (t : Trail) :
    (bindings.foldl visit t).entries.toList = t.entries.toList ++ bindings.flatMap added := by
  induction bindings generalizing t with
  | nil => simp
  | cons binding bindings ih =>
    rw [List.foldl_cons, ih, hvisit, List.flatMap_cons, List.append_assoc]

theorem entries_visitListing {visit : Trail → Binding → Trail}
    {added : Binding → List TopologyEntry}
    (hvisit : ∀ t binding, (visit t binding).entries.toList = t.entries.toList ++ added binding)
    (context : ContextId) (listing : Listing) (number : Nat) (t : Trail) :
    (Course.visitListing visit context listing.page
      (listing.overflow.map (number, ·)) t).entries.toList =
        t.entries.toList ++ listing.bindings.flatMap added := by
  have hpage := entries_foldl hvisit listing.page t
  unfold Course.visitListing Listing.bindings
  cases listing.overflow with
  | none =>
    rw [Option.elim_none, List.append_nil]
    exact hpage
  | some overflow =>
    have hoverflow := entries_foldl (fun t => hvisit (t.call (.next context number)))
      overflow.bindings (listing.page.foldl visit t)
    rw [hpage, List.append_assoc] at hoverflow
    rw [Option.elim_some, List.flatMap_append]
    exact hoverflow

theorem entries_visitBinding (d : Directory) (depth : Nat) (context : ContextId) (path : String)
    (t : Trail) (binding : Binding) :
    (Course.visitBinding (fun _ => d) (Course.descend (fun _ => d) depth context) context path t
      binding).entries.toList = t.entries.toList ++ d.entries depth context path binding := by
  induction hroom : 33 - depth using Nat.strongRecOn
    generalizing depth context path t binding with
  | ind room ih =>
    obtain ⟨name, kind⟩ := binding
    rw [entries]
    cases name with
    | nil => exact (List.append_nil _).symm
    | cons component names =>
      cases kind with
      | object => exact Array.toList_push
      | context =>
        simp only [Course.visitBinding]
        rw [Course.descend]
        split
        · exact Array.toList_push
        · next hdeep =>
          cases d.resolveContext context component with
          | error e => exact Array.toList_push
          | ok child =>
            unfold Course.visitContext
            dsimp only
            cases d.list child Limits.listPage with
            | error e => exact Array.toList_push
            | ok listing =>
              have hbelow := ih (33 - (depth + 1)) (by omega) (depth + 1) child
                (Course.pathBelow path component)
              dsimp only
              rw [entries_visitListing fun t binding => hbelow t binding rfl]
              simp [Trail.call, Trail.entry]

/-- The walk through a directory that does not change gives the entries of the root's bindings, each
with those below it before the next one. -/
theorem walk_entries (d : Directory) (root : ContextId) :
    (d.walk root).1 = (d.list root Limits.listPage).map fun listing =>
      listing.bindings.flatMap (d.entries 1 root "") := by
  rw [walk, Course.walk_eq_preorder, Course.preorder, Course.visitContext]
  cases d.list root Limits.listPage with
  | error e => rfl
  | ok listing =>
    dsimp only
    rw [entries_visitListing (d.entries_visitBinding 1 root "")]
    rfl

/-- The walk over a stack of frames is the recursion in pre-order, whatever the directory answers to
each call: it fails just if the root cannot be listed, and else it gives the entries of the
recursion, and makes its calls, in order. If the directory does not change, the entries are those of
the root's bindings. -/
theorem Course.walk_eq_recursion (d : Directory.Course) (root : ContextId) :
    (∀ e, (d.walk root).1 = .error e ↔ (d 0).list root Limits.listPage = .error e) ∧
    d.walk root = d.preorder root ∧
    ∀ fixed : Directory, d = (fun _ => fixed) →
      (d.walk root).1 = (fixed.list root Limits.listPage).map fun listing =>
        listing.bindings.flatMap (fixed.entries 1 root "") := by
  refine ⟨fun e => ?_, d.walk_eq_preorder root, ?_⟩
  · rw [walk_eq_preorder, preorder_eq_error_iff]
  · rintro fixed rfl
    exact fixed.walk_entries root

/-- A context with an object that is alive and one that is gone, followed by objects of which the
resolving, the stringifying and the probe fail. -/
theorem Course.walk_eq_recursion_of_fleet :
    let ior :=
      "IOR:000000000000000254000000000000010000000000000011000102000000000268000af9000000016b"
    let d : Directory := .ofNodes
      [⟨[⟨[⟨"Fleet", ""⟩], .context (.ok 1)⟩,
          ⟨[⟨"lost", ""⟩], .object (.error (.notFound "lost"))⟩,
          ⟨[⟨"mute", ""⟩], .object (.ok ⟨.error (.callFailed "mute"), .ok false⟩)⟩,
          ⟨[⟨"torn", ""⟩], .object (.ok ⟨.ok ior, .error (.callFailed "torn")⟩)⟩],
          some 1, none, false, none⟩,
        ⟨[⟨[⟨"live", "svc"⟩], .object (.ok ⟨.ok ior, .ok false⟩)⟩,
          ⟨[⟨"gone", ""⟩], .object (.ok ⟨.ok "corbaloc::h:2809/x", .ok true⟩)⟩],
          none, none, false, none⟩]
    (Course.walk (fun _ => d) 0).1 = .ok
      [⟨"Fleet", "Fleet", "", .context, none, none, none, none, none, none⟩,
        ⟨"Fleet/live.svc", "live", "svc", .object, some ior, some true, none, some "h", some 2809,
          some 41⟩,
        ⟨"Fleet/gone", "gone", "", .object, some "corbaloc::h:2809/x", some false, none, some "h",
          some 2809, none⟩,
        ⟨"lost", "lost", "", .object, none, some false, some "Name not found: lost", none, none,
          none⟩,
        ⟨"mute", "mute", "", .object, none, some false, some "Directory call failed: mute", none,
          none, none⟩,
        ⟨"torn", "torn", "", .object, some ior, some false, some "Directory call failed: torn",
          some "h", some 2809, some 41⟩] := by
  intro ior d
  have hentries := (Course.walk_eq_recursion (fun _ => d) 0).2.2 d rfl
  exact hentries.trans (congrArg Except.ok (by decide +kernel))

end Directory

end CallWatch
