import CallWatch.Proofs.Naming.Connection
import CallWatch.Proofs.Naming.Reports

/-! Listings that break off. A scan notices that the root cannot be listed, and then it gives up its
connection and reports nothing. It does not notice that an iterator ends in an error, be it that of
the root: all goes as if no more had been bound, so that what was listed until then is reported. -/

namespace CallWatch

/-- The listing with the same bindings, whose iterator ends without an error. -/
def Listing.quiet (l : Listing) : Listing :=
  { l with overflow := l.overflow.map ({ · with error := none }) }

/-- The directory with the same answers, but for the errors of its iterators. -/
def Directory.quiet (d : Directory) : Directory :=
  { d with list := fun context howMany => (d.list context howMany).map Listing.quiet }

namespace Directory.Course

def quiet (d : Directory.Course) : Directory.Course :=
  fun calls => (d calls).quiet

theorem visitListing_quiet (visit : Trail → Binding → Trail) (context : ContextId) (l : Listing)
    (number : Nat) (t : Trail) :
    visitListing visit context l.quiet.page (l.quiet.overflow.map (number, ·)) t =
      visitListing visit context l.page (l.overflow.map (number, ·)) t := by
  obtain ⟨page, overflow⟩ := l
  cases overflow <;> rfl

theorem visitContext_quiet (d : Directory.Course)
    (descend : ContextId → NameComponent → String → Trail → Trail) (context : ContextId)
    (path : String) (t : Trail) :
    d.quiet.visitContext descend context path t = d.visitContext descend context path t := by
  have hlist : (d.quiet t.calls.size).list context Limits.listPage =
      ((d t.calls.size).list context Limits.listPage).map Listing.quiet := rfl
  unfold visitContext
  rw [hlist]
  cases (d t.calls.size).list context Limits.listPage with
  | error e => rfl
  | ok listing =>
    have hiterators : listing.quiet.overflow.isSome = listing.overflow.isSome := by
      simp [Listing.quiet]
    simp only [Except.map, hiterators, visitListing_quiet]
    rfl

theorem descend_quiet (d : Directory.Course) (depth : Nat) :
    d.quiet.descend depth = d.descend depth := by
  induction hroom : 33 - depth using Nat.strongRecOn generalizing depth with
  | ind room ih =>
    funext context component path t
    rw [descend, descend]
    split
    · rfl
    · next hdeep =>
      have hresolve : (d.quiet t.calls.size).resolveContext context component =
          (d t.calls.size).resolveContext context component := rfl
      rw [hresolve, ih _ (by omega) (depth + 1) rfl]
      simp only [visitContext_quiet]

/-- A walk goes as if no iterator ended in an error. -/
theorem walk_quiet (d : Directory.Course) (root : ContextId) : d.quiet.walk root = d.walk root := by
  rw [walk_eq_preorder, walk_eq_preorder]
  unfold preorder
  rw [visitContext_quiet, descend_quiet]

theorem walk_of_error {d : Directory.Course} {root : ContextId} {e : DirectoryError}
    (h : (d 0).list root Limits.listPage = .error e) :
    d.walk root = (.error e, [.list root Limits.listPage]) := by
  have hlist : (d Walk.empty.calls.size).list root Limits.listPage = .error e := h
  rw [walk_eq_preorder]
  unfold preorder visitContext
  rw [hlist]
  rfl

end Directory.Course

namespace Scanner

variable {s : Scanner} {around : Surroundings} {root : ContextId}

theorem scan_quiet (s : Scanner) (around : Surroundings) :
    s.scan { around with directory := around.directory.quiet } = s.scan around := by
  unfold scan scanRoot
  simp only [Directory.Course.walk_quiet]

theorem scan_of_unlisted (connected : s.rootFor? around.connector = some root)
    {e : DirectoryError} (failed : (around.directory 0).list root Limits.listPage = .error e) :
    s.scan around = (⟨s.attempts around.connector, [.list root Limits.listPage]⟩,
      { s with root := none }, around.collector) := by
  have hwalk := Directory.Course.walk_of_error failed
  generalize hscan : s.scan around = outcome
  cases hscan ▸ s.scanned_scan around with
  | unconnected no_root => simp [no_root] at connected
  | unlisted other hconnected =>
    obtain rfl : root = other := Option.some.inj (connected.symm.trans hconnected)
    rw [hwalk]
  | walked other hconnected entries found =>
    obtain rfl : root = other := Option.some.inj (connected.symm.trans hconnected)
    simp [hwalk] at found

theorem root_scan_of_listed (connected : s.rootFor? around.connector = some root)
    {listing : Listing} (listed : (around.directory 0).list root Limits.listPage = .ok listing) :
    (s.scan around).2.1.root = some root := by
  refine root_scan_eq_some_iff.mpr ⟨connected, ?_⟩
  have hfails := around.directory.preorder_eq_error_iff root
  rw [← Directory.Course.walk_eq_preorder] at hfails
  cases hwalk : (around.directory.walk root).1 with
  | error e => simp [(hfails e).mp hwalk] at listed
  | ok entries => exact ⟨entries, rfl⟩

/-- A scan loses its root just if the root cannot be listed. Then it has made no other call to the
directory, it reports nothing and keeps the last report, and the next scan looks for a root again.
How an iterator ends makes no difference to a scan, not even that of the root. -/
theorem loses_root_iff_unlisted (connected : s.rootFor? around.connector = some root) :
    ((s.scan around).2.1.root = none ↔
      ∃ e, (around.directory 0).list root Limits.listPage = .error e) ∧
    ((s.scan around).2.1.root = none →
      (s.scan around).1.calls = [.list root Limits.listPage] ∧
        (s.scan around).2.2 = around.collector ∧
        (s.scan around).2.1.lastReport = s.lastReport ∧
        ∀ k, .initial ∈ (s.scan around).2.1.attempts k) ∧
    s.scan { around with directory := around.directory.quiet } = s.scan around := by
  refine ⟨?_, ?_, s.scan_quiet around⟩
  · cases hlist : (around.directory 0).list root Limits.listPage with
    | error e => simp [scan_of_unlisted connected hlist]
    | ok listing => simp [root_scan_of_listed connected hlist]
  · intro lost
    cases hlist : (around.directory 0).list root Limits.listPage with
    | error e =>
      rw [scan_of_unlisted connected hlist]
      exact ⟨rfl, rfl, rfl, fun k => initial_mem_attempts.mpr rfl⟩
    | ok listing => simp [root_scan_of_listed connected hlist] at lost

theorem loses_root_iff_unlisted_of_failing_list :
    let collector : Collector := ⟨fun _ => .status 200, fun _ => .status 200, #[], #[]⟩
    let failing : Directory :=
      { Directory.deadEnd none with list := fun _ _ => .error (.callFailed "list") }
    let around : Surroundings := { Surroundings.deadEnd none collector with directory _ := failing }
    let s := ofSettings .standard
    s.rootFor? around.connector = some 0 ∧ (s.scan around).2.1.root = none ∧
      (s.scan around).1.calls = [.list 0 Limits.listPage] := by
  intro collector failing around s
  have connected : s.rootFor? around.connector = some 0 := rfl
  obtain ⟨hlost, hafter, -⟩ := loses_root_iff_unlisted connected
  have lost := hlost.mpr ⟨.callFailed "list", rfl⟩
  exact ⟨connected, lost, (hafter lost).1⟩

/-- A scan of a root whose iterator fails reports what was listed before, keeps that as the last
report, and keeps the root. -/
theorem scan_of_failing_iterator :
    let collector : Collector := ⟨fun _ => .status 200, fun _ => .status 200, #[], #[]⟩
    let broken : Overflow := ⟨[], some (.callFailed "list")⟩
    let scanned := (ofSettings .standard).scan (.deadEnd (some broken) collector)
    scanned.2.2.posts.size = 1 ∧ scanned.2.1.root = some 0 ∧
      scanned.2.1.lastReport = some [.bare "a" ⟨"a", ""⟩ .context] := by
  intro collector broken scanned
  have hwalk : ((Surroundings.deadEnd (some broken) collector).directory.walk 0).1 =
      .ok [.bare "a" ⟨"a", ""⟩ .context] := Directory.walk_deadEnd 0 rfl
  have hfinding : Scanner.finding? (.ofSettings .standard) (.deadEnd (some broken) collector) =
      some _ := finding?_of_ok rfl hwalk
  obtain ⟨post, -, -, hposted⟩ := exists_post_of_finding? hfinding ⟨by decide, by decide, by decide⟩
  refine ⟨by rw [hposted]; rfl, ?_, lastReport_of_answered hfinding (by decide)⟩
  exact root_scan_eq_some_iff.mpr ⟨rfl, _, hwalk⟩

end Scanner

end CallWatch
