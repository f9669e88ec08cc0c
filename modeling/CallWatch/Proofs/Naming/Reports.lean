import CallWatch.Proofs.Event.Moment
import CallWatch.Proofs.Naming.Entries
import CallWatch.Proofs.Naming.Scans

/-! The reports of a run of scans, and the last of them that the scanner keeps. Each finding is
posted once, in order, and the collector answers to it. A finding is kept whatever that answer is,
unless it is a panic, which ends the scan before. So the report that is kept is that of the latest
walk only as long as no post panics. -/

namespace CallWatch

/-- A directory whose root binds a context that cannot be resolved, on its first page. -/
def Directory.deadEnd (overflow : Option Overflow) : Directory where
  list _ _ := .ok ⟨[⟨[⟨"a", ""⟩], .context⟩], overflow⟩
  resolveContext _ component := .error (.notFound component.id)
  resolveObject _ component := .error (.notFound component.id)

theorem Directory.walk_deadEnd {overflow : Option Overflow} (root : ContextId)
    (h : overflow.elim [] (·.bindings) = []) :
    (Course.walk (fun _ => deadEnd overflow) root).1 = .ok [.bare "a" ⟨"a", ""⟩ .context] := by
  refine (walk_entries _ root).trans ?_
  simp [deadEnd, Listing.bindings, h, entries, Course.pathBelow, NameComponent.segment, Except.map,
    Course.bare_eq_contextEntry]

/-- A scan that finds a directory with a dead end. -/
def Surroundings.deadEnd (overflow : Option Overflow) (collector : Collector) : Surroundings where
  connector := ⟨.ok 0, fun _ => .ok 0⟩
  directory _ := .deadEnd overflow
  collector
  wall := .epoch

namespace Finding

/-- The report of a finding, if its time has a text. -/
def post? (url : String) (f : Finding) : Option Post :=
  TopologyEntry.reportPost? url f.entries f.wall

/-- Whether the scan comes as far as to keep its finding. -/
def isKept (f : Finding) : Bool :=
  f.reply ≠ some .panicked

/-- A post carries a finding: it goes to the URL, names its source and the time, and lists the
entries in their order. -/
def Carries (url : String) (f : Finding) (post : Post) : Prop :=
  ∃ time, f.wall.write = .ok time ∧
    post = ⟨url, (Json.object [("source", .string Limits.reportSource),
      ("entries", .array (f.entries.map TopologyEntry.toJson)),
      ("timestamp", .string (String.ofList time))]).text⟩

theorem exists_carries (url : String) {f : Finding} (h : f.wall.IsWritable) :
    ∃ post, f.post? url = some post ∧ Carries url f post := by
  obtain ⟨time, hwrite⟩ := h.exists_write
  refine ⟨_, ?_, time, hwrite, rfl⟩
  unfold post? TopologyEntry.reportPost? TopologyEntry.reportJson
  rw [hwrite]
  rfl

/-- Findings at times that can be written are posted one by one, each by a post that carries it. -/
theorem forall₂_carries (url : String) {findings : List Finding}
    (h : ∀ f ∈ findings, f.wall.IsWritable) :
    List.Forall₂ (Carries url) findings (findings.filterMap (post? url)) := by
  induction findings with
  | nil => exact .nil
  | cons f findings ih =>
    obtain ⟨post, hpost, hcarries⟩ := exists_carries url (h f List.mem_cons_self)
    rw [List.filterMap_cons_some hpost]
    exact .cons hcarries (ih fun g hg => h g (List.mem_cons_of_mem f hg))

end Finding

namespace Scanner

variable {s : Scanner} {around : Surroundings} {f : Finding}

theorem finding?_of_error {root : ContextId} {e : DirectoryError}
    (connected : s.rootFor? around.connector = some root)
    (failed : (around.directory.walk root).1 = .error e) : s.finding? around = none := by
  simp [finding?, connected, failed, Except.toOption]

theorem finding?_of_ok {root : ContextId} {entries : List TopologyEntry}
    (connected : s.rootFor? around.connector = some root)
    (found : (around.directory.walk root).1 = .ok entries) :
    s.finding? around = some ⟨entries, around.wall,
      (TopologyEntry.reportPost? s.reportUrl entries around.wall).map fun _ =>
        around.collector.postReply around.collector.posts.size⟩ := by
  simp [finding?, connected, found, Except.toOption]

theorem scan_of_finding?_eq_none (h : s.finding? around = none) :
    (s.scan around).2.2 = around.collector ∧ (s.scan around).2.1.lastReport = s.lastReport := by
  generalize hscan : s.scan around = outcome
  cases hscan ▸ s.scanned_scan around with
  | unconnected => exact ⟨rfl, rfl⟩
  | unlisted => exact ⟨rfl, rfl⟩
  | walked root connected entries found => simp [finding?_of_ok connected found] at h

/-- The collector answers to a report with its next answer. -/
theorem reply_of_finding? (h : s.finding? around = some f) :
    f.reply = (f.post? s.reportUrl).map fun _ =>
      around.collector.postReply around.collector.posts.size := by
  unfold finding? at h
  obtain ⟨root, -, h⟩ := Option.bind_eq_some_iff.mp h
  obtain ⟨entries, -, rfl⟩ := Option.map_eq_some_iff.mp h
  rfl

theorem wall_of_finding? (h : s.finding? around = some f) : f.wall = around.wall := by
  unfold finding? at h
  obtain ⟨root, -, h⟩ := Option.bind_eq_some_iff.mp h
  obtain ⟨entries, -, rfl⟩ := Option.map_eq_some_iff.mp h
  rfl

/-- A finding is posted, and then it is kept unless the post has panicked. -/
theorem scan_of_finding? (h : s.finding? around = some f) :
    (s.scan around).2.2 =
        (f.post? s.reportUrl).elim around.collector (fun post => (around.collector.post post).2) ∧
      (s.scan around).2.1.lastReport = if f.isKept then some f.entries else s.lastReport := by
  generalize hscan : s.scan around = outcome
  cases hscan ▸ s.scanned_scan around with
  | unconnected no_root => simp [finding?, no_root] at h
  | unlisted root connected e failed => simp [finding?_of_error connected failed] at h
  | walked root connected entries found =>
    obtain rfl := Option.some.inj ((finding?_of_ok connected found).symm.trans h)
    rw [s.report_eq]
    unfold Finding.post? Finding.isKept
    cases TopologyEntry.reportPost? s.reportUrl entries around.wall with
    | none => exact ⟨rfl, rfl⟩
    | some post =>
      by_cases panicked : around.collector.postReply around.collector.posts.size = .panicked
      · simp [Collector.post, panicked]
      · simp [Collector.post, panicked]

/-- What a scan has found is posted, if its time can be written. -/
theorem exists_post_of_finding? (h : s.finding? around = some f)
    (writable : around.wall.IsWritable) :
    ∃ post, Finding.Carries s.reportUrl f post ∧ f.post? s.reportUrl = some post ∧
      (s.scan around).2.2 = (around.collector.post post).2 := by
  have hwall := wall_of_finding? h
  obtain ⟨post, hpost, hcarries⟩ := Finding.exists_carries s.reportUrl (hwall ▸ writable)
  obtain ⟨hcollector, -⟩ := scan_of_finding? h
  rw [hpost, Option.elim_some] at hcollector
  exact ⟨post, hcarries, hpost, hcollector⟩

/-- Any answer but a panic lets the scan keep its entries. -/
theorem lastReport_of_answered (h : s.finding? around = some f)
    (answered : around.collector.postReply around.collector.posts.size ≠ .panicked) :
    (s.scan around).2.1.lastReport = some f.entries := by
  have hreply := reply_of_finding? h
  obtain ⟨-, hlast⟩ := scan_of_finding? h
  have hkept : f.isKept = true := by
    rw [Finding.isKept, hreply]
    cases f.post? s.reportUrl <;> simp [answered]
  rw [hlast, if_pos hkept]

/-- A post that panics ends the scan before the entries are kept. -/
theorem lastReport_of_panicked (h : s.finding? around = some f) (writable : around.wall.IsWritable)
    (panicked : around.collector.postReply around.collector.posts.size = .panicked) :
    (s.scan around).2.1.lastReport = s.lastReport := by
  obtain ⟨post, -, hpost, -⟩ := exists_post_of_finding? h writable
  have hreply := reply_of_finding? h
  rw [hpost, Option.map_some, panicked] at hreply
  obtain ⟨-, hlast⟩ := scan_of_finding? h
  simpa [Finding.isKept, hreply] using hlast

end Scanner

namespace ScanRun

variable {settings : Settings} {collector : Collector}

/-- The findings so far are the posts to the collector, and the last that was kept is the last
report. -/
structure Reported (settings : Settings) (collector : Collector) (r : ScanRun) : Prop where
  postReply : r.collector.postReply = collector.postReply
  posts : r.collector.posts.toList =
    collector.posts.toList ++ r.findings.filterMap (Finding.post? settings.reportUrl)
  replies : r.findings.filterMap (·.reply) =
    (List.range' collector.posts.size
      (r.findings.filterMap (Finding.post? settings.reportUrl)).length).map collector.postReply
  lastReport : r.scanner.lastReport =
    (r.findings.filter (·.isKept)).getLast?.map (·.entries)

theorem Reported.scan {r : ScanRun} (configured : Configured settings r)
    (h : Reported settings collector r) (around : Surroundings) :
    Reported settings collector (r.scan around).2 := by
  have hscan : (r.scan around).2 =
      ⟨(r.scanner.scan { around with collector := r.collector }).2.1,
        (r.scanner.scan { around with collector := r.collector }).2.2,
        r.findings ++ (r.scanner.finding? { around with collector := r.collector }).toList⟩ := rfl
  rw [hscan]
  cases hfinding : r.scanner.finding? { around with collector := r.collector } with
  | none =>
    obtain ⟨hcollector, hlast⟩ := Scanner.scan_of_finding?_eq_none hfinding
    rw [hcollector, Option.toList_none, List.append_nil]
    exact ⟨h.postReply, h.posts, h.replies, hlast.trans h.lastReport⟩
  | some f =>
    obtain ⟨hcollector, hlast⟩ := Scanner.scan_of_finding? hfinding
    have hreply := Scanner.reply_of_finding? hfinding
    rw [configured.reportUrl] at hcollector hreply
    have hsize : r.collector.posts.size = collector.posts.size +
        (r.findings.filterMap (Finding.post? settings.reportUrl)).length := by
      rw [← Array.length_toList, h.posts, List.length_append, Array.length_toList]
    have hkept : (r.scanner.scan { around with collector := r.collector }).2.1.lastReport =
        ((r.findings ++ [f]).filter (·.isKept)).getLast?.map (·.entries) := by
      rw [hlast, h.lastReport]
      cases hkept : f.isKept <;> simp [List.filter_append, hkept]
    rw [hcollector, Option.toList_some]
    cases hpost : f.post? settings.reportUrl with
    | none =>
      rw [hpost, Option.map_none] at hreply
      refine ⟨h.postReply, ?_, ?_, hkept⟩
      · simpa [hpost] using h.posts
      · simpa [hpost, hreply] using h.replies
    | some post =>
      rw [hpost, Option.map_some, h.postReply, hsize] at hreply
      refine ⟨h.postReply, ?_, ?_, hkept⟩
      · simp [Collector.post, hpost, h.posts]
      · simp [hpost, hreply, h.replies, List.range'_1_concat]

theorem reported_after (settings : Settings) (collector : Collector)
    (scans : List Surroundings) : Reported settings collector (after settings collector scans) := by
  induction scans using List.reverseRecOn with
  | nil => exact ⟨rfl, (List.append_nil _).symm, rfl, rfl⟩
  | append_singleton scans around ih =>
    rw [after_concat]
    exact ih.scan (configured_after settings collector scans) around

theorem exists_wall_of_mem_findings {scans : List Surroundings} {f : Finding}
    (h : f ∈ (after settings collector scans).findings) :
    ∃ around ∈ scans, around.wall = f.wall := by
  induction scans using List.reverseRecOn with
  | nil => simp [after, run] at h
  | append_singleton scans around ih =>
    rw [after_concat] at h
    rcases List.mem_append.mp h with before | new
    · obtain ⟨earlier, hearlier, hwall⟩ := ih before
      exact ⟨earlier, List.mem_append_left _ hearlier, hwall⟩
    · have hwall := Scanner.wall_of_finding? (Option.mem_toList.mp new)
      exact ⟨around, List.mem_append_right _ List.mem_cons_self, hwall.symm⟩

/-- The report that is kept after some scans is the finding of the latest of those whose post did
not panic. Every finding is posted once, in order, by a report that lists its entries in theirs, and
the collector gives its answers in the same order. -/
theorem keeps_latest_finding (settings : Settings) (collector : Collector)
    (scans : List Surroundings) :
    let r := after settings collector scans
    let posted := r.findings.filterMap (Finding.post? settings.reportUrl)
    r.scanner.lastReport =
      (r.findings.filter (·.reply ≠ some .panicked)).getLast?.map (·.entries) ∧
    r.collector.posts.toList = collector.posts.toList ++ posted ∧
    r.findings.filterMap (·.reply) =
      (List.range' collector.posts.size posted.length).map collector.postReply ∧
    ((∀ around ∈ scans, around.wall.IsWritable) →
      List.Forall₂ (Finding.Carries settings.reportUrl) r.findings posted) := by
  intro r posted
  have reported := reported_after settings collector scans
  refine ⟨reported.lastReport, reported.posts, reported.replies, fun writable => ?_⟩
  refine Finding.forall₂_carries settings.reportUrl fun f hf => ?_
  obtain ⟨around, haround, hwall⟩ := exists_wall_of_mem_findings hf
  exact hwall ▸ writable around haround

/-- After a walk whose report panics there is no last report. -/
theorem lastReport_of_panicked_post :
    let panicking : Collector := ⟨fun _ => .panicked, fun _ => .status 200, #[], #[]⟩
    let r := after .standard panicking [.deadEnd none panicking]
    r.findings.map (·.entries) = [[.bare "a" ⟨"a", ""⟩ .context]] ∧
      r.scanner.lastReport = none := by
  intro panicking r
  have hwalk : ((Surroundings.deadEnd none panicking).directory.walk 0).1 =
      .ok [.bare "a" ⟨"a", ""⟩ .context] := Directory.walk_deadEnd 0 rfl
  have hfinding : Scanner.finding? (.ofSettings .standard) (.deadEnd none panicking) = some _ :=
    Scanner.finding?_of_ok rfl hwalk
  have hfindings : r.findings = Option.toList (some _) := congrArg Option.toList hfinding
  refine ⟨by rw [hfindings]; rfl, ?_⟩
  exact Scanner.lastReport_of_panicked hfinding ⟨by decide, by decide, by decide⟩ rfl

end ScanRun

end CallWatch
