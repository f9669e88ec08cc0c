import CallWatch.Proofs.Naming.Scans

/-! The scanner's connection to the naming directory. A scan looks for a root only if there is no
connection, and keeps the root that it walked from just if the walk succeeded. So a root is used
until a walk from it fails, whatever the collector answers to the reports. -/

namespace CallWatch

namespace Scanner

variable {s : Scanner} {around : Surroundings} {root : ContextId}

theorem attempts_scan (s : Scanner) (around : Surroundings) :
    (s.scan around).1.attempts = s.attempts around.connector := by
  generalize hscan : s.scan around = outcome
  cases hscan ▸ s.scanned_scan around <;> rfl

theorem nodup_attempts (s : Scanner) (k : Connector) : (s.attempts k).Nodup := by
  unfold attempts Connector.attempts
  split
  · exact List.nodup_nil
  · split <;> simp

theorem initial_mem_attempts {k : Connector} : .initial ∈ s.attempts k ↔ s.root = none := by
  unfold attempts Connector.attempts
  cases s.root with
  | some root => simp
  | none => cases k.initial <;> simp

theorem byReference_mem_attempts {k : Connector} {reference : String} :
    .byReference reference ∈ s.attempts k ↔
      reference = s.reference ∧ s.root = none ∧ ∃ e, k.initial = .error e := by
  unfold attempts Connector.attempts
  cases s.root with
  | some root => simp
  | none => cases k.initial <;> simp

theorem rootFor?_of_root (h : s.root = some root) (k : Connector) : s.rootFor? k = some root := by
  simp [rootFor?, h]

theorem root_eq_none_of_rootFor? {k : Connector} (h : s.rootFor? k = none) : s.root = none := by
  unfold rootFor? at h
  exact (Option.or_eq_none_iff.mp h).1

theorem scan_of_no_root (h : s.rootFor? around.connector = none) :
    s.scan around = (⟨s.attempts around.connector, []⟩, s, around.collector) := by
  generalize hscan : s.scan around = outcome
  cases hscan ▸ s.scanned_scan around with
  | unconnected => rfl
  | unlisted root connected => simp [h] at connected
  | walked root connected => simp [h] at connected

theorem calls_scan (h : s.rootFor? around.connector = some root) :
    (s.scan around).1.calls = (around.directory.walk root).2 := by
  generalize hscan : s.scan around = outcome
  cases hscan ▸ s.scanned_scan around with
  | unconnected no_root => simp [h] at no_root
  | unlisted other connected =>
    obtain rfl : root = other := Option.some.inj (h.symm.trans connected)
    rfl
  | walked other connected =>
    obtain rfl : root = other := Option.some.inj (h.symm.trans connected)
    rfl

/-- There is a connection after a scan just if there was a root and the walk from it succeeded. -/
theorem root_scan_eq_some_iff : (s.scan around).2.1.root = some root ↔
    s.rootFor? around.connector = some root ∧
      ∃ entries, (around.directory.walk root).1 = .ok entries := by
  generalize hscan : s.scan around = outcome
  cases hscan ▸ s.scanned_scan around with
  | unconnected no_root => simp [root_eq_none_of_rootFor? no_root, no_root]
  | unlisted other connected e failed =>
    simp only [connected, Option.some.injEq, reduceCtorEq, false_iff]
    rintro ⟨rfl, entries, found⟩
    exact absurd (failed.symm.trans found) (by simp)
  | walked other connected entries found =>
    simp only [connected, Option.some.injEq]
    constructor
    · rintro rfl
      exact ⟨rfl, entries, found⟩
    · exact And.left

end Scanner

namespace ScanRun

variable {settings : Settings} {collector : Collector}

theorem root_scan (r : ScanRun) (around : Surroundings) (root : ContextId) :
    (r.scan around).2.scanner.root = some root ↔
      r.scanner.rootFor? around.connector = some root ∧
        ∃ entries, (around.directory.walk root).1 = .ok entries :=
  Scanner.root_scan_eq_some_iff

/-- A root is kept as long as the walks from it succeed. -/
theorem root_run {r : ScanRun} {root : ContextId} (connected : r.scanner.root = some root)
    {scans : List Surroundings}
    (succeed : ∀ around ∈ scans, ∃ entries, (around.directory.walk root).1 = .ok entries) :
    (r.run scans).scanner.root = some root := by
  induction scans generalizing r with
  | nil => exact connected
  | cons around scans ih =>
    have hfor := Scanner.rootFor?_of_root connected around.connector
    have hroot := (r.root_scan around root).mpr ⟨hfor, succeed around List.mem_cons_self⟩
    exact ih hroot fun other hmem => succeed other (List.mem_cons_of_mem _ hmem)

/-- A scan looks for the initial reference once if there is no connection when it begins, and else
not at all; by address it looks once, if the initial reference has failed, under the reference of
the settings. After a scan there is a connection just if there was a root and the walk from it
succeeded. Without a root, the scan makes no call to the directory, posts nothing and keeps the last
report. As long as walks succeed, scans use the same root and do not look for another, whatever the
collector answers. -/
theorem connects_at_need (settings : Settings) (collector : Collector)
    (past : List Surroundings) (around : Surroundings) :
    let before := after settings collector past
    let trace := (before.scan around).1
    let later := (before.scan around).2
    let root? := before.scanner.rootFor? around.connector
    trace.attempts.Nodup ∧
    (.initial ∈ trace.attempts ↔ before.scanner.root = none) ∧
    (∀ reference, .byReference reference ∈ trace.attempts ↔
      reference = settings.nameserverReference ∧ .initial ∈ trace.attempts ∧
        ∃ e, around.connector.initial = .error e) ∧
    (∀ root, later.scanner.root = some root ↔
      root? = some root ∧ ∃ entries, (around.directory.walk root).1 = .ok entries) ∧
    (root? = none → trace.calls = [] ∧ later.collector = before.collector ∧
      later.scanner.lastReport = before.scanner.lastReport) ∧
    (∀ root, later.scanner.root = some root → ∀ others next,
      (∀ other ∈ others, ∃ entries, (other.directory.walk root).1 = .ok entries) →
      let reused := after settings collector (past ++ around :: others)
      reused.scanner.root = some root ∧ (reused.scan next).1.attempts = [] ∧
        (reused.scan next).1.calls = (next.directory.walk root).2) := by
  intro before trace later root?
  have hattempts : trace.attempts = before.scanner.attempts around.connector :=
    Scanner.attempts_scan _ _
  have hreference := (configured_after settings collector past).reference
  refine ⟨?_, ?_, ?_, before.root_scan around, ?_, ?_⟩
  · rw [hattempts]
    exact before.scanner.nodup_attempts around.connector
  · rw [hattempts]
    exact Scanner.initial_mem_attempts
  · intro reference
    rw [hattempts, Scanner.byReference_mem_attempts, Scanner.initial_mem_attempts, hreference]
  · intro no_root
    have hscan : before.scanner.scan { around with collector := before.collector } =
        (⟨before.scanner.attempts around.connector, []⟩, before.scanner, before.collector) :=
      Scanner.scan_of_no_root no_root
    simp only [trace, later, ScanRun.scan, hscan]
    exact ⟨trivial, trivial, trivial⟩
  · intro root connected others next succeed
    have hafter : after settings collector (past ++ around :: others) = later.run others := by
      rw [after_append]
      rfl
    have hroot := root_run connected succeed
    rw [hafter]
    refine ⟨hroot, ?_, Scanner.calls_scan (Scanner.rootFor?_of_root hroot _)⟩
    refine (Scanner.attempts_scan _ _).trans ?_
    simp [Scanner.attempts, hroot]

end ScanRun

end CallWatch
