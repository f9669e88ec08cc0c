import CallWatch.Naming.Scanner
import Mathlib.Data.List.Induction

/-! Scans, one after another. A scan walks the directory from the root that the scanner is connected
to, or else from the one that the connector gives. `Scanned` says all that a scan can come to: there
is no root, or the walk from the root fails, or it succeeds. A run of scans keeps what their walks
found, which is told from the root and the directory by themselves. -/

namespace CallWatch

namespace Connector

/-- The root that a connector gives, by the initial reference, or else by address. -/
def root? (k : Connector) (reference : String) : Option ContextId :=
  k.initial.toOption.or (k.byReference reference).toOption

/-- The ways on which a root is looked for. -/
def attempts (k : Connector) (reference : String) : List Attempt :=
  match k.initial with
  | .ok _ => [.initial]
  | .error _ => [.initial, .byReference reference]

end Connector

/-- The report of entries to a URL, if its time has a text. -/
def TopologyEntry.reportPost? (url : String) (entries : List TopologyEntry) (wall : Timestamp) :
    Option Post :=
  (reportJson entries wall).toOption.map fun json => ⟨url, json.text⟩

namespace Scanner

theorem connect_of_root? {s : Scanner} {k : Connector} {root : ContextId}
    (h : k.root? s.reference = some root) :
    s.connect k = (.ok root, k.attempts s.reference, { s with root := some root }) := by
  unfold Connector.root? at h
  unfold connect Connector.attempts
  cases hinitial : k.initial with
  | ok found =>
    obtain rfl : found = root := by simpa [hinitial, Except.toOption] using h
    rfl
  | error e =>
    cases hreference : k.byReference s.reference with
    | ok found =>
      obtain rfl : found = root := by simpa [hinitial, hreference, Except.toOption] using h
      rfl
    | error e' => simp [hinitial, hreference, Except.toOption] at h

theorem exists_connect_of_root?_eq_none {s : Scanner} {k : Connector}
    (h : k.root? s.reference = none) :
    ∃ e, s.connect k = (.error e, k.attempts s.reference, s) := by
  unfold Connector.root? at h
  unfold connect Connector.attempts
  cases hinitial : k.initial with
  | ok found => simp [hinitial, Except.toOption] at h
  | error e =>
    cases hreference : k.byReference s.reference with
    | ok found => simp [hinitial, hreference, Except.toOption] at h
    | error e' => exact ⟨e', rfl⟩

/-- To connect changes the connection, and nothing else of the scanner. -/
theorem exists_scanner_connect (s : Scanner) (k : Connector) :
    ∃ root, (s.connect k).2.2 = { s with root } := by
  cases hroot : k.root? s.reference with
  | none =>
    obtain ⟨e, hconnect⟩ := exists_connect_of_root?_eq_none hroot
    exact ⟨s.root, by rw [hconnect]⟩
  | some root => exact ⟨some root, by rw [connect_of_root? hroot]⟩

/-- The root below which a scan walks. -/
def rootFor? (s : Scanner) (k : Connector) : Option ContextId :=
  s.root.or (k.root? s.reference)

/-- The ways on which a scan tries to connect: none, while there is a connection. -/
def attempts (s : Scanner) (k : Connector) : List Attempt :=
  if s.root.isSome then [] else k.attempts s.reference

theorem report_eq (s : Scanner) (entries : List TopologyEntry) (wall : Timestamp)
    (collector : Collector) :
    s.report entries wall collector =
      match TopologyEntry.reportPost? s.reportUrl entries wall with
      | none => (none, collector)
      | some post => (some (collector.post post).1, (collector.post post).2) := by
  unfold report TopologyEntry.reportPost?
  cases TopologyEntry.reportJson entries wall <;> rfl

/-- All that a scan can come to. -/
inductive Scanned (s : Scanner) (around : Surroundings) : ScanTrace × Scanner × Collector → Prop
  | unconnected (no_root : s.rootFor? around.connector = none) :
      Scanned s around (⟨s.attempts around.connector, []⟩, s, around.collector)
  | unlisted (root : ContextId) (connected : s.rootFor? around.connector = some root)
      (e : DirectoryError) (failed : (around.directory.walk root).1 = .error e) :
      Scanned s around (⟨s.attempts around.connector, (around.directory.walk root).2⟩,
        { s with root := none }, around.collector)
  | walked (root : ContextId) (connected : s.rootFor? around.connector = some root)
      (entries : List TopologyEntry) (found : (around.directory.walk root).1 = .ok entries) :
      Scanned s around (⟨s.attempts around.connector, (around.directory.walk root).2⟩,
        { s with
          root := some root
          lastReport :=
            if (s.report entries around.wall around.collector).1 = some .panicked then s.lastReport
            else some entries },
        (s.report entries around.wall around.collector).2)

theorem scanRoot_of_error {s : Scanner} {root : ContextId} {around : Surroundings}
    {e : DirectoryError} (failed : (around.directory.walk root).1 = .error e) :
    s.scanRoot root around =
      ((around.directory.walk root).2, { s with root := none }, around.collector) := by
  unfold scanRoot
  split
  · next calls hwalk => rw [hwalk]
  · next entries calls hwalk => simp [hwalk] at failed

theorem scanRoot_of_ok {s : Scanner} {root : ContextId} {around : Surroundings}
    {entries : List TopologyEntry} (found : (around.directory.walk root).1 = .ok entries) :
    s.scanRoot root around = ((around.directory.walk root).2,
      { s with
        lastReport :=
          if (s.report entries around.wall around.collector).1 = some .panicked then s.lastReport
          else some entries },
      (s.report entries around.wall around.collector).2) := by
  unfold scanRoot
  split
  · next calls hwalk => simp [hwalk] at found
  · next other calls hwalk =>
    obtain rfl : other = entries := by simpa [hwalk] using found
    by_cases panicked : (s.report other around.wall around.collector).1 = some .panicked
    · simp [hwalk, panicked]
    · simp [hwalk, panicked]

/-- The walk below a root to which the scanner is connected. -/
theorem scanned_scanRoot {s : Scanner} {around : Surroundings} {root : ContextId}
    (connected : s.rootFor? around.connector = some root) :
    Scanned s around
      (⟨s.attempts around.connector, (({ s with root := some root } : Scanner).scanRoot root
        around).1⟩, (({ s with root := some root } : Scanner).scanRoot root around).2) := by
  cases hwalk : (around.directory.walk root).1 with
  | error e =>
    rw [scanRoot_of_error hwalk]
    exact .unlisted root connected e hwalk
  | ok entries =>
    rw [scanRoot_of_ok hwalk]
    exact .walked root connected entries hwalk

theorem scanned_scan (s : Scanner) (around : Surroundings) :
    Scanned s around (s.scan around) := by
  unfold scan
  split
  · next root hroot =>
    have hconnected : s.rootFor? around.connector = some root := by simp [rootFor?, hroot]
    have hsame : ({ s with root := some root } : Scanner) = s := by rw [← hroot]
    have hscanned := scanned_scanRoot hconnected
    rw [hsame] at hscanned
    simpa [attempts, hroot] using hscanned
  · next hroot =>
    have hattempts : s.attempts around.connector = around.connector.attempts s.reference := by
      simp [attempts, hroot]
    have hfor : s.rootFor? around.connector = around.connector.root? s.reference := by
      simp [rootFor?, hroot]
    cases hgiven : around.connector.root? s.reference with
    | none =>
      obtain ⟨e, hconnect⟩ := exists_connect_of_root?_eq_none hgiven
      rw [hconnect, ← hattempts]
      exact .unconnected (hfor.trans hgiven)
    | some root =>
      rw [connect_of_root? hgiven, ← hattempts]
      exact scanned_scanRoot (hfor.trans hgiven)

/-- A scan changes the connection and the last report, and nothing else of the scanner. -/
theorem exists_scanner_scan (s : Scanner) (around : Surroundings) :
    ∃ root lastReport, (s.scan around).2.1 = { s with root, lastReport } := by
  generalize hscan : s.scan around = outcome
  cases hscan ▸ s.scanned_scan around with
  | unconnected => exact ⟨_, _, rfl⟩
  | unlisted => exact ⟨_, _, rfl⟩
  | walked => exact ⟨_, _, rfl⟩

end Scanner

/-- What a walk found that succeeded, the time of its report, and the collector's answer to the
report, if it was posted. -/
structure Finding where
  entries : List TopologyEntry
  wall : Timestamp
  reply : Option Reply

/-- What a scan finds, if it has a root and the walk from there succeeds. -/
def Scanner.finding? (s : Scanner) (around : Surroundings) : Option Finding :=
  (s.rootFor? around.connector).bind fun root =>
    (around.directory.walk root).1.toOption.map fun entries =>
      { entries
        wall := around.wall
        reply := (TopologyEntry.reportPost? s.reportUrl entries around.wall).map fun _ =>
          around.collector.postReply around.collector.posts.size }

/-- A scanner and its collector after some scans, and what these have found, in order. -/
structure ScanRun where
  scanner : Scanner
  collector : Collector
  findings : List Finding

namespace ScanRun

/-- The next scan, with the collector as the scans before it have left it. -/
def scan (r : ScanRun) (around : Surroundings) : ScanTrace × ScanRun :=
  let around := { around with collector := r.collector }
  let (trace, scanner, collector) := r.scanner.scan around
  (trace, ⟨scanner, collector, r.findings ++ (r.scanner.finding? around).toList⟩)

def run (r : ScanRun) (scans : List Surroundings) : ScanRun :=
  scans.foldl (fun r around => (r.scan around).2) r

/-- The scans of a new scanner. -/
def after (settings : Settings) (collector : Collector) (scans : List Surroundings) : ScanRun :=
  run ⟨.ofSettings settings, collector, []⟩ scans

variable {settings : Settings} {collector : Collector}

theorem after_append (scans later : List Surroundings) :
    after settings collector (scans ++ later) = (after settings collector scans).run later :=
  List.foldl_append

theorem after_concat (scans : List Surroundings) (around : Surroundings) :
    after settings collector (scans ++ [around]) =
      ((after settings collector scans).scan around).2 :=
  after_append scans [around]

/-- The scanner reports to the URL, and knows the naming service by the reference, of its settings.
-/
structure Configured (settings : Settings) (r : ScanRun) : Prop where
  reportUrl : r.scanner.reportUrl = settings.reportUrl
  reference : r.scanner.reference = settings.nameserverReference

theorem Configured.scan {r : ScanRun} (h : Configured settings r) (around : Surroundings) :
    Configured settings (r.scan around).2 := by
  obtain ⟨root, lastReport, hscanner⟩ :=
    r.scanner.exists_scanner_scan { around with collector := r.collector }
  have hlater : (r.scan around).2.scanner = { r.scanner with root, lastReport } := hscanner
  exact ⟨by rw [hlater]; exact h.reportUrl, by rw [hlater]; exact h.reference⟩

theorem configured_after (settings : Settings) (collector : Collector)
    (scans : List Surroundings) : Configured settings (after settings collector scans) := by
  induction scans using List.reverseRecOn with
  | nil => exact ⟨rfl, rfl⟩
  | append_singleton scans around ih =>
    rw [after_concat]
    exact ih.scan around

end ScanRun

end CallWatch
