import CallWatch.Proofs.Naming.ScanJobs
import CallWatch.Proofs.Naming.Scans

/-! The scanner's jobs on a timetable that stays open. A start puts a job on it and keeps the
handle, and a stop cancels the job of which there is a handle. Only one handle is kept: the job of a
start that is followed by another start is out of reach for good, and no stop cancels it. -/

namespace CallWatch

/-- A scanner, and the timetable on which it puts its scans. -/
structure ScanDuty where
  scanner : Scanner
  run : TimetableRun Chore

namespace ScanDuty

/-- What can happen to a scanner and its timetable: the scans are started or stopped, there is a
scan, or something else happens to the timetable. -/
inductive Step
  | start (connector : Connector)
  | stop
  | scan (around : Surroundings)
  | other (s : Timetable.Step Chore)

/-- What is asked of the scanner by its owner. -/
inductive Call
  | start
  | stop
  deriving DecidableEq

def Step.call? : Step → Option Call
  | start _ => some .start
  | stop => some .stop
  | _ => none

def calls (steps : List Step) : List Call :=
  steps.filterMap Step.call?

/-- The scan jobs that are on the timetable, or will be, and are not cancelled. -/
def standing (d : ScanDuty) : List Nat :=
  Command.standing d.run.asked

/-- Whether a step of the timetable can come from elsewhere: the timetable stays open, and only the
scanner registers scans and has the handles of those. -/
def admits (d : ScanDuty) : Timetable.Step Chore → Bool
  | .every _ _ task => task ≠ .scan
  | .cancel id => id ∉ Command.scanJobs d.run.asked
  | .shutdown => false
  | _ => true

def step (d : ScanDuty) : Step → ScanDuty
  | .start connector =>
    let (_, _, scanner, timetable) := d.scanner.schedule connector d.run.timetable
    ⟨scanner, { d.run with timetable }⟩
  | .stop =>
    let (scanner, timetable) := d.scanner.stop d.run.timetable
    ⟨scanner, { d.run with timetable }⟩
  | .scan around => { d with scanner := (d.scanner.scan around).2.1 }
  | .other s => if d.admits s then { d with run := d.run.step s } else d

def after (settings : Settings) (steps : List Step) : ScanDuty :=
  steps.foldl step ⟨.ofSettings settings, .empty⟩

theorem after_concat (settings : Settings) (steps : List Step) (s : Step) :
    after settings (steps ++ [s]) = (after settings steps).step s := by
  simp [after]

/-- How many starts are not followed by a stop before the next start. -/
def unstopped : List Call → Nat
  | [] => 0
  | .start :: .stop :: calls => unstopped calls
  | .start :: calls => unstopped calls + 1
  | .stop :: calls => unstopped calls

theorem unstopped_start {calls : List Call} (h : calls.head? ≠ some .stop) :
    unstopped (.start :: calls) = unstopped calls + 1 := by
  match calls with
  | [] => rfl
  | .start :: calls => rfl
  | .stop :: calls => exact absurd rfl h

theorem getLast?_ne_of_cons {call other : Call} {calls : List Call}
    (h : (call :: calls).getLast? ≠ some other) : calls.getLast? ≠ some other := by
  rw [List.getLast?_cons] at h
  exact fun hlast => h (by rw [hlast]; rfl)

/-- Calls are counted apart, unless a stop comes after a start there. -/
theorem unstopped_append {earlier later : List Call}
    (apart : earlier.getLast? ≠ some .start ∨ later.head? ≠ some .stop) :
    unstopped (earlier ++ later) = unstopped earlier + unstopped later := by
  fun_induction unstopped earlier with
  | case1 => simp
  | case2 calls ih =>
    exact ih (apart.imp_left fun h => getLast?_ne_of_cons (getLast?_ne_of_cons h))
  | case3 calls other ih =>
    have hhead : (calls ++ later).head? ≠ some .stop := by
      match calls with
      | [] => exact apart.resolve_left (by simp)
      | .start :: calls => simp
      | .stop :: calls => exact absurd rfl (other calls)
    rw [List.cons_append, unstopped_start hhead, ih (apart.imp_left getLast?_ne_of_cons)]
    omega
  | case4 calls ih => exact ih (apart.imp_left getLast?_ne_of_cons)

theorem getLast?_stop_cons (calls : List Call) :
    (Call.stop :: calls).getLast? = some .start ↔ calls.getLast? = some .start := by
  rw [List.getLast?_cons]
  cases calls.getLast? <;> simp

/-- Without a start right after another, only the last start can be without a stop. -/
theorem unstopped_of_apart {calls : List Call} (apart : ¬[.start, .start] <:+: calls) :
    unstopped calls = if calls.getLast? = some .start then 1 else 0 := by
  have hlater (earlier : List Call) {later : List Call}
      (h : ¬[Call.start, .start] <:+: earlier ++ later) : ¬[Call.start, .start] <:+: later :=
    fun within => h (within.trans (List.suffix_append earlier later).isInfix)
  fun_induction unstopped calls with
  | case1 => rfl
  | case2 calls ih =>
    have hlast := getLast?_stop_cons calls
    rw [ih (hlater [.start, .stop] apart), List.getLast?_cons_cons]
    simp only [hlast]
  | case3 calls other ih =>
    match calls with
    | [] => rfl
    | .start :: calls => exact absurd (List.prefix_append [Call.start, .start] calls).isInfix apart
    | .stop :: calls => exact absurd rfl (other calls)
  | case4 calls ih =>
    rw [ih (hlater [.stop] apart)]
    simp only [getLast?_stop_cons]

/-- What may come from elsewhere asks for nothing that concerns the scans. -/
theorem exists_asked_of_admits {d : ScanDuty} {s : Timetable.Step Chore} {r : TimetableRun Chore}
    (move : TimetableRun.Move d.run s r) (admitted : d.admits s = true)
    (unshut : .shutdown ∉ d.run.asked) :
    r.timetable.isOpen = d.run.timetable.isOpen ∧
      ∃ commands, r.asked = d.run.asked ++ commands ∧ Command.Foreign d.run.asked commands := by
  cases move with
  | register delay period task isOpen =>
    have hother : task ≠ .scan := by simpa [admits] using admitted
    refine ⟨rfl, _, (List.append_assoc ..).symm, ?_⟩
    simp [Command.Foreign, Command.scanJob?, hother]
  | cancel id issued isOpen =>
    have hother : id ∉ Command.scanJobs d.run.asked := by simpa [admits] using admitted
    refine ⟨rfl, _, (List.append_assoc ..).symm, ?_⟩
    simp only [Command.Foreign, List.mem_singleton, forall_eq]
    exact ⟨by simp, rfl, fun other hmem h => hother (by cases h; exact hmem)⟩
  | shutdown => cases admitted
  | obey command rest oldest now =>
    have hasked := TimetableRun.asked_obey oldest
    have hnone : Command.Foreign d.run.asked [] := by simp [Command.Foreign]
    cases command with
    | register job => exact ⟨rfl, [], hasked.trans (List.append_nil _).symm, hnone⟩
    | cancel id => exact ⟨rfl, [], hasked.trans (List.append_nil _).symm, hnone⟩
    | shutdown =>
      rw [← hasked] at unshut
      exact absurd (by simp) unshut
  | _ => exact ⟨rfl, [], (List.append_nil _).symm, by simp [Command.Foreign]⟩

theorem asked_of_settled {d : ScanDuty} (settled : d.run.timetable.commands = []) :
    d.run.asked = d.run.obeyed := by
  rw [TimetableRun.asked, settled, List.append_nil]

/-- All that a step can do, by what it asks of the scanner: a start asks for a job and keeps its
handle, a stop gives up the handle and cancels its job, if there is one, and no other step touches
the handle or what is asked of the scans. -/
inductive Turn (d : ScanDuty) : Option Call → ScanDuty → Prop
  | start (root : Option ContextId)
      (asked : (d.run.step (.every 0 d.scanner.periodMillis .scan)).asked = d.run.asked ++
        [.register ⟨d.run.timetable.nextId, .scan, 0, d.scanner.periodMillis⟩]) :
      Turn d (some .start)
        ⟨{ d.scanner with root, job := some d.run.timetable.nextId },
          d.run.step (.every 0 d.scanner.periodMillis .scan)⟩
  | stop (id : Nat) (held : d.scanner.job = some id)
      (asked : (d.run.step (.cancel id)).asked = d.run.asked ++ [.cancel id]) :
      Turn d (some .stop) ⟨{ d.scanner with job := none }, d.run.step (.cancel id)⟩
  | rest (free : d.scanner.job = none) : Turn d (some .stop) d
  | other (root : Option ContextId) (lastReport : Option (List TopologyEntry))
      (s : Timetable.Step Chore) (r : TimetableRun Chore) (move : TimetableRun.Move d.run s r)
      (isOpen : r.timetable.isOpen = d.run.timetable.isOpen) (commands : List (Command Chore))
      (asked : r.asked = d.run.asked ++ commands)
      (foreign : Command.Foreign d.run.asked commands) :
      Turn d none ⟨{ d.scanner with root, lastReport }, r⟩

/-- A scanner that is enabled, on a timetable that stays open: the handle that it keeps is that of a
standing job, after a start until the next stop, and as many jobs stand as there were starts that
are not stopped. -/
structure Rostered (calls : List Call) (d : ScanDuty) : Prop where
  enabled : d.scanner.enabled = true
  isOpen : d.run.timetable.isOpen = true
  unshut : .shutdown ∉ d.run.asked
  governed : d.run.Governed
  installed : d.run.Installed
  held : ∀ id, d.scanner.job = some id → id ∈ d.standing
  last : d.scanner.job.isSome = true ↔ calls.getLast? = some .start
  count : d.standing.length = unstopped calls

namespace Rostered

variable {cs : List Call} {d : ScanDuty}

theorem issued (h : Rostered cs d) {id : Nat} (held : d.scanner.job = some id) :
    id < d.run.timetable.nextId := by
  obtain ⟨hid, -⟩ := List.mem_filter.mp (h.held id held)
  obtain ⟨job, registered, -, rfl⟩ := Command.mem_scanJobs.mp hid
  exact h.governed.issued _ registered _ rfl

theorem turn_step (h : Rostered cs d) (s : Step) : Turn d s.call? (d.step s) := by
  have hidle (root : Option ContextId) (lastReport : Option (List TopologyEntry)) :
      Turn d none ⟨{ d.scanner with root, lastReport }, d.run⟩ :=
    .other root lastReport .join _ (.idle _) rfl [] (List.append_nil _).symm
      (by simp [Command.Foreign])
  cases s with
  | start connector =>
    obtain ⟨root, hroot⟩ := d.scanner.exists_scanner_connect connector
    have hstep : d.step (.start connector) =
        ⟨{ d.scanner with root, job := some d.run.timetable.nextId },
          d.run.step (.every 0 d.scanner.periodMillis .scan)⟩ := by
      simp [ScanDuty.step, Scanner.schedule, h.enabled, hroot, Timetable.every, h.isOpen,
        TimetableRun.step]
    rw [hstep]
    refine .start root ?_
    simp [TimetableRun.step, Timetable.every, Timetable.send, h.isOpen, TimetableRun.asked]
  | stop =>
    cases hjob : d.scanner.job with
    | none =>
      have hstep : d.step .stop = d := by simp [ScanDuty.step, Scanner.stop, hjob]
      rw [hstep]
      exact .rest hjob
    | some id =>
      have hissued := h.issued hjob
      have hstep : d.step .stop =
          ⟨{ d.scanner with job := none }, d.run.step (.cancel id)⟩ := by
        simp [ScanDuty.step, Scanner.stop, hjob, TimetableRun.step, TimetableRun.cancel, hissued]
      rw [hstep]
      refine .stop id hjob ?_
      simp [TimetableRun.step, TimetableRun.cancel, Timetable.cancel, Timetable.send, h.isOpen,
        hissued, TimetableRun.asked]
  | scan around =>
    obtain ⟨root, lastReport, hscanner⟩ := d.scanner.exists_scanner_scan around
    rw [ScanDuty.step, hscanner]
    exact hidle root lastReport
  | other s =>
    rw [ScanDuty.step]
    split
    · next admitted =>
      have move := d.run.move_step s
      obtain ⟨isOpen, commands, asked, foreign⟩ := exists_asked_of_admits move admitted h.unshut
      exact .other _ _ s _ move isOpen commands asked foreign
    · exact hidle d.scanner.root d.scanner.lastReport

/-- A start adds a job that stands. -/
theorem standing_start (h : Rostered cs d) {r : TimetableRun Chore} {period : Nat}
    (asked : r.asked = d.run.asked ++ [.register ⟨d.run.timetable.nextId, .scan, 0, period⟩]) :
    Command.standing r.asked = d.standing ++ [d.run.timetable.nextId] := by
  rw [asked]
  refine Command.standing_append_register rfl fun command hmem hid => ?_
  exact Nat.lt_irrefl _ (h.governed.issued command hmem _ hid)

theorem length_standing_stop (h : Rostered cs d) {id : Nat} (held : d.scanner.job = some id)
    {r : TimetableRun Chore} (asked : r.asked = d.run.asked ++ [.cancel id]) :
    (Command.standing r.asked).length = unstopped (cs ++ [.stop]) := by
  -- The calls end in a start, since there is a handle.
  obtain ⟨earlier, rfl⟩ := List.getLast?_eq_some_iff.mp (h.last.mp (by simp [held]))
  have hcount := h.count
  rw [unstopped_append (.inr (by simp))] at hcount
  have herase : Command.standing r.asked = d.standing.erase id := by
    rw [asked]
    exact Command.standing_append_cancel h.governed.order id
  rw [herase, List.length_erase_of_mem (h.held id held), hcount, List.append_assoc,
    unstopped_append (.inr (by simp))]
  rfl

theorem of_turn (h : Rostered cs d) {call : Option Call} {d' : ScanDuty} (turn : Turn d call d') :
    Rostered (cs ++ call.toList) d' := by
  cases turn with
  | start root asked =>
    have move := d.run.move_step (.every 0 d.scanner.periodMillis .scan)
    have hstanding := h.standing_start asked
    refine ⟨h.enabled, ?_, ?_, move.governed h.governed, move.installed h.installed, ?_, ?_, ?_⟩
    · simp [TimetableRun.step, Timetable.every, Timetable.send, h.isOpen]
    · simpa [asked] using h.unshut
    · rintro id ⟨⟩
      rw [standing, hstanding]
      exact List.mem_append_right _ List.mem_cons_self
    · simp
    · rw [standing, hstanding, List.length_append, h.count, unstopped_append (.inr (by simp))]
      rfl
  | stop id held asked =>
    have move := d.run.move_step (.cancel id)
    refine ⟨h.enabled, ?_, ?_, move.governed h.governed, move.installed h.installed, ?_, ?_, ?_⟩
    · simp [TimetableRun.step, TimetableRun.cancel, Timetable.cancel, Timetable.send, h.isOpen,
        h.issued held]
    · simpa [asked] using h.unshut
    · rintro other ⟨⟩
    · simp
    · exact h.length_standing_stop held asked
  | rest free =>
    have hlast : cs.getLast? ≠ some .start := by simpa [free] using h.last
    refine { h with last := by simp [free], count := ?_ }
    rw [h.count, unstopped_append (.inl hlast)]
    rfl
  | other root lastReport s r move isOpen commands asked foreign =>
    have hstanding : Command.standing r.asked = d.standing := by
      rw [asked]
      exact foreign.standing_append
    rw [Option.toList_none, List.append_nil]
    refine ⟨h.enabled, isOpen.trans h.isOpen, ?_, move.governed h.governed,
      move.installed h.installed, fun id hid => ?_, h.last, ?_⟩
    · rw [asked, List.mem_append]
      rintro (hmem | hmem)
      · exact h.unshut hmem
      · exact (foreign _ hmem).1 rfl
    · rw [standing, hstanding]
      exact h.held id hid
    · rw [standing, hstanding]
      exact h.count

/-- Once every command is handled, the jobs of scans on the timetable are those that stand. -/
theorem exists_slot_iff (h : Rostered cs d) (settled : d.run.timetable.commands = []) (id : Nat) :
    (∃ slot ∈ d.run.timetable.slots, slot.job.task = .scan ∧ slot.job.id = id) ↔
      id ∈ d.standing := by
  rw [standing, Command.standing, List.mem_filter, Command.mem_scanJobs, decide_eq_true_eq,
    asked_of_settled settled]
  constructor
  · rintro ⟨slot, hslot, scan, rfl⟩
    exact ⟨⟨slot.job, h.governed.registered slot hslot, scan, rfl⟩, h.governed.kept slot hslot⟩
  · rintro ⟨⟨job, registered, scan, rfl⟩, kept⟩
    obtain ⟨slot, hslot, rfl⟩ := h.installed h.isOpen job registered kept
    exact ⟨slot, hslot, scan, rfl⟩

end Rostered

theorem rostered_after {settings : Settings} (enabled : settings.scanEnabled = true)
    (steps : List Step) : Rostered (calls steps) (after settings steps) := by
  induction steps using List.reverseRecOn with
  | nil =>
    refine ⟨enabled, rfl, ?_, TimetableRun.governed_after [], ?_, ?_, ?_, rfl⟩
    · simp [after, TimetableRun.asked, TimetableRun.empty, Timetable.empty]
    · intro _ job registered
      cases registered
    · rintro id ⟨⟩
    · simp [after, calls, Scanner.ofSettings]
  | append_singleton steps s ih =>
    have hcalls : calls (steps ++ [s]) = calls steps ++ s.call?.toList := by
      rw [calls, List.filterMap_append]
      cases hcall : s.call? <;> simp [calls, hcall]
    rw [after_concat, hcalls]
    exact ih.of_turn (ih.turn_step s)

/-- Without a start, what happens on the timetable brings no new jobs of scans. -/
theorem Turn.exists_move {d d' : ScanDuty} {call : Option Call} (turn : Turn d call d')
    (quiet : call ≠ some .start) :
    ∃ s, TimetableRun.Move d.run s d'.run ∧
      Command.scanJobs d'.run.asked = Command.scanJobs d.run.asked := by
  cases turn with
  | start => exact absurd rfl quiet
  | stop id held asked =>
    refine ⟨_, d.run.move_step (.cancel id), ?_⟩
    rw [asked]
    simp [Command.scanJobs, Command.scanJob?]
  | rest => exact ⟨_, .idle .join, rfl⟩
  | other root lastReport s r move isOpen commands asked foreign =>
    exact ⟨s, move, by rw [asked]; exact foreign.scanJobs_append⟩

/-- Since an earlier state, there are no new jobs of scans, and of the old ones only those had scans
that stood then. -/
structure Since (earlier d : ScanDuty) : Prop where
  scanJobs : Command.scanJobs d.run.asked = Command.scanJobs earlier.run.asked
  obeyed : earlier.run.obeyed ⊆ d.run.obeyed
  dispatched : ∃ new, d.run.dispatched = earlier.run.dispatched ++ new ∧
    ∀ run ∈ new, run.2 = .scan → run.1 ∈ earlier.standing

theorem Since.refl (d : ScanDuty) : Since d d :=
  ⟨rfl, List.Subset.refl _, [], (List.append_nil _).symm, by simp⟩

theorem Since.of_turn {earlier d d' : ScanDuty} {call : Option Call} (h : Since earlier d)
    (settled : earlier.run.timetable.commands = []) (governed : d.run.Governed)
    (turn : Turn d call d') (quiet : call ≠ some .start) : Since earlier d' := by
  obtain ⟨s, move, hjobs⟩ := turn.exists_move quiet
  obtain ⟨new, hnew, honly⟩ := h.dispatched
  obtain ⟨more, hmore, hregistered⟩ := move.exists_dispatched governed
  refine ⟨hjobs.trans h.scanJobs, fun command hmem => move.mem_obeyed (h.obeyed hmem),
    new ++ more, by rw [hmore, hnew, List.append_assoc], ?_⟩
  intro run hrun scan
  rcases List.mem_append.mp hrun with before | now
  · exact honly run before scan
  · obtain ⟨kept, job, registered, rfl⟩ := hregistered run now
    have hjob : job.id ∈ Command.scanJobs d.run.asked :=
      Command.mem_scanJobs.mpr ⟨job, List.mem_append_left _ registered, scan, rfl⟩
    rw [h.scanJobs] at hjob
    refine List.mem_filter.mpr ⟨hjob, decide_eq_true fun cancelled => kept ?_⟩
    rw [asked_of_settled settled] at cancelled
    exact h.obeyed cancelled

theorem since_after {settings : Settings} (enabled : settings.scanEnabled = true)
    {steps later : List Step} (settled : (after settings steps).run.timetable.commands = [])
    (quiet : .start ∉ calls later) :
    Since (after settings steps) (after settings (steps ++ later)) := by
  induction later using List.reverseRecOn with
  | nil =>
    rw [List.append_nil]
    exact .refl _
  | append_singleton later s ih =>
    rw [calls, List.filterMap_append, List.mem_append, not_or] at quiet
    have hs : s.call? ≠ some .start := fun hcall => quiet.2 (by simp [hcall])
    have rostered := rostered_after enabled (steps ++ later)
    rw [← List.append_assoc, after_concat]
    exact (ih quiet.1).of_turn settled rostered.governed (rostered.turn_step s) hs

/-- As many jobs of scans stand as there were starts that were not stopped before the next one. So
if no start came right after another, at most one job stands, and none after a stop. Once every
command is handled, the jobs of scans on the timetable are those that stand, and until the next
start there are only scans of theirs. -/
theorem scans_of_unstopped_starts {settings : Settings} (enabled : settings.scanEnabled = true)
    (steps : List Step) :
    let d := after settings steps
    d.standing.length = unstopped (calls steps) ∧
    (¬[.start, .start] <:+: calls steps → d.standing.length ≤ 1 ∧
      ((calls steps).getLast? = some .stop → d.standing = [])) ∧
    (d.run.timetable.commands = [] →
      (∀ id, (∃ slot ∈ d.run.timetable.slots, slot.job.task = .scan ∧ slot.job.id = id) ↔
        id ∈ d.standing) ∧
      ∀ later, .start ∉ calls later → ∃ new,
        (after settings (steps ++ later)).run.dispatched = d.run.dispatched ++ new ∧
          ∀ run ∈ new, run.2 = .scan → run.1 ∈ d.standing) := by
  intro d
  have rostered := rostered_after enabled steps
  refine ⟨rostered.count, fun apart => ?_, fun settled => ⟨rostered.exists_slot_iff settled, ?_⟩⟩
  · have hcount := rostered.count
    rw [unstopped_of_apart apart] at hcount
    constructor
    · rw [hcount]
      split <;> omega
    · intro stopped
      rw [stopped] at hcount
      exact List.length_eq_zero_iff.mp hcount
  · exact fun later quiet => (since_after enabled settled quiet).dispatched

theorem scans_of_unstopped_starts_of_stopped_start :
    let k : Connector := ⟨.ok 0, fun _ => .ok 0⟩
    let steps : List Step := [.start k, .stop, .other (.handle 0), .other (.handle 0)]
    Settings.standard.scanEnabled = true ∧ (after .standard steps).standing = [] ∧
      ∃ new, (after .standard (steps ++ [.other (.tick 1 0)])).run.dispatched = [] ++ new ∧
        ∀ run ∈ new, run.2 = .scan → run.1 ∈ (after .standard steps).standing := by
  intro k steps
  have enabled : Settings.standard.scanEnabled = true := rfl
  obtain ⟨-, hapart, hsettled⟩ := scans_of_unstopped_starts enabled steps
  exact ⟨enabled, (hapart (by decide)).2 rfl, (hsettled rfl).2 _ (by decide)⟩

/-- After two starts and a stop, the job of the first start is still on the timetable, and has a
scan. -/
theorem scan_after_stop :
    let k : Connector := ⟨.ok 0, fun _ => .ok 0⟩
    let steps : List Step := [.start k, .start k, .stop, .other (.handle 0), .other (.handle 0),
      .other (.handle 0)]
    let stopped := after .standard steps
    Settings.standard.scanEnabled = true ∧ stopped.run.timetable.commands = [] ∧
      stopped.standing = [1] ∧ stopped.run.dispatched = [] ∧
      (stopped.step (.other (.tick 1 0))).run.dispatched = [(1, .scan)] := by
  decide

end ScanDuty

end CallWatch
