import DocAudit.Extraction.Schedule
import DocAudit.Proofs.Command.Endings

/-! # Every schedule — what a crew gives does not depend on how it works

    Workers start and finish jobs in an order that nobody controls.  What a crew gives in the
    end is the same in EVERY run, however many workers there are: the results of all jobs in
    the order of the jobs, or nothing if one of them was interrupted.

    One invariant carries this (`Sound`).  No job is lost or doubled while it moves from the
    list to the queue, to a worker and to the finished ones, and the collector holds the
    results of the first jobs.  Every step uses up some of the WORK that is left
    (`Step.work_lt`), and a sound crew can always take a step until it is dismissed
    (`Sound.step_or_dismissed`); so no run goes on for ever and none gets stuck. -/

namespace DocAudit

namespace Crew

variable {α : Type} {workers n steps : Nat} {job : Nat → Option α} {crew next : Crew α}

/-! ## What a step keeps -/

/-- All jobs that the crew knows of, wherever they are. -/
def jobs (crew : Crew α) : List Nat :=
  crew.waiting ++ crew.queue ++ crew.busy ++ crew.done.map (·.1)

/-- The crew has been given `n` jobs and has handled them as it should. -/
structure Sound (n : Nat) (job : Nat → Option α) (crew : Crew α) : Prop where
  /-- A finished job gave what it gives. -/
  honest : ∀ entry ∈ crew.done, entry.2 = job entry.1
  /-- While the collector waits, every job is in one place, and it holds the results of the jobs
      that it has passed. -/
  holding : ∀ left results, crew.gathering = .holding left results →
    crew.jobs.Perm (List.range n) ∧
      ∃ passed, passed ++ left = List.range n ∧ passed.map job = results.map some
  /-- The collector stops only over an interrupted job. -/
  stopped : crew.gathering = .stopped → ∃ i < n, job i = none

theorem sound_start (n : Nat) (job : Nat → Option α) : Sound n job (start n) where
  honest := nofun
  holding := by
    rintro left results ⟨⟩
    exact ⟨by simp [jobs, start], [], rfl, rfl⟩
  stopped := nofun

/-- A job that only moves leaves the crew sound. -/
theorem Sound.moved (h : Sound n job crew) (hsame : next.gathering = crew.gathering)
    (hjobs : next.jobs.Perm crew.jobs)
    (hdone : ∀ entry ∈ next.done, entry ∈ crew.done ∨ entry.2 = job entry.1) :
    Sound n job next where
  honest := by
    intro entry hentry
    rcases hdone entry hentry with hold | hnew
    · exact h.honest entry hold
    · exact hnew
  holding := by
    intro left results hholding
    obtain ⟨hperm, hpassed⟩ := h.holding left results (hsame ▸ hholding)
    exact ⟨hjobs.trans hperm, hpassed⟩
  stopped := fun hstopped => h.stopped (hsame ▸ hstopped)

/-- **ONE STEP** keeps a crew sound. -/
theorem Sound.step (h : Sound n job crew) (hstep : Step workers job crew next) :
    Sound n job next := by
  cases hstep with
  | submit i waiting queue busy done gathering =>
      refine h.moved rfl ?_ fun _ => Or.inl
      refine List.perm_iff_count.mpr fun a => ?_
      simp only [jobs, List.count_append, List.count_cons, List.count_nil]
      omega
  | take i waiting queue busy done gathering idle =>
      refine h.moved rfl ?_ fun _ => Or.inl
      refine List.perm_iff_count.mpr fun a => ?_
      simp only [jobs, List.count_append, List.count_cons]
      omega
  | finish i waiting queue before after done gathering =>
      refine h.moved rfl ?_ ?_
      · refine List.perm_iff_count.mpr fun a => ?_
        simp only [jobs, List.map_cons, List.count_append, List.count_cons]
        omega
      · intro entry hentry
        rcases List.mem_cons.mp hentry with rfl | hold
        · exact Or.inr rfl
        · exact Or.inl hold
  | gather i queue busy done left results result given =>
      refine ⟨h.honest, ?_, nofun⟩
      rintro left' results' ⟨⟩
      obtain ⟨hperm, passed, hpassed, hresults⟩ := h.holding _ _ rfl
      refine ⟨hperm, passed ++ [i], ?_, ?_⟩
      · rw [List.append_assoc]
        exact hpassed
      · rw [List.map_append, List.map_append, hresults, List.map_singleton,
          ← h.honest _ given]
        rfl
  | stop i queue busy done left results given =>
      refine ⟨h.honest, nofun, fun _ => ⟨i, ?_, (h.honest _ given).symm⟩⟩
      obtain ⟨-, passed, hpassed, -⟩ := h.holding _ _ rfl
      have hmem : i ∈ List.range n := by
        rw [← hpassed]
        simp
      exact List.mem_range.mp hmem
  | cancel i before after busy done => exact ⟨h.honest, nofun, fun _ => h.stopped rfl⟩

/-- **A WHOLE RUN** keeps a crew sound. -/
theorem Run.sound (hrun : Run workers job steps (start n) crew) : Sound n job crew := by
  generalize hfirst : start n = first at hrun
  induction hrun with
  | refl first => exact hfirst ▸ sound_start n job
  | tail _ hstep ih => exact (ih hfirst).step hstep

/-! ## Runs come to an end -/

/-- How many results the collector still waits for. -/
def Gathering.due : Gathering α → Nat
  | .holding left _ => left.length
  | .stopped => 0

/-- How many steps are left at most: a job is handed in, taken and finished, and its result is
    collected. -/
def work (crew : Crew α) : Nat :=
  3 * crew.waiting.length + 2 * crew.queue.length + crew.busy.length + Gathering.due crew.gathering

theorem work_start (n : Nat) : (start n : Crew α).work = 4 * n := by
  simp only [work, start, Gathering.due, List.length_range, List.length_nil]
  omega

theorem Step.work_lt (hstep : Step workers job crew next) : next.work < crew.work := by
  cases hstep <;>
    simp only [work, Gathering.due, List.length_append, List.length_cons, List.length_nil] <;>
    omega

/-- What a run has done and what is left is no more than there was. -/
theorem Run.work_add_le (hrun : Run workers job steps crew next) :
    next.work + steps ≤ crew.work := by
  induction hrun with
  | refl crew => exact Nat.le_refl _
  | tail _ hstep ih =>
      have := hstep.work_lt
      omega

/-- A dismissed crew takes no step. -/
theorem Dismissed.not_step {outcome : Option (List α)} (h : Dismissed crew outcome) :
    ¬ Step workers job crew next := by
  intro hstep
  have hwork : crew.work = 0 := by cases h <;> rfl
  have := hstep.work_lt
  omega

/-- A sound crew that is not dismissed can take a step: there is a job to hand in, to finish or to
    take, or else the result that the collector waits for is there. -/
theorem Sound.step_or_dismissed (h : Sound n job crew) (hworkers : 0 < workers) :
    (∃ next, Step workers job crew next) ∨ ∃ outcome, Dismissed crew outcome := by
  obtain ⟨waiting, queue, busy, done, gathering⟩ := crew
  cases waiting with
  | cons i waiting => exact Or.inl ⟨_, .submit i waiting queue busy done gathering⟩
  | nil =>
  cases busy with
  | cons i busy => exact Or.inl ⟨_, .finish i [] queue [] busy done gathering⟩
  | nil =>
  cases queue with
  | cons i queue => exact Or.inl ⟨_, .take i [] queue [] done gathering hworkers⟩
  | nil =>
  cases gathering with
  | stopped => exact Or.inr ⟨_, .interrupted done⟩
  | holding left results =>
  cases left with
  | nil => exact Or.inr ⟨_, .returned done results⟩
  | cons i left =>
      -- no job is anywhere else, so the one that is waited for is finished
      obtain ⟨hperm, passed, hpassed, -⟩ := h.holding _ _ rfl
      have hmem : i ∈ done.map (·.1) := by
        have hrange : i ∈ List.range n := by
          rw [← hpassed]
          simp
        exact hperm.mem_iff.mpr hrange
      obtain ⟨⟨_, result⟩, hentry, rfl⟩ := List.mem_map.mp hmem
      cases result with
      | none => exact Or.inl ⟨_, .stop _ [] [] done left results hentry⟩
      | some result => exact Or.inl ⟨_, .gather _ [] [] done left results result hentry⟩

/-! ## What a dismissed crew gives -/

/-- A crew that gives results gives those of all jobs, in the order of the jobs. -/
theorem Run.map_job_eq {results : List α} (hrun : Run workers job steps (start n) crew)
    (hdismissed : Dismissed crew (some results)) :
    (List.range n).map job = results.map some := by
  cases hdismissed with
  | returned done results =>
      obtain ⟨-, passed, hpassed, hresults⟩ := hrun.sound.holding _ _ rfl
      rw [← hpassed, List.append_nil, hresults]

/-- A crew gives nothing only over an interrupted job. -/
theorem Run.exists_interrupted (hrun : Run workers job steps (start n) crew)
    (hdismissed : Dismissed crew none) : ∃ i < n, job i = none := by
  cases hdismissed with
  | interrupted done => exact hrun.sound.stopped rfl

end Crew

/-! ## Crews that extract records -/

/-- A number of steps that a crew takes on the records from its start; `usual` is its size if no
    number of workers is asked for. -/
abbrev Extracting (usual : Nat) (workers : Option Int) (interrupted : Nat → Bool)
    (records : List RecordedFile) (steps : Nat) (crew : Crew SourceFile) : Prop :=
  Crew.Run (Crew.size usual workers) (extractionJob interrupted records) steps
    (Crew.start records.length) crew

theorem Crew.size_pos {usual : Nat} (husual : 1 ≤ usual) {workers : Option Int}
    (hworkers : ∀ n, workers = some n → 1 ≤ n) : 0 < Crew.size usual workers := by
  cases workers with
  | none => exact husual
  | some n =>
      have := hworkers n rfl
      show 0 < n.toNat
      omega

theorem extractionJob_eq_none_iff {interrupted : Nat → Bool} {records : List RecordedFile} {i : Nat}
    (hi : i < records.length) :
    extractionJob interrupted records i = none ↔ interrupted i = true := by
  rw [extractionJob]
  cases interrupted i with
  | true => simp
  | false => simp [hi]

/-- If all jobs give results, they give the extracted records. -/
theorem eq_extract_of_map_job {interrupted : Nat → Bool} {records : List RecordedFile}
    {files : List SourceFile}
    (h : (List.range records.length).map (extractionJob interrupted records) = files.map some) :
    files = records.map RecordedFile.extract := by
  have hlength : records.length = files.length := by simpa using congrArg List.length h
  refine List.ext_getElem? fun i => ?_
  by_cases hi : i < records.length
  · have hjob : extractionJob interrupted records i = files[i]? := by
      have := congrArg (fun jobs => jobs[i]?) h
      simpa [hi, hlength ▸ hi] using this
    have hfile : files[i]? ≠ none := by simp [hlength ▸ hi]
    rw [← hjob, extractionJob]
    rw [← hjob, extractionJob] at hfile
    cases hinterrupted : interrupted i with
    | true => simp [hinterrupted] at hfile
    | false => simp
  · rw [List.getElem?_eq_none (by omega), List.getElem?_eq_none (by simp; omega)]

/-- A crew that gives files gives all of them, and none of its jobs was interrupted. -/
theorem Extracting.returned {usual : Nat} {workers : Option Int} {interrupted : Nat → Bool}
    {records : List RecordedFile} {steps : Nat} {crew : Crew SourceFile} {files : List SourceFile}
    (hrun : Extracting usual workers interrupted records steps crew)
    (hdismissed : crew.Dismissed (some files)) :
    files = records.map RecordedFile.extract ∧
      ∀ i < records.length, interrupted i = false := by
  have hjobs := hrun.map_job_eq hdismissed
  refine ⟨eq_extract_of_map_job hjobs, fun i hi => Bool.eq_false_iff.mpr fun hinterrupted => ?_⟩
  have hnone : none ∈ (List.range records.length).map (extractionJob interrupted records) :=
    List.mem_map.mpr ⟨i, List.mem_range.mpr hi, (extractionJob_eq_none_iff hi).mpr hinterrupted⟩
  rw [hjobs] at hnone
  simp at hnone

theorem Extracting.interrupted {usual : Nat} {workers : Option Int} {interrupted : Nat → Bool}
    {records : List RecordedFile} {steps : Nat} {crew : Crew SourceFile}
    (hrun : Extracting usual workers interrupted records steps crew)
    (hdismissed : crew.Dismissed none) : ∃ i < records.length, interrupted i = true := by
  obtain ⟨i, hi, hnone⟩ := hrun.exists_interrupted hdismissed
  exact ⟨i, hi, (extractionJob_eq_none_iff hi).mp hnone⟩

/-! ## The program and its crew -/

namespace Command

/-- The jobs that the user interrupts. -/
def Session.interrupts (session : Session) (records : List RecordedFile) (i : Nat) : Bool :=
  records[i]?.any fun record => session.interruptAt == some record.file

theorem exists_interrupts_iff {session : Session} {records : List RecordedFile} :
    (∃ i < records.length, session.interrupts records i = true) ↔
      ∃ record ∈ records, session.interruptAt = some record.file := by
  constructor
  · rintro ⟨i, hi, hinterrupts⟩
    rw [Session.interrupts, List.getElem?_eq_getElem hi, Option.any_some, beq_iff_eq] at hinterrupts
    exact ⟨records[i], List.getElem_mem hi, hinterrupts⟩
  · rintro ⟨record, hrecord, hat⟩
    obtain ⟨i, hi, rfl⟩ := List.getElem_of_mem hrecord
    refine ⟨i, hi, ?_⟩
    rw [Session.interrupts, List.getElem?_eq_getElem hi, Option.any_some, beq_iff_eq]
    exact hat

/-- A run goes on from what its crew gave: it reports on the files, or exits without a report. -/
def Follows (session : Session) (settings : Settings) (outcome : Outcome) :
    Option (List SourceFile) → Prop
  | none => ∃ notices, outcome = .exit session .interrupted notices
  | some files => ∃ notices report, Report.write files settings.title = .ok report ∧
      outcome = conclude session settings notices report

end Command

open Command in
/-- **EVERY SCHEDULE GIVES THE SAME**: a crew takes at most four steps for each record and goes on
    until it is dismissed; it gives the records extracted one after another, in their order, exactly
    if no job is interrupted.  So neither the files nor the report depend on the workers, and a run
    of the program goes on from what its crew gave, whatever the schedule was; if the user interrupts
    a job, it exits as interrupted and reports nothing. -/
theorem extracting_any_schedule {workers : Option Int}
    (hworkers : ∀ n, workers = some n → 1 ≤ n) {usual : Nat} (husual : 1 ≤ usual)
    (records : List RecordedFile) :
    (∀ interrupted steps crew, Extracting usual workers interrupted records steps crew →
      steps ≤ 4 * records.length ∧
      ((∃ next, Crew.Step (Crew.size usual workers) (extractionJob interrupted records) crew next) ↔
        ¬ ∃ outcome, crew.Dismissed outcome) ∧
      (∀ files, crew.Dismissed (some files) → files = records.map RecordedFile.extract) ∧
      ((∀ i < records.length, interrupted i = false) → ¬ crew.Dismissed none) ∧
      ((∃ i < records.length, interrupted i = true) → ∀ files, ¬ crew.Dismissed (some files))) ∧
    extractAll workers records = .ok (records.map RecordedFile.extract) ∧
    (∀ workers', (∀ n, workers' = some n → 1 ≤ n) → ∀ title,
      extractAll workers' records = extractAll workers records ∧
      exportReport workers' title records = exportReport workers title records ∧
      exportReport workers title records
        = (Report.write (records.map RecordedFile.extract) title).mapError .rule) ∧
    ∀ session arguments request settings, readArguments arguments = .ok request →
      Settings.ofRequest session.tree session.environment request = .ok settings →
      inputRecords session settings = .ok records → records ≠ [] →
      (∀ steps crew outcome,
        Extracting usual settings.workers (session.interrupts records) records steps crew →
        crew.Dismissed outcome → Follows session settings (run session arguments) outcome) ∧
      ((∃ record ∈ records, session.interruptAt = some record.file) →
        ∃ notices, run session arguments = .exit session .interrupted notices ∧
          ExitStatus.interrupted.number = 130) := by
  refine ⟨?_, extractAll_eq_ok hworkers records, ?_, ?_⟩
  · intro interrupted steps crew hrun
    refine ⟨?_, ?_, fun files hreturned => (hrun.returned hreturned).1, ?_, ?_⟩
    · have := hrun.work_add_le
      rw [Crew.work_start] at this
      omega
    · constructor
      · rintro ⟨next, hstep⟩ ⟨outcome, hdismissed⟩
        exact hdismissed.not_step hstep
      · intro hgoing
        exact (hrun.sound.step_or_dismissed (Crew.size_pos husual hworkers)).resolve_right hgoing
    · intro hnone hdismissed
      obtain ⟨i, hi, hinterrupted⟩ := hrun.interrupted hdismissed
      rw [hnone i hi] at hinterrupted
      exact nomatch hinterrupted
    · rintro ⟨i, hi, hinterrupted⟩ files hdismissed
      rw [(hrun.returned hdismissed).2 i hi] at hinterrupted
      exact nomatch hinterrupted
  · intro workers' hworkers' title
    rw [extractAll_eq_ok hworkers', extractAll_eq_ok hworkers, exportReport_eq hworkers',
      exportReport_eq hworkers]
    exact ⟨rfl, rfl, rfl⟩
  · intro session arguments request settings hrequest hsettings hrecords hne
    rw [run_eq_process hrequest hsettings hrecords hne]
    have hcrew : ∀ n, settings.workers = some n → 1 ≤ n := fun n hn => one_le_workers hsettings hn
    constructor
    · intro steps crew outcome hrun hdismissed
      cases outcome with
      | none =>
          exact process_of_interrupt (exists_interrupts_iff.mp (hrun.interrupted hdismissed)) settings
      | some files =>
          obtain ⟨rfl, hnone⟩ := hrun.returned hdismissed
          refine process_of_no_interrupt (fun hsome => ?_) hcrew
          obtain ⟨i, hi, hinterrupts⟩ := exists_interrupts_iff.mpr hsome
          rw [hnone i hi] at hinterrupts
          exact nomatch hinterrupts
    · intro hsome
      obtain ⟨notices, hprocess⟩ := process_of_interrupt hsome settings
      exact ⟨notices, hprocess, rfl⟩

/-- Two files without elements. -/
def twoFiles : List RecordedFile := [⟨"a", []⟩, ⟨"b", []⟩]

/-- Two workers finish the second file before the first. -/
theorem extracting_crossed :
    Extracting 1 (some 2) (fun _ => false) twoFiles 8
      ⟨[], [], [], [(0, some ⟨"a", []⟩), (1, some ⟨"b", []⟩)], .holding [] [⟨"a", []⟩, ⟨"b", []⟩]⟩ := by
  -- the steps from the last to the first
  refine .tail ?_ (.gather 1 [] [] _ [] [RecordedFile.extract ⟨"a", []⟩] _ (by decide))
  refine .tail ?_ (.gather 0 [] [] _ [1] [] _ (by decide))
  refine .tail ?_ (.finish 0 [] [] [] [] _ _)
  refine .tail ?_ (.finish 1 [] [] [] [0] [] _)
  refine .tail ?_ (.take 1 [] [] [0] [] _ (by decide))
  refine .tail ?_ (.take 0 [] [1] [] [] _ (by decide))
  refine .tail ?_ (.submit 1 [] [0] [] [] _)
  refine .tail ?_ (.submit 0 [1] [] [] [] _)
  exact .refl _

open Command in
/-- A session with the two files on its standard input, where the second one is interrupted. -/
def interruptedPair : Session where
  tree := ⟨.dir [], []⟩
  stdin := "[\x7b\"file\": \"a\"\x7d, \x7b\"file\": \"b\"\x7d]"
  interruptAt := some "b"

open Command in
/-- The files come back in their order although they were finished in the other; and an interrupt at
    the second file leaves nothing, whatever became of the first. -/
theorem extracting_any_schedule_crossed :
    (∃ crew, Extracting 1 (some 2) (fun _ => false) twoFiles 8 crew ∧
      crew.done.map (·.1) = [0, 1] ∧ ¬ crew.Dismissed none ∧
      ∀ files, crew.Dismissed (some files) → files = twoFiles.map RecordedFile.extract) ∧
    ∃ notices, run interruptedPair ["-", "-o", "r.md"] = .exit interruptedPair .interrupted notices ∧
      ExitStatus.interrupted.number = 130 := by
  have hworkers : ∀ n, (some 2 : Option Int) = some n → 1 ≤ n := by
    rintro n ⟨⟩
    decide
  obtain ⟨hcrew, -, -, hprogram⟩ := extracting_any_schedule hworkers (Nat.le_refl 1) twoFiles
  constructor
  · obtain ⟨-, -, hreturned, huninterrupted, -⟩ := hcrew _ _ _ extracting_crossed
    exact ⟨_, extracting_crossed, rfl, huninterrupted fun _ _ => rfl, hreturned⟩
  · have hrequest : readArguments ["-", "-o", "r.md"]
        = .ok { input := "-", output := .value "r.md" } := by cbv
    have hrecords : inputRecords interruptedPair
        { input := "-", output := .value "r.md", title := "PHP Documentation", workers := none,
          verbose := false, strict := false } = .ok twoFiles := by decide +kernel
    refine (hprogram interruptedPair _ _ _ hrequest (by decide +kernel) hrecords (by decide)).2 ?_
    exact ⟨⟨"b", []⟩, by decide, rfl⟩

end DocAudit
