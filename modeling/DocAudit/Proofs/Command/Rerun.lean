import DocAudit.Proofs.Command.AllOrNothing
import DocAudit.Proofs.FileTree.Undisturbed

/-! # Running again — a run that succeeded can be repeated

    A run that succeeds leaves a tree behind in which the same run does the SAME again: it ends
    as before, prints and reports the same, and leaves the tree as it is.  The one condition is
    that the report does not replace the input.

    What the second run looks at has not been disturbed by the first: directories are where they
    were, so the sources suggest the same title; the input is read from another place; and writing
    the same report changes nothing more. -/

namespace DocAudit.Command

open Text

/-- The session that follows a run: all that was given is given again, and the files are those
    that the run left. -/
def Session.after (session : Session) (outcome : Outcome) : Session :=
  { session with tree := outcome.tree }

/-- The report that is asked for does not replace the input: the input is piped in, or the two
    paths lead to different places. -/
def SparesInput (session : Session) (request : Request) : Prop :=
  request.input = ['-'] ∨
    ∀ output place, request.output = .value output →
      session.tree.locate (Path.ofText request.input) = .ok place →
      session.tree.locateFile (Path.ofText output) ≠ .ok place

/-! ## What the second run looks at -/

/-- Settings look at directories only. -/
theorem ofRequest_congr {tree tree' : FileTree}
    (h : ∀ path, tree'.directory? path = tree.directory? path) (environment : Environment)
    (request : Request) :
    Settings.ofRequest tree' environment request = Settings.ofRequest tree environment request := by
  have hdefault : ∀ sources, Settings.defaultTitle tree' sources
      = Settings.defaultTitle tree sources := by
    intro sources
    cases sources with
    | nil => rfl
    | cons first rest =>
        cases first with
        | blank => rfl
        | value first => rw [Settings.defaultTitle, Settings.defaultTitle, h]
  have htitle : Settings.chooseTitle tree' environment request
      = Settings.chooseTitle tree environment request := by
    rw [Settings.chooseTitle, Settings.chooseTitle, hdefault]
  rw [Settings.ofRequest, Settings.ofRequest, htitle]

/-- An input that was read is read again, as long as its file can be. -/
theorem inputText_again {session session' : Session} {settings : Settings} {text : Text}
    (hstdin : session'.stdin = session.stdin)
    (hread : settings.input ≠ ['-'] → ∀ bytes,
      session.tree.read (Path.ofText settings.input) = .ok bytes →
      session'.tree.read (Path.ofText settings.input) = .ok bytes)
    (h : inputText session settings = .ok text) : inputText session' settings = .ok text := by
  rw [inputText] at h ⊢
  rw [hstdin]
  by_cases hpiped : settings.input = ['-']
  · rw [if_pos hpiped] at h ⊢
    exact h
  · rw [if_neg hpiped] at h ⊢
    cases hbytes : session.tree.read (Path.ofText settings.input) with
    | error fault =>
        simp only [hbytes] at h
        split at h
        · cases h
        · cases h
    | ok bytes =>
        simp only [hbytes] at h
        simp only [hread hpiped bytes hbytes]
        exact h

/-! ## The stages, from the last to the first -/

variable {session : Session} {settings : Settings} {notices : List Notice} {report : Report}

/-- A report that was written is written again. -/
theorem deliver_again {output : Text}
    (h : (deliver session output notices report).ending = .exit .success) :
    deliver (session.after (deliver session output notices report)) output notices report
      = deliver session output notices report := by
  by_cases hnul : (Path.ofText output).hasNul = true
  · simp only [deliver, hnul, if_true] at h
    cases h
  · cases hwrite : session.tree.write (Path.ofText output) (utf8 report.document) with
    | error fault =>
        simp only [deliver, hnul, hwrite] at h
        cases h
    | ok tree =>
        have hagain := FileTree.write_of_write hwrite
        simp only [deliver, hnul, hwrite, Session.after, Bool.false_eq_true, if_false, hagain]

theorem conclude_again
    (h : (conclude session settings notices report).ending = .exit .success) :
    conclude (session.after (conclude session settings notices report)) settings notices report
      = conclude session settings notices report := by
  cases hstrict : report.tally.fails settings.strict with
  | true =>
      simp only [conclude, hstrict, if_true] at h
      cases h
  | false =>
      cases houtput : settings.output with
      | blank =>
          simp only [conclude, hstrict, houtput] at h
          cases h
      | value output =>
          simp only [conclude, hstrict, houtput] at h ⊢
          exact deliver_again h

/-- Files do not decide when a run is interrupted. -/
theorem untilInterrupt_after (session : Session) (outcome : Outcome)
    (records : List RecordedFile) :
    untilInterrupt (session.after outcome) records = untilInterrupt session records := rfl

theorem process_again {records : List RecordedFile}
    (h : (process session settings records).ending = .exit .success) :
    process (session.after (process session settings records)) settings records
      = process session settings records := by
  cases hinterrupt : (untilInterrupt session records).2 with
  | true =>
      simp only [process, hinterrupt, if_true] at h
      cases h
  | false =>
      cases hexport : exportReport settings.workers settings.title records with
      | error fault =>
          simp only [process, hinterrupt, hexport] at h
          cases h
      | ok report =>
          simp only [process, untilInterrupt_after, hinterrupt, hexport] at h ⊢
          exact conclude_again h

/-- A run whose input is still what it was does the same again. -/
theorem runWith_again (h : (runWith session settings).ending = .exit .success)
    (hinput : ∀ text, inputText session settings = .ok text →
      inputText (session.after (runWith session settings)) settings = .ok text) :
    runWith (session.after (runWith session settings)) settings = runWith session settings := by
  cases hrecords : inputRecords session settings with
  | error fault =>
      rw [runWith, hrecords] at h
      exact absurd h (idle_rejectInput session fault).2
  | ok records =>
      cases records with
      | nil =>
          rw [runWith, hrecords] at h
          cases h
      | cons record more =>
          obtain ⟨text, htext, hread⟩ := inputRecords_eq_ok hrecords
          have hagain : inputRecords (session.after (runWith session settings)) settings
              = .ok (record :: more) := by
            rw [inputRecords, hinput text htext]
            simp only [hread]
            rfl
          have hfirst : runWith session settings = process session settings (record :: more) := by
            rw [runWith, hrecords]
          have hsecond : runWith (session.after (runWith session settings)) settings
              = process (session.after (runWith session settings)) settings (record :: more) := by
            rw [runWith, hagain]
          rw [hsecond, hfirst]
          rw [hfirst] at h
          exact process_again h

/-- **RUNNING AGAIN**: a run that succeeds and does not replace its own input does the same again
    on the files that it left. -/
theorem run_again {session : Session} {arguments : List Text}
    (hsuccess : (run session arguments).ending = .exit .success)
    (hspares : ∀ request, readArguments arguments = .ok request → SparesInput session request) :
    run (session.after (run session arguments)) arguments = run session arguments := by
  cases hrequest : readArguments arguments with
  | error stop =>
      cases stop with
      | help => simp only [run, hrequest, Session.after]
      | version => simp only [run, hrequest, Session.after]
      | misuse misuse =>
          simp only [run, hrequest] at hsuccess
          cases hsuccess
  | ok request =>
      obtain ⟨settings, report, hdue, -, output, hvalue, hwrite⟩ :=
        delivers_of_success hrequest hsuccess
      obtain ⟨place, hplace, hrewritten⟩ := FileTree.rewritten_of_write hwrite
      obtain ⟨-, _, _, -, -, -, -, -, -, hvacant⟩ := FileTree.locateFile_eq_ok hplace
      obtain ⟨hinput, houtput, -⟩ := ofRequest_eq_ok hdue.settled
      -- the title comes out as before
      have hsettled : Settings.ofRequest (session.after (run session arguments)).tree
          (session.after (run session arguments)).environment request = .ok settings := by
        rw [← hdue.settled]
        exact ofRequest_congr (hrewritten.directory? hvacant) _ request
      have hfirst := run_eq_runWith hrequest hdue.settled
      have hsecond := run_eq_runWith hrequest hsettled
      -- the input is read from another place than the report was written to
      have htext : ∀ text, inputText session settings = .ok text →
          inputText (session.after (run session arguments)) settings = .ok text := by
        intro text
        refine inputText_again rfl ?_
        intro hfile bytes hread
        refine hrewritten.read hvacant ?_ hread
        intro hlocate
        rcases hspares request hrequest with hpiped | hapart
        · exact hfile (hinput.trans hpiped)
        · rw [hinput] at hlocate
          exact hapart output place (houtput.symm.trans hvalue) hlocate hplace
      rw [hsecond, hfirst]
      rw [hfirst] at hsuccess htext
      exact runWith_again hsuccess htext

/-- A session with the records of one file beside an empty directory. -/
def shelved : Session where
  tree := ⟨.dir [("in.json", .file (utf8 "[\x7b\"file\": \"a.php\"\x7d]")), ("lib", .dir [])], []⟩

/-- The report may stand at the very path that its title comes from. -/
theorem run_again_shelved :
    (run shelved ["in.json", "-vj1", "-o", "lib/../lib/r.php", "--source-root=lib/r.php"]).ending
        = .exit .success ∧
      run (shelved.after
          (run shelved ["in.json", "-vj1", "-o", "lib/../lib/r.php", "--source-root=lib/r.php"]))
          ["in.json", "-vj1", "-o", "lib/../lib/r.php", "--source-root=lib/r.php"]
        = run shelved ["in.json", "-vj1", "-o", "lib/../lib/r.php", "--source-root=lib/r.php"] := by
  have hdone : (run shelved
      ["in.json", "-vj1", "-o", "lib/../lib/r.php", "--source-root=lib/r.php"]).ending
      = .exit .success := by decide +kernel
  have hrequest : readArguments
      ["in.json", "-vj1", "-o", "lib/../lib/r.php", "--source-root=lib/r.php"]
      = .ok { input := "in.json", output := .value "lib/../lib/r.php", workers := some (.value 1),
              verbose := true, sources := [.value "lib/r.php"] } := by cbv
  have hinput : shelved.tree.locate (Path.ofText "in.json") = .ok ["in.json"] := by decide +kernel
  have houtput : shelved.tree.locateFile (Path.ofText "lib/../lib/r.php")
      = .ok ["lib", "r.php"] := by decide +kernel
  refine ⟨hdone, run_again hdone ?_⟩
  intro request h
  obtain rfl := Except.ok.inj (hrequest.symm.trans h)
  refine Or.inr ?_
  intro output place hvalue hlocate
  obtain rfl := Given.value.inj hvalue
  obtain rfl := Except.ok.inj (hinput.symm.trans hlocate)
  rw [houtput]
  decide

end DocAudit.Command
