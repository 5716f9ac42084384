import DocAudit.Proofs.Command.Endings
import DocAudit.Proofs.Text.Numeral

/-! # Precedence — arguments over environment over defaults

    Of title and workers the FIRST that is given counts, and what comes after it is not even
    looked at: two requests for settings that differ there only have the same outcome, be it
    settings or a fault.  Strictness is different, since the environment adds to the request
    instead of standing in for it.

    `ofRequest_frame` says once what the settings depend on, and each variable is then shown to be
    shut out where it is.  The other half is what a request comes to: a wrong use
    (`exists_misuse_iff`), or settings with all that was given in them (`Merged`). -/

namespace DocAudit

open Text

/-- The two environments have the same variables, one perhaps excepted. -/
def Environment.AgreeExcept (name : Text) (environment environment' : Environment) : Prop :=
  ∀ other, other ≠ name → environment'.get? other = environment.get? other

/-- A variable that is set in front excepts itself only. -/
theorem Environment.agreeExcept_cons (name value : Text) (environment : Environment) :
    environment.AgreeExcept name ((name, value) :: environment) := by
  intro other hother
  show List.lookup other ((name, value) :: environment) = List.lookup other environment
  rw [List.lookup_cons, beq_eq_false_iff_ne.mpr hother]

/-- What fails is what does not succeed. -/
theorem exists_error_iff {ε α : Type} {x : Except ε α} :
    (∃ fault, x = .error fault) ↔ ¬ ∃ a, x = .ok a := by
  cases x with
  | error fault => exact iff_of_true ⟨fault, rfl⟩ (by rintro ⟨a, ⟨⟩⟩)
  | ok a => exact iff_of_false (by rintro ⟨fault, ⟨⟩⟩) (fun h => h ⟨a, rfl⟩)

namespace Settings

variable {tree tree' : FileTree} {environment environment' : Environment} {request : Request}
  {settings : Settings} {fault : Fault}

/-! ## Workers -/

/-- What the environment says of the workers, without the blanks around it. -/
def workersText (environment : Environment) : Text :=
  trim ((environment.get? workersVariable).getD [])

/-- The text asks for workers, one at least. -/
def AsksForWorkers (t : Text) : Prop := ∃ n : Int, 1 ≤ n ∧ Numeral.Denotes t n

theorem requestedWorkers?_eq_ok {given : Option (Given Int)} {requested : Option Int}
    (h : requestedWorkers? given = .ok requested) :
    given = none ∧ requested = none ∨
      ∃ n : Int, given = some (.value n) ∧ 1 ≤ n ∧ requested = some n := by
  rw [requestedWorkers?.eq_def] at h
  split at h
  · exact Or.inl ⟨rfl, (Except.ok.inj h).symm⟩
  · cases h
  · rename_i n
    by_cases hn : n < 1
    · rw [if_pos hn] at h
      cases h
    · rw [if_neg hn] at h
      exact Or.inr ⟨n, rfl, Int.not_lt.mp hn, (Except.ok.inj h).symm⟩

/-- Workers that are asked for are misused if they are fewer than one. -/
theorem exists_misuse_requestedWorkers?_iff {given : Option (Given Int)} :
    (∃ fault, requestedWorkers? given = .error fault ∧ fault.isMisuse = true) ↔
      ∃ n : Int, given = some (.value n) ∧ n < 1 := by
  constructor
  · rintro ⟨fault, h, hmisuse⟩
    rw [requestedWorkers?.eq_def] at h
    split at h
    · cases h
    · obtain rfl := Except.error.inj h
      cases hmisuse
    · rename_i n
      by_cases hn : n < 1
      · exact ⟨n, rfl, hn⟩
      · rw [if_neg hn] at h
        cases h
  · rintro ⟨n, rfl, hn⟩
    exact ⟨.requestedWorkers n, if_pos hn, rfl⟩

/-- A variable that says something of the workers is read as an integer. -/
theorem variableWorkers?_of_set (h : workersText environment ≠ []) :
    variableWorkers? environment =
      match Numeral.readInt? (workersText environment) with
      | none => .error (.workersNotInteger (workersText environment))
      | some n => if n < 1 then .error (.variableWorkers n) else .ok (some n) := by
  rw [variableWorkers?, ← workersText]
  split
  · rename_i hsilent
    exact absurd hsilent h
  · rfl

/-- The environment asks for no number of workers if it is silent, and else for the integer that
    it denotes, if this is one at least. -/
theorem variableWorkers?_eq_ok_iff {workers : Option Int} :
    variableWorkers? environment = .ok workers ↔
      workersText environment = [] ∧ workers = none ∨
      ∃ n : Int, 1 ≤ n ∧ Numeral.Denotes (workersText environment) n ∧ workers = some n := by
  by_cases hset : workersText environment = []
  · have hsilent : variableWorkers? environment = .ok none := by
      rw [variableWorkers?, ← workersText, hset]
    rw [hsilent]
    constructor
    · intro h
      exact Or.inl ⟨hset, (Except.ok.inj h).symm⟩
    · rintro (⟨-, rfl⟩ | ⟨n, -, hdenotes, -⟩)
      · rfl
      · exact absurd hset hdenotes.ne_nil
  · rw [variableWorkers?_of_set hset]
    constructor
    · intro h
      split at h
      · cases h
      · rename_i n hread
        by_cases hn : n < 1
        · rw [if_pos hn] at h
          cases h
        · rw [if_neg hn] at h
          exact Or.inr ⟨n, Int.not_lt.mp hn, Numeral.readInt?_trim.mp hread,
            (Except.ok.inj h).symm⟩
    · rintro (⟨hsilent, -⟩ | ⟨n, hn, hdenotes, rfl⟩)
      · exact absurd hsilent hset
      · have hread : Numeral.readInt? (workersText environment) = some n :=
          Numeral.readInt?_trim.mpr hdenotes
        rw [hread]
        exact if_neg (Int.not_lt.mpr hn)

/-- The environment is at fault exactly if it says something of the workers and asks for none. -/
theorem exists_variableWorkers?_eq_error_iff :
    (∃ fault, variableWorkers? environment = .error fault) ↔
      workersText environment ≠ [] ∧ ¬ AsksForWorkers (workersText environment) := by
  rw [exists_error_iff, ← not_or, not_iff_not]
  simp only [variableWorkers?_eq_ok_iff]
  constructor
  · rintro ⟨workers, ⟨hsilent, -⟩ | ⟨n, hn, hdenotes, -⟩⟩
    · exact Or.inl hsilent
    · exact Or.inr ⟨n, hn, hdenotes⟩
  · rintro (hsilent | ⟨n, hn, hdenotes⟩)
    · exact ⟨none, Or.inl ⟨hsilent, rfl⟩⟩
    · exact ⟨some n, Or.inr ⟨n, hn, hdenotes, rfl⟩⟩

/-! ## The title -/

theorem chooseTitle_of_requested (h : request.title.getD [] ≠ []) :
    chooseTitle tree environment request = .ok (request.title.getD []) := by
  rw [chooseTitle]
  split
  · rename_i hnone _
    exact absurd hnone h
  · rename_i hnone _
    exact absurd hnone h
  · rfl

theorem chooseTitle_of_variable (hnone : request.title.getD [] = [])
    (h : (environment.get? titleVariable).getD [] ≠ []) :
    chooseTitle tree environment request = .ok ((environment.get? titleVariable).getD []) := by
  rw [chooseTitle]
  split
  · rename_i hvariable
    exact absurd hvariable h
  · rfl
  · rename_i hrequested _
    exact absurd hnone hrequested

theorem chooseTitle_of_untitled (h : Untitled environment request) :
    chooseTitle tree environment request = defaultTitle tree request.sources := by
  rw [chooseTitle, h.1, h.2]

theorem titleOf_ne_nil (name : Text) : titleOf name ≠ [] :=
  List.append_ne_nil_of_right_ne_nil name (by decide)

theorem ne_nil_of_defaultTitle {sources : List (Given Text)} {title : Text}
    (h : defaultTitle tree sources = .ok title) : title ≠ [] := by
  rw [defaultTitle.eq_def] at h
  split at h
  · exact Except.ok.inj h ▸ titleOf_ne_nil _
  · cases h
  · simp only at h
    split at h
    · cases h
    · exact Except.ok.inj h ▸ titleOf_ne_nil _
    · exact Except.ok.inj h ▸ titleOf_ne_nil _

/-- A title that is chosen is not empty. -/
theorem ne_nil_of_chooseTitle {title : Text}
    (h : chooseTitle tree environment request = .ok title) : title ≠ [] := by
  by_cases hrequest : request.title.getD [] = []
  · by_cases hvariable : (environment.get? titleVariable).getD [] = []
    · rw [chooseTitle_of_untitled ⟨hrequest, hvariable⟩] at h
      exact ne_nil_of_defaultTitle h
    · rw [chooseTitle_of_variable hrequest hvariable] at h
      exact Except.ok.inj h ▸ hvariable
  · rw [chooseTitle_of_requested hrequest] at h
    exact Except.ok.inj h ▸ hrequest

/-- Where no title can be chosen, the user is not told of a wrong use. -/
theorem isMisuse_of_chooseTitle (h : chooseTitle tree environment request = .error fault) :
    fault.isMisuse = false := by
  obtain ⟨-, hdefault⟩ := chooseTitle_eq_error_iff.mp h
  rw [defaultTitle.eq_def] at hdefault
  split at hdefault
  · cases hdefault
  · exact Except.error.inj hdefault ▸ rfl
  · simp only at hdefault
    split at hdefault
    · exact Except.error.inj hdefault ▸ rfl
    · cases hdefault
    · cases hdefault

/-! ## What the settings depend on -/

/-- Settings are made in three steps: the workers asked for, the title, the workers chosen. -/
theorem ofRequest_eq_ok_iff : ofRequest tree environment request = .ok settings ↔
    ∃ requested title workers, requestedWorkers? request.workers = .ok requested ∧
      chooseTitle tree environment request = .ok title ∧
      chooseWorkers environment requested = .ok workers ∧
      settings = ⟨request.input, request.output, title, workers, request.verbose,
        request.strict || variableStrict environment⟩ := by
  constructor
  · intro h
    rw [ofRequest] at h
    obtain ⟨requested, hrequested, h⟩ := Command.ok_of_bind h
    obtain ⟨title, htitle, h⟩ := Command.ok_of_bind h
    obtain ⟨workers, hworkers, h⟩ := Command.ok_of_bind h
    exact ⟨requested, title, workers, hrequested, htitle, hworkers, (Except.ok.inj h).symm⟩
  · rintro ⟨requested, title, workers, hrequested, htitle, hworkers, rfl⟩
    rw [ofRequest, hrequested, htitle]
    show (chooseWorkers environment requested >>= _) = _
    rw [hworkers]
    rfl

section Frame

variable (sources : List (Given Text))
  (htitle : chooseTitle tree' environment' { request with sources }
    = chooseTitle tree environment request)
  (hworkers : ∀ requested, requestedWorkers? request.workers = .ok requested →
    chooseWorkers environment' requested = chooseWorkers environment requested)

include htitle hworkers

/-- **THE FRAME OF SETTINGS**: where the same title is chosen and the same workers, all is the
    same but for what the environment adds to strictness. -/
theorem ofRequest_frame :
    ofRequest tree' environment' { request with sources }
      = (ofRequest tree environment request).map fun settings =>
          { settings with strict := request.strict || variableStrict environment' } := by
  rw [ofRequest, ofRequest, htitle]
  cases hrequested : requestedWorkers? request.workers with
  | error fault => rfl
  | ok requested =>
      cases chooseTitle tree environment request with
      | error fault => rfl
      | ok title =>
          show (chooseWorkers environment' requested >>= _) = _
          rw [hworkers requested hrequested]
          show _ = Except.map _ (chooseWorkers environment requested >>= _)
          cases chooseWorkers environment requested with
          | error fault => rfl
          | ok workers => rfl

/-- Where strictness is the same as well, all is the same. -/
theorem ofRequest_same (hstrict : variableStrict environment' = variableStrict environment) :
    ofRequest tree' environment' { request with sources } = ofRequest tree environment request := by
  rw [ofRequest_frame sources htitle hworkers, hstrict]
  cases hsettings : ofRequest tree environment request with
  | error fault => rfl
  | ok settings =>
      rw [← Command.strict_of_ofRequest hsettings]
      rfl

end Frame

/-- The title is chosen without a look at the sources if it is given elsewhere. -/
theorem chooseTitle_of_titled (h : ¬ Untitled environment request)
    (sources : List (Given Text)) :
    chooseTitle tree' environment { request with sources }
      = chooseTitle tree environment request := by
  by_cases hrequest : request.title.getD [] = []
  · have hvariable : (environment.get? titleVariable).getD [] ≠ [] := fun hvariable =>
      h ⟨hrequest, hvariable⟩
    rw [chooseTitle_of_variable hrequest hvariable]
    exact chooseTitle_of_variable hrequest hvariable
  · rw [chooseTitle_of_requested hrequest]
    exact chooseTitle_of_requested hrequest

theorem chooseTitle_congr
    (h : environment'.get? titleVariable = environment.get? titleVariable) :
    chooseTitle tree environment' request = chooseTitle tree environment request := by
  rw [chooseTitle, chooseTitle, h]

theorem chooseWorkers_congr
    (h : environment'.get? workersVariable = environment.get? workersVariable)
    (requested : Option Int) :
    chooseWorkers environment' requested = chooseWorkers environment requested := by
  cases requested with
  | some n => rfl
  | none => rw [chooseWorkers, chooseWorkers, variableWorkers?, variableWorkers?, h]

theorem variableStrict_congr
    (h : environment'.get? strictVariable = environment.get? strictVariable) :
    variableStrict environment' = variableStrict environment := by
  rw [variableStrict, variableStrict, h]

/-- Workers that are asked for leave nothing to their variable. -/
theorem ofRequest_of_workers (h : request.workers ≠ none)
    (hagree : environment.AgreeExcept workersVariable environment') :
    ofRequest tree environment' request = ofRequest tree environment request := by
  refine ofRequest_same request.sources (chooseTitle_congr (hagree _ (by decide))) ?_
    (variableStrict_congr (hagree _ (by decide)))
  intro requested hrequested
  rcases requestedWorkers?_eq_ok hrequested with ⟨hnone, -⟩ | ⟨n, -, -, rfl⟩
  · exact absurd hnone h
  · rfl

/-- A title that is asked for leaves nothing to its variable, the sources and the files. -/
theorem ofRequest_of_title (h : request.title.getD [] ≠ [])
    (hagree : environment.AgreeExcept titleVariable environment') (sources : List (Given Text)) :
    ofRequest tree' environment' { request with sources } = ofRequest tree environment request := by
  refine ofRequest_same sources ?_ (fun requested _ => ?_)
    (variableStrict_congr (hagree _ (by decide)))
  · rw [chooseTitle_of_requested h]
    exact chooseTitle_of_requested h
  · exact chooseWorkers_congr (hagree _ (by decide)) requested

/-- A title of the environment leaves nothing to the sources and the files. -/
theorem ofRequest_of_titleVariable (h : (environment.get? titleVariable).getD [] ≠ [])
    (sources : List (Given Text)) :
    ofRequest tree' environment { request with sources } = ofRequest tree environment request :=
  ofRequest_same sources (chooseTitle_of_titled (fun huntitled => h huntitled.2) sources)
    (fun _ _ => rfl) rfl

/-- The variable for strictness is added to the request and changes nothing else. -/
theorem ofRequest_of_strictVariable
    (hagree : environment.AgreeExcept strictVariable environment') :
    ofRequest tree environment' request
      = (ofRequest tree environment request).map fun settings =>
          { settings with strict := request.strict || variableStrict environment' } :=
  ofRequest_frame request.sources (chooseTitle_congr (hagree _ (by decide)))
    fun requested _ => chooseWorkers_congr (hagree _ (by decide)) requested

/-! ## Faults and settings -/

/-- The user is told of a wrong use exactly if fewer workers than one are asked for, or if none are
    asked for and the variable, which is looked at after the title, says something else than an
    integer that is one at least. -/
theorem exists_misuse_iff :
    (∃ fault, ofRequest tree environment request = .error fault ∧ fault.isMisuse = true) ↔
      (∃ n : Int, request.workers = some (.value n) ∧ n < 1) ∨
      request.workers = none ∧ workersText environment ≠ [] ∧
        ¬ AsksForWorkers (workersText environment) ∧
        ∃ title, chooseTitle tree environment request = .ok title := by
  constructor
  · rintro ⟨fault, h, hmisuse⟩
    rw [ofRequest] at h
    rcases error_of_bind h with hrequested | ⟨requested, hrequested, h⟩
    · exact Or.inl (exists_misuse_requestedWorkers?_iff.mp ⟨fault, hrequested, hmisuse⟩)
    rcases error_of_bind h with htitle | ⟨title, htitle, h⟩
    · rw [isMisuse_of_chooseTitle htitle] at hmisuse
      cases hmisuse
    rcases error_of_bind h with hworkers | ⟨workers, -, h⟩
    · rcases requestedWorkers?_eq_ok hrequested with ⟨hnone, rfl⟩ | ⟨n, -, -, rfl⟩
      · obtain ⟨hset, hasks⟩ := exists_variableWorkers?_eq_error_iff.mp ⟨fault, hworkers⟩
        exact Or.inr ⟨hnone, hset, hasks, title, htitle⟩
      · cases hworkers
    · cases h
  · rintro (hfew | ⟨hnone, hset, hasks, title, htitle⟩)
    · obtain ⟨fault, hrequested, hmisuse⟩ := exists_misuse_requestedWorkers?_iff.mpr hfew
      refine ⟨fault, ?_, hmisuse⟩
      rw [ofRequest, hrequested]
      rfl
    · obtain ⟨fault, hworkers⟩ := exists_variableWorkers?_eq_error_iff.mpr ⟨hset, hasks⟩
      have hchosen : chooseWorkers environment none = .error fault := hworkers
      have hrequested : requestedWorkers? request.workers = .ok none := by
        rw [hnone]
        rfl
      refine ⟨fault, ?_, isMisuse_of_chooseWorkers hchosen⟩
      rw [ofRequest, hrequested, htitle]
      show (chooseWorkers environment none >>= _) = _
      rw [hchosen]
      rfl

/-- What settings are made of: of each setting the first that is given, and strictness of both. -/
structure Merged (tree : FileTree) (environment : Environment) (request : Request)
    (settings : Settings) : Prop where
  input : settings.input = request.input
  output : settings.output = request.output
  verbose : settings.verbose = request.verbose
  requestedTitle : request.title.getD [] ≠ [] → settings.title = request.title.getD []
  variableTitle : request.title.getD [] = [] → (environment.get? titleVariable).getD [] ≠ [] →
    settings.title = (environment.get? titleVariable).getD []
  defaultTitle : Untitled environment request →
    Settings.defaultTitle tree request.sources = .ok settings.title
  titled : settings.title ≠ []
  requestedWorkers : ∀ n : Int, request.workers = some (.value n) → settings.workers = some n
  silentVariable : request.workers = none → workersText environment = [] → settings.workers = none
  variableWorkers : request.workers = none → workersText environment ≠ [] →
    ∃ n : Int, Numeral.Denotes (workersText environment) n ∧ settings.workers = some n
  crewed : ∀ n : Int, settings.workers = some n → 1 ≤ n
  strict : settings.strict = true ↔ request.strict = true ∨
    lower (trim ((environment.get? strictVariable).getD [])) ∈ affirmations

theorem merged_of_ofRequest (h : ofRequest tree environment request = .ok settings) :
    Merged tree environment request settings := by
  have hcrewed : ∀ n : Int, settings.workers = some n → 1 ≤ n := fun n hn =>
    Command.one_le_workers h hn
  obtain ⟨requested, title, workers, hrequested, htitle, hworkers, rfl⟩ := ofRequest_eq_ok_iff.mp h
  have hvariable : request.workers = none → variableWorkers? environment = .ok workers := by
    intro hnone
    rw [hnone] at hrequested
    obtain rfl : none = requested := Except.ok.inj hrequested
    exact hworkers
  refine
    { input := rfl
      output := rfl
      verbose := rfl
      requestedTitle := ?_
      variableTitle := ?_
      defaultTitle := ?_
      titled := ne_nil_of_chooseTitle htitle
      requestedWorkers := ?_
      silentVariable := ?_
      variableWorkers := ?_
      crewed := hcrewed
      strict := ?_ }
  · intro hrequest
    rw [chooseTitle_of_requested hrequest] at htitle
    exact (Except.ok.inj htitle).symm
  · intro hrequest hset
    rw [chooseTitle_of_variable hrequest hset] at htitle
    exact (Except.ok.inj htitle).symm
  · intro huntitled
    rw [← chooseTitle_of_untitled huntitled]
    exact htitle
  · intro n hn
    rcases requestedWorkers?_eq_ok hrequested with ⟨hnone, -⟩ | ⟨m, hm, -, rfl⟩
    · rw [hnone] at hn
      exact nomatch hn
    · rw [hm] at hn
      obtain rfl := Given.value.inj (Option.some.inj hn)
      exact (Except.ok.inj hworkers).symm
  · intro hnone hsilent
    rcases variableWorkers?_eq_ok_iff.mp (hvariable hnone) with ⟨-, rfl⟩ | ⟨n, -, hdenotes, -⟩
    · rfl
    · exact absurd hsilent hdenotes.ne_nil
  · intro hnone hset
    rcases variableWorkers?_eq_ok_iff.mp (hvariable hnone)
      with ⟨hsilent, -⟩ | ⟨n, -, hdenotes, rfl⟩
    · exact absurd hsilent hset
    · exact ⟨n, hdenotes, rfl⟩
  · show (request.strict || variableStrict environment) = true ↔ _
    rw [Bool.or_eq_true, variableStrict, List.contains_iff_mem]

/-- Settings are there exactly if all three steps succeed: the workers asked for can form a crew, a
    title is chosen, and the variable is silent or asks for workers where it counts. -/
theorem exists_settings_iff :
    (∃ settings, ofRequest tree environment request = .ok settings) ↔
      AsksForCrew request ∧ (∃ title, chooseTitle tree environment request = .ok title) ∧
      (request.workers = none →
        workersText environment = [] ∨ AsksForWorkers (workersText environment)) := by
  constructor
  · rintro ⟨settings, h⟩
    have hmerged := merged_of_ofRequest h
    obtain ⟨requested, title, -, hrequested, htitle, -⟩ := ofRequest_eq_ok_iff.mp h
    refine ⟨exists_requestedWorkers?_iff.mp ⟨requested, hrequested⟩, ⟨title, htitle⟩, ?_⟩
    intro hnone
    by_cases hset : workersText environment = []
    · exact Or.inl hset
    · obtain ⟨n, hdenotes, hn⟩ := hmerged.variableWorkers hnone hset
      exact Or.inr ⟨n, hmerged.crewed n hn, hdenotes⟩
  · rintro ⟨hcrew, ⟨title, htitle⟩, hvariable⟩
    obtain ⟨requested, hrequested⟩ := exists_requestedWorkers?_iff.mpr hcrew
    obtain ⟨workers, hworkers⟩ : ∃ workers, chooseWorkers environment requested = .ok workers := by
      rcases requestedWorkers?_eq_ok hrequested with ⟨hnone, rfl⟩ | ⟨n, -, -, rfl⟩
      · rcases hvariable hnone with hsilent | ⟨n, hn, hdenotes⟩
        · exact ⟨none, variableWorkers?_eq_ok_iff.mpr (Or.inl ⟨hsilent, rfl⟩)⟩
        · exact ⟨some n, variableWorkers?_eq_ok_iff.mpr (Or.inr ⟨n, hn, hdenotes, rfl⟩)⟩
      · exact ⟨some n, rfl⟩
    exact ⟨_, ofRequest_eq_ok_iff.mpr
      ⟨requested, title, workers, hrequested, htitle, hworkers, rfl⟩⟩

/-- **THE FIRST THAT IS GIVEN COUNTS**: workers that are asked for shut out their variable, even if
    it is malformed; a title that is asked for shuts out its variable, the sources and the files,
    and the variable shuts out the latter two; strictness is added by the environment and never
    taken away.  A wrong use is a number of workers below one, or a variable that denotes no
    number from one on; in settings there is neither, so a crew can always be formed. -/
theorem ofRequest_precedence (tree : FileTree) (environment : Environment) (request : Request) :
    (request.workers ≠ none →
      ∀ environment', environment.AgreeExcept workersVariable environment' →
        ofRequest tree environment' request = ofRequest tree environment request) ∧
    (request.title.getD [] ≠ [] →
      ∀ environment', environment.AgreeExcept titleVariable environment' → ∀ tree' sources,
        ofRequest tree' environment' { request with sources }
          = ofRequest tree environment request) ∧
    ((environment.get? titleVariable).getD [] ≠ [] → ∀ tree' sources,
      ofRequest tree' environment { request with sources } = ofRequest tree environment request) ∧
    (∀ environment', environment.AgreeExcept strictVariable environment' →
      ofRequest tree environment' request
        = (ofRequest tree environment request).map fun settings =>
            { settings with strict := request.strict || variableStrict environment' }) ∧
    ((∃ fault, ofRequest tree environment request = .error fault ∧ fault.isMisuse = true) ↔
      (∃ n : Int, request.workers = some (.value n) ∧ n < 1) ∨
      request.workers = none ∧ workersText environment ≠ [] ∧
        ¬ AsksForWorkers (workersText environment) ∧
        ∃ title, chooseTitle tree environment request = .ok title) ∧
    ((∃ settings, ofRequest tree environment request = .ok settings) ↔
      AsksForCrew request ∧ (∃ title, chooseTitle tree environment request = .ok title) ∧
      (request.workers = none →
        workersText environment = [] ∨ AsksForWorkers (workersText environment))) ∧
    (∀ settings, ofRequest tree environment request = .ok settings →
      Merged tree environment request settings ∧
      ∀ records, extractAll settings.workers records
        = .ok (records.map RecordedFile.extract)) := by
  refine ⟨?_, ?_, ?_, ?_, exists_misuse_iff, exists_settings_iff, ?_⟩
  · intro h environment' hagree
    exact ofRequest_of_workers h hagree
  · intro h environment' hagree tree' sources
    exact ofRequest_of_title h hagree sources
  · intro h tree' sources
    exact ofRequest_of_titleVariable h sources
  · intro environment' hagree
    exact ofRequest_of_strictVariable hagree
  · intro settings h
    have hmerged := merged_of_ofRequest h
    exact ⟨hmerged, extractAll_eq_ok hmerged.crewed⟩

/-- A request without title and workers. -/
def bareRequest : Request := { input := "in.json", output := .value "out.md" }

/-- No files at all. -/
def bareTree : FileTree := ⟨.dir [], []⟩

/-- A crew of eight does not mind a variable that asks for many.  Without it the variable is a
    wrong use, but is understood if it asks for twelve in digits of two scripts. -/
theorem ofRequest_precedence_many :
    ofRequest bareTree [(workersVariable, "many")] { bareRequest with workers := some (.value 8) }
        = ofRequest bareTree [] { bareRequest with workers := some (.value 8) } ∧
      (∃ fault, ofRequest bareTree [(workersVariable, "many")] bareRequest = .error fault ∧
        fault.isMisuse = true) ∧
      ∃ settings,
        ofRequest bareTree [(workersVariable, " +1_٢ "), (strictVariable, "ON")] bareRequest
          = .ok settings ∧ settings.workers = some 12 ∧ settings.strict = true := by
  obtain ⟨hshut, -⟩ := ofRequest_precedence bareTree []
    { bareRequest with workers := some (.value 8) }
  obtain ⟨-, -, -, -, hmisuse, -⟩ :=
    ofRequest_precedence bareTree [(workersVariable, "many")] bareRequest
  have hmany : ¬ AsksForWorkers (workersText [(workersVariable, "many")]) := by
    rintro ⟨n, -, hdenotes⟩
    have hnone : Numeral.readInt? (workersText [(workersVariable, "many")]) = none := by decide
    exact nomatch hnone.symm.trans (Numeral.readInt?_trim.mpr hdenotes)
  exact ⟨hshut nofun _ (Environment.agreeExcept_cons workersVariable "many" []),
    hmisuse.mpr (Or.inr ⟨rfl, by decide, hmany, _, rfl⟩), _, rfl, by decide, rfl⟩

end Settings

end DocAudit
