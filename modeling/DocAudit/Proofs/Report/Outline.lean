import DocAudit.Proofs.Report.Agreement
import DocAudit.Proofs.Report.Entry
import DocAudit.Report.Reader

/-! # The outline of a report — what a reader gets back

    A report can be read back line by line: its title, the path of every file, the kind and
    the name of every element, and every comment as it is shown.  The argument is about BLOCKS
    of lines: `Shows block ms` says that a reader outside fences gets the marks `ms` from
    the block and is outside fences again behind it.  Blocks are put together as
    documents are (`Shows.append`, `shows_flatMap`), and there are three kinds of them:

    * lines that begin like neither a heading nor a fence show nothing;
    * a heading shows itself;
    * a fenced comment shows the comment, since the fence is longer than any run of
      accents in it.

    What is shown determines title, paths, elements and comments, so two reports with
    the same document agree on all of them. -/

namespace DocAudit.Report

open Text

/-! ## Fences -/

theorem longestRun_mono {m n : Nat} (h : m ≤ n) (t : Text) : longestRun m t ≤ longestRun n t := by
  induction t generalizing m n with
  | nil => exact h
  | cons c rest ih =>
      rw [longestRun, longestRun]
      split
      · exact ih (Nat.succ_le_succ h)
      · omega

theorem longestRun_append_le (run : Nat) (s t : Text) :
    longestRun 0 t ≤ longestRun run (s ++ t) := by
  induction s generalizing run with
  | nil => exact longestRun_mono (Nat.zero_le run) t
  | cons c rest ih =>
      rw [List.cons_append, longestRun]
      split
      · exact ih (run + 1)
      · have := ih 0
        omega

theorem le_longestRun (run : Nat) (t : Text) : run ≤ longestRun run t := by
  induction t generalizing run with
  | nil => exact Nat.le_refl run
  | cons c rest ih =>
      rw [longestRun]
      split
      · have := ih (run + 1)
        omega
      · omega

theorem le_longestRun_replicate (run n : Nat) (t : Text) :
    run + n ≤ longestRun run (List.replicate n backtick ++ t) := by
  induction n generalizing run with
  | zero => exact le_longestRun run t
  | succ n ih =>
      rw [List.replicate_succ, List.cons_append, longestRun, if_pos rfl]
      have := ih (run + 1)
      omega

/-- No run of accents in a text is longer than its longest. -/
theorem le_longestRun_of_infix {n : Nat} {t : Text} (h : List.replicate n backtick <:+: t) :
    n ≤ longestRun 0 t := by
  obtain ⟨front, back, rfl⟩ := h
  have hrun := le_longestRun_replicate 0 n back
  have hfront := longestRun_append_le 0 front (List.replicate n backtick ++ back)
  rw [List.append_assoc]
  omega

/-- **A COMMENT CANNOT CLOSE ITS FENCE**: none of its lines is the fence. -/
theorem ne_fence_of_mem {t line : Text} (h : line ∈ splitOn '\n' t) : line ≠ fence t := by
  rintro rfl
  have := le_longestRun_of_infix (infix_of_mem_splitOn h)
  omega

theorem openedFence?_fence (t : Text) : openedFence? (fence t ++ "php") = some (fence t) := by
  have htake : (fence t ++ "php".toList).takeWhile (· == backtick) = fence t := by
    rw [List.takeWhile_append_of_pos]
    · show fence t ++ [] = fence t
      exact List.append_nil _
    · intro c hc
      exact beq_iff_eq.mpr (List.eq_of_mem_replicate hc)
  have hdrop : (fence t ++ "php".toList).dropWhile (· == backtick) = "php".toList := by
    rw [List.dropWhile_append_of_pos]
    · rfl
    · intro c hc
      exact beq_iff_eq.mpr (List.eq_of_mem_replicate hc)
  have hlength : 3 ≤ (fence t).length := by
    rw [fence, List.length_replicate]
    omega
  rw [openedFence?, htake, hdrop]
  exact if_pos ⟨hlength, rfl⟩

/-- Inside a fence lines are gathered up to the closing one. -/
theorem marks_fence {accents : Text} (body : List Text) {ls : List Text}
    (h : ∀ line ∈ ls, line ≠ accents) (rest : List Text) :
    marks (some (accents, body)) (ls ++ accents :: rest)
      = .comment (joinLines (body.reverse ++ ls)) :: marks none rest := by
  induction ls generalizing body with
  | nil => simp [marks]
  | cons line more ih =>
      have hline : line ≠ accents := h line List.mem_cons_self
      have hmore : ∀ l ∈ more, l ≠ accents := fun l hl => h l (List.mem_cons_of_mem line hl)
      rw [List.cons_append, marks]
      simp only [if_neg hline]
      rw [ih (line :: body) hmore]
      simp

/-! ## Blocks of lines -/

/-- A block that stands outside fences shows these marks and leaves no fence open. -/
def Shows (block : List Text) (ms : List Mark) : Prop :=
  ∀ rest, marks none (block.flatMap (splitOn '\n') ++ rest) = ms ++ marks none rest

theorem Shows.append {block block' : List Text} {ms ms' : List Mark} (h : Shows block ms)
    (h' : Shows block' ms') : Shows (block ++ block') (ms ++ ms') := by
  intro rest
  rw [List.flatMap_append, List.append_assoc, h, h', List.append_assoc]

theorem shows_nil : Shows [] [] := fun _ => rfl

theorem shows_flatMap {α : Type} {block : α → List Text} {ms : α → List Mark} {xs : List α}
    (h : ∀ x ∈ xs, Shows (block x) (ms x)) : Shows (xs.flatMap block) (xs.flatMap ms) := by
  induction xs with
  | nil => exact shows_nil
  | cons x rest ih =>
      rw [List.flatMap_cons, List.flatMap_cons]
      exact (h x List.mem_cons_self).append (ih fun y hy => h y (List.mem_cons_of_mem x hy))

/-- A line that opens no fence shows its heading, if it is one. -/
theorem shows_line {line : Text} (hline : OneLine line) (hfence : openedFence? line = none) :
    Shows [line] (heading? line).toList := by
  intro rest
  rw [List.flatMap_singleton, hline.splitOn, List.singleton_append, marks]
  simp only [hfence]

/-! ### Lines that show nothing -/

/-- A line that begins like neither a heading nor a fence. -/
structure Plain (line : Text) : Prop where
  oneLine : OneLine line
  noHash : line.head? ≠ some '#'
  noAccent : line.head? ≠ some backtick

theorem openedFence?_of_head {line : Text} (h : line.head? ≠ some backtick) :
    openedFence? line = none := by
  have htake : line.takeWhile (· == backtick) = [] := by
    cases line with
    | nil => rfl
    | cons c rest =>
        have hc : c ≠ backtick := fun hc => h (congrArg some hc)
        simp [hc]
  rw [openedFence?, htake]
  rfl

theorem after?_of_head {start line : Text} {c : Char} (hstart : start.head? = some c)
    (h : line.head? ≠ some c) : after? start line = none := by
  rw [after?, isPrefixOf_of_head hstart h]
  rfl

theorem Plain.openedFence? {line : Text} (h : Plain line) : openedFence? line = none :=
  openedFence?_of_head h.noAccent

theorem Plain.heading? {line : Text} (h : Plain line) : heading? line = none := by
  rw [Report.heading?, after?_of_head rfl h.noHash, after?_of_head rfl h.noHash,
    after?_of_head rfl h.noHash, after?_of_head rfl h.noHash]
  rfl

theorem shows_plain {block : List Text} (h : ∀ line ∈ block, Plain line) : Shows block [] := by
  induction block with
  | nil => exact shows_nil
  | cons line rest ih =>
      have hline := h line List.mem_cons_self
      have hshows := shows_line hline.oneLine hline.openedFence?
      rw [hline.heading?] at hshows
      exact hshows.append (ih fun l hl => h l (List.mem_cons_of_mem line hl))

theorem plain_nil : Plain [] := ⟨oneLine_nil, nofun, nofun⟩

theorem shows_gap : Shows [[]] [] := shows_plain (by simp [plain_nil])

instance (line : Text) : Decidable (Plain line) :=
  decidable_of_iff
    (OneLine line ∧ line.head? ≠ some '#' ∧ line.head? ≠ some backtick)
    ⟨fun h => ⟨h.1, h.2.1, h.2.2⟩, fun h => ⟨h.oneLine, h.noHash, h.noAccent⟩⟩

/-- How a line begins decides whether it is plain. -/
theorem Plain.append {s t : Text} (hs : Plain s) (hne : s ≠ []) (ht : OneLine t) :
    Plain (s ++ t) := by
  have hhead : (s ++ t).head? = s.head? := List.head?_append_of_ne_nil s hne
  refine ⟨oneLine_append.mpr ⟨hs.oneLine, ht⟩, ?_, ?_⟩
  · rw [hhead]
    exact hs.noHash
  · rw [hhead]
    exact hs.noAccent

/-! ### Headings -/

theorem after?_append (start t : Text) : after? start (start ++ t) = some t := by
  rw [after?, if_pos (List.isPrefixOf_iff_prefix.mpr (List.prefix_append start t)),
    List.drop_left]

theorem shows_title {title : Text} (h : OneLine title) : Shows ["# " ++ title] [.title title] := by
  have hread : heading? ("# " ++ title) = some (.title title) := by
    rw [heading?, after?_append]
  have hline : OneLine ("# " ++ title) := oneLine_append.mpr ⟨by decide, h⟩
  have hshows := shows_line hline
    (openedFence?_of_head (show some '#' ≠ some backtick by decide))
  rw [hread] at hshows
  exact hshows

theorem shows_chapter {path : Text} (h : OneLine path) : Shows ["## " ++ path] [.chapter path] := by
  have hread : heading? ("## " ++ path) = some (.chapter path) := by
    have hno : after? "# " ("## " ++ path) = none := rfl
    rw [heading?, hno, after?_append]
  have hline : OneLine ("## " ++ path) := oneLine_append.mpr ⟨by decide, h⟩
  have hshows := shows_line hline
    (openedFence?_of_head (show some '#' ≠ some backtick by decide))
  rw [hread] at hshows
  exact hshows

theorem codeName?_code (name : Text) : codeName? (code name) = some name := by
  show (if backtick = backtick ∧ (name ++ [backtick]).getLast? = some backtick then
    some (name ++ [backtick]).dropLast else none) = some name
  rw [if_pos ⟨rfl, List.getLast?_concat⟩, List.dropLast_concat]

/-- No kind is displayed like the beginning of another. -/
theorem after?_display_of_ne {other kind : Kind} (h : other ≠ kind) (t : Text) :
    after? (other.display ++ " ") (kind.display ++ " " ++ t) = none := by
  cases other <;> cases kind <;> first | rfl | exact absurd rfl h

theorem elementMark?_display (kind : Kind) (name : Text) :
    elementMark? (kind.display ++ " " ++ code name) = some (.element kind name) := by
  have hself : (after? (kind.display ++ " ") (kind.display ++ " " ++ code name)).bind
      (fun rest => (codeName? rest).map (Mark.element kind)) = some (.element kind name) := by
    rw [after?_append, Option.bind_some, codeName?_code]
    rfl
  obtain ⟨front, back, hall⟩ := List.append_of_mem (Kind.mem_all kind)
  have hnodup : (front ++ kind :: back).Nodup := hall ▸ (by decide : Kind.all.Nodup)
  rw [elementMark?, List.findSome?_eq_some_iff]
  refine ⟨front, kind, back, hall, hself, ?_⟩
  intro other hother
  have hne : other ≠ kind := (List.nodup_append.mp hnodup).2.2 other hother kind List.mem_cons_self
  rw [after?_display_of_ne hne]
  rfl

theorem shows_elementHeading {element : Element} (h : OneLine element.name) :
    Shows [elementHeading element] [.element element.kind element.name] := by
  have hread : heading? (elementHeading element) = some (.element element.kind element.name) := by
    have hmark := elementMark?_display element.kind element.name
    rw [elementHeading]
    cases hkind : element.kind <;> rw [hkind] at hmark <;> exact hmark
  have hline : OneLine (elementHeading element) := by
    simp only [elementHeading, oneLine_append]
    refine ⟨⟨⟨⟨?_, by decide⟩, Subject.oneLine_display _⟩, by decide⟩, oneLine_code.mpr h⟩
    cases element.kind <;> decide
  have hfence : openedFence? (elementHeading element) = none := by
    refine openedFence?_of_head ?_
    rw [elementHeading]
    cases element.kind <;> simp [headingMark, backtick]
  have hshows := shows_line hline hfence
  rw [hread] at hshows
  exact hshows

/-! ### Fenced comments -/

theorem shows_fencedLines (raw : Text) : Shows (fencedLines raw) [.comment raw] := by
  intro rest
  have hfence : OneLine (fence raw) := by
    intro hfeed
    exact absurd (List.eq_of_mem_replicate hfeed) (by decide)
  have hopen : OneLine (fence raw ++ "php") := oneLine_append.mpr ⟨hfence, by decide⟩
  -- what is shown between the fences, cut into lines
  obtain ⟨ls, hls, hne, hjoin⟩ : ∃ ls : List Text,
      (if raw = [] then [] else [raw]).flatMap (splitOn '\n') = ls ∧
        (∀ line ∈ ls, line ≠ fence raw) ∧ joinLines ls = raw := by
    by_cases hraw : raw = []
    · exact ⟨[], by simp [hraw], nofun, by simp [hraw]⟩
    · refine ⟨splitOn '\n' raw, by simp [hraw], ?_, join_splitOn '\n' raw⟩
      intro line hline
      exact ne_fence_of_mem hline
  have hcut : (fencedLines raw).flatMap (splitOn '\n') ++ rest
      = (fence raw ++ "php".toList) :: (ls ++ fence raw :: ([] :: rest)) := by
    rw [fencedLines]
    simp only [List.cons_append, List.flatMap_cons, List.flatMap_append, hls, hopen.splitOn,
      hfence.splitOn, List.flatMap_nil, List.append_nil]
    simp [splitOn]
  rw [hcut, marks]
  simp only [openedFence?_fence]
  rw [marks_fence [] hne, List.reverse_nil, List.nil_append, hjoin, marks]
  rfl

/-! ## Documents -/

/-- Everything that a report writes outside fences is free of line feeds: its title and the paths,
    names, namespaces and places of its files and elements. -/
structure OnOneLine (files : List SourceFile) (title : Text) : Prop where
  title : OneLine title
  path : ∀ file ∈ files, OneLine file.path
  name : ∀ file ∈ files, ∀ element ∈ file.elements, OneLine element.name
  scope : ∀ file ∈ files, ∀ element ∈ file.elements, ∀ scope, element.scope = some scope →
    OneLine scope
  place : ∀ file ∈ files, ∀ element ∈ file.elements, OneLine element.place.file

theorem plain_breakdown {doc : Comment} {line : Text} (h : line ∈ breakdown doc) : Plain line := by
  rcases mem_breakdown h with rfl | ⟨group, hgroup, rfl | ⟨value, rfl⟩⟩
  · exact plain_nil
  · have htitle : OneLine group.title := by
      simp only [tagGroups, List.mem_cons, List.not_mem_nil, or_false] at hgroup
      rcases hgroup with rfl | rfl | rfl | rfl | rfl <;> decide
    rw [List.append_assoc]
    exact Plain.append (by decide) (by decide) (oneLine_append.mpr ⟨htitle, by decide⟩)
  · exact Plain.append (by decide) (by decide) (oneLine_entry hgroup value)

theorem plain_scopeLines {element : Element} {line : Text}
    (hscope : ∀ scope, element.scope = some scope → OneLine scope)
    (h : line ∈ scopeLines element) : Plain line := by
  have hshown : OneLine (element.scope.getD []) := by
    cases hcase : element.scope with
    | none => exact oneLine_nil
    | some scope => exact hscope scope hcase
  rw [scopeLines] at h
  split at h
  · exact nomatch h
  · rcases List.mem_cons.mp h with rfl | h
    · rw [List.append_assoc]
      exact Plain.append (by decide) (by decide)
        (oneLine_append.mpr ⟨oneLine_code.mpr hshown, by decide⟩)
    · obtain rfl := List.mem_singleton.mp h
      exact plain_nil

theorem plain_sourceLine {place : Place} (h : OneLine place.file) : Plain (sourceLine place) := by
  show Plain ("*Source: " ++ place.file ++ ":" ++ Numeral.ofInt place.startLine ++ "-"
    ++ Numeral.ofInt place.endLine ++ "*")
  simp only [List.append_assoc]
  refine Plain.append (by decide) (by decide) ?_
  simp only [oneLine_append]
  exact ⟨h, by decide, oneLine_ofInt _, by decide, oneLine_ofInt _, by decide⟩

/-- The section of an element shows its heading and its comment. -/
theorem shows_elementLines {element : Element} (hname : OneLine element.name)
    (hscope : ∀ scope, element.scope = some scope → OneLine scope)
    (hplace : OneLine element.place.file) :
    Shows (elementLines element)
      [.element element.kind element.name, .comment (shownComment element)] := by
  have hheading : Shows [elementHeading element, []] [.element element.kind element.name] :=
    (shows_elementHeading hname).append shows_gap
  have hscopes : Shows (scopeLines element) [] :=
    shows_plain fun line hline => plain_scopeLines hscope hline
  have hbreakdown : Shows ((element.doc.map breakdown).getD []) [] := by
    refine shows_plain ?_
    intro line hline
    cases hdoc : element.doc with
    | none =>
        rw [hdoc] at hline
        exact nomatch hline
    | some doc =>
        rw [hdoc] at hline
        exact plain_breakdown hline
  have hend : Shows [sourceLine element.place, [], "---", []] [] := by
    refine shows_plain ?_
    intro line hline
    simp only [List.mem_cons, List.not_mem_nil, or_false] at hline
    rcases hline with rfl | rfl | rfl | rfl
    · exact plain_sourceLine hplace
    · exact plain_nil
    · decide
    · exact plain_nil
  exact (((hheading.append hscopes).append (shows_fencedLines _)).append hbreakdown).append hend

/-- What the sections of elements show. -/
def elementMarks (elements : List Element) : List Mark :=
  elements.flatMap fun element =>
    [.element element.kind element.name, .comment (shownComment element)]

/-- What the section of a file shows. -/
def fileMarks (file : SourceFile) : List Mark :=
  .chapter file.path :: elementMarks file.elements

theorem shows_fileLines {files : List SourceFile} {title : Text} (h : OnOneLine files title)
    {file : SourceFile} (hfile : file ∈ files) : Shows (fileLines file) (fileMarks file) := by
  have hpath : Shows ["## " ++ file.path, []] [.chapter file.path] :=
    (shows_chapter (h.path file hfile)).append shows_gap
  refine hpath.append ?_
  have helements : Shows (file.elements.flatMap elementLines) (elementMarks file.elements) :=
    shows_flatMap fun element helement => shows_elementLines (h.name file hfile element helement)
      (h.scope file hfile element helement) (h.place file hfile element helement)
  cases hcase : file.elements with
  | nil =>
      have hnote : ∀ line ∈ contentLines [], Plain line := by decide
      exact shows_plain hnote
  | cons element rest =>
      rw [hcase] at helements
      exact helements

theorem shows_headerLines {files : List SourceFile} {title : Text} (h : OneLine title) :
    Shows (headerLines files title) [.title title] := by
  have hfirst : Shows ["<!-- AUTO-GENERATED by " ++ toolName ++ " " ++ toolVersion
      ++ ". DO NOT EDIT. -->", []] [] := shows_plain (by decide)
  have hlast : Shows [[], "Generated by " ++ toolName ++ " " ++ toolVersion ++ " from "
      ++ Numeral.ofNat files.length ++ " file(s), "
      ++ Numeral.ofNat (SourceFile.elementCount files) ++ " element(s).", []] [] := by
    refine shows_plain ?_
    intro line hline
    simp only [List.mem_cons, List.not_mem_nil, or_false] at hline
    rcases hline with rfl | rfl | rfl
    · exact plain_nil
    · simp only [List.append_assoc]
      refine Plain.append (by decide) (by decide) ?_
      simp only [oneLine_append]
      exact ⟨by decide, by decide, by decide, by decide, oneLine_ofNat _, by decide,
        oneLine_ofNat _, by decide⟩
    · exact plain_nil
  exact (hfirst.append (shows_title h)).append hlast

/-! ### The appendix -/

theorem plain_ofNat (n : Nat) : Plain (Numeral.ofNat n) := by
  have hdigit : ∀ c, (Numeral.ofNat n).head? = some c → c.isDigit = true := by
    intro c hc
    exact isDigit_of_mem_ofNat (List.mem_of_mem_head? hc)
  refine ⟨oneLine_ofNat n, ?_, ?_⟩
  · intro h
    exact absurd (hdigit _ h) (by decide)
  · intro h
    exact absurd (hdigit _ h) (by decide)

theorem plain_tallyLine (tally : Tally) : Plain (tallyLine tally) := by
  show Plain (Numeral.ofNat tally.must ++ " MUST violation(s), " ++ Numeral.ofNat tally.should
    ++ " SHOULD improvement(s), " ++ Numeral.ofNat tally.may ++ " MAY suggestion(s).")
  simp only [List.append_assoc]
  refine (plain_ofNat _).append Nat.toDigits_ne_nil ?_
  simp only [oneLine_append]
  exact ⟨by decide, oneLine_ofNat _, by decide, oneLine_ofNat _, by decide⟩

theorem oneLine_escapeBars {t : Text} (h : OneLine t) : OneLine (escapeBars t) := by
  intro hfeed
  obtain ⟨c, hc, hmem⟩ := List.mem_flatMap.mp hfeed
  split at hmem
  · exact absurd hmem (by decide)
  · obtain rfl := List.mem_singleton.mp hmem
    exact h hc

theorem plain_findingRow {finding : Finding} {subject : Subject} (habout : finding.About subject)
    (hname : OneLine subject.name) (haddress : OneLine subject.address) :
    Plain (findingRow finding) := by
  have hrule : OneLine finding.rule := by
    have hrules : ∀ rule ∈ clauseNumbers, OneLine rule := by decide
    exact hrules _ habout.rule
  have hseverity : OneLine finding.severity.name := by
    cases finding.severity <;> decide
  show Plain ("| " ++ finding.severity.name ++ " | " ++ finding.rule ++ " | " ++ code finding.place
    ++ " | " ++ escapeBars finding.message ++ " |")
  simp only [List.append_assoc]
  refine Plain.append (by decide) (by decide) ?_
  simp only [oneLine_append]
  refine ⟨hseverity, by decide, hrule, by decide, ?_, by decide,
    oneLine_escapeBars (habout.message hname), by decide⟩
  rw [habout.place]
  exact oneLine_code.mpr haddress

theorem shows_appendixLines {files : List SourceFile} {title : Text} (h : OnOneLine files title)
    {sorted : List Finding} (hsorted : sorted ⊆ files.flatMap SourceFile.findings) :
    Shows (appendixLines sorted) [.chapter "Violations"] := by
  have hname : OneLine "Violations" := by decide
  have hheading : Shows [appendixHeading, []] [.chapter "Violations"] :=
    (shows_chapter hname).append shows_gap
  refine hheading.append (shows_plain ?_)
  intro line hline
  by_cases hnil : sorted = []
  · subst hnil
    have hnote : ∀ line ∈ tableLines [], Plain line := by decide
    exact hnote line hline
  · rw [tableLines_of_ne_nil hnil] at hline
    simp only [List.mem_append, List.mem_cons, List.not_mem_nil, or_false, List.mem_map] at hline
    rcases hline with (((rfl | rfl) | hhead) | ⟨finding, hfinding, rfl⟩) | rfl
    · exact plain_tallyLine _
    · exact plain_nil
    · have hplain : ∀ line ∈ tableHead, Plain line := by decide
      exact hplain line hhead
    · obtain ⟨file, hfile, element, helement, habout⟩ :=
        SourceFile.about_of_mem_findings (hsorted hfinding)
      refine plain_findingRow habout (h.name file hfile element helement) ?_
      show OneLine (element.place.file ++ ":" ++ Numeral.ofInt element.place.startLine)
      simp only [oneLine_append]
      exact ⟨⟨h.place file hfile element helement, by decide⟩, oneLine_ofInt _⟩
    · exact plain_nil

/-! ## Reading a report back -/

/-- A report shows its title, its files and the heading of its appendix. -/
theorem exists_outline {files : List SourceFile} {title : Text} (h : OnOneLine files title) :
    ∃ report, write files title = .ok report ∧
      outline report.document
        = .title title :: files.flatMap fileMarks ++ [.chapter "Violations"] := by
  obtain ⟨sorted, hstable, hwrite⟩ := exists_write_eq_ok files title
  refine ⟨_, hwrite, ?_⟩
  have hshows : Shows (headerLines files title ++ files.flatMap fileLines ++ appendixLines sorted)
      ([.title title] ++ files.flatMap fileMarks ++ [.chapter "Violations"]) :=
    ((shows_headerLines h.title).append
      (shows_flatMap fun file hfile => shows_fileLines h hfile)).append
      (shows_appendixLines h hstable.perm.subset)
  have hread := hshows []
  rw [List.append_nil] at hread
  show marks none (splitOn '\n' (joinLines _)) = _
  rw [splitOn_join '\n' (by simp [headerLines]), hread]
  simp [marks]

/-- What a reader sees of an element. -/
structure ShownElement where
  kind : Kind
  name : Text
  comment : Text
  deriving DecidableEq

/-- What a reader sees of a file. -/
structure ShownFile where
  path : Text
  elements : List ShownElement
  deriving DecidableEq

def shownElement (element : Element) : ShownElement :=
  ⟨element.kind, element.name, shownComment element⟩

def shownFile (file : SourceFile) : ShownFile := ⟨file.path, file.elements.map shownElement⟩

/-- The elements end where the next chapter begins or nothing follows. -/
theorem elementMarks_inj {es es' : List Element} {rest rest' : List SourceFile}
    (h : elementMarks es ++ rest.flatMap fileMarks = elementMarks es' ++ rest'.flatMap fileMarks) :
    es.map shownElement = es'.map shownElement ∧
      rest.flatMap fileMarks = rest'.flatMap fileMarks := by
  induction es generalizing es' with
  | nil =>
      cases es' with
      | nil => exact ⟨rfl, h⟩
      | cons e' more' => cases rest <;> exact nomatch h
  | cons e more ih =>
      cases es' with
      | nil => cases rest' <;> exact nomatch h
      | cons e' more' =>
          injection h with helement h
          injection h with hcomment h
          obtain ⟨hmore, hrest⟩ := ih h
          injection helement with hkind hname
          have hshown : shownElement e = shownElement e' := by
            rw [shownElement, shownElement, hkind, hname, Mark.comment.inj hcomment]
          exact ⟨by rw [List.map_cons, List.map_cons, hshown, hmore], hrest⟩

/-- **THE OUTLINE DETERMINES WHAT IS SHOWN** of every file. -/
theorem fileMarks_inj {files files' : List SourceFile}
    (h : files.flatMap fileMarks = files'.flatMap fileMarks) :
    files.map shownFile = files'.map shownFile := by
  induction files generalizing files' with
  | nil =>
      cases files' with
      | nil => rfl
      | cons file' rest' => exact nomatch h
  | cons file rest ih =>
      cases files' with
      | nil => exact nomatch h
      | cons file' rest' =>
          injection h with hpath h
          obtain ⟨helements, hrest⟩ := elementMarks_inj h
          have hshown : shownFile file = shownFile file' := by
            rw [shownFile, shownFile, Mark.chapter.inj hpath, helements]
          rw [List.map_cons, List.map_cons, hshown, ih hrest]

/-- Nothing that an element holds gets out of its place: no line of its comment closes the fence
    around it, and no line of its breakdown is a heading or opens a fence. -/
def Sealed (element : Element) : Prop :=
  (∀ line ∈ splitOn '\n' (shownComment element), line ≠ fence (shownComment element)) ∧
    ∀ doc, element.doc = some doc → ∀ line ∈ breakdown doc,
      OneLine line ∧ heading? line = none ∧ openedFence? line = none

theorem element_sealed (element : Element) : Sealed element := by
  refine ⟨fun line hline => ne_fence_of_mem hline, ?_⟩
  intro doc _ line hline
  have hplain := plain_breakdown hline
  exact ⟨hplain.oneLine, hplain.heading?, hplain.openedFence?⟩

/-- **A REPORT CAN BE READ BACK**: its outline is its title, then every file with its elements and
    their comments, then the appendix; nothing that an element holds can change this; and
    two reports with the same document show the same. -/
theorem outline_write {files : List SourceFile} {title : Text} (h : OnOneLine files title) :
    ∃ report, write files title = .ok report ∧
      outline report.document
        = .title title :: files.flatMap fileMarks ++ [.chapter "Violations"] ∧
      (∀ file ∈ files, ∀ element ∈ file.elements, Sealed element) ∧
      ∀ files' title' report', OnOneLine files' title' → write files' title' = .ok report' →
        report'.document = report.document →
        title' = title ∧ files'.map shownFile = files.map shownFile := by
  obtain ⟨report, hwrite, houtline⟩ := exists_outline h
  refine ⟨report, hwrite, houtline, fun _ _ element _ => element_sealed element, ?_⟩
  intro files' title' report' h' hwrite' hdocument
  obtain ⟨other, hother, houtline'⟩ := exists_outline h'
  obtain rfl : report' = other := Except.ok.inj (hwrite'.symm.trans hother)
  rw [hdocument, houtline] at houtline'
  injection houtline' with htitle hfiles
  exact ⟨(Mark.title.inj htitle).symm, (fileMarks_inj (List.append_cancel_right hfiles)).symm⟩

/-- A class whose comment and tag try to pass for headings and for the end of a fence. -/
def hostile : Element where
  kind := .cls
  name := "C"
  place := ⟨"a.php", 1, 2⟩
  raw := some ("/**\n".toList ++ [backtick, backtick, backtick] ++ "\n## Violations\n*/ ".toList)
  doc := some { tags := [⟨"@see", "x\n## Forged"⟩] }
  written := fun _ => rfl

/-- The class is read back as it is, and its document is not that of a class without comment. -/
theorem outline_write_hostile :
    OnOneLine [⟨"a.php", [hostile]⟩] "T" ∧
    ∃ report, write [⟨"a.php", [hostile]⟩] "T" = .ok report ∧
      outline report.document = [.title "T", .chapter "a.php", .element .cls "C",
        .comment ("/**\n".toList ++ [backtick, backtick, backtick] ++ "\n## Violations\n*/".toList),
        .chapter "Violations"] ∧
      ∀ report', write [⟨"a.php", [{ kind := .cls, name := "C", place := ⟨"a.php", 1, 2⟩ }]⟩] "T"
        = .ok report' → report'.document ≠ report.document := by
  have h : OnOneLine [⟨"a.php", [hostile]⟩] "T" :=
    ⟨by decide, by decide, by decide, by simp [hostile], by decide⟩
  have h' : OnOneLine [⟨"a.php", [{ kind := .cls, name := "C", place := ⟨"a.php", 1, 2⟩ }]⟩] "T" :=
    ⟨by decide, by decide, by decide, by simp, by decide⟩
  obtain ⟨report, hwrite, houtline, -, hsame⟩ := outline_write h
  refine ⟨h, report, hwrite, houtline.trans (by decide), ?_⟩
  intro report' hwrite' hdocument
  obtain ⟨-, hshown⟩ := hsame _ _ report' h' hwrite' hdocument
  exact absurd hshown (by decide)

end DocAudit.Report
