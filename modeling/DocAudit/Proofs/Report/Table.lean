import DocAudit.Proofs.Extraction.Total
import DocAudit.Proofs.Report.Outline

/-! # The table — which rows can be read back

    A row of the table of findings is cut at its bars, and a bar behind a backslash is part of its
    cell.  Bars of a MESSAGE are written with a backslash, so every message comes back as it was,
    whatever bars and backslashes the element's name holds.  The reference to a place is only set
    as code: a bar in a path cuts the cell, or takes the path's own backslash for its escape, and
    a line feed in a path or in a name breaks the row.

    So a row can be read back exactly if the path has no bar and neither path nor name has a
    line feed (`readsBack_iff`).  The argument goes field by field: a row is cut into the cells
    of its fields (`cells_row`), and a field comes back from its cells in one of two ways, as it
    is or escaped. -/

namespace DocAudit.Report

open Text

/-! ## Bars and backslashes -/

theorem unescapeBars_cons {c : Char} {rest : Text} (h : c = '\\' → rest.head? ≠ some '|') :
    unescapeBars (c :: rest) = c :: unescapeBars rest := by
  rw [unescapeBars]
  rintro more rfl rfl
  exact h rfl rfl

theorem escapeBars_cons (c : Char) (t : Text) :
    escapeBars (c :: t) = (if c = '|' then ['\\', '|'] else [c]) ++ escapeBars t := rfl

theorem head?_escapeBars (t : Text) :
    (escapeBars t).head? = t.head?.map fun c => if c = '|' then '\\' else c := by
  cases t with
  | nil => rfl
  | cons c rest =>
      rw [escapeBars_cons]
      by_cases hc : c = '|' <;> simp [hc]

theorem getLast?_escapeBars (t : Text) : (escapeBars t).getLast? = t.getLast? := by
  rcases List.eq_nil_or_concat t with rfl | ⟨front, c, rfl⟩
  · rfl
  · rw [List.concat_eq_append, escapeBars, List.flatMap_append, List.flatMap_singleton]
    by_cases hc : c = '|' <;> simp [hc]

/-- An escaped text begins with no bar. -/
theorem head?_escapeBars_ne (t : Text) : (escapeBars t).head? ≠ some '|' := by
  rw [head?_escapeBars]
  intro h
  obtain ⟨c, -, hc⟩ := Option.map_eq_some_iff.mp h
  split at hc
  · exact absurd hc (by decide)
  · contradiction

/-- **ESCAPING IS UNDONE**, also where the text has backslashes of its own. -/
theorem unescapeBars_escapeBars (t : Text) : unescapeBars (escapeBars t) = t := by
  induction t with
  | nil => rfl
  | cons c rest ih =>
      rw [escapeBars_cons]
      by_cases hc : c = '|'
      · subst hc
        show '|' :: unescapeBars (escapeBars rest) = _
        rw [ih]
      · rw [if_neg hc, List.singleton_append,
          unescapeBars_cons fun _ => head?_escapeBars_ne rest, ih]

/-- A text without bars has nothing to undo. -/
theorem unescapeBars_of_not_mem {t : Text} (h : '|' ∉ t) : unescapeBars t = t := by
  induction t with
  | nil => rfl
  | cons c rest ih =>
      have hrest : '|' ∉ rest := fun hmem => h (List.mem_cons_of_mem c hmem)
      rw [unescapeBars_cons fun _ hhead => hrest (List.mem_of_mem_head? hhead), ih hrest]

/-! ## Cutting at bars -/

theorem splitBars_ne_nil (escaped : Bool) (t : Text) : splitBars escaped t ≠ [] := by
  cases t with
  | nil => exact List.cons_ne_nil _ _
  | cons c rest =>
      rw [splitBars]
      split
      · exact List.cons_ne_nil _ _
      · cases splitBars (c == '\\') rest <;> exact List.cons_ne_nil _ _

/-- A character that does not cut stands at the front of the first part. -/
theorem splitBars_cons {escaped : Bool} {c : Char} (h : c = '|' → escaped = true) (rest : Text) :
    splitBars escaped (c :: rest) = consHead c (splitBars (c == '\\') rest) := by
  rw [splitBars, if_neg]
  rintro ⟨hc, hescaped⟩
  exact absurd (h hc) (by simp [hescaped])

/-- Joining undoes cutting. -/
theorem join_splitBars (escaped : Bool) (t : Text) : join ['|'] (splitBars escaped t) = t := by
  induction t generalizing escaped with
  | nil => rfl
  | cons c rest ih =>
      rw [splitBars]
      by_cases hc : c = '|' ∧ escaped = false
      · rw [if_pos hc, join_cons_of_ne_nil _ _ (splitBars_ne_nil _ rest), ih, hc.1]
        rfl
      · rw [if_neg hc, join_consHead _ _ (splitBars_ne_nil _ rest), ih]

theorem eq_of_splitBars_eq_singleton {escaped : Bool} {t part : Text}
    (h : splitBars escaped t = [part]) : part = t := by
  have hjoin := join_splitBars escaped t
  rw [h, join_singleton] at hjoin
  exact hjoin

/-- A text without bars is not cut. -/
theorem splitBars_of_not_mem (escaped : Bool) {t : Text} (h : '|' ∉ t) :
    splitBars escaped t = [t] := by
  induction t generalizing escaped with
  | nil => rfl
  | cons c rest ih =>
      obtain ⟨hc, hrest⟩ := not_or.mp fun hmem => h (List.mem_cons.mpr hmem)
      rw [splitBars_cons fun hbar => absurd hbar.symm hc, ih _ hrest]
      rfl

/-- An escaped text is not cut. -/
theorem splitBars_escapeBars (escaped : Bool) (t : Text) {after : Text} (h : '|' ∉ after) :
    splitBars escaped (escapeBars t ++ after) = [escapeBars t ++ after] := by
  induction t generalizing escaped with
  | nil => exact splitBars_of_not_mem escaped h
  | cons c rest ih =>
      rw [escapeBars_cons]
      by_cases hc : c = '|'
      · rw [if_pos hc]
        show splitBars escaped ('\\' :: '|' :: (escapeBars rest ++ after)) = _
        rw [splitBars_cons (by simp), splitBars_cons (by simp), ih]
        rfl
      · rw [if_neg hc]
        show splitBars escaped (c :: (escapeBars rest ++ after)) = _
        rw [splitBars_cons fun hbar => absurd hbar hc, ih]
        rfl

/-- A blank guards no bar, so the bar behind it cuts. -/
theorem splitBars_append_bar (escaped : Bool) (s t : Text) :
    splitBars escaped (s ++ ' ' :: '|' :: t)
      = splitBars escaped (s ++ [' ']) ++ splitBars false t := by
  induction s generalizing escaped with
  | nil =>
      have hblank : splitBars escaped [' '] = [[' ']] := splitBars_of_not_mem escaped (by decide)
      rw [List.nil_append, List.nil_append, hblank, splitBars_cons (by simp), splitBars,
        if_pos ⟨rfl, rfl⟩]
      rfl
  | cons c rest ih =>
      rw [List.cons_append, List.cons_append, splitBars, splitBars, ih, ih]
      split
      · rfl
      · cases hparts : splitBars (c == '\\') (rest ++ [' ']) with
        | nil => exact absurd hparts (splitBars_ne_nil _ _)
        | cons first more => rfl

/-- Where a text is neither cut nor changed by undoing escapes, it has no bar.  A bar that
    follows a backslash does not cut, and undoing drops the backslash. -/
theorem bar_not_mem {escaped : Bool} {t after part : Text}
    (hone : splitBars escaped (t ++ after) = [part]) (hsame : unescapeBars t = t)
    (hhead : escaped = true → t.head? ≠ some '|') : '|' ∉ t := by
  induction t generalizing escaped part with
  | nil => exact List.not_mem_nil
  | cons c rest ih =>
      -- a bar at the front would cut, or stand behind a backslash that is no part of the text
      have hc : c ≠ '|' := by
        rintro rfl
        cases escaped with
        | true => exact hhead rfl rfl
        | false =>
            rw [List.cons_append, splitBars, if_pos ⟨rfl, rfl⟩] at hone
            exact splitBars_ne_nil _ _ (List.cons.inj hone).2
      -- and a backslash before a bar would be gone
      have hguard : c = '\\' → rest.head? ≠ some '|' := by
        rintro rfl hbar
        obtain ⟨more, rfl⟩ := List.head?_eq_some_iff.mp hbar
        exact absurd (List.cons.inj hsame).1 (by decide)
      rw [unescapeBars_cons hguard] at hsame
      rw [List.cons_append, splitBars_cons fun hbar => absurd hbar hc] at hone
      cases hparts : splitBars (c == '\\') (rest ++ after) with
      | nil => exact absurd hparts (splitBars_ne_nil _ _)
      | cons first more =>
          rw [hparts] at hone
          obtain rfl : more = [] := (List.cons.inj hone).2
          have hrest : '|' ∉ rest :=
            ih hparts (List.cons.inj hsame).2 fun hslash => hguard (by simpa using hslash)
          exact fun hmem => (List.mem_cons.mp hmem).elim (fun hbar => hc hbar.symm) hrest

/-! ## Rows and their fields -/

/-- The text has no blank at its ends. -/
def Snug (t : Text) : Prop := trimBy (· == ' ') t = t

instance (t : Text) : Decidable (Snug t) := inferInstanceAs (Decidable (_ = _))

/-- The cells that one field of a row takes up. -/
def cellsOf (field : Text) : List Text :=
  (splitBars false (' ' :: field ++ [' '])).map (trimBy (· == ' '))

/-- A row is cut into the cells of its fields. -/
theorem cells_row (fields : List Text) :
    cells ('|' :: fields.flatMap fun field => ' ' :: field ++ [' ', '|'])
      = fields.flatMap cellsOf := by
  have hparts : ∀ fields : List Text,
      splitBars false (fields.flatMap fun field => ' ' :: field ++ [' ', '|'])
        = (fields.flatMap fun field => splitBars false (' ' :: field ++ [' '])) ++ [[]] := by
    intro fields
    induction fields with
    | nil => rfl
    | cons field rest ih =>
        rw [List.flatMap_cons, List.flatMap_cons, List.append_assoc, List.append_assoc, ← ih]
        exact splitBars_append_bar false (' ' :: field) _
  rw [cells, splitBars, if_pos ⟨rfl, rfl⟩, hparts, List.drop_one, List.tail_cons,
    List.dropLast_concat, List.map_flatMap]
  rfl

/-- The blanks around a field are not part of it. -/
theorem trimBy_padded {field : Text} (h : Snug field) :
    trimBy (· == ' ') (' ' :: field ++ [' ']) = field := by
  rw [trimBy_append_right (by simp), ← List.singleton_append, trimBy_append_left (by simp)]
  exact h

theorem cellsOf_of_splitBars {field : Text} (hsnug : Snug field)
    (hone : splitBars false (' ' :: field ++ [' ']) = [' ' :: field ++ [' ']]) :
    cellsOf field = [field] := by
  rw [cellsOf, hone, List.map_singleton, trimBy_padded hsnug]

theorem cellsOf_of_not_mem {field : Text} (hsnug : Snug field) (hbar : '|' ∉ field) :
    cellsOf field = [field] :=
  cellsOf_of_splitBars hsnug (splitBars_of_not_mem false (by simp [hbar]))

theorem snug_escapeBars {field : Text} (h : Snug field) : Snug (escapeBars field) := by
  obtain ⟨hhead, hlast⟩ := trimBy_eq_self_iff.mp h
  refine trimBy_eq_self_iff.mpr ⟨?_, ?_⟩
  · intro c hc
    rw [head?_escapeBars] at hc
    obtain ⟨d, hd, rfl⟩ := Option.map_eq_some_iff.mp hc
    split
    · rfl
    · exact hhead d hd
  · rw [getLast?_escapeBars]
    exact hlast

theorem cellsOf_escapeBars {field : Text} (h : Snug field) :
    cellsOf (escapeBars field) = [escapeBars field] := by
  refine cellsOf_of_splitBars (snug_escapeBars h) ?_
  show splitBars false (' ' :: (escapeBars field ++ [' '])) = _
  rw [splitBars_cons (by simp), splitBars_escapeBars _ field (by decide)]
  rfl

/-- A field that comes back from one cell without having been escaped has no bar. -/
theorem bar_not_mem_of_cellsOf {field cell : Text} (hsnug : Snug field)
    (hone : cellsOf field = [cell]) (hsame : unescapeBars cell = field) : '|' ∉ field := by
  obtain ⟨part, hpart, hcell⟩ := List.map_eq_singleton_iff.mp hone
  rw [eq_of_splitBars_eq_singleton hpart, trimBy_padded hsnug] at hcell
  subst hcell
  have hpadded : '|' ∉ ' ' :: field :=
    bar_not_mem hpart (by rw [unescapeBars_cons (by simp), hsame]) nofun
  exact fun hmem => hpadded (List.mem_cons_of_mem ' ' hmem)

/-! ## The row of a finding -/

/-- The finding can be read back from its row: the row is ONE line, and its cells, with their
    bars as they were, are what the finding says. -/
def ReadsBack (finding : Finding) : Prop :=
  ∃ line, splitOn '\n' (findingRow finding) = [line] ∧
    (cells line).map unescapeBars
      = [finding.severity.name, finding.rule, code finding.place, finding.message]

theorem findingRow_eq (finding : Finding) :
    findingRow finding = '|' :: [finding.severity.name, finding.rule, code finding.place,
      escapeBars finding.message].flatMap fun field => ' ' :: field ++ [' ', '|'] := by
  show "| " ++ finding.severity.name ++ " | " ++ finding.rule ++ " | " ++ code finding.place
    ++ " | " ++ escapeBars finding.message ++ " |" = _
  simp only [List.append_assoc, List.flatMap_cons, List.flatMap_nil, List.cons_append,
    List.nil_append]
  rfl

theorem snug_code (t : Text) : Snug (code t) := by
  refine trimBy_eq_self_iff.mpr ⟨?_, ?_⟩
  · rintro c ⟨⟩
    decide
  · intro c hc
    rw [code, List.getLast?_concat] at hc
    obtain rfl := Option.some.inj hc
    decide

theorem mem_bar_code {t : Text} : '|' ∈ code t ↔ '|' ∈ t := by
  have hbar : '|' ≠ backtick := by decide
  simp [code, hbar]

/-- The cells of a row are right exactly if its place has no bar. -/
theorem cells_findingRow_iff {finding : Finding} (hrule : finding.rule ∈ clauseNumbers)
    (hmessage : Snug finding.message) :
    (cells (findingRow finding)).map unescapeBars
        = [finding.severity.name, finding.rule, code finding.place, finding.message] ↔
      '|' ∉ finding.place := by
  have hseverity : Snug finding.severity.name ∧ '|' ∉ finding.severity.name := by
    cases finding.severity <;> decide
  have hrules : ∀ rule ∈ clauseNumbers, Snug rule ∧ '|' ∉ rule := by decide
  obtain ⟨hsnug, hbar⟩ := hrules _ hrule
  have hcells : (cells (findingRow finding)).map unescapeBars
      = finding.severity.name :: finding.rule
        :: ((cellsOf (code finding.place)).map unescapeBars ++ [finding.message]) := by
    rw [findingRow_eq, cells_row]
    simp only [List.flatMap_cons, List.flatMap_nil, List.append_nil,
      cellsOf_of_not_mem hseverity.1 hseverity.2, cellsOf_of_not_mem hsnug hbar,
      cellsOf_escapeBars hmessage, List.map_append, List.map_cons, List.map_nil,
      List.singleton_append, unescapeBars_of_not_mem hseverity.2, unescapeBars_of_not_mem hbar,
      unescapeBars_escapeBars]
  rw [hcells, ← mem_bar_code]
  constructor
  · intro h
    -- four cells leave one for the place, since the other fields take up one each
    have hplace : (cellsOf (code finding.place)).map unescapeBars = [code finding.place] :=
      List.append_cancel_right (List.cons.inj (List.cons.inj h).2).2
    obtain ⟨cell, hone, hsame⟩ := List.map_eq_singleton_iff.mp hplace
    exact bar_not_mem_of_cellsOf (snug_code _) hone hsame
  · intro h
    rw [cellsOf_of_not_mem (snug_code _) h, List.map_singleton, unescapeBars_of_not_mem h]
    rfl

theorem oneLine_escapeBars_iff {t : Text} : OneLine (escapeBars t) ↔ OneLine t := by
  refine ⟨fun h hfeed => h ?_, oneLine_escapeBars⟩
  exact List.mem_flatMap.mpr ⟨'\n', hfeed, by decide⟩

/-- A row is one line exactly if the place and the message are. -/
theorem oneLine_findingRow_iff {finding : Finding} (hrule : finding.rule ∈ clauseNumbers) :
    OneLine (findingRow finding) ↔ OneLine finding.place ∧ OneLine finding.message := by
  have hseverity : OneLine finding.severity.name := by
    cases finding.severity <;> decide
  have hrules : ∀ rule ∈ clauseNumbers, OneLine rule := by decide
  have hrule := hrules _ hrule
  rw [findingRow_eq]
  simp [oneLine_code, oneLine_escapeBars_iff, hseverity, hrule]

theorem bar_not_mem_ofInt (n : Int) : '|' ∉ Numeral.ofInt n := by
  have hnat : ∀ n, '|' ∉ Numeral.ofNat n := fun n hbar =>
    absurd (isDigit_of_mem_ofNat hbar) (by decide)
  cases n with
  | ofNat n => exact hnat n
  | negSucc n => exact fun hbar => (List.mem_cons.mp hbar).elim (by decide) (hnat (n + 1))

/-- What a message puts around the name of its element neither breaks the line nor leaves a blank
    at an end. -/
theorem message_of_mem_check {subject : Subject} {doc : Option Comment} {finding : Finding}
    (h : finding ∈ subject.check doc) :
    Snug finding.message ∧ (OneLine finding.message ↔ OneLine subject.name) := by
  obtain ⟨front, back, ⟨hfront, hback, hhead, hlast⟩, hmessage⟩ := Subject.exists_frame h
  obtain ⟨first, hfirst, hfirst'⟩ := (Option.any_eq_true _ _).mp hhead
  obtain ⟨last, hlast, hlast'⟩ := (Option.any_eq_true _ _).mp hlast
  rw [hmessage]
  refine ⟨trimBy_eq_self_iff.mpr ⟨?_, ?_⟩, ?_⟩
  · intro c hc
    rw [List.append_assoc, List.head?_append, hfirst] at hc
    obtain rfl : first = c := Option.some.inj hc
    simpa using hfirst'
  · intro c hc
    rw [List.getLast?_append, hlast] at hc
    obtain rfl : last = c := Option.some.inj hc
    simpa using hlast'
  · simp [Subject.quotedName, hfront, hback]

/-- **A ROW CAN BE READ BACK** exactly if the path has no bar and neither the path nor the name
    has a line feed. -/
theorem readsBack_iff {element : Element} {finding : Finding} (h : finding ∈ element.findings) :
    ReadsBack finding ↔
      '|' ∉ element.place.file ∧ OneLine element.place.file ∧ OneLine element.name := by
  obtain ⟨hplace, hrule, -⟩ := Subject.about_of_mem_check h
  obtain ⟨hsnug, hname⟩ := message_of_mem_check h
  have haddress : finding.place
      = element.place.file ++ ":" ++ Numeral.ofInt element.place.startLine := hplace
  have hbar : '|' ∉ finding.place ↔ '|' ∉ element.place.file := by
    rw [haddress]
    simp [bar_not_mem_ofInt]
  have hline : OneLine finding.place ↔ OneLine element.place.file := by
    rw [haddress]
    simp [oneLine_ofInt]
  have hrow : ReadsBack finding ↔ OneLine (findingRow finding) ∧
      (cells (findingRow finding)).map unescapeBars
        = [finding.severity.name, finding.rule, code finding.place, finding.message] := by
    simp only [ReadsBack, splitOn_eq_singleton_iff, and_assoc, exists_and_left, exists_eq_left]
  rw [hrow, oneLine_findingRow_iff hrule, cells_findingRow_iff hrule hsnug, hbar, hline, hname]
  exact and_comm

/-! ## The table of a report -/

/-- The table is the end of the document, and its rows break into lines one by one. -/
theorem splitOn_document (front : List Text) {rows : List Finding} (hne : rows ≠ []) :
    ∃ above, splitOn '\n' (joinLines (front ++ appendixLines rows))
      = above ++ tableHead ++ rows.flatMap (fun finding => splitOn '\n' (findingRow finding))
        ++ [[]] := by
  have hhead : tableHead.flatMap (splitOn '\n') = tableHead := by decide
  refine ⟨(front ++ [appendixHeading, [], tallyLine (Tally.of rows), []]).flatMap
    (splitOn '\n'), ?_⟩
  show splitOn '\n' (join ['\n'] _) = _
  rw [splitOn_join '\n' (by simp [appendixLines]), appendixLines, tableLines_of_ne_nil hne]
  simp only [List.flatMap_append, List.append_assoc, hhead, List.flatMap_map]
  rfl

/-- **THE TABLE STAYS A TABLE WHERE PATHS HAVE NO BARS**: whatever the records, the table lists
    every finding, and the row of a finding is one line with the four cells that it should have
    exactly if the path has no bar and neither the path nor the name has a line feed. -/
theorem write_table (records : List RecordedFile) (title : Text) :
    ∃ report rows, write (records.map RecordedFile.extract) title = .ok report ∧
      report.findings = (records.map RecordedFile.extract).flatMap SourceFile.findings ∧
      StableSort Finding.rank report.findings rows ∧
      (rows ≠ [] → ∃ above, splitOn '\n' report.document
        = above ++ tableHead ++ rows.flatMap (fun finding => splitOn '\n' (findingRow finding))
          ++ [[]]) ∧
      ∀ record ∈ records, ∀ element ∈ record.elements,
        ∀ finding ∈ (element.extract record.file).findings,
          finding ∈ rows ∧
            (ReadsBack finding ↔
              '|' ∉ record.file ∧ OneLine record.file ∧ OneLine element.name) := by
  obtain ⟨rows, hstable, hwrite⟩ := exists_write_eq_ok (records.map RecordedFile.extract) title
  refine ⟨_, rows, hwrite, rfl, hstable, fun hne => splitOn_document _ hne, ?_⟩
  intro record hrecord element helement finding hfinding
  refine ⟨hstable.perm.mem_iff.mpr (List.mem_flatMap.mpr ?_), readsBack_iff hfinding⟩
  exact ⟨record.extract, List.mem_map_of_mem hrecord,
    List.mem_flatMap.mpr ⟨_, List.mem_map_of_mem helement, hfinding⟩⟩

/-- A function without a comment, in a file whose path has a bar. -/
def barred : RecordedFile := ⟨"a|b.php", [⟨.function, "f", none, 1, 1, none⟩]⟩

/-- A method without a comment, whose name has a bar behind a backslash. -/
def barredName : RecordedFile := ⟨"c.php", [⟨.method, "a\\|b", none, 7, 9, none⟩]⟩

/-- A bar in a name does no harm, and one in a path does. -/
theorem write_table_barred :
    ∃ report, write ([barred, barredName].map RecordedFile.extract) "T" = .ok report ∧
      report.findings = [Subject.undocumented ⟨.function, "f", "a|b.php:1"⟩,
        Subject.undocumented ⟨.method, "a\\|b", "c.php:7"⟩] ∧
      ¬ ReadsBack (Subject.undocumented ⟨.function, "f", "a|b.php:1"⟩) ∧
      ReadsBack (Subject.undocumented ⟨.method, "a\\|b", "c.php:7"⟩) := by
  obtain ⟨report, rows, hwrite, hfindings, -, -, hrows⟩ := write_table [barred, barredName] "T"
  have hfirst := hrows barred List.mem_cons_self ⟨.function, "f", none, 1, 1, none⟩
    List.mem_cons_self (Subject.undocumented ⟨.function, "f", "a|b.php:1"⟩) (by decide)
  have hlast := hrows barredName (List.mem_cons_of_mem _ List.mem_cons_self)
    ⟨.method, "a\\|b", none, 7, 9, none⟩ List.mem_cons_self
    (Subject.undocumented ⟨.method, "a\\|b", "c.php:7"⟩) (by decide)
  refine ⟨report, hwrite, ?_, fun h => absurd (hfirst.2.mp h).1 (by decide),
    hlast.2.mpr (by decide)⟩
  rw [hfindings]
  decide +kernel

/-- The text of records with a bar in a path. -/
def barredText : Text :=
  "[\x7b\"file\":\"a|b.php\",\"elements\":[\x7b\"kind\":\"function\",\"name\":\"f\",".toList
    ++ "\"startLine\":1,\"endLine\":1\x7d]\x7d]".toList

/-- The records are accepted, and the row of their finding has five cells. -/
theorem write_barred :
    Record.read barredText = .ok [barred] ∧
      ∃ report finding, write ([barred].map RecordedFile.extract) "T" = .ok report ∧
        report.findings = [finding] ∧ ¬ ReadsBack finding ∧
        cells (findingRow finding)
          = ["MUST", "1.1", "`a", "b.php:1`", "Element 'f' (function) lacks documentation"] := by
  have hread : Record.read barredText = .ok [barred] := by decide +kernel
  obtain ⟨sorted, -, hwrite⟩ := exists_write_eq_ok ([barred].map RecordedFile.extract) "T"
  have hfindings : ([barred].map RecordedFile.extract).flatMap SourceFile.findings
      = [Subject.undocumented ⟨.function, "f", "a|b.php:1"⟩] := by decide +kernel
  have hcells : cells (findingRow (Subject.undocumented ⟨.function, "f", "a|b.php:1"⟩))
      = ["MUST", "1.1", "`a", "b.php:1`", "Element 'f' (function) lacks documentation"] := by
    decide +kernel
  refine ⟨hread, _, _, hwrite, hfindings, ?_, hcells⟩
  rintro ⟨line, hline, hback⟩
  obtain ⟨-, rfl⟩ := splitOn_eq_singleton_iff.mp hline
  rw [hcells] at hback
  exact absurd (congrArg List.length hback) (by decide)

end DocAudit.Report
