import DocAudit.Proofs.Comment.Shape
import DocAudit.Proofs.Finding.Clauses

/-! # Summaries — when they are prose

    A summary is to be PROSE: it shows something, its ends are neither blanks nor stars, and it
    does not look like a tag.  The reader trims blanks off a line and then spaces, tabs and
    stars, once each and in this order.  Two things slip through:

    * a blank other than a space or a tab that stands between stars is no longer trimmed, so
      that it may begin, end or even BE the summary;
    * an at sign behind a star is not where tags are looked for, and when the star is gone the
      summary begins with it.

    These are all exceptions (`realProse_headline_iff`).  An element of a kind that needs a summary
    is reported to lack one exactly if no line before the first tag line has anything but
    spaces, tabs and stars between its outer blanks. -/

namespace DocAudit

open Text

namespace Comment

/-- A text that can stand for itself. -/
structure RealProse (s : Text) : Prop where
  /-- It shows something. -/
  visible : ∃ c ∈ s, isBlank c = false
  /-- No blank, star or at sign begins it. -/
  begins : ∀ c, s.head? = some c → isBlank c = false ∧ c ≠ '*' ∧ c ≠ '@'
  /-- No blank or star ends it. -/
  ends : ∀ c, s.getLast? = some c → isBlank c = false ∧ c ≠ '*'

/-- The line without the blanks and stars at its ends, in whatever order they stand. -/
def bare (line : Text) : Text := trimBy (fun c => isBlank c || c == '*') line

/-! ## Headlines -/

/-- Prose is what is bare already, not empty and no tag. -/
theorem realProse_iff {s : Text} :
    RealProse s ↔ s ≠ [] ∧ bare s = s ∧ s.head? ≠ some '@' := by
  rw [bare, trimBy_eq_self_iff]
  constructor
  · rintro ⟨⟨c, hc, -⟩, hbegins, hends⟩
    refine ⟨List.ne_nil_of_mem hc, ⟨?_, ?_⟩, ?_⟩
    · intro d hd
      simp [hbegins d hd]
    · intro d hd
      simp [hends d hd]
    · intro hat
      exact (hbegins '@' hat).2.2 rfl
  · rintro ⟨hne, ⟨hhead, hlast⟩, hat⟩
    simp only [Bool.or_eq_false_iff, beq_eq_false_iff_ne] at hhead hlast
    refine ⟨?_, ?_, hlast⟩
    · obtain ⟨c, rest, rfl⟩ := List.exists_cons_of_ne_nil hne
      exact ⟨c, List.mem_cons_self, (hhead c rfl).1⟩
    · intro c hc
      refine ⟨(hhead c hc).1, (hhead c hc).2, ?_⟩
      rintro rfl
      exact hat hc

/-- What a headline loses, a bare line loses too. -/
theorem bare_headline (line : Text) : bare (headline line) = bare line := by
  rw [bare, headline, trimBy_trimBy_of_imp, trim, trimBy_trimBy_of_imp, ← bare]
  · intro c hc
    simp [hc]
  · intro c hc
    simp only [Bool.or_eq_true, beq_iff_eq] at hc ⊢
    rcases hc with (rfl | rfl) | rfl <;> decide

/-- **WHEN A HEADLINE IS PROSE**: exactly if nothing is left at its ends that a bare line loses,
    and it begins with no at sign. -/
theorem realProse_headline_iff {line : Text} (hne : headline line ≠ []) :
    RealProse (headline line) ↔
      headline line = bare line ∧ (headline line).head? ≠ some '@' := by
  rw [realProse_iff, bare_headline, eq_comm]
  exact and_iff_right hne

/-- A line has no headline exactly if spaces, tabs and stars are all it has between its outer
    blanks. -/
theorem headline_eq_nil_iff {line : Text} :
    headline line = [] ↔ ∀ c ∈ trim line, c ∈ [' ', '\t', '*'] := by
  rw [headline, trimBy_eq_nil_iff]
  simp [or_assoc]

/-- Where all blanks are spaces and tabs, a headline is bare. -/
theorem headline_eq_bare {line : Text} (h : ∀ c ∈ line, isBlank c = true → c = ' ' ∨ c = '\t') :
    headline line = bare line := by
  rw [← bare_headline, eq_comm, bare, trimBy_eq_self_iff]
  have hsub : ∀ c ∈ headline line, c ∉ [' ', '\t', '*'] → (isBlank c || c == '*') = false := by
    intro c hc hno
    simp only [List.mem_cons, List.not_mem_nil, or_false, not_or] at hno
    have hblank : isBlank c = false := by
      by_contra hb
      rcases h c ((infix_headline line).subset hc) (by simpa using hb) with rfl | rfl
      · exact hno.1 rfl
      · exact hno.2.1 rfl
    simp [hblank, hno.2.2]
  obtain ⟨hhead, hlast⟩ := headline_ends line
  refine ⟨?_, ?_⟩
  · intro c hc
    exact hsub c (List.mem_of_head? hc) (hhead c hc)
  · intro c hc
    exact hsub c (List.mem_of_getLast? hc) (hlast c hc)

/-! ## Summaries -/

/-- A summary is the headline of one of the lines, and no headline means no summary. -/
theorem splitSummary_fst_cases (ls : List Text) :
    (∃ line ∈ ls, headline line ≠ [] ∧ (splitSummary ls).1 = some (headline line)) ∨
      ((∀ line ∈ ls, headline line = []) ∧ (splitSummary ls).1 = none) := by
  have hprose := prose_splitSummary ls
  generalize (splitSummary ls).1 = summary, withoutMargin (splitSummary ls).2 = description
    at hprose ⊢
  cases hprose with
  | silent h => exact Or.inr ⟨h, rfl⟩
  | @spoken before line after _ hline => exact Or.inl ⟨line, by simp, hline, rfl⟩

/-- A comment that was read has a summary unless all lines before its first tag line lack a
    headline. -/
theorem summary_ofLines_eq_none_iff {ls : List Text} :
    (ofLines ls).summary = none ↔ ∀ line ∈ untilTag ls, headline line = [] := by
  show (splitSummary (untilTag ls)).1 = none ↔ _
  rcases splitSummary_fst_cases (untilTag ls) with ⟨line, hline, hne, hsome⟩ | ⟨hnone, hsummary⟩
  · rw [hsome]
    exact iff_of_false nofun fun h => hne (h line hline)
  · exact iff_of_true hsummary hnone

end Comment

/-- A summary that was read is not empty, so it is lacking exactly if there is none. -/
theorem lacksSummary_of_parse {raw : Text} {doc : Comment} (h : Comment.parse raw = .ok doc) :
    Subject.lacksSummary doc = true ↔ doc.summary = none := by
  obtain ⟨ls, -, -, rfl⟩ := Comment.parse_eq_ok_iff.mp h
  have hcases := Comment.splitSummary_fst_cases (Comment.untilTag ls)
  show ((Comment.splitSummary (Comment.untilTag ls)).1.getD []).isEmpty = true
    ↔ (Comment.splitSummary (Comment.untilTag ls)).1 = none
  rcases hcases with ⟨line, -, hne, hsome⟩ | ⟨-, hnone⟩
  · simp [hsome, hne]
  · simp [hnone]

/-! ## The finding -/

namespace Subject

/-- The finding that a summary is lacking. -/
def summaryMissing (subject : Subject) : Finding :=
  ⟨.must, "1.1", subject.address,
    subject.kind.display ++ " " ++ subject.quotedName ++ " " ++ "lacks short description"⟩

/-- Where a summary is needed, the finding is made exactly if it is lacking: no other finding
    about a comment that was read is of its severity. -/
theorem summaryMissing_mem_check_iff {subject : Subject} (hkind : subject.kind.NeedsSummary)
    {doc : Comment} :
    subject.summaryMissing ∈ subject.check (some doc) ↔ lacksSummary doc = true := by
  constructor
  · intro hmem
    have hpos : 0 < musts (subject.check (some doc)) :=
      List.countP_pos_iff.mpr ⟨_, hmem, decide_eq_true rfl⟩
    rw [musts_check] at hpos
    by_contra hlacks
    simp [hlacks] at hpos
  · intro hlacks
    have hpresence : subject.summaryMissing ∈ subject.presenceClause doc :=
      mem_report.mpr ⟨hlacks, rfl⟩
    refine List.mem_append_left _ ?_
    rw [kindClauses]
    cases hk : subject.kind with
    | file | property =>
        rw [hk] at hkind
        exact absurd hkind (by decide)
    | method | function => exact List.mem_append_left _ hpresence
    | cls | interface | trait =>
        show subject.summaryMissing ∈ subject.typeClauses doc
        rw [typeClauses, if_pos hlacks]
        simp [hpresence]

end Subject

/-! ## The whole comment -/

namespace Comment

/-- **REAL PROSE**: a summary is the headline of a line before the first tag line, and it is prose
    exactly if that headline is all that is left when the line is bare, and no tag.  So it is where
    all blanks are spaces and tabs and no at sign follows outer stars.  There is no summary, and
    its absence is reported, exactly if all those lines hold nothing but spaces, tabs and stars
    between their outer blanks. -/
theorem parse_summary {raw : Text} {doc : Comment} (h : parse raw = .ok doc) :
    ∃ text prose, trim raw = opening ++ text ++ closing ∧
      prose = untilTag ((lines text).map undecorate) ∧
      (∀ s, doc.summary = some s → ∃ line ∈ prose, s = headline line ∧ s ≠ [] ∧
        s.head? ≠ some '*' ∧ s.getLast? ≠ some '*' ∧
        (RealProse s ↔ s = bare line ∧ s.head? ≠ some '@')) ∧
      ((∀ line ∈ prose, (∀ c ∈ line, isBlank c = true → c = ' ' ∨ c = '\t') ∧
          (bare line).head? ≠ some '@') → ∀ s, doc.summary = some s → RealProse s) ∧
      (doc.summary = none ↔ ∀ line ∈ prose, ∀ c ∈ trim line, c ∈ [' ', '\t', '*']) ∧
      ∀ subject : Subject, subject.kind.NeedsSummary →
        (subject.summaryMissing ∈ subject.check (some doc) ↔ doc.summary = none) := by
  have hlacks := lacksSummary_of_parse h
  obtain ⟨ls, hbody, -, rfl⟩ := parse_eq_ok_iff.mp h
  obtain ⟨text, htext, rfl, -⟩ := body_eq_ok_iff.mp hbody
  have hline : ∀ s, (ofLines ((lines text).map undecorate)).summary = some s →
      ∃ line ∈ untilTag ((lines text).map undecorate), headline line ≠ [] ∧ s = headline line := by
    intro s hs
    rcases splitSummary_fst_cases (untilTag ((lines text).map undecorate)) with
      ⟨line, hline, hne, hsome⟩ | ⟨-, hnone⟩
    · exact ⟨line, hline, hne, Option.some.inj (hs.symm.trans hsome)⟩
    · exact nomatch hs.symm.trans hnone
  refine ⟨text, _, htext, rfl, ?_, ?_, ?_, ?_⟩
  · intro s hs
    obtain ⟨line, hmem, hne, rfl⟩ := hline s hs
    obtain ⟨hhead, hlast⟩ := headline_ends line
    exact ⟨line, hmem, rfl, hne, fun hstar => hhead _ hstar (by decide),
      fun hstar => hlast _ hstar (by decide), realProse_headline_iff hne⟩
  · intro hordinary s hs
    obtain ⟨line, hmem, hne, rfl⟩ := hline s hs
    obtain ⟨hblanks, hat⟩ := hordinary line hmem
    have hbare := headline_eq_bare hblanks
    exact (realProse_headline_iff hne).mpr ⟨hbare, hbare ▸ hat⟩
  · rw [summary_ofLines_eq_none_iff]
    simp only [headline_eq_nil_iff]
  · intro subject hkind
    rw [Subject.summaryMissing_mem_check_iff hkind, hlacks]

/-- A summary in stars, behind a line of stars. -/
theorem parse_summary_starred :
    parse "/**\n ** **\n ** Sum. *\n * @api\n */".toList
      = .ok ⟨some "Sum.".toList, [], [⟨"@api".toList, []⟩]⟩ ∧
    ∃ line, "Sum.".toList = headline line ∧
      (RealProse "Sum.".toList ↔ "Sum.".toList = bare line ∧ "Sum.".toList.head? ≠ some '@') := by
  have h : parse "/**\n ** **\n ** Sum. *\n * @api\n */".toList
      = .ok ⟨some "Sum.".toList, [], [⟨"@api".toList, []⟩]⟩ := by cbv
  obtain ⟨text, prose, -, -, hsummary, -⟩ := parse_summary h
  obtain ⟨line, -, hline, -, -, -, hprose⟩ := hsummary _ rfl
  exact ⟨h, line, hline, hprose⟩

/-- A no-break space between stars is taken for a summary, and so is a tag behind two stars; then
    nothing is reported to be missing. -/
theorem parse_unreal :
    (parse "/**\n * *\u00a0*\n */".toList = .ok ⟨some "\u00a0".toList, [], []⟩ ∧
      ¬ RealProse "\u00a0".toList) ∧
    (parse "/**\n ** @internal\n */".toList = .ok ⟨some "@internal".toList, [], []⟩ ∧
      ¬ RealProse "@internal".toList) ∧
    ∀ summary ∈ ["\u00a0".toList, "@internal".toList],
      musts (Subject.check ⟨.function, "f".toList, "a.php:1".toList⟩
        (some ⟨some summary, [], []⟩)) = 0 := by
  refine ⟨⟨by cbv, ?_⟩, ⟨by cbv, ?_⟩, ?_⟩
  · intro hreal
    exact absurd (hreal.begins _ rfl).1 (by decide)
  · intro hreal
    exact (hreal.begins _ rfl).2.2 rfl
  · decide

end Comment

end DocAudit
