import DocAudit.Proofs.Finding.Clauses
import Mathlib.Data.List.Infix
import Mathlib.Data.List.Nodup

/-! # The standard as a table

    The standard is a TABLE: every kind of element has a row of clauses, and a clause says of a
    comment, without any order of checking, when it breaks it.  The check is shown to be the
    table read off: it reports the clauses of the row that are broken, in the order of the row,
    each once and nothing else (`check_eq`).

    Clauses speak of tags by the beginning of their names, and of the FIRST such tag where there
    may be several. -/

namespace DocAudit

open Text

/-- Going through the items of a class is going through all items and passing over the others. -/
theorem flatMap_filter {α β : Type} (p : α → Prop) [DecidablePred p] (f : α → List β)
    (items : List α) :
    (items.filter (p ·)).flatMap f = items.flatMap fun item => if p item then f item else [] := by
  induction items with
  | nil => rfl
  | cons item rest ih =>
      rw [List.flatMap_cons, ← ih]
      by_cases h : p item <;> simp [h]

namespace Comment

/-- Some tag of the comment has a name that begins so. -/
def Tagged (doc : Comment) (start : Text) : Prop := ∃ tag ∈ doc.tags, start <+: tag.name

/-- The tag is the first of the comment with a name that begins so. -/
def FirstTag (doc : Comment) (start : Text) (tag : Tag) : Prop :=
  ∃ before after, doc.tags = before ++ tag :: after ∧ start <+: tag.name ∧
    ∀ earlier ∈ before, ¬ start <+: earlier.name

/-- The comment has a summary to show, and this is it. -/
def Shows (doc : Comment) (summary : Text) : Prop := doc.summary = some summary ∧ summary ≠ []

variable {doc : Comment} {start : Text}

theorem has_iff : doc.has start = true ↔ doc.Tagged start := by
  rw [has, List.any_eq_true]
  simp only [Tag.answers, List.isPrefixOf_iff_prefix, Tagged]

theorem firstTag_iff {tag : Tag} :
    doc.FirstTag start tag ↔ doc.firstUnder? start = some tag := by
  rw [firstUnder?, List.find?_eq_some_iff_append]
  simp only [Tag.answers, List.isPrefixOf_iff_prefix, Bool.not_eq_true', ← Bool.not_eq_true]
  constructor
  · rintro ⟨before, after, htags, htag, hbefore⟩
    exact ⟨htag, before, after, htags, hbefore⟩
  · rintro ⟨htag, before, after, htags, hbefore⟩
    exact ⟨before, after, htags, htag, hbefore⟩

/-- A tag that begins so has a first one. -/
theorem exists_firstTag (h : doc.Tagged start) : ∃ tag, doc.FirstTag start tag := by
  have hsome : (doc.firstUnder? start).isSome = true := by
    rw [firstUnder?, List.find?_isSome]
    obtain ⟨tag, hmem, hstart⟩ := h
    exact ⟨tag, hmem, List.isPrefixOf_iff_prefix.mpr hstart⟩
  obtain ⟨tag, htag⟩ := Option.isSome_iff_exists.mp hsome
  exact ⟨tag, firstTag_iff.mpr htag⟩

theorem FirstTag.tagged {tag : Tag} (h : doc.FirstTag start tag) : doc.Tagged start := by
  obtain ⟨before, after, htags, htag, -⟩ := h
  refine ⟨tag, ?_, htag⟩
  rw [htags]
  exact List.mem_append_right before List.mem_cons_self

/-- There is one summary to show at most, and none exactly if it is reported to be lacking. -/
theorem shows_iff {summary : Text} :
    doc.Shows summary ↔ Subject.lacksSummary doc = false ∧ summary = doc.summary.getD [] := by
  rw [Shows, Subject.lacksSummary]
  cases doc.summary with
  | none => simp
  | some s =>
      simp only [Option.some.injEq, Option.getD_some, List.isEmpty_eq_false_iff]
      constructor
      · rintro ⟨rfl, hne⟩
        exact ⟨hne, rfl⟩
      · rintro ⟨hne, rfl⟩
        exact ⟨rfl, hne⟩

theorem exists_shows_iff {P : Text → Prop} :
    (∃ summary, doc.Shows summary ∧ P summary) ↔
      Subject.lacksSummary doc = false ∧ P (doc.summary.getD []) := by
  simp only [shows_iff, and_assoc]
  constructor
  · rintro ⟨_, hlacks, rfl, h⟩
    exact ⟨hlacks, h⟩
  · rintro ⟨hlacks, h⟩
    exact ⟨_, hlacks, rfl, h⟩

theorem exists_firstTag_iff {P : Tag → Prop} :
    (∃ tag, doc.FirstTag start tag ∧ P tag) ↔ ∃ tag ∈ doc.firstUnder? start, P tag := by
  simp only [firstTag_iff, Option.mem_def]

instance : Decidable (doc.Tagged start) :=
  inferInstanceAs (Decidable (∃ tag ∈ doc.tags, start <+: tag.name))

end Comment

/-- The text points to something else to use. -/
def Replaces (t : Text) : Prop := "@see" <:+: t ∨ "use " <:+: lower t

theorem namesReplacement_iff {t : Text} : Subject.namesReplacement t = true ↔ Replaces t := by
  rw [Subject.namesReplacement, Bool.or_eq_true, occurs_iff, occurs_iff]
  exact Iff.rfl

instance (t : Text) : Decidable (Replaces t) := decidable_of_iff _ namesReplacement_iff

/-- The clauses that a comment can break. -/
inductive Clause where
  /-- There is a comment that can be read. -/
  | documented
  /-- The comment has a summary. -/
  | summarised
  /-- The summary is short. -/
  | brief
  /-- The summary ends with a full stop. -/
  | stopped
  /-- The summary says more than the name. -/
  | original
  | packaged
  | dated
  /-- It is said whether the element is public. -/
  | marked
  | typed
  | returning
  /-- A deprecated element has a replacement. -/
  | replaced
  deriving Repr, DecidableEq

namespace Clause

/-- All clauses. -/
def all : List Clause :=
  [.documented, .summarised, .brief, .stopped, .original, .packaged, .dated, .marked, .typed,
    .returning, .replaced]

theorem mem_all (clause : Clause) : clause ∈ all := by cases clause <;> decide

/-- The clauses that are particular to a kind of element. -/
def kindRow : Kind → List Clause
  | .cls | .interface | .trait =>
      [.summarised, .brief, .stopped, .original, .packaged, .dated, .marked]
  | .method | .function => [.summarised, .returning]
  | .property => [.typed]
  | .file => []

/-- The row of a kind, in the order of the table: its own clauses between the two that all kinds
    share. -/
def row (kind : Kind) : List Clause := .documented :: kindRow kind ++ [.replaced]

/-- When the comment on an element of this name breaks a clause; without a comment only the
    first is broken. -/
def Broken (name : Text) : Option Comment → Clause → Prop
  | none, clause => clause = .documented
  | some _, .documented => False
  | some doc, .summarised => ¬ ∃ summary, doc.Shows summary
  | some doc, .brief => ∃ summary, doc.Shows summary ∧ 80 < summary.length
  | some doc, .stopped => ∃ summary, doc.Shows summary ∧ ¬ "." <:+ summary
  | some doc, .original => ∃ summary, doc.Shows summary ∧
      (lower name ++ [' '] <:+: lower summary ∨ lower name <+: lower summary)
  | some doc, .packaged => ¬ doc.Tagged "@package"
  | some doc, .dated => ¬ doc.Tagged "@since"
  | some doc, .marked => ¬ doc.Tagged "@api" ∧ ¬ doc.Tagged "@internal"
  | some doc, .typed => ¬ doc.Tagged "@var"
  | some doc, .returning => ¬ doc.Tagged "@return"
  | some doc, .replaced => ∃ tag, doc.FirstTag "@deprecated" tag ∧ ¬ Replaces tag.value

instance (name : Text) (doc : Option Comment) (clause : Clause) :
    Decidable (Broken name doc clause) :=
  match doc, clause with
  | none, clause => inferInstanceAs (Decidable (clause = .documented))
  | some _, .documented => inferInstanceAs (Decidable False)
  | some doc, .summarised => decidable_of_iff (Subject.lacksSummary doc = true) (by
      rw [Broken]
      simp [Comment.shows_iff])
  | some _, .brief => decidable_of_iff _ Comment.exists_shows_iff.symm
  | some _, .stopped => decidable_of_iff _ Comment.exists_shows_iff.symm
  | some _, .original => decidable_of_iff _ Comment.exists_shows_iff.symm
  | some doc, .packaged => inferInstanceAs (Decidable (¬ doc.Tagged "@package"))
  | some doc, .dated => inferInstanceAs (Decidable (¬ doc.Tagged "@since"))
  | some doc, .marked =>
      inferInstanceAs (Decidable (¬ doc.Tagged "@api" ∧ ¬ doc.Tagged "@internal"))
  | some doc, .typed => inferInstanceAs (Decidable (¬ doc.Tagged "@var"))
  | some doc, .returning => inferInstanceAs (Decidable (¬ doc.Tagged "@return"))
  | some _, .replaced => decidable_of_iff _ Comment.exists_firstTag_iff.symm

/-- How severe it is to break the clause. -/
def severity : Clause → Severity
  | .documented | .summarised => .must
  | _ => .should

/-- The number of the clause. -/
def rule : Clause → Text
  | .documented | .summarised | .packaged | .dated | .marked => "1.1"
  | .brief | .stopped | .original => "1.3"
  | .typed => "2.3"
  | .returning => "3.1"
  | .replaced => "4.2"

/-- The words before the name of the element. -/
def front (kind : Kind) : Clause → Text
  | .documented => "Element "
  | .brief | .stopped | .original => "Summary for " ++ kind.name ++ " "
  | .replaced => "Deprecated " ++ kind.name ++ " "
  | _ => kind.display ++ " "

/-- The kind in parentheses, where the words before the name do not tell it. -/
def note (kind : Kind) : Clause → Text
  | .documented => " (" ++ kind.name ++ ")"
  | _ => []

/-- The words behind the name of the element. -/
def complaint : Clause → Text
  | .documented => "lacks documentation"
  | .summarised => "lacks short description"
  | .brief => "exceeds 80 characters"
  | .stopped => "should end with period"
  | .original => "should not restate element name"
  | .packaged => "missing @package tag"
  | .dated => "missing @since tag"
  | .marked => "should have @api or @internal marker"
  | .typed => "missing @var tag"
  | .returning => "missing @return tag"
  | .replaced => "should reference replacement"

/-- What is said about an element that breaks the clause. -/
def message (kind : Kind) (name : Text) (clause : Clause) : Text :=
  clause.front kind ++ ("'" ++ name ++ "'") ++ clause.note kind ++ [' '] ++ clause.complaint

/-- The finding that the clause is broken by the element of this name at this place. -/
def finding (kind : Kind) (name : Text) (place : Place) (clause : Clause) : Finding :=
  ⟨clause.severity, clause.rule, place.file ++ ":" ++ Numeral.ofInt place.startLine,
    clause.message kind name⟩

/-! ## Reading the table -/

section Table

variable {kind : Kind} {name : Text} {place : Place} {doc : Option Comment}

/-- What the table says on one clause. -/
def verdict (kind : Kind) (name : Text) (place : Place) (doc : Option Comment) (clause : Clause) :
    List Finding :=
  if Broken name doc clause then [clause.finding kind name place] else []

/-- Reading a row clause by clause. -/
theorem flatMap_verdict (clauses : List Clause) :
    clauses.flatMap (verdict kind name place doc)
      = (clauses.filter (Broken name doc)).map (finding kind name place) := by
  rw [List.map_eq_flatMap, flatMap_filter]
  rfl

/-- A report is the verdict on the clause that it is worded like, if both are made under the same
    condition. -/
theorem report_eq_verdict (clause : Clause) {broken : Bool} {message : Text}
    (hbroken : broken = true ↔ Broken name doc clause)
    (hmessage : message = clause.message kind name) :
    Subject.report ⟨kind, name, place.address⟩ broken clause.severity clause.rule message
      = verdict kind name place doc clause := by
  subst hmessage
  simp only [Subject.report, verdict, hbroken]
  rfl

theorem reportLabelled_eq_verdict (clause : Clause) {broken : Bool} {complaint : Text}
    (hbroken : broken = true ↔ Broken name doc clause)
    (hfront : clause.front kind = kind.display ++ " ") (hnote : clause.note kind = [])
    (hcomplaint : clause.complaint = complaint) :
    Subject.reportLabelled ⟨kind, name, place.address⟩ broken clause.severity clause.rule complaint
      = verdict kind name place doc clause := by
  refine report_eq_verdict clause hbroken ?_
  rw [message, hfront, hnote, List.append_nil, hcomplaint]
  rfl

theorem reportSummary_eq_verdict (clause : Clause) {broken : Bool} {complaint : Text}
    (hbroken : broken = true ↔ Broken name doc clause)
    (hclause : clause ∈ [brief, stopped, original])
    (hcomplaint : clause.complaint = complaint) :
    Subject.reportSummary ⟨kind, name, place.address⟩ broken complaint
      = verdict kind name place doc clause := by
  have hkey : clause.severity = .should ∧ clause.rule = "1.3" ∧ clause.note kind = [] ∧
      clause.front kind = "Summary for " ++ kind.name ++ " " := by
    simp only [List.mem_cons, List.not_mem_nil, or_false] at hclause
    rcases hclause with rfl | rfl | rfl <;> exact ⟨rfl, rfl, rfl, rfl⟩
  obtain ⟨hseverity, hrule, hnote, hfront⟩ := hkey
  rw [Subject.reportSummary, ← hseverity, ← hrule]
  refine report_eq_verdict clause hbroken ?_
  rw [message, hfront, hnote, List.append_nil, hcomplaint]
  rfl

variable (kind name place)

theorem presenceClause_eq (doc : Comment) :
    Subject.presenceClause ⟨kind, name, place.address⟩ doc
      = verdict kind name place (some doc) .summarised := by
  refine reportLabelled_eq_verdict .summarised ?_ rfl rfl rfl
  simp [Broken, Comment.shows_iff]

/-- The three clauses on the form of a summary that is there. -/
theorem summaryClauses_eq {doc : Comment} (h : Subject.lacksSummary doc = false) :
    Subject.summaryClauses ⟨kind, name, place.address⟩ (doc.summary.getD [])
      = [brief, stopped, original].flatMap (verdict kind name place (some doc)) := by
  have hbrief : decide (summaryLimit < (doc.summary.getD []).length) = true ↔
      Broken name (some doc) .brief := by
    rw [Broken, Comment.exists_shows_iff, decide_eq_true_iff]
    exact (and_iff_right h).symm
  have hstopped : (!endsWith "." (doc.summary.getD [])) = true ↔
      Broken name (some doc) .stopped := by
    rw [Broken, Comment.exists_shows_iff, endsWith, Bool.not_eq_true', ← Bool.not_eq_true,
      List.isSuffixOf_iff_suffix]
    exact (and_iff_right h).symm
  have horiginal : Subject.restates ⟨kind, name, place.address⟩ (doc.summary.getD []) = true ↔
      Broken name (some doc) .original := by
    rw [Broken, Comment.exists_shows_iff, Subject.restates, Bool.or_eq_true, occurs_iff,
      List.isPrefixOf_iff_prefix]
    exact (and_iff_right h).symm
  simp only [List.flatMap_cons, List.flatMap_nil, List.append_nil]
  rw [Subject.summaryClauses, List.append_assoc]
  refine congrArg₂ _ ?_ (congrArg₂ _ ?_ ?_)
  · exact reportSummary_eq_verdict .brief hbrief (by decide) rfl
  · exact reportSummary_eq_verdict .stopped hstopped (by decide) rfl
  · exact reportSummary_eq_verdict .original horiginal (by decide) rfl

/-- Nothing is said about the form of a summary that is lacking. -/
theorem flatMap_verdict_of_lacksSummary {doc : Comment} (h : Subject.lacksSummary doc = true) :
    [brief, stopped, original].flatMap (verdict kind name place (some doc)) = [] := by
  simp [verdict, Broken, Comment.exists_shows_iff, h]

/-- A summary that is there is not reported to be lacking. -/
theorem verdict_summarised_of_not_lacksSummary {doc : Comment}
    (h : Subject.lacksSummary doc = false) :
    verdict kind name place (some doc) .summarised = [] := by
  simp [verdict, Broken, Comment.shows_iff, h]

/-- The clauses on summaries: that there is one, or else its form. -/
theorem summaryRow_eq (doc : Comment) :
    (if Subject.lacksSummary doc then Subject.presenceClause ⟨kind, name, place.address⟩ doc
      else Subject.summaryClauses ⟨kind, name, place.address⟩ (doc.summary.getD []))
      = [summarised, brief, stopped, original].flatMap (verdict kind name place (some doc)) := by
  rw [List.flatMap_cons]
  cases h : Subject.lacksSummary doc with
  | true =>
      rw [if_pos rfl, presenceClause_eq, flatMap_verdict_of_lacksSummary kind name place h,
        List.append_nil]
  | false =>
      rw [if_neg Bool.false_ne_true, summaryClauses_eq kind name place h,
        verdict_summarised_of_not_lacksSummary kind name place h, List.nil_append]

theorem not_has_iff {doc : Comment} {start : Text} :
    (!doc.has start) = true ↔ ¬ doc.Tagged start := by
  rw [Bool.not_eq_true', ← Bool.not_eq_true, Comment.has_iff]

theorem typeClauses_eq (doc : Comment) :
    Subject.typeClauses ⟨kind, name, place.address⟩ doc
      = [summarised, brief, stopped, original, packaged, dated, marked].flatMap
        (verdict kind name place (some doc)) := by
  have hmarked : (!doc.has "@api" && !doc.has "@internal") = true ↔
      Broken name (some doc) .marked := by
    rw [Bool.and_eq_true, not_has_iff, not_has_iff]
    exact Iff.rfl
  show _ = ([summarised, brief, stopped, original] ++ [packaged, dated, marked]).flatMap
    (verdict kind name place (some doc))
  rw [List.flatMap_append, ← summaryRow_eq, Subject.typeClauses, List.append_assoc,
    List.append_assoc]
  simp only [List.flatMap_cons, List.flatMap_nil, List.append_nil]
  refine congrArg₂ _ rfl (congrArg₂ _ ?_ (congrArg₂ _ ?_ ?_))
  · exact reportLabelled_eq_verdict .packaged not_has_iff rfl rfl rfl
  · exact reportLabelled_eq_verdict .dated not_has_iff rfl rfl rfl
  · exact reportLabelled_eq_verdict .marked hmarked rfl rfl rfl

theorem routineClauses_eq (doc : Comment) :
    Subject.routineClauses ⟨kind, name, place.address⟩ doc
      = [summarised, returning].flatMap (verdict kind name place (some doc)) := by
  simp only [List.flatMap_cons, List.flatMap_nil, List.append_nil]
  refine congrArg₂ _ (presenceClause_eq kind name place doc) ?_
  exact reportLabelled_eq_verdict .returning not_has_iff rfl rfl rfl

theorem propertyClauses_eq (doc : Comment) :
    Subject.propertyClauses ⟨kind, name, place.address⟩ doc
      = verdict kind name place (some doc) .typed :=
  reportLabelled_eq_verdict .typed not_has_iff rfl rfl rfl

theorem deprecationClause_eq (doc : Comment) :
    Subject.deprecationClause ⟨kind, name, place.address⟩ doc
      = verdict kind name place (some doc) .replaced := by
  have hbroken : Broken name (some doc) .replaced ↔
      ∃ tag ∈ doc.firstUnder? "@deprecated", ¬ Replaces tag.value := Comment.exists_firstTag_iff
  rw [Subject.deprecationClause]
  cases hfirst : doc.firstUnder? "@deprecated" with
  | none =>
      rw [hfirst] at hbroken
      exact (if_neg (by simp [hbroken])).symm
  | some tag =>
      rw [hfirst] at hbroken
      refine report_eq_verdict .replaced ?_ ?_
      · simp [hbroken, ← namesReplacement_iff]
      · have hassoc : ∀ a s c : Text, a ++ (s ++ c) = a ++ [] ++ s ++ c := by simp
        exact hassoc _ [' '] "should reference replacement"

theorem kindClauses_eq (doc : Comment) :
    Subject.kindClauses ⟨kind, name, place.address⟩ doc
      = (kindRow kind).flatMap (verdict kind name place (some doc)) := by
  cases kind with
  | file => rfl
  | cls => exact typeClauses_eq .cls name place doc
  | interface => exact typeClauses_eq .interface name place doc
  | trait => exact typeClauses_eq .trait name place doc
  | method => exact routineClauses_eq .method name place doc
  | function => exact routineClauses_eq .function name place doc
  | property =>
      rw [kindRow, List.flatMap_singleton]
      exact propertyClauses_eq .property name place doc

/-- **THE CHECK IS THE TABLE**: it reports the broken clauses of the row, in their order. -/
theorem check_eq (doc : Option Comment) :
    Subject.check ⟨kind, name, place.address⟩ doc
      = ((row kind).filter (Broken name doc)).map (finding kind name place) := by
  cases doc with
  | none =>
      have hrow : (row kind).filter (Broken name none) = [.documented] := by
        cases kind <;> simp [row, kindRow, Broken]
      have hverdict : verdict kind name place none .documented
          = [Clause.documented.finding kind name place] := if_pos rfl
      rw [hrow, List.map_singleton, ← hverdict]
      refine report_eq_verdict .documented (iff_of_true rfl rfl) ?_
      have hassoc : ∀ a p n r s c : Text,
          a ++ p ++ n ++ (r ++ (s ++ c)) = a ++ (p ++ n ++ r) ++ s ++ c := by simp
      exact hassoc _ " (" kind.name ")" [' '] "lacks documentation"
  | some doc =>
      have hdocumented : verdict kind name place (some doc) .documented = [] := if_neg id
      rw [← flatMap_verdict, row, List.cons_append, List.flatMap_cons, hdocumented,
        List.nil_append, List.flatMap_append, List.flatMap_singleton, ← kindClauses_eq,
        ← deprecationClause_eq]
      rfl

/-- A finding is made exactly if a broken clause of the row makes it. -/
theorem mem_check_iff {doc : Option Comment} {found : Finding} :
    found ∈ Subject.check ⟨kind, name, place.address⟩ doc ↔
      ∃ clause ∈ row kind, Broken name doc clause ∧ clause.finding kind name place = found := by
  rw [check_eq, List.mem_map]
  simp only [List.mem_filter, decide_eq_true_eq, and_assoc]

/-- Where one clause of the row has a number, findings of this number are made exactly if it is
    broken. -/
theorem exists_rule_iff {clause : Clause} (hrow : clause ∈ row kind)
    (hrule : ∀ other ∈ row kind, other.rule = clause.rule → other = clause)
    (doc : Option Comment) :
    (∃ found ∈ Subject.check ⟨kind, name, place.address⟩ doc,
        found.severity = clause.severity ∧ found.rule = clause.rule) ↔
      Broken name doc clause := by
  constructor
  · rintro ⟨found, hfound, -, hnumber⟩
    obtain ⟨other, hother, hbroken, rfl⟩ := (mem_check_iff kind name place).mp hfound
    exact hrule other hother hnumber ▸ hbroken
  · intro hbroken
    exact ⟨_, (mem_check_iff kind name place).mpr ⟨clause, hrow, hbroken, rfl⟩, rfl, rfl⟩

/-- Clause 4.2 is reported exactly if the first deprecation tag points to nothing else. -/
theorem exists_replaced_iff (doc : Comment) :
    (∃ found ∈ Subject.check ⟨kind, name, place.address⟩ (some doc),
        found.severity = .should ∧ found.rule = "4.2") ↔
      ∃ tag, doc.FirstTag "@deprecated" tag ∧ ¬ Replaces tag.value := by
  have hclause : .replaced ∈ row kind ∧
      ∀ other ∈ row kind, other.rule = Clause.replaced.rule → other = .replaced := by
    cases kind <;> decide
  exact exists_rule_iff kind name place hclause.1 hclause.2 (some doc)

end Table

/-! ## Distinct findings -/

/-- The words behind the name tell the clause: none of them end those of another. -/
theorem eq_of_complaint_suffix :
    ∀ clause ∈ all, ∀ other ∈ all, clause.complaint <:+ other.complaint → clause = other := by
  decide +kernel

/-- Different clauses give different findings. -/
theorem finding_injective (kind : Kind) (name : Text) (place : Place) :
    Function.Injective (finding kind name place) := by
  intro clause other h
  have hmessage : clause.message kind name = other.message kind name := congrArg Finding.message h
  have hclause : clause.complaint <:+ clause.message kind name := List.suffix_append _ _
  have hother : other.complaint <:+ clause.message kind name := hmessage ▸ List.suffix_append _ _
  rcases List.suffix_or_suffix_of_suffix hclause hother with hsuffix | hsuffix
  · exact eq_of_complaint_suffix clause clause.mem_all other other.mem_all hsuffix
  · exact (eq_of_complaint_suffix other other.mem_all clause clause.mem_all hsuffix).symm

theorem nodup_row (kind : Kind) : (row kind).Nodup := by cases kind <;> decide

/-! ## What a finding says -/

/-- The message holds the name in quotes. -/
theorem quotedName_infix_message (kind : Kind) (name : Text) (clause : Clause) :
    ("'" ++ name ++ "'" : Text) <:+: clause.message kind name :=
  ⟨clause.front kind, clause.note kind ++ [' '] ++ clause.complaint, by simp [message]⟩

theorem capitalise_name (kind : Kind) : capitalise kind.name = kind.display := by
  cases kind <;> decide

/-- The message holds the kind, as it is written in records or capitalised. -/
theorem kind_infix_message (kind : Kind) (name : Text) (clause : Clause) :
    kind.name <:+: clause.message kind name ∨
      capitalise kind.name <:+: clause.message kind name := by
  have hfront : clause.front kind <:+: clause.message kind name :=
    ⟨[], ("'" ++ name ++ "'" : Text) ++ clause.note kind ++ [' '] ++ clause.complaint,
      by simp [message]⟩
  have hnote : clause.note kind <:+: clause.message kind name :=
    ⟨clause.front kind ++ ("'" ++ name ++ "'" : Text), [' '] ++ clause.complaint,
      by simp [message]⟩
  rw [capitalise_name]
  cases clause with
  | documented => exact Or.inl ((List.infix_append _ _ _).trans hnote)
  | brief | stopped | original | replaced => exact Or.inl ((List.infix_append _ _ _).trans hfront)
  | summarised | packaged | dated | marked | typed | returning =>
      exact Or.inr ((List.prefix_append _ _).isInfix.trans hfront)

theorem severity_ne_may (clause : Clause) : clause.severity ≠ .may := by cases clause <;> decide

/-- A summary is lacking or has a form, never both, so no row is broken as a whole. -/
theorem length_filter_row_le (kind : Kind) (name : Text) (doc : Option Comment) :
    ((row kind).filter (Broken name doc)).length ≤ 7 := by
  -- clauses that cannot be broken do not count
  have hspared : ∀ spared : List Clause, (∀ clause ∈ spared, ¬ Broken name doc clause) →
      ((row kind).filter (Broken name doc)).length ≤ (row kind).countP (· ∉ spared) := by
    intro spared h
    rw [← List.countP_eq_length_filter]
    refine List.countP_mono_left ?_
    intro clause _ hbroken
    exact decide_eq_true fun hmem => h clause hmem (of_decide_eq_true hbroken)
  cases doc with
  | none =>
      refine Nat.le_trans (hspared [summarised, replaced] ?_) (by cases kind <;> decide)
      simp [Broken]
  | some doc =>
      cases hlacks : Subject.lacksSummary doc with
      | true =>
          refine Nat.le_trans (hspared [documented, brief] ?_) (by cases kind <;> decide)
          simp [Broken, Comment.exists_shows_iff, hlacks]
      | false =>
          refine Nat.le_trans (hspared [documented, summarised] ?_) (by cases kind <;> decide)
          simp [Broken, Comment.shows_iff, hlacks]

/-! ## The whole table -/

/-- What the findings about an element say: the clauses of its row that are broken, each ONCE and
    in the order of the row, at the place of the element and with its name and kind. -/
structure ReadOff (kind : Kind) (name : Text) (place : Place) (doc : Option Comment)
    (findings : List Finding) : Prop where
  broken : findings = ((row kind).filter (Broken name doc)).map (finding kind name place)
  once : findings.Nodup
  place : ∀ finding ∈ findings, finding.place = place.file ++ ":" ++ Numeral.ofInt place.startLine
  name : ∀ finding ∈ findings, ("'" ++ name ++ "'" : Text) <:+: finding.message
  kind : ∀ finding ∈ findings,
    kind.name <:+: finding.message ∨ capitalise kind.name <:+: finding.message
  must : (Tally.of findings).must ≤ 1
  may : (Tally.of findings).may = 0
  bounded : findings.length ≤ 7

/-- **THE VALIDATOR IS THE RULE TABLE**, for every comment or none, kind, name and place. -/
theorem check_readOff (kind : Kind) (name : Text) (place : Place) (doc : Option Comment) :
    ReadOff kind name place doc (Subject.check ⟨kind, name, place.address⟩ doc) := by
  have hbroken := check_eq kind name place doc
  have hmem : ∀ finding ∈ Subject.check ⟨kind, name, place.address⟩ doc,
      ∃ clause : Clause, clause.finding kind name place = finding := by
    intro finding hfinding
    obtain ⟨clause, -, -, hclause⟩ := (mem_check_iff kind name place).mp hfinding
    exact ⟨clause, hclause⟩
  refine ⟨hbroken, ?_, ?_, ?_, ?_, ?_, ?_, ?_⟩
  · rw [hbroken]
    exact List.Nodup.map (finding_injective kind name place) ((nodup_row kind).filter _)
  · intro finding hfinding
    obtain ⟨clause, rfl⟩ := hmem finding hfinding
    rfl
  · intro finding hfinding
    obtain ⟨clause, rfl⟩ := hmem finding hfinding
    exact quotedName_infix_message kind name clause
  · intro finding hfinding
    obtain ⟨clause, rfl⟩ := hmem finding hfinding
    exact kind_infix_message kind name clause
  · rw [Tally.of_eq]
    show musts _ ≤ 1
    rw [Subject.musts_check]
    split <;> omega
  · rw [Tally.of_eq]
    refine List.countP_eq_zero.mpr ?_
    intro finding hfinding
    obtain ⟨clause, rfl⟩ := hmem finding hfinding
    exact fun hmay => severity_ne_may clause (of_decide_eq_true hmay)
  · rw [hbroken, List.length_map]
    exact length_filter_row_le kind name doc

end Clause

end DocAudit
