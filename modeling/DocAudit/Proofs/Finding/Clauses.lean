import DocAudit.Finding.Check
import DocAudit.Proofs.Text.OneLine

/-! # Clauses — what the findings about an element can be

    The clauses of the standard are many, and what findings under them can be is said once
    (`made_of_mem_check`).  All of them have in common that they name the place of their subject
    and one of five clauses, and that the message puts the element's own name between words
    that spill over no line (`exists_frame`).

    Only TWO clauses are requirements: that there is a readable comment, and that a class, an
    interface, a trait, a method or a function has a summary.  The second is looked at only if
    the first holds, so an element breaks at most one of them. -/

namespace DocAudit

open Text

/-- The clauses that findings are made under. -/
def clauseNumbers : List Text := ["1.1", "1.3", "2.3", "3.1", "4.2"]

/-- The finding is one about the subject. -/
structure Finding.About (subject : Subject) (finding : Finding) : Prop where
  place : finding.place = subject.address
  rule : finding.rule ∈ clauseNumbers
  message : OneLine subject.name → OneLine finding.message

namespace Subject

variable {subject : Subject} {finding : Finding}

theorem mem_report {broken : Bool} {severity : Severity} {rule message : Text} :
    finding ∈ subject.report broken severity rule message ↔
      broken = true ∧ finding = ⟨severity, rule, subject.address, message⟩ := by
  rw [report]
  cases broken with
  | false => simp
  | true => simp

theorem oneLine_display (kind : Kind) : OneLine kind.display := by
  cases kind <;> decide

theorem oneLine_quotedName (h : OneLine subject.name) : OneLine subject.quotedName :=
  oneLine_append.mpr ⟨oneLine_append.mpr ⟨by decide, h⟩, by decide⟩

/-- How findings go on after the kind and the name of the element. -/
def labelledEndings : List Text :=
  ["lacks short description", "missing @package tag", "missing @since tag",
    "should have @api or @internal marker", "missing @return tag", "missing @var tag"]

/-- How findings about the form of a summary end. -/
def summaryEndings : List Text :=
  ["exceeds 80 characters", "should end with period", "should not restate element name"]

/-- What a finding about a comment that was read can be. -/
inductive Made (subject : Subject) : Finding → Prop
  | labelled (severity : Severity) {rule complaint : Text} (hrule : rule ∈ clauseNumbers)
      (hcomplaint : complaint ∈ labelledEndings) :
      Made subject ⟨severity, rule, subject.address,
        subject.kind.display ++ " " ++ subject.quotedName ++ " " ++ complaint⟩
  | summary {complaint : Text} (hcomplaint : complaint ∈ summaryEndings) :
      Made subject ⟨.should, "1.3", subject.address,
        "Summary for " ++ subject.kind.name ++ " " ++ subject.quotedName ++ " " ++ complaint⟩
  | deprecated :
      Made subject ⟨.should, "4.2", subject.address,
        "Deprecated " ++ subject.kind.name ++ " " ++ subject.quotedName
          ++ " should reference replacement"⟩

theorem made_of_mem_reportLabelled {broken : Bool} {severity : Severity} {rule complaint : Text}
    (hrule : rule ∈ clauseNumbers) (hcomplaint : complaint ∈ labelledEndings)
    (h : finding ∈ subject.reportLabelled broken severity rule complaint) :
    Made subject finding := by
  obtain ⟨-, rfl⟩ := mem_report.mp h
  exact .labelled severity hrule hcomplaint

theorem made_of_mem_reportSummary {broken : Bool} {complaint : Text}
    (hcomplaint : complaint ∈ summaryEndings)
    (h : finding ∈ subject.reportSummary broken complaint) : Made subject finding := by
  obtain ⟨-, rfl⟩ := mem_report.mp h
  exact .summary hcomplaint

theorem made_of_mem_typeClauses {doc : Comment} (h : finding ∈ subject.typeClauses doc) :
    Made subject finding := by
  simp only [typeClauses, List.mem_append] at h
  rcases h with ((hsummary | hpackage) | hsince) | hmarker
  · split at hsummary
    · exact made_of_mem_reportLabelled (by decide) (by decide) hsummary
    · simp only [summaryClauses, List.mem_append] at hsummary
      rcases hsummary with (hlong | hstop) | hrestates
      · exact made_of_mem_reportSummary (by decide) hlong
      · exact made_of_mem_reportSummary (by decide) hstop
      · exact made_of_mem_reportSummary (by decide) hrestates
  · exact made_of_mem_reportLabelled (by decide) (by decide) hpackage
  · exact made_of_mem_reportLabelled (by decide) (by decide) hsince
  · exact made_of_mem_reportLabelled (by decide) (by decide) hmarker

theorem made_of_mem_kindClauses {doc : Comment} (h : finding ∈ subject.kindClauses doc) :
    Made subject finding := by
  rw [kindClauses] at h
  cases hkind : subject.kind with
  | file =>
      rw [hkind] at h
      exact nomatch h
  | cls | interface | trait =>
      rw [hkind] at h
      exact made_of_mem_typeClauses h
  | method | function =>
      rw [hkind] at h
      rcases List.mem_append.mp h with hpresence | hreturn
      · exact made_of_mem_reportLabelled (by decide) (by decide) hpresence
      · exact made_of_mem_reportLabelled (by decide) (by decide) hreturn
  | property =>
      rw [hkind] at h
      exact made_of_mem_reportLabelled (by decide) (by decide) h

/-- Every finding about a comment that was read is one of three. -/
theorem made_of_mem_check {doc : Comment} (h : finding ∈ subject.check (some doc)) :
    Made subject finding := by
  rcases List.mem_append.mp h with hkind | hdeprecation
  · exact made_of_mem_kindClauses hkind
  · rw [deprecationClause] at hdeprecation
    split at hdeprecation
    · exact nomatch hdeprecation
    · obtain ⟨-, rfl⟩ := mem_report.mp hdeprecation
      exact .deprecated

/-- Words to stand before and behind a name: all on one line, and none of them a blank at the
    outer end. -/
def Frame (front back : Text) : Prop :=
  OneLine front ∧ OneLine back ∧ front.head?.any (· != ' ') ∧ back.getLast?.any (· != ' ')

instance (front back : Text) : Decidable (Frame front back) :=
  inferInstanceAs (Decidable (OneLine front ∧ OneLine back ∧ front.head?.any (· != ' ') ∧
    back.getLast?.any (· != ' ')))

/-- **EVERY MESSAGE NAMES ITS SUBJECT** in quotes, between words that do not depend on it. -/
theorem exists_frame {doc : Option Comment} (h : finding ∈ subject.check doc) :
    ∃ front back, Frame front back ∧ finding.message = front ++ subject.quotedName ++ back := by
  cases doc with
  | none =>
      obtain ⟨-, rfl⟩ := mem_report.mp h
      refine ⟨"Element ", " (" ++ subject.kind.name ++ ") lacks documentation", ?_, by simp⟩
      cases subject.kind <;> decide
  | some doc =>
      cases made_of_mem_check h with
      | labelled severity hrule hcomplaint =>
          have hframe : ∀ complaint ∈ labelledEndings,
              Frame (subject.kind.display ++ " ") (" " ++ complaint) := by
            cases subject.kind <;> decide
          exact ⟨_, _, hframe _ hcomplaint, by simp⟩
      | summary hcomplaint =>
          have hframe : ∀ complaint ∈ summaryEndings,
              Frame ("Summary for " ++ subject.kind.name ++ " ") (" " ++ complaint) := by
            cases subject.kind <;> decide
          exact ⟨_, _, hframe _ hcomplaint, by simp⟩
      | deprecated =>
          refine ⟨"Deprecated " ++ subject.kind.name ++ " ", " should reference replacement", ?_,
            rfl⟩
          cases subject.kind <;> decide

/-- **EVERY FINDING IS ABOUT ITS SUBJECT**, whatever the comment says. -/
theorem about_of_mem_check {doc : Option Comment} (h : finding ∈ subject.check doc) :
    finding.About subject := by
  have hmessage : OneLine subject.name → OneLine finding.message := by
    intro hname
    obtain ⟨front, back, ⟨hfront, hback, -⟩, hmessage⟩ := exists_frame h
    rw [hmessage]
    exact oneLine_append.mpr ⟨oneLine_append.mpr ⟨hfront, oneLine_quotedName hname⟩, hback⟩
  have hrules : ∀ rule ∈ ["1.1", "1.3", "4.2"], String.toList rule ∈ clauseNumbers := by decide
  cases doc with
  | none =>
      obtain ⟨-, rfl⟩ := mem_report.mp h
      exact ⟨rfl, hrules "1.1" (by decide), hmessage⟩
  | some doc =>
      cases made_of_mem_check h with
      | labelled severity hrule hcomplaint => exact ⟨rfl, hrule, hmessage⟩
      | summary hcomplaint => exact ⟨rfl, hrules "1.3" (by decide), hmessage⟩
      | deprecated => exact ⟨rfl, hrules "4.2" (by decide), hmessage⟩

end Subject

/-- Every finding about the elements of some files is about one of them. -/
theorem SourceFile.about_of_mem_findings {files : List SourceFile} {finding : Finding}
    (h : finding ∈ files.flatMap SourceFile.findings) :
    ∃ file ∈ files, ∃ element ∈ file.elements, finding.About element.subject := by
  obtain ⟨file, hfile, hfinding⟩ := List.mem_flatMap.mp h
  obtain ⟨element, helement, hfinding⟩ := List.mem_flatMap.mp hfinding
  exact ⟨file, hfile, element, helement, Subject.about_of_mem_check hfinding⟩

/-! ## Requirements -/

/-- Kinds that need a summary. -/
def Kind.NeedsSummary (kind : Kind) : Prop :=
  kind ∈ [Kind.cls, .interface, .trait, .method, .function]

instance (kind : Kind) : Decidable kind.NeedsSummary :=
  inferInstanceAs (Decidable (kind ∈ [Kind.cls, .interface, .trait, .method, .function]))

/-- The number of findings that a requirement is broken. -/
def musts (findings : List Finding) : Nat := findings.countP (·.severity = .must)

@[simp] theorem musts_append (xs ys : List Finding) : musts (xs ++ ys) = musts xs + musts ys :=
  List.countP_append

theorem Tally.foldl_add_eq (findings : List Finding) (tally : Tally) :
    findings.foldl Tally.add tally
      = ⟨tally.must + findings.countP (·.severity = .must),
        tally.should + findings.countP (·.severity = .should),
        tally.may + findings.countP (·.severity = .may)⟩ := by
  induction findings generalizing tally with
  | nil => rfl
  | cons finding rest ih =>
      rw [List.foldl_cons, ih]
      cases h : finding.severity <;> simp [Tally.add, h] <;> omega

/-- The tally counts each severity as it is. -/
theorem Tally.of_eq (findings : List Finding) :
    Tally.of findings = ⟨findings.countP (·.severity = .must),
      findings.countP (·.severity = .should), findings.countP (·.severity = .may)⟩ := by
  rw [Tally.of, Tally.foldl_add_eq]
  simp

namespace Subject

variable {subject : Subject}

@[simp] theorem musts_report (broken : Bool) (severity : Severity) (rule message : Text) :
    musts (subject.report broken severity rule message)
      = if broken = true ∧ severity = .must then 1 else 0 := by
  rw [report, musts]
  cases broken with
  | false => rfl
  | true => cases severity <;> rfl

@[simp] theorem musts_reportLabelled (broken : Bool) (severity : Severity) (rule complaint : Text) :
    musts (subject.reportLabelled broken severity rule complaint)
      = if broken = true ∧ severity = .must then 1 else 0 :=
  musts_report _ _ _ _

@[simp] theorem musts_reportSummary (broken : Bool) (complaint : Text) :
    musts (subject.reportSummary broken complaint) = 0 := by
  rw [reportSummary, musts_report]
  simp

/-- The clauses of a kind hold one requirement: the summary, for the kinds that need one. -/
theorem musts_kindClauses (doc : Comment) :
    musts (subject.kindClauses doc)
      = if subject.kind.NeedsSummary ∧ lacksSummary doc = true then 1 else 0 := by
  rw [kindClauses]
  cases hkind : subject.kind with
  | file => rfl
  | property => simp [propertyClauses, Kind.NeedsSummary]
  | method | function =>
      simp [routineClauses, presenceClause, Kind.NeedsSummary]
  | cls | interface | trait =>
      cases hlacks : lacksSummary doc with
      | true => simp [typeClauses, presenceClause, markerClause, Kind.NeedsSummary, hlacks]
      | false => simp [typeClauses, summaryClauses, markerClause, Kind.NeedsSummary, hlacks]

theorem musts_deprecationClause (doc : Comment) : musts (subject.deprecationClause doc) = 0 := by
  rw [deprecationClause]
  split
  · rfl
  · simp

/-- **AT MOST ONE REQUIREMENT** is broken by an element, and it is said which. -/
theorem musts_check (doc : Option Comment) :
    musts (subject.check doc)
      = if doc = none ∨ subject.kind.NeedsSummary ∧ doc.any lacksSummary = true then 1 else 0 := by
  cases doc with
  | none => simp [check]
  | some doc =>
      rw [check, musts_append, musts_kindClauses, musts_deprecationClause]
      simp

end Subject

end DocAudit
