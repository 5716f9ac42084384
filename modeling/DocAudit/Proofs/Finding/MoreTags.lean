import DocAudit.Proofs.Finding.Standard

/-! # More tags — and no more findings

    The table asks two things of tags: that there IS one with a given beginning, which no further
    tag can spoil, and something of the FIRST deprecation tag, which further tags leave alone as
    long as none of them comes before it and is one itself.  Apart from the summary nothing else
    matters, neither the order of the tags nor the description.

    So a comment that is at least as rich as another breaks no clause that the other keeps
    (`Broken.of_richer`), and its findings are among the other's, in the same order. -/

namespace DocAudit

open Text

/-- The list `after` is `before` with further tags of a class put in, anywhere. -/
inductive Inserted (new : Tag → Prop) : List Tag → List Tag → Prop
  | nil : Inserted new [] []
  | keep (tag : Tag) {before after : List Tag} :
      Inserted new before after → Inserted new (tag :: before) (tag :: after)
  | insert {tag : Tag} {before after : List Tag} (h : new tag) :
      Inserted new before after → Inserted new before (tag :: after)

namespace Inserted

variable {new : Tag → Prop} {before after : List Tag}

theorem sublist (h : Inserted new before after) : before.Sublist after := by
  induction h with
  | nil => exact .slnil
  | keep tag _ ih => exact ih.cons_cons tag
  | insert _ _ ih => exact ih.cons _

/-- A search that passes over the new tags finds what it found before. -/
theorem find?_eq (h : Inserted new before after) {p : Tag → Bool}
    (hp : ∀ tag, new tag → p tag = false) : after.find? p = before.find? p := by
  induction h with
  | nil => rfl
  | keep tag _ ih => rw [List.find?_cons, List.find?_cons, ih]
  | insert htag _ ih => rw [List.find?_cons, hp _ htag, ih]

end Inserted

/-- The comment `doc'` is at least as rich as `doc`: same summary, tags with all beginnings, and no
    other deprecation tag first. -/
structure Richer (doc doc' : Comment) : Prop where
  summary : doc'.summary = doc.summary
  tagged : ∀ start, doc.Tagged start → doc'.Tagged start
  notice : ∀ tag, doc'.FirstTag "@deprecated" tag → doc.FirstTag "@deprecated" tag

namespace Comment

variable {doc doc' : Comment}

/-- Tags that stay keep their beginnings. -/
theorem Tagged.mono {start : Text} (h : doc.tags ⊆ doc'.tags) (htagged : doc.Tagged start) :
    doc'.Tagged start := by
  obtain ⟨tag, htag, hname⟩ := htagged
  exact ⟨tag, h htag, hname⟩

theorem answers_eq_false_iff {start : Text} {tag : Tag} :
    tag.answers start = false ↔ ¬ start <+: tag.name := by
  rw [Tag.answers, ← Bool.not_eq_true, List.isPrefixOf_iff_prefix]

/-- Tags that are no deprecation tags may be put in anywhere. -/
theorem richer_of_inserted (hsummary : doc'.summary = doc.summary)
    (h : Inserted (fun tag => ¬ ("@deprecated" : Text) <+: tag.name) doc.tags doc'.tags) :
    Richer doc doc' := by
  refine ⟨hsummary, fun start => Tagged.mono h.sublist.subset, ?_⟩
  intro tag
  rw [firstTag_iff, firstTag_iff, firstUnder?, firstUnder?,
    h.find?_eq fun _ hnew => answers_eq_false_iff.mpr hnew]
  exact id

/-- Any tags may be put in behind a deprecation tag. -/
theorem richer_of_inserted_after (hsummary : doc'.summary = doc.summary)
    {before after after' : List Tag} {notice : Tag} (hnotice : "@deprecated" <+: notice.name)
    (htags : doc.tags = before ++ notice :: after) (h : Inserted (fun _ => True) after after')
    (htags' : doc'.tags = before ++ notice :: after') : Richer doc doc' := by
  have hsubset : doc.tags ⊆ doc'.tags := by
    rw [htags, htags']
    exact (h.sublist.cons_cons notice).append_left before |>.subset
  have hfound : notice.answers "@deprecated" = true := List.isPrefixOf_iff_prefix.mpr hnotice
  refine ⟨hsummary, fun start => Tagged.mono hsubset, ?_⟩
  intro tag
  -- the search ends at the notice at the latest
  rw [firstTag_iff, firstTag_iff, firstUnder?, firstUnder?, htags, htags', List.find?_append,
    List.find?_append, List.find?_cons_of_pos hfound, List.find?_cons_of_pos hfound]
  exact id

/-- The order of the tags does not matter, the first deprecation tag apart. -/
theorem richer_of_perm (hsummary : doc'.summary = doc.summary) (h : doc'.tags.Perm doc.tags)
    (hfirst : ∀ tag, doc'.FirstTag "@deprecated" tag ↔ doc.FirstTag "@deprecated" tag) :
    Richer doc doc' :=
  ⟨hsummary, fun _ => Tagged.mono h.symm.subset, fun tag => (hfirst tag).mp⟩

end Comment

namespace Clause

variable {doc doc' : Comment} {name : Text}

/-- **A RICHER COMMENT BREAKS NO OTHER CLAUSE**. -/
theorem Broken.of_richer {clause : Clause} (hrich : Richer doc doc')
    (h : Broken name (some doc') clause) : Broken name (some doc) clause := by
  have hshows : ∀ s, doc'.Shows s ↔ doc.Shows s := by
    intro s
    rw [Comment.Shows, Comment.Shows, hrich.summary]
  have huntagged : ∀ start, ¬ doc'.Tagged start → ¬ doc.Tagged start :=
    fun start => mt (hrich.tagged start)
  cases clause with
  | documented => exact h
  | summarised | brief | stopped | original => simpa only [Broken, hshows] using h
  | packaged | dated | typed | returning => exact huntagged _ h
  | marked => exact ⟨huntagged _ h.1, huntagged _ h.2⟩
  | replaced =>
      obtain ⟨tag, hfirst, hvalue⟩ := h
      exact ⟨tag, hrich.notice tag hfirst, hvalue⟩

/-- The findings about a richer comment are among those about the poorer one. -/
theorem check_sublist_of_richer (kind : Kind) (name : Text) (place : Place)
    (hrich : Richer doc doc') :
    (Subject.check ⟨kind, name, place.address⟩ (some doc')).Sublist
      (Subject.check ⟨kind, name, place.address⟩ (some doc)) := by
  rw [check_eq, check_eq]
  refine (List.monotone_filter_right _ ?_).map _
  intro clause hbroken
  exact decide_eq_true (Broken.of_richer hrich (of_decide_eq_true hbroken))

/-- **MORE DOCUMENTATION, NO MORE FINDINGS**: tags that are no deprecation tags may be put in
    anywhere, and any tags behind a deprecation tag, and what is found is a part of what was found;
    reordering the tags with the same deprecation tag first changes nothing.  The description may
    be any. -/
theorem check_more_tags (kind : Kind) (name : Text) (place : Place) (doc doc' : Comment)
    (hsummary : doc'.summary = doc.summary) :
    let findings := Subject.check ⟨kind, name, place.address⟩ (some doc)
    let findings' := Subject.check ⟨kind, name, place.address⟩ (some doc')
    (Inserted (fun tag => ¬ ("@deprecated" : Text) <+: tag.name) doc.tags doc'.tags →
      findings'.Sublist findings) ∧
    (∀ before notice after after', ("@deprecated" : Text) <+: notice.name →
      doc.tags = before ++ notice :: after → Inserted (fun _ => True) after after' →
      doc'.tags = before ++ notice :: after' → findings'.Sublist findings) ∧
    (doc'.tags.Perm doc.tags →
      (∀ tag, doc'.FirstTag "@deprecated" tag ↔ doc.FirstTag "@deprecated" tag) →
      findings' = findings) := by
  intro findings findings'
  refine ⟨?_, ?_, ?_⟩
  · intro h
    exact check_sublist_of_richer kind name place (Comment.richer_of_inserted hsummary h)
  · intro before notice after after' hnotice htags h htags'
    exact check_sublist_of_richer kind name place
      (Comment.richer_of_inserted_after hsummary hnotice htags h htags')
  · intro hperm hfirst
    have hrich := Comment.richer_of_perm hsummary hperm hfirst
    have hrich' := Comment.richer_of_perm hsummary.symm hperm.symm fun tag => (hfirst tag).symm
    exact (check_sublist_of_richer kind name place hrich).antisymm
      (check_sublist_of_richer kind name place hrich')

/-- A method that is said to be deprecated: a return tag in front takes one finding away, so does
    one that comes with a second notice, and the order of the two tags does not matter. -/
theorem check_more_tags_deprecated :
    let param : Tag := ⟨"@param", "int $a"⟩
    let result : Tag := ⟨"@return", "int"⟩
    let notice : Tag := ⟨"@deprecated", "Gone."⟩
    let second : Tag := ⟨"@deprecated", "Use g()."⟩
    let findings := fun description tags =>
      Subject.check ⟨.method, "f", (⟨"a.php", 3, 5⟩ : Place).address⟩
        (some ⟨some "Sum.", description, tags⟩)
    (findings [] [result, param, notice]).Sublist (findings [] [param, notice]) ∧
    (findings [] [param, notice, second, result]).Sublist (findings [] [param, notice]) ∧
    findings "More." [notice, param] = findings [] [param, notice] ∧
    (findings [] [param, notice]).map (·.rule) = ["3.1".toList, "4.2".toList] ∧
    (findings [] [result, param, notice]).map (·.rule) = ["4.2".toList] := by
  intro param result notice second findings
  have hmore := fun description tags =>
    check_more_tags .method "f" ⟨"a.php", 3, 5⟩ ⟨some "Sum.", [], [param, notice]⟩
      ⟨some "Sum.", description, tags⟩ rfl
  refine ⟨?_, ?_, ?_, by decide, by decide⟩
  · exact (hmore [] [result, param, notice]).1
      (.insert (by decide) (.keep param (.keep notice .nil)))
  · exact (hmore [] [param, notice, second, result]).2.1 [param] notice [] [second, result]
      (by decide) rfl (.insert trivial (.insert trivial .nil)) rfl
  · refine (hmore "More." [notice, param]).2.2 (List.Perm.swap param notice []) ?_
    intro tag
    rw [Comment.firstTag_iff, Comment.firstTag_iff]
    exact Iff.rfl

end Clause

end DocAudit
