import DocAudit.Proofs.Finding.Standard
import DocAudit.Proofs.Report.Outline
import Mathlib.Data.Multiset.Bind

/-! # The breakdown — every tag in its section

    The breakdown of a comment consists of SECTIONS, each with a title and an entry for every tag
    whose name begins in a given way.  The five beginnings exclude each other, so no tag is in two
    sections, and the sections together list each of these tags once (`listed_perm`).

    Entries stay on their lines, so the sections can be read back from the text of the breakdown,
    whatever the tags hold. -/

namespace DocAudit.Report

open Text

/-- A section of the breakdown: its title and the entries below. -/
structure Section where
  title : Text
  entries : List Text
  deriving Repr, DecidableEq

/-- The line of an entry. -/
def entryLine (entry : Text) : Text := "- " ++ entry

/-- The lines of a section. -/
def Section.lines (s : Section) : List Text :=
  ("**" ++ s.title ++ ":**") :: s.entries.map entryLine ++ [[]]

/-- The entries of a section, each with the title that it stands under. -/
def Section.listed (s : Section) : List (Text × Text) := s.entries.map fun entry => (s.title, entry)

/-! ## Reading sections -/

/-- The title on a line that opens a section. -/
def title? (line : Text) : Option Text :=
  (after? "**" line).bind fun rest =>
    if endsWith ":**" rest then some (rest.take (rest.length - 3)) else none

/-- The sections of a breakdown: a title opens a section, which goes on to the next empty line. -/
def sections : List Text → List Section
  | [] => []
  | line :: rest =>
      match title? line with
      | some title => ⟨title, (rest.takeWhile (· ≠ [])).filterMap (after? "- ")⟩ :: sections rest
      | none => sections rest

theorem title?_heading (title : Text) : title? ("**" ++ title ++ ":**") = some title := by
  have hend : endsWith ":**" (title ++ ":**") = true :=
    List.isSuffixOf_iff_suffix.mpr (List.suffix_append _ _)
  rw [title?, List.append_assoc, after?_append, Option.bind_some, if_pos hend]
  simp

theorem title?_entryLine (entry : Text) : title? (entryLine entry) = none := by
  have hhead : (entryLine entry).head? ≠ some '*' := by
    rw [entryLine, List.head?_append_of_ne_nil _ (by decide)]
    decide
  rw [title?, after?_of_head rfl hhead]
  rfl

/-- Entries open no section. -/
theorem sections_entries_append (entries : List Text) (rest : List Text) :
    sections (entries.map entryLine ++ [] :: rest) = sections rest := by
  induction entries with
  | nil => rfl
  | cons entry more ih =>
      rw [List.map_cons, List.cons_append, sections, title?_entryLine]
      exact ih

/-- A section is read as far as it goes. -/
theorem sections_lines_append (s : Section) (rest : List Text) :
    sections (s.lines ++ rest) = s :: sections rest := by
  have htake : (s.entries.map entryLine ++ [] :: rest).takeWhile (· ≠ [])
      = s.entries.map entryLine := by
    rw [List.takeWhile_append_of_pos]
    · simp
    · intro line hline
      obtain ⟨entry, -, rfl⟩ := List.mem_map.mp hline
      simp [entryLine]
  have hread : (s.entries.map entryLine).filterMap (after? "- ") = s.entries := by
    rw [List.filterMap_map]
    have hentry : after? "- " ∘ entryLine = some := by
      funext entry
      exact after?_append _ _
    rw [hentry, List.filterMap_some]
  have hlines : s.lines ++ rest
      = ("**" ++ s.title ++ ":**") :: (s.entries.map entryLine ++ [] :: rest) := by
    simp [Section.lines]
  rw [hlines, sections, title?_heading, htake, hread, sections_entries_append]

/-- **SECTIONS CAN BE READ BACK** from their lines. -/
theorem sections_flatMap_lines (shown : List Section) :
    sections (shown.flatMap Section.lines) = shown := by
  induction shown with
  | nil => rfl
  | cons s rest ih => rw [List.flatMap_cons, sections_lines_append, ih]

/-! ## The sections of a breakdown -/

/-- The section of a group. -/
def sectionOf (doc : Comment) (group : TagGroup) : Section :=
  ⟨group.title, (doc.tagsUnder group.tag).map fun tag => group.entry tag.value⟩

/-- The sections that are shown: those of the groups that some tag belongs to. -/
def shownSections (doc : Comment) : List Section :=
  (tagGroups.filter fun group => doc.Tagged group.tag).map (sectionOf doc)

theorem tagsUnder_eq (doc : Comment) (start : Text) :
    doc.tagsUnder start = doc.tags.filter fun tag => start <+: tag.name := by
  refine List.filter_congr ?_
  intro tag _
  rw [Tag.answers, Bool.eq_iff_iff, decide_eq_true_iff, List.isPrefixOf_iff_prefix]

theorem tagsUnder_eq_nil_iff {doc : Comment} {start : Text} :
    doc.tagsUnder start = [] ↔ ¬ doc.Tagged start := by
  rw [tagsUnder_eq, List.filter_eq_nil_iff]
  simp [Comment.Tagged]

theorem tagsUnder_of_firstTag {doc : Comment} {start : Text} {tag : Tag}
    (h : doc.FirstTag start tag) : ∃ more, doc.tagsUnder start = tag :: more := by
  obtain ⟨before, after, htags, hstart, hbefore⟩ := h
  have hnone : before.filter (fun tag => start <+: tag.name) = [] := by
    simpa [List.filter_eq_nil_iff] using hbefore
  exact ⟨after.filter fun tag => start <+: tag.name, by simp [tagsUnder_eq, htags, hnone, hstart]⟩

/-- A group has the lines of its section, or none. -/
theorem groupLines_eq (doc : Comment) (group : TagGroup) :
    groupLines doc group = if doc.Tagged group.tag then (sectionOf doc group).lines else [] := by
  by_cases h : doc.Tagged group.tag
  · rw [if_pos h, groupLines]
    split
    · rename_i hnil
      exact absurd h (tagsUnder_eq_nil_iff.mp hnil)
    · rw [Section.lines, sectionOf, List.map_map]
      rfl
  · rw [if_neg h, groupLines, tagsUnder_eq_nil_iff.mpr h]

theorem breakdown_eq (doc : Comment) :
    breakdown doc = (shownSections doc).flatMap Section.lines := by
  rw [shownSections, List.flatMap_map, flatMap_filter, breakdown]
  exact congrArg tagGroups.flatMap (funext (groupLines_eq doc))

/-! ## Every tag once -/

/-- The beginnings of the groups exclude each other. -/
theorem pairwise_apart :
    tagGroups.Pairwise fun group other => ¬ group.tag <+: other.tag ∧ ¬ other.tag <+: group.tag := by
  decide

/-- No tag belongs to two groups. -/
theorem pairwise_not_both (tag : Tag) :
    tagGroups.Pairwise fun group other => ¬ (group.tag <+: tag.name ∧ other.tag <+: tag.name) := by
  refine pairwise_apart.imp ?_
  rintro group other ⟨hgroup, hother⟩ ⟨hfirst, hsecond⟩
  rcases List.prefix_or_prefix_of_prefix hfirst hsecond with h | h
  · exact hgroup h
  · exact hother h

/-- The section that a tag is listed in and its entry there. -/
def listing? (tag : Tag) : Option (Text × Text) :=
  (tagGroups.find? fun group => group.tag <+: tag.name).map fun group =>
    (group.title, group.entry tag.value)

/-- Where two items are never in a class together, at most one is, and a search finds it. -/
theorem filter_eq_find? {α : Type} {p : α → Prop} [DecidablePred p] {xs : List α}
    (h : xs.Pairwise fun a b => ¬ (p a ∧ p b)) :
    xs.filter (p ·) = (xs.find? (p ·)).toList := by
  induction xs with
  | nil => rfl
  | cons x rest ih =>
      obtain ⟨hx, hrest⟩ := List.pairwise_cons.mp h
      by_cases hp : p x
      · have hnil : rest.filter (p ·) = [] := by
          refine List.filter_eq_nil_iff.mpr ?_
          intro y hy hpy
          exact hx y hy ⟨hp, of_decide_eq_true hpy⟩
        simp [hp, hnil]
      · simp [hp, ih hrest]

/-- What a group shows of one tag. -/
def shownOf (group : TagGroup) (tag : Tag) : List (Text × Text) :=
  if group.tag <+: tag.name then [(group.title, group.entry tag.value)] else []

/-- A tag is shown by its own group and no other. -/
theorem flatMap_shownOf_groups (tag : Tag) :
    tagGroups.flatMap (shownOf · tag) = (listing? tag).toList := by
  have hown := filter_eq_find? (pairwise_not_both tag)
  rw [listing?, Option.toList_map, ← hown, List.map_eq_flatMap, flatMap_filter]
  rfl

/-- A group shows its section. -/
theorem flatMap_shownOf_tags (doc : Comment) (group : TagGroup) :
    doc.tags.flatMap (shownOf group) = (sectionOf doc group).listed := by
  rw [Section.listed, sectionOf, List.map_map, tagsUnder_eq, List.map_eq_flatMap, flatMap_filter]
  rfl

/-- **EACH TAG IS LISTED ONCE**, if it belongs to a group, and no other tag is. -/
theorem listed_perm (doc : Comment) :
    ((shownSections doc).flatMap Section.listed).Perm (doc.tags.filterMap listing?) := by
  have hshown : (shownSections doc).flatMap Section.listed
      = tagGroups.flatMap fun group => doc.tags.flatMap fun tag => shownOf group tag := by
    rw [shownSections, List.flatMap_map, flatMap_filter]
    refine congrArg tagGroups.flatMap (funext fun group => ?_)
    split
    · exact (flatMap_shownOf_tags doc group).symm
    · rename_i hnot
      rw [flatMap_shownOf_tags, Section.listed, sectionOf, tagsUnder_eq_nil_iff.mpr hnot]
      rfl
  have hentries : doc.tags.filterMap listing?
      = doc.tags.flatMap fun tag => tagGroups.flatMap fun group => shownOf group tag := by
    rw [List.filterMap_eq_flatMap_toList]
    exact congrArg doc.tags.flatMap (funext fun tag => (flatMap_shownOf_groups tag).symm)
  rw [hshown, hentries, ← Multiset.coe_eq_coe]
  simp only [← Multiset.coe_bind]
  exact Multiset.bind_bind _ _

/-! ## Titles -/

/-- The titles in their order, with the beginnings of the tags that are listed below them. -/
def headings : List (Text × Text) :=
  [("Parameters", "@param"), ("Returns", "@return"), ("Throws", "@throws"), ("See also", "@see"),
    ("Deprecated", "@deprecated")]

theorem map_title_shownSections (doc : Comment) :
    (shownSections doc).map (·.title)
      = (headings.filter fun heading => doc.Tagged heading.2).map (·.1) := by
  have hgroups : headings = tagGroups.map fun group => (group.title, group.tag) := rfl
  rw [hgroups, List.filter_map, List.map_map, shownSections, List.map_map]
  rfl

/-- A title is shown exactly if a tag belongs below it. -/
theorem mem_titles_iff {doc : Comment} {title start : Text} (h : (title, start) ∈ headings) :
    title ∈ (shownSections doc).map (·.title) ↔ doc.Tagged start := by
  have hdistinct : ∀ heading ∈ headings, ∀ other ∈ headings,
      heading.1 = other.1 → heading = other := by decide
  rw [map_title_shownSections, List.mem_map]
  constructor
  · rintro ⟨heading, hmem, htitle⟩
    obtain ⟨hheading, htagged⟩ := List.mem_filter.mp hmem
    obtain rfl := hdistinct heading hheading _ h htitle
    exact of_decide_eq_true htagged
  · intro htagged
    exact ⟨_, List.mem_filter.mpr ⟨h, decide_eq_true htagged⟩, rfl⟩

/-! ## The text of a breakdown -/

theorem oneLine_of_mem_breakdown {doc : Comment} {line : Text} (h : line ∈ breakdown doc) :
    OneLine line := by
  rcases mem_breakdown h with rfl | ⟨group, hgroup, rfl | ⟨value, rfl⟩⟩
  · exact oneLine_nil
  · exact (show ∀ g ∈ tagGroups, OneLine ("**" ++ g.title ++ ":**") by decide) group hgroup
  · exact oneLine_append.mpr ⟨by decide, oneLine_entry hgroup value⟩

/-- The sections can be read back from the text, since no entry leaves its line. -/
theorem sections_text (doc : Comment) :
    sections (splitOn '\n' (joinLines (breakdown doc))) = shownSections doc := by
  have hread : sections (breakdown doc) = shownSections doc := by
    rw [breakdown_eq, sections_flatMap_lines]
  by_cases hnil : breakdown doc = []
  · rw [← hread, hnil]
    rfl
  · have hlines : (breakdown doc).flatMap (splitOn '\n') = breakdown doc := by
      have hline : ∀ line ∈ breakdown doc, splitOn '\n' line = [line] :=
        fun line hmem => (oneLine_of_mem_breakdown hmem).splitOn
      rw [List.flatMap_congr hline, List.flatMap_singleton']
    rw [splitOn_join _ hnil, hlines, hread]

/-! ## The whole breakdown -/

/-- What the breakdown of a comment lists. -/
structure Lists (doc : Comment) (shown : List Section) : Prop where
  /-- It has the lines of the sections and no others. -/
  lines : breakdown doc = shown.flatMap Section.lines
  /-- The sections can be read back from its text. -/
  read : sections (splitOn '\n' (joinLines (breakdown doc))) = shown
  /-- There is a section for each heading that a tag belongs below, in the fixed order. -/
  titles : shown.map (·.title) = (headings.filter fun heading => doc.Tagged heading.2).map (·.1)
  /-- A section has an entry for each of its tags, in their order. -/
  entries : ∀ s ∈ shown, ∃ group ∈ tagGroups, s.title = group.title ∧
    s.entries = (doc.tags.filter fun tag => group.tag <+: tag.name).map fun tag =>
      group.entry tag.value
  /-- All sections together list each tag that belongs to a group once, and no other tag. -/
  once : (shown.flatMap Section.listed).Perm (doc.tags.filterMap listing?)
  /-- Every entry is one line that is not empty. -/
  oneLine : ∀ s ∈ shown, ∀ entry ∈ s.entries, entry ≠ [] ∧ ∀ c ∈ entry, isLineBreak c = false

theorem lists_shownSections (doc : Comment) : Lists doc (shownSections doc) := by
  refine ⟨breakdown_eq doc, sections_text doc, map_title_shownSections doc, ?_, listed_perm doc, ?_⟩
  · intro s hs
    obtain ⟨group, hgroup, rfl⟩ := List.mem_map.mp hs
    exact ⟨group, (List.mem_filter.mp hgroup).1, rfl, by rw [sectionOf, tagsUnder_eq]⟩
  · intro s hs entry hentry
    obtain ⟨group, hgroup, rfl⟩ := List.mem_map.mp hs
    have hmem : group ∈ tagGroups := (List.mem_filter.mp hgroup).1
    obtain ⟨tag, -, rfl⟩ := List.mem_map.mp hentry
    refine ⟨entry_ne_nil hmem tag.value, ?_⟩
    intro c hc
    by_contra hbreak
    have hbreak : isLineBreak c = true := by simpa using hbreak
    obtain rfl := eq_space_of_mem_entry hmem hc (isBlank_of_isLineBreak hbreak)
    exact absurd hbreak (by decide)

/-- **NO TAG LOST, NONE TWICE**: the breakdown lists each tag of the five groups once, below the
    title of its group.  So a method or function is reported not to say what it returns exactly if
    there is no such section, and only what has a section of notices is reported to name no
    replacement. -/
theorem breakdown_lists (doc : Comment) :
    ∃ shown, Lists doc shown ∧
      (∀ kind ∈ [Kind.method, .function], ∀ name (place : Place),
        (∃ found ∈ Subject.check ⟨kind, name, place.address⟩ (some doc),
          found.severity = .should ∧ found.rule = "3.1") ↔
        "Returns".toList ∉ shown.map (·.title)) ∧
      ∀ kind name (place : Place),
        (∃ found ∈ Subject.check ⟨kind, name, place.address⟩ (some doc),
          found.severity = .should ∧ found.rule = "4.2") →
        "Deprecated".toList ∈ shown.map (·.title) := by
  refine ⟨shownSections doc, lists_shownSections doc, ?_, ?_⟩
  · intro kind hkind name place
    have hclause : .returning ∈ Clause.row kind ∧
        ∀ other ∈ Clause.row kind, other.rule = Clause.returning.rule → other = .returning := by
      simp only [List.mem_cons, List.not_mem_nil, or_false] at hkind
      rcases hkind with rfl | rfl <;> decide
    have hreported := Clause.exists_rule_iff kind name place hclause.1 hclause.2 (some doc)
    have hsection : "Returns".toList ∈ (shownSections doc).map (·.title) ↔ doc.Tagged "@return" :=
      mem_titles_iff (by decide)
    rw [hsection]
    exact hreported
  · intro kind name place hfound
    obtain ⟨tag, hfirst, -⟩ := (Clause.exists_replaced_iff kind name place doc).mp hfound
    exact (mem_titles_iff (by decide)).mpr hfirst.tagged

end DocAudit.Report
