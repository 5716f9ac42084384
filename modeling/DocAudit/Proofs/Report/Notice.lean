import DocAudit.Proofs.Comment.Shape
import DocAudit.Proofs.Report.Breakdown
import DocAudit.Proofs.Text.Case

/-! # Notices — what the check finds and what the report shows

    A notice that an element is deprecated should point to a replacement.  The check looks for one
    in the first notice AS IT WAS READ, where line feeds stand between the lines; the report shows
    the same notice on ONE LINE, and its reader takes any blank after the word "use" for a space.

    The two disagree in one case only, when something other than a space stands after that word,
    as where a line ends there.  Such a notice is BROKEN OFF: it is reported to lack what the
    report shows.  A notice that is not can be wrapped in any other way that does not break it off
    and is judged the same (`parse_notice`). -/

namespace DocAudit.Report

open Text

/-- The element is reported to be deprecated without a replacement. -/
def Unreplaced (kind : Kind) (name : Text) (place : Place) (doc : Comment) : Prop :=
  ∃ found ∈ Subject.check ⟨kind, name, place.address⟩ (some doc),
    found.severity = .should ∧ found.rule = "4.2"

instance (kind : Kind) (name : Text) (place : Place) (doc : Comment) :
    Decidable (Unreplaced kind name place doc) :=
  inferInstanceAs (Decidable (∃ found ∈ Subject.check ⟨kind, name, place.address⟩ (some doc),
    found.severity = .should ∧ found.rule = "4.2"))

/-- The text points to something else to use, if its blanks are all the same to the reader. -/
def Points (t : Text) : Prop := "@see" <:+: t ∨ UpToBlank "use" (lower t)

/-- The text points to something else to use, but each time a blank other than the space stands
    after the word. -/
def BrokenOff (t : Text) : Prop := ¬ Replaces t ∧ UpToBlank "use" (lower t)

variable {t u value : Text}

/-! ## Blanks -/

theorem points_of_replaces (h : Replaces t) : Points t :=
  h.imp_right fun huse => ⟨' ', by decide, huse⟩

/-- A text that points to something is found to do so, or it is broken off. -/
theorem points_iff : Points t ↔ Replaces t ∨ BrokenOff t := by
  constructor
  · rintro (hsee | huse)
    · exact Or.inl (Or.inl hsee)
    · by_cases h : Replaces t
      · exact Or.inl h
      · exact Or.inr ⟨h, huse⟩
  · rintro (h | h)
    · exact points_of_replaces h
    · exact Or.inr h.2

/-- Where the space is the only blank, nothing is broken off. -/
theorem points_iff_of_spaces (h : ∀ c ∈ t, isBlank c = true → c = ' ') : Points t ↔ Replaces t := by
  have hlower : ∀ c ∈ lower t, isBlank c = true → c = ' ' :=
    fun c hc hblank => h c (mem_of_mem_lower hblank hc) hblank
  rw [Points, upToBlank_iff_space hlower]
  exact Iff.rfl

/-- **ONLY THE WORDS MATTER** to what a text points to. -/
theorem points_congr (hwords : words t = words u) (ht : trimRight t = t) (hu : trimRight u = u) :
    Points t ↔ Points u := by
  have hsee : ∀ v : Text, "@see" <:+: v ↔ ∃ word ∈ words v, "@see" <:+: word :=
    fun v => infix_iff_words (show Solid "@see".toList by decide) (by decide)
  have huse : ∀ {v : Text}, trimRight v = v →
      (UpToBlank "use" (lower v) ↔ ∃ word ∈ ((words v).map lower).dropLast, "use" <:+ word) := by
    intro v hv
    rw [← words_lower]
    exact upToBlank_iff_words (by decide) (by decide) (trimRight_lower hv)
  rw [Points, Points, hsee, hsee, huse ht, huse hu, hwords]

/-! ## Entries -/

/-- The entry of a notice points to a replacement exactly if the value does. -/
theorem replaces_plainEntry_iff (h : trimRight value = value) :
    Replaces (plainEntry value) ↔ Points value := by
  have hline : Replaces (singleSpaced value) ↔ Points value := by
    rw [← points_iff_of_spaces fun c hc hblank => eq_space_of_mem_singleSpaced hc hblank]
    exact points_congr (words_singleSpaced value) (trimRight_singleSpaced value) h
  rw [plainEntry]
  split
  · rename_i hnil
    rw [← hline, hnil]
    exact iff_of_false (by decide) (by decide)
  · exact hline

/-- Values with the same words have the same entry. -/
theorem plainEntry_congr (h : words t = words u) : plainEntry t = plainEntry u := by
  rw [plainEntry, plainEntry, singleSpaced, singleSpaced, h]

/-! ## The section of notices -/

section FirstNotice

variable {doc : Comment} {tag : Tag}

/-- There is one section of notices, and its first entry is that of the first notice. -/
theorem mem_notices_iff (h : doc.FirstTag "@deprecated" tag) :
    ∃ more, ∀ s, s ∈ shownSections doc ∧ s.title = "Deprecated" ↔
      s = ⟨"Deprecated", plainEntry tag.value :: more⟩ := by
  obtain ⟨later, htags⟩ := tagsUnder_of_firstTag h
  have hsection : sectionOf doc ⟨"Deprecated", "@deprecated", plainEntry⟩
      = ⟨"Deprecated", plainEntry tag.value :: later.map fun tag => plainEntry tag.value⟩ := by
    rw [sectionOf, htags, List.map_cons]
  refine ⟨later.map fun tag => plainEntry tag.value, ?_⟩
  intro s
  constructor
  · rintro ⟨hs, htitle⟩
    obtain ⟨group, hgroup, rfl⟩ := List.mem_map.mp hs
    replace hgroup : group ∈ tagGroups := (List.mem_filter.mp hgroup).1
    replace htitle : group.title = "Deprecated" := htitle
    simp only [tagGroups, List.mem_cons, List.not_mem_nil, or_false] at hgroup
    rcases hgroup with rfl | rfl | rfl | rfl | rfl
    · exact absurd htitle (by decide)
    · exact absurd htitle (by decide)
    · exact absurd htitle (by decide)
    · exact absurd htitle (by decide)
    · exact hsection
  · rintro rfl
    refine ⟨List.mem_map.mpr ⟨_, List.mem_filter.mpr ⟨?_, decide_eq_true h.tagged⟩, hsection⟩, rfl⟩
    simp [tagGroups]

theorem unreplaced_iff (h : doc.FirstTag "@deprecated" tag) (kind : Kind) (name : Text)
    (place : Place) : Unreplaced kind name place doc ↔ ¬ Replaces tag.value := by
  rw [Unreplaced, Clause.exists_replaced_iff]
  constructor
  · rintro ⟨other, hother, hnot⟩
    have hsame := (Comment.firstTag_iff.mp hother).symm.trans (Comment.firstTag_iff.mp h)
    exact Option.some.inj hsame ▸ hnot
  · intro hnot
    exact ⟨tag, h, hnot⟩

/-- The value of a notice that was read ends visibly. -/
theorem trimRight_of_firstTag {raw : Text} (hparse : Comment.parse raw = .ok doc) {start : Text}
    (h : doc.FirstTag start tag) : trimRight tag.value = tag.value := by
  obtain ⟨before, after, htags, -, -⟩ := h
  have hmem : tag ∈ doc.tags := by simp [htags]
  have htrim : trim tag.value = tag.value := ((Comment.parse_shape hparse).tags tag hmem).1.trimmed
  exact trimRight_eq_self_iff.mpr (trimBy_eq_self_iff.mp htrim).2

/-- **WHAT IS REPORTED**: an entry that points to nothing, or a notice that is broken off, whose
    entry does. -/
theorem unreplaced_iff_entry {raw : Text} (hparse : Comment.parse raw = .ok doc)
    (h : doc.FirstTag "@deprecated" tag) (kind : Kind) (name : Text) (place : Place) :
    (Unreplaced kind name place doc ↔ ¬ Replaces (plainEntry tag.value) ∨ BrokenOff tag.value) ∧
      (BrokenOff tag.value → Replaces (plainEntry tag.value)) := by
  rw [unreplaced_iff h, replaces_plainEntry_iff (trimRight_of_firstTag hparse h), points_iff]
  refine ⟨⟨?_, ?_⟩, Or.inr⟩
  · intro hnot
    by_cases hbroken : BrokenOff tag.value
    · exact Or.inr hbroken
    · exact Or.inl fun hpoints => hpoints.elim hnot hbroken
  · rintro (hnot | hbroken)
    · exact fun hreplaces => hnot (Or.inl hreplaces)
    · exact hbroken.1

end FirstNotice

/-! ## Check and report -/

/-- **CHECK AND REPORT AGREE UNLESS A NOTICE IS BROKEN OFF**: the first entry of the section of
    notices points to no replacement exactly if the element is reported to have none, apart from
    notices that are broken off, which are reported all the same.  So wrapping a notice in another
    way changes what is reported exactly if it breaks the notice off, or mends it. -/
theorem parse_notice {raw : Text} {doc : Comment} (h : Comment.parse raw = .ok doc)
    (hdeprecated : doc.Tagged "@deprecated") :
    ∃ tag more, doc.FirstTag "@deprecated" tag ∧
      (∀ s, s ∈ sections (splitOn '\n' (joinLines (breakdown doc))) ∧ s.title = "Deprecated" ↔
        s = ⟨"Deprecated", plainEntry tag.value :: more⟩) ∧
      ((∀ c ∈ tag.value, isBlank c = true → c = ' ') → ¬ BrokenOff tag.value) ∧
      ∀ kind name place,
        (¬ Replaces (plainEntry tag.value) → Unreplaced kind name place doc) ∧
        ((Unreplaced kind name place doc ↔ ¬ Replaces (plainEntry tag.value)) ↔
          ¬ BrokenOff tag.value) ∧
        ∀ raw' doc' tag', Comment.parse raw' = .ok doc' → doc'.FirstTag "@deprecated" tag' →
          words tag'.value = words tag.value →
          ((Unreplaced kind name place doc' ↔ Unreplaced kind name place doc) ↔
            (BrokenOff tag'.value ↔ BrokenOff tag.value)) := by
  obtain ⟨tag, hfirst⟩ := Comment.exists_firstTag hdeprecated
  obtain ⟨more, hsection⟩ := mem_notices_iff hfirst
  refine ⟨tag, more, hfirst, ?_, ?_, ?_⟩
  · rw [sections_text]
    exact hsection
  · intro hspaces hbroken
    exact hbroken.1 ((points_iff_of_spaces hspaces).mp (points_iff.mpr (Or.inr hbroken)))
  · intro kind name place
    obtain ⟨hreported, hshown⟩ := unreplaced_iff_entry h hfirst kind name place
    refine ⟨fun hnot => hreported.mpr (Or.inl hnot), ⟨?_, ?_⟩, ?_⟩
    · intro hagree hbroken
      exact hagree.mp (hreported.mpr (Or.inr hbroken)) (hshown hbroken)
    · intro hwhole
      rw [hreported, or_iff_left hwhole]
    · intro raw' doc' tag' hparse' hfirst' hwords
      obtain ⟨hreported', hshown'⟩ := unreplaced_iff_entry hparse' hfirst' kind name place
      rw [plainEntry_congr hwords] at hreported' hshown'
      rw [hreported, hreported']
      by_cases hentry : Replaces (plainEntry tag.value)
      · simp [hentry]
      · -- an entry that points to nothing is reported both times, and no notice is broken off
        have hwhole : ¬ BrokenOff tag.value := fun hbroken => hentry (hshown hbroken)
        have hwhole' : ¬ BrokenOff tag'.value := fun hbroken => hentry (hshown' hbroken)
        simp [hentry, hwhole, hwhole']

/-- A notice on two lines that is not broken off: it is found to point to a replacement, as its
    entry does, and it is judged as on one line. -/
theorem parse_notice_wrapped :
    let wrapped : Comment := ⟨some "Sum.", [], [⟨"@deprecated", "Use g()\ninstead."⟩]⟩
    let onOneLine : Comment := ⟨some "Sum.", [], [⟨"@deprecated", "Use g() instead."⟩]⟩
    Comment.parse "/**\n * Sum.\n * @deprecated Use g()\n *   instead.\n */" = .ok wrapped ∧
      Comment.parse "/**\n * Sum.\n * @deprecated Use g() instead.\n */" = .ok onOneLine ∧
      (Unreplaced .method "f" ⟨"a.php", 3, 5⟩ wrapped ↔ ¬ Replaces (plainEntry "Use g()\ninstead.")) ∧
      (Unreplaced .method "f" ⟨"a.php", 3, 5⟩ onOneLine ↔
        Unreplaced .method "f" ⟨"a.php", 3, 5⟩ wrapped) := by
  intro wrapped onOneLine
  have hwrapped : Comment.parse "/**\n * Sum.\n * @deprecated Use g()\n *   instead.\n */"
      = .ok wrapped := by cbv
  have honOneLine : Comment.parse "/**\n * Sum.\n * @deprecated Use g() instead.\n */"
      = .ok onOneLine := by cbv
  obtain ⟨tag, more, hfirst, -, -, hjudged⟩ := parse_notice hwrapped (by decide)
  have htag : tag = ⟨"@deprecated", "Use g()\ninstead."⟩ := by
    have hfound := Comment.firstTag_iff.mp hfirst
    rw [show wrapped.firstUnder? "@deprecated" = some ⟨"@deprecated", "Use g()\ninstead."⟩ by decide]
      at hfound
    exact (Option.some.inj hfound).symm
  subst htag
  obtain ⟨-, hagree, hrewrapped⟩ := hjudged .method "f" ⟨"a.php", 3, 5⟩
  have hwhole : ∀ value : Text, Replaces value → ¬ BrokenOff value := fun value h hbroken => hbroken.1 h
  refine ⟨hwrapped, honOneLine, hagree.mpr (hwhole _ (by decide)), ?_⟩
  refine (hrewrapped _ onOneLine ⟨"@deprecated", "Use g() instead."⟩ honOneLine ?_ (by decide)).mpr
    (iff_of_false (hwhole _ (by decide)) (hwhole _ (by decide)))
  exact Comment.firstTag_iff.mpr (by decide)

/-- The same words are reported to lack a replacement when the line ends after the first of them,
    though the entry shows one, and not when they stand on one line. -/
theorem parse_brokenOff :
    let broken : Comment := ⟨some "Sum.", [], [⟨"@deprecated", "Use\ng() instead."⟩]⟩
    let onOneLine : Comment := ⟨some "Sum.", [], [⟨"@deprecated", "Use g() instead."⟩]⟩
    Comment.parse "/**\n * Sum.\n * @deprecated Use\n *   g() instead.\n */" = .ok broken ∧
      Comment.parse "/**\n * Sum.\n * @deprecated Use g() instead.\n */" = .ok onOneLine ∧
      sections (splitOn '\n' (joinLines (breakdown broken)))
        = [⟨"Deprecated", ["Use g() instead."]⟩] ∧
      Replaces "Use g() instead." ∧
      Unreplaced .method "f" ⟨"a.php", 3, 5⟩ broken ∧
      ¬ Unreplaced .method "f" ⟨"a.php", 3, 5⟩ onOneLine := by
  intro broken onOneLine
  exact ⟨by cbv, by cbv, by decide, by decide, by decide, by decide⟩

end DocAudit.Report
