import DocAudit.Proofs.Comment.Readable

/-! # Segmentation — which lines of a comment become what

    The reader is described once more, by POSITIONS in the list of body lines instead of
    by recursion: tag lines and tags correspond one to one and in order, each tag owns
    the stretch up to the next tag line, and the stretch before the first tag line
    alone decides summary and description.

    The heart is `opens_tagsOf`, an induction over the lines that carries the
    lines already passed, so that every position is a position in the WHOLE body. -/

namespace DocAudit.Comment

open Text

/-- The positions of the tag lines, in order. -/
def tagPositions (ls : List Text) : List Nat :=
  (List.range ls.length).filter fun i => isTagLine (ls.getD i [])

/-- The lines from position `i` up to position `j` are no tag lines, and at `j` a tag line
    stands or the lines end. -/
structure Stretch (ls : List Text) (i j : Nat) : Prop where
  ordered : i ≤ j
  inside : j ≤ ls.length
  untagged : ∀ k, i ≤ k → k < j → isTagLine (ls.getD k []) = false
  maximal : j < ls.length → isTagLine (ls.getD j []) = true

/-- The line at position `i` opens the tag: it begins with the tag's name, which is the longest
    one there, and the value is made of the rest of that line and of the stretch after it. -/
def Opens (ls : List Text) (i : Nat) (tag : Tag) : Prop :=
  ∃ line c run rest j,
    ls[i]? = some line ∧ trim line = '@' :: c :: (run ++ rest) ∧ isNameStart c = true ∧
    (∀ x ∈ run, isNameChar x = true) ∧ (∀ x, rest.head? = some x → isNameChar x = false) ∧
    Stretch ls (i + 1) j ∧ tag.name = '@' :: c :: run ∧
    tag.value = trim (joinLines (trim rest :: ((ls.take j).drop (i + 1)).map trim))

/-- What lines without tags give: the first headline that is not empty, and the lines strictly
    after it without their margin; nothing if there is no such line. -/
inductive Prose : List Text → Option Text → Text → Prop where
  | silent {ls : List Text} (h : ∀ line ∈ ls, headline line = []) : Prose ls none []
  | spoken {before : List Text} {line : Text} {after : List Text}
      (hbefore : ∀ line ∈ before, headline line = []) (hline : headline line ≠ []) :
      Prose (before ++ line :: after) (some (headline line)) (withoutMargin after)

/-- The comment is cut out of the lines at their tag lines. -/
structure Segmented (ls : List Text) (doc : Comment) : Prop where
  tags : List.Forall₂ (Opens ls) (tagPositions ls) doc.tags
  prose : ∃ first, Stretch ls 0 first ∧ Prose (ls.take first) doc.summary doc.description

/-! ## Stretches -/

theorem untilTag_cons_of_tag {line : Text} (h : isTagLine line = true) (rest : List Text) :
    untilTag (line :: rest) = [] :=
  List.takeWhile_cons_of_neg (by simp [h])

theorem untilTag_cons_of_not_tag {line : Text} (h : isTagLine line = false) (rest : List Text) :
    untilTag (line :: rest) = line :: untilTag rest :=
  List.takeWhile_cons_of_pos (by simp [h])

/-- None of the lines is a tag line. -/
def Untagged (ls : List Text) : Prop := ∀ line ∈ ls, isTagLine line = false

theorem Untagged.concat {ls : List Text} (h : Untagged ls) {line : Text}
    (hline : isTagLine line = false) : Untagged (ls ++ [line]) := by
  intro l hl
  rcases List.mem_append.mp hl with hmem | hmem
  · exact h l hmem
  · rw [List.mem_singleton.mp hmem]
    exact hline

/-- Lines that are no tag lines belong to the stretch together. -/
theorem untilTag_append_of_untagged {front : List Text} (h : Untagged front) (rest : List Text) :
    untilTag (front ++ rest) = front ++ untilTag rest :=
  List.takeWhile_append_of_pos (fun line hline => by simp [h line hline])

theorem untilTag_of_untagged {ls : List Text} (h : Untagged ls) : untilTag ls = ls :=
  List.takeWhile_eq_self_iff.mpr (fun line hline => by simp [h line hline])

/-- A tag line and what follows it are beyond the stretch. -/
theorem untilTag_append_tag {line : Text} (hline : isTagLine line = true)
    (front rest : List Text) : untilTag (front ++ line :: rest) = untilTag front := by
  induction front with
  | nil => exact untilTag_cons_of_tag hline rest
  | cons l front ih =>
      cases hl : isTagLine l with
      | true => rw [List.cons_append, untilTag_cons_of_tag hl, untilTag_cons_of_tag hl]
      | false =>
          rw [List.cons_append, untilTag_cons_of_not_tag hl, untilTag_cons_of_not_tag hl, ih]

theorem getD_passed (passed : List Text) (line : Text) (rest : List Text) :
    (passed ++ line :: rest).getD passed.length [] = line := by
  simp [List.getD_eq_getElem?_getD]

/-- A stretch is extended to the left by a line that is no tag line. -/
theorem Stretch.extend {ls : List Text} {i j : Nat} (h : Stretch ls (i + 1) j)
    (hi : isTagLine (ls.getD i []) = false) : Stretch ls i j := by
  refine ⟨Nat.le_of_succ_le h.ordered, h.inside, ?_, h.maximal⟩
  intro k hik hkj
  rcases Nat.eq_or_lt_of_le hik with rfl | hlt
  · exact hi
  · exact h.untagged k hlt hkj

/-- The lines up to the next tag line are a stretch of the whole body. -/
theorem stretch_untilTag (passed rest : List Text) :
    Stretch (passed ++ rest) passed.length (passed.length + (untilTag rest).length) := by
  induction rest generalizing passed with
  | nil =>
      rw [List.append_nil]
      refine ⟨Nat.le_refl _, Nat.le_refl _, ?_, ?_⟩
      · intro k hk hlt
        exact absurd hlt (Nat.not_lt.mpr hk)
      · intro hlt
        exact absurd hlt (Nat.lt_irrefl _)
  | cons line rest ih =>
      cases hline : isTagLine line with
      | true =>
          rw [untilTag_cons_of_tag hline]
          refine ⟨Nat.le_refl _, by simp, ?_, ?_⟩
          · intro k hk hlt
            exact absurd hlt (Nat.not_lt.mpr hk)
          · intro _
            rw [List.length_nil, Nat.add_zero, getD_passed]
            exact hline
      | false =>
          have hnext := ih (passed ++ [line])
          rw [List.append_assoc, List.singleton_append, List.length_append,
            List.length_singleton] at hnext
          rw [untilTag_cons_of_not_tag hline, List.length_cons, Nat.add_comm _ 1, ← Nat.add_assoc]
          refine hnext.extend ?_
          rw [getD_passed]
          exact hline

/-- The stretch holds exactly the lines up to the next tag line. -/
theorem take_drop_stretch (passed rest : List Text) :
    ((passed ++ rest).take (passed.length + (untilTag rest).length)).drop passed.length
      = untilTag rest := by
  rw [List.take_length_add_append, List.drop_left]
  exact take_length_takeWhile _ rest

/-! ## Tags -/

/-- A line with a tag name opens a tag with the stretch behind it. -/
theorem tagsOf_cons_of_some {line name first : Text} (h : tagLine? line = some (name, first))
    (rest : List Text) :
    tagsOf (line :: rest)
      = ⟨name, trim (joinLines (first :: (untilTag rest).map trim))⟩ :: tagsOf rest := by
  rw [tagsOf, h]

theorem tagsOf_cons_of_none {line : Text} (h : tagLine? line = none) (rest : List Text) :
    tagsOf (line :: rest) = tagsOf rest := by
  rw [tagsOf, h]

/-- Lines that are no tag lines open no tags. -/
theorem tagsOf_append_of_untagged {front : List Text} (h : Untagged front) (rest : List Text) :
    tagsOf (front ++ rest) = tagsOf rest := by
  induction front with
  | nil => rfl
  | cons line front ih =>
      have hline : isTagLine line = false := h line List.mem_cons_self
      have hfront : Untagged front := fun l hl => h l (List.mem_cons_of_mem line hl)
      rw [List.cons_append, tagsOf_cons_of_none (tagLine?_eq_none hline), ih hfront]

theorem tagsOf_of_untagged {ls : List Text} (h : Untagged ls) : tagsOf ls = [] := by
  have := tagsOf_append_of_untagged h []
  rwa [List.append_nil] at this

/-- A tag line separates the tags before it from its own and those behind it. -/
theorem tagsOf_append_tag {line : Text} (hline : isTagLine line = true) (front rest : List Text) :
    tagsOf (front ++ line :: rest) = tagsOf front ++ tagsOf (line :: rest) := by
  induction front with
  | nil => rfl
  | cons l front ih =>
      cases htag : tagLine? l with
      | none =>
          rw [List.cons_append, tagsOf_cons_of_none htag, tagsOf_cons_of_none htag, ih]
      | some pair =>
          obtain ⟨name, first⟩ := pair
          rw [List.cons_append, tagsOf_cons_of_some htag, tagsOf_cons_of_some htag, ih,
            untilTag_append_tag hline, List.cons_append]

/-- A named tag line opens its tag, wherever it stands. -/
theorem opens_of_tagLine? {line name first : Text} (h : tagLine? line = some (name, first))
    (passed rest : List Text) :
    Opens (passed ++ line :: rest) passed.length
      ⟨name, trim (joinLines (first :: (untilTag rest).map trim))⟩ := by
  obtain ⟨c, run, more, htrim, hc, hrun, hmore, rfl, rfl⟩ := tagLine?_eq_some_iff.mp h
  have hstretch := stretch_untilTag (passed ++ [line]) rest
  have hslice := take_drop_stretch (passed ++ [line]) rest
  rw [List.append_assoc, List.singleton_append, List.length_append,
    List.length_singleton] at hstretch hslice
  refine ⟨line, c, run, more, _, ?_, htrim, hc, hrun, hmore, hstretch, rfl, ?_⟩
  · simp
  · rw [hslice]

/-- **ONE TAG PER TAG LINE**: behind the lines already passed, the tag lines and the tags
    correspond one to one and in order. -/
theorem opens_tagsOf (passed rest : List Text) (hnamed : AllNamed rest) :
    List.Forall₂ (Opens (passed ++ rest))
      ((List.range' passed.length rest.length).filter fun i =>
        isTagLine ((passed ++ rest).getD i []))
      (tagsOf rest) := by
  induction rest generalizing passed with
  | nil => exact List.Forall₂.nil
  | cons line rest ih =>
      have hrest : AllNamed rest := fun l hl => hnamed l (List.mem_cons_of_mem line hl)
      have hnext := ih (passed ++ [line]) hrest
      rw [List.append_assoc, List.singleton_append, List.length_append,
        List.length_singleton] at hnext
      rw [List.length_cons, List.range'_succ]
      -- the position of this line stays exactly if the line is a tag line
      cases hline : isTagLine line with
      | true =>
          obtain ⟨name, first, htag⟩ := hnamed line List.mem_cons_self hline
          rw [List.filter_cons_of_pos (by rw [getD_passed]; exact hline),
            tagsOf_cons_of_some htag]
          exact List.Forall₂.cons (opens_of_tagLine? htag passed rest) hnext
      | false =>
          rw [List.filter_cons_of_neg (by rw [getD_passed, hline]; simp),
            tagsOf_cons_of_none (tagLine?_eq_none hline)]
          exact hnext

/-! ## Prose -/

theorem splitSummary_cons_of_nil {line : Text} (h : headline line = []) (rest : List Text) :
    splitSummary (line :: rest) = splitSummary rest := by
  rw [splitSummary, if_pos h]

/-- The first line with a headline gives the summary. -/
theorem splitSummary_cons_of_ne_nil {line : Text} (h : headline line ≠ []) (rest : List Text) :
    splitSummary (line :: rest) = (some (headline line), rest) := by
  rw [splitSummary, if_neg h]

/-- A line without a headline changes nothing. -/
theorem Prose.skip {line : Text} {rest : List Text} {summary : Option Text} {description : Text}
    (hline : headline line = []) (h : Prose rest summary description) :
    Prose (line :: rest) summary description := by
  cases h with
  | silent hrest =>
      refine Prose.silent ?_
      intro l hl
      rcases List.mem_cons.mp hl with rfl | hmem
      · exact hline
      · exact hrest l hmem
  | @spoken before spoken after hbefore hspoken =>
      refine @Prose.spoken (line :: before) spoken after ?_ hspoken
      intro l hl
      rcases List.mem_cons.mp hl with rfl | hmem
      · exact hline
      · exact hbefore l hmem

/-- The first headline and the lines after it are found wherever they stand. -/
theorem prose_splitSummary (ls : List Text) :
    Prose ls (splitSummary ls).1 (withoutMargin (splitSummary ls).2) := by
  induction ls with
  | nil => exact Prose.silent (fun line hline => nomatch hline)
  | cons line rest ih =>
      by_cases hline : headline line = []
      · rw [splitSummary_cons_of_nil hline]
        exact ih.skip hline
      · rw [splitSummary_cons_of_ne_nil hline]
        exact @Prose.spoken [] line rest (fun _ hl => nomatch hl) hline

/-! ## The whole comment -/

/-- Lines whose tag lines are all named are cut at them. -/
theorem segmented_ofLines {ls : List Text} (hnamed : AllNamed ls) : Segmented ls (ofLines ls) := by
  refine ⟨?_, (untilTag ls).length, ?_, ?_⟩
  · have := opens_tagsOf [] ls hnamed
    rw [tagPositions, List.range_eq_range']
    exact this
  · have := stretch_untilTag [] ls
    rw [List.length_nil, Nat.zero_add] at this
    exact this
  · have hfront : ls.take (untilTag ls).length = untilTag ls := take_length_takeWhile _ ls
    rw [hfront]
    exact prose_splitSummary (untilTag ls)

/-- **SEGMENTATION**: a comment that can be read is cut at its tag lines, and two comments with
    the same lines before their first tag lines have the same summary and description. -/
theorem parse_segments {raw : Text} {doc : Comment} (h : parse raw = .ok doc) :
    ∃ text, trim raw = opening ++ text ++ closing ∧
      Segmented ((lines text).map undecorate) doc ∧
      ∀ raw' doc' text', parse raw' = .ok doc' → trim raw' = opening ++ text' ++ closing →
        untilTag ((lines text').map undecorate) = untilTag ((lines text).map undecorate) →
        doc'.summary = doc.summary ∧ doc'.description = doc.description := by
  obtain ⟨ls, hbody, hnamed, rfl⟩ := parse_eq_ok_iff.mp h
  obtain ⟨text, htext, rfl, -⟩ := body_eq_ok_iff.mp hbody
  refine ⟨text, htext, segmented_ofLines hnamed, ?_⟩
  intro raw' doc' text' h' htext' hsame
  obtain ⟨ls', hbody', -, rfl⟩ := parse_eq_ok_iff.mp h'
  obtain ⟨text'', htext'', rfl, -⟩ := body_eq_ok_iff.mp hbody'
  obtain rfl := interior_unique htext' htext''
  refine ⟨?_, ?_⟩
  · simp only [ofLines, hsame]
  · simp only [ofLines, hsame]

/-- A comment with prose, an indented description, a tag of three lines and a short one. -/
theorem parse_segments_mixed :
    parse "/** *Sum* up.\n *\n *  two\n *   one\n * @param int $a\n *   more\n *\n * @see x */".toList
      = .ok ⟨some "Sum* up.".toList, "two\n one".toList,
          [⟨"@param".toList, "int $a\nmore".toList⟩, ⟨"@see".toList, "x".toList⟩]⟩ ∧
    ∃ text, Segmented ((lines text).map undecorate) ⟨some "Sum* up.".toList, "two\n one".toList,
      [⟨"@param".toList, "int $a\nmore".toList⟩, ⟨"@see".toList, "x".toList⟩]⟩ := by
  have h : parse
      "/** *Sum* up.\n *\n *  two\n *   one\n * @param int $a\n *   more\n *\n * @see x */".toList
      = .ok ⟨some "Sum* up.".toList, "two\n one".toList,
          [⟨"@param".toList, "int $a\nmore".toList⟩, ⟨"@see".toList, "x".toList⟩]⟩ := by cbv
  obtain ⟨text, -, hseg, -⟩ := parse_segments h
  exact ⟨h, text, hseg⟩

end DocAudit.Comment
