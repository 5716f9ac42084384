import DocAudit.Comment.Printer
import DocAudit.Proofs.Comment.Margin
import DocAudit.Proofs.Comment.Segmentation

/-! # Round trip — what is written is read back

    `print` lays a comment out the way people do by hand.  For a WELL-FORMED comment
    reading undoes it exactly: same summary, same description, same tags.  The only
    thing that can stand in the way is an inline tag that nothing closes, so the main
    theorem is an equivalence.

    The proof goes through the body lines.  Whatever lines are printed come back
    between two empty ones (`body_of_printed`); the empty line in front is passed over,
    and the one behind falls to the last tag or to the description, where it is
    trimmed off. -/

namespace DocAudit.Comment

open Text

/-- The text can stand in a comment: it holds no closing mark and no line break other than
    the line feed. -/
def Writable (t : Text) : Prop := ¬ closing <:+: t ∧ ∀ c ∈ t, isLineBreak c = true → c = '\n'

instance (t : Text) : Decidable (Writable t) :=
  @instDecidableAnd _ _ inferInstance
    (List.decidableBAll (fun c => isLineBreak c = true → c = '\n') t)

/-- A tag that says what its printed lines say. -/
structure WellFormedTag (tag : Tag) : Prop where
  /-- It is named like a tag. -/
  named : ∃ c run, tag.name = '@' :: c :: run ∧ isNameStart c = true ∧
    ∀ x ∈ run, isNameChar x = true
  /-- The value is trimmed, and so is each of its lines. -/
  trimmed : trim tag.value = tag.value
  trimmedLines : ∀ line ∈ fieldLines tag.value, trim line = line
  writable : Writable tag.value
  /-- No line of the value but the first looks like a tag. -/
  untagged : ∀ line ∈ (fieldLines tag.value).tail, line.head? ≠ some '@'

/-- A comment that says what its printed form says. -/
structure WellFormed (doc : Comment) : Prop where
  /-- The summary is a line that is not empty, trimmed, without an outer star and no tag. -/
  summary : ∀ s, doc.summary = some s → s ≠ [] ∧ '\n' ∉ s ∧ Writable s ∧ trim s = s ∧
    s.head? ≠ some '*' ∧ s.getLast? ≠ some '*' ∧ s.head? ≠ some '@'
  /-- A description follows a summary. -/
  described : doc.description ≠ [] → doc.summary ≠ none
  /-- The description is trimmed, its lines end visibly and none of them is a tag. -/
  description : trim doc.description = doc.description ∧ Writable doc.description ∧
    ∀ line ∈ fieldLines doc.description, trimRight line = line ∧ (trim line).head? ≠ some '@'
  tags : ∀ tag ∈ doc.tags, WellFormedTag tag

/-! ## Printed lines -/

/-- A line that comes back as it was: it holds no break, ends visibly and closes nothing. -/
structure Plain (line : Text) : Prop where
  unbroken : Unbroken line
  trimmed : trimRight line = line
  open_ : ¬ closing <:+: line

/-- What leaves every line as it is leaves them all. -/
theorem map_eq_self {f : Text → Text} {ls : List Text} (h : ∀ line ∈ ls, f line = line) :
    ls.map f = ls :=
  (List.map_congr_left h).trans (List.map_id' ls)

/-- Taking the decoration off undoes putting it on. -/
theorem undecorate_decorate {line : Text} (h : trimRight line = line) :
    undecorate (decorate line) = line := by
  by_cases hne : line = []
  · subst hne
    decide
  · have hline : decorate line = ' ' :: '*' :: ' ' :: line := by
      rw [decorate, if_neg hne]
      rfl
    have hkeep : trimRight (' ' :: '*' :: ' ' :: line) = ' ' :: '*' :: ' ' :: line := by
      refine trimRight_eq_self_iff.mpr ?_
      intro c hc
      have hsame := List.getLast?_append_of_ne_nil [' ', '*', ' '] hne
      exact trimRight_eq_self_iff.mp h c (hsame.symm.trans hc)
    rw [hline, undecorate, hkeep]
    rfl

theorem unbroken_decorate {line : Text} (h : Unbroken line) : Unbroken (decorate line) := by
  by_cases hne : line = []
  · rw [decorate, if_pos hne]
    decide
  · rw [decorate, if_neg hne]
    have hmark : Unbroken " * ".toList := by decide
    intro c hc
    rcases List.mem_append.mp hc with hmem | hmem
    · exact hmark c hmem
    · exact h c hmem

/-- **PRINTED LINES COME BACK** between two empty ones. -/
theorem body_of_printed {ls : List Text} (h : ∀ line ∈ ls, Plain line) :
    ∃ text, trim (joinLines (opening :: (ls.map decorate ++ [' ' :: closing])))
        = opening ++ text ++ closing ∧
      (lines text).map undecorate = [] :: (ls ++ [[]]) := by
  -- the blank in front of the closing mark is what becomes the last, empty line
  refine ⟨'\n' :: joinLines (ls.map decorate ++ [[' ']]), ?_, ?_⟩
  · have hprinted : joinLines (opening :: (ls.map decorate ++ [' ' :: closing]))
        = opening ++ '\n' :: joinLines (ls.map decorate ++ [[' ']]) ++ closing := by
      show join ['\n'] (opening :: (ls.map decorate ++ [[' '] ++ closing])) = _
      rw [join_cons_of_ne_nil _ _ (by simp), join_concat_append]
      simp
    rw [hprinted]
    exact trim_marked _
  · have hdecorated : ∀ line ∈ ls.map decorate, Unbroken line := by
      intro line hline
      obtain ⟨l, hl, rfl⟩ := List.mem_map.mp hline
      exact unbroken_decorate (h l hl).unbroken
    have hundecorated : (ls.map decorate).map undecorate = ls := by
      rw [List.map_map]
      refine map_eq_self ?_
      intro line hline
      exact undecorate_decorate (h line hline).trimmed
    rw [lines_cons_of_isLineBreak (by decide) (by decide),
      lines_join_feed hdecorated (by decide) (by decide), List.map_cons, List.map_append,
      hundecorated]
    rfl

/-! ## The text of the lines -/

/-- A line feed at the end opens no inline tag and closes none. -/
theorem inlineOpen?_concat_feed (number : Nat) (t : Text) :
    inlineOpen? number (t ++ ['\n']) = inlineOpen? number t := by
  induction t generalizing number with
  | nil => rfl
  | cons c rest ih =>
      have hhere : (rest ++ ['\n']).head? = some '@' ∧ '}' ∉ rest ++ ['\n'] ↔
          rest.head? = some '@' ∧ '}' ∉ rest := by
        cases rest with
        | nil => decide
        | cons d more => simp
      rw [List.cons_append, inlineOpen?, inlineOpen?, ih, ih]
      simp only [hhere]

theorem inlineClosed_concat_feed (t : Text) : InlineClosed (t ++ ['\n']) ↔ InlineClosed t := by
  rw [← @inlineOpen?_eq_none_iff 1, ← @inlineOpen?_eq_none_iff 1, inlineOpen?_concat_feed]

/-- An empty line at the end adds a line feed. -/
theorem joinLines_concat_nil {ls : List Text} (hls : ls ≠ []) :
    joinLines (ls ++ [[]]) = joinLines ls ++ ['\n'] := by
  show join ['\n'] (ls ++ [[]]) = join ['\n'] ls ++ ['\n']
  rw [join_append _ hls (by simp), join_singleton, List.append_nil]

/-- The empty lines around the printed ones do not matter to inline tags. -/
theorem inlineClosed_printed (ls : List Text) :
    InlineClosed (joinLines ([] :: (ls ++ [[]]))) ↔ InlineClosed (joinLines ls) := by
  have hfront : joinLines ([] :: (ls ++ [[]])) = '\n' :: joinLines (ls ++ [[]]) := by
    show join ['\n'] ([] :: (ls ++ [[]])) = _
    rw [join_cons_of_ne_nil _ _ (by simp)]
    rfl
  have hfeed : ∀ t, InlineClosed ('\n' :: t) ↔ InlineClosed t := by
    intro t
    rw [inlineClosed_cons]
    exact ⟨fun h => h.2, fun h => ⟨fun hbad => absurd hbad (by decide), h⟩⟩
  rw [hfront, hfeed]
  by_cases hls : ls = []
  · subst hls
    rfl
  · rw [joinLines_concat_nil hls, inlineClosed_concat_feed]

/-- An empty line at the end, if there is one, is trimmed off. -/
theorem trim_joinLines_append {ls rest : List Text} (hls : ls ≠ [])
    (hrest : rest = [] ∨ rest = [[]]) :
    trim (joinLines (ls ++ rest)) = trim (joinLines ls) := by
  rcases hrest with rfl | rfl
  · rw [List.append_nil]
  · rw [joinLines_concat_nil hls]
    exact trim_blank_after (List.forall_mem_singleton.mpr (by decide)) _

/-! ## Lines of fields -/

/-- A line of a field that can stand in a comment comes back if it ends visibly. -/
theorem Writable.plain {t line : Text} (h : Writable t) (hline : line ∈ fieldLines t)
    (htrim : trimRight line = line) : Plain line := by
  have hpart : line <:+: t := infix_of_mem_splitOn hline
  refine ⟨?_, htrim, fun hclose => h.1 (hclose.trans hpart)⟩
  intro c hc
  cases hbreak : isLineBreak c with
  | false => rfl
  | true =>
      -- the only break in the field is the line feed, and there it was cut
      rw [h.2 c (hpart.subset hc) hbreak] at hc
      exact absurd hc (not_mem_of_mem_splitOn hline)

theorem trimRight_of_trim {line : Text} (h : trim line = line) : trimRight line = line :=
  trimRight_eq_self_iff.mpr (trimBy_eq_self_iff.mp h).2

/-- A closing mark does not begin before its star. -/
theorem closing_infix_append {front t : Text} (hfront : '*' ∉ front)
    (h : closing <:+: front ++ t) : closing <:+: t := by
  induction front with
  | nil => exact h
  | cons c front ih =>
      rcases List.infix_cons_iff.mp h with hstart | hlater
      · obtain ⟨rest, hrest⟩ := hstart
        have hc : '*' = c := (List.cons.inj hrest).1
        exact absurd (hc ▸ List.mem_cons_self) hfront
      · exact ih (fun hmem => hfront (List.mem_cons_of_mem c hmem)) hlater

/-! ## Tags -/

/-- The line that opens a printed tag whose value begins with the line `first`. -/
def openingLine (tag : Tag) (first : Text) : Text :=
  if tag.value = [] then tag.name else tag.name ++ ' ' :: first

/-- A printed tag is its opening line and the other lines of its value. -/
theorem tagLines_eq {tag : Tag} {first : Text} {rest : List Text}
    (h : fieldLines tag.value = first :: rest) : tagLines tag = openingLine tag first :: rest := by
  rw [tagLines, h, openingLine]
  simp

theorem exists_fieldLines (t : Text) : ∃ first rest, fieldLines t = first :: rest :=
  List.exists_cons_of_ne_nil (splitOn_ne_nil '\n' t)

/-- A trimmed field that is not empty begins on its first line. -/
theorem first_ne_nil {t first : Text} {rest : List Text} (hne : t ≠ []) (htrim : trim t = t)
    (h : fieldLines t = first :: rest) : first ≠ [] := by
  rintro rfl
  have ht : join ['\n'] ([] :: rest) = t := by
    rw [← h]
    exact join_splitOn '\n' t
  cases rest with
  | nil => exact hne ht.symm
  | cons line more =>
      have hhead : t.head? = some '\n' := by
        rw [← ht]
        rfl
      exact absurd ((trimBy_eq_self_iff.mp htrim).1 '\n' hhead) (by decide)

/-- A tag name holds neither blanks nor stars. -/
theorem WellFormedTag.mem_name {tag : Tag} (h : WellFormedTag tag) {x : Char}
    (hx : x ∈ tag.name) : isBlank x = false ∧ x ≠ '*' := by
  obtain ⟨c, run, hname, hc, hrun⟩ := h.named
  have hall : x = '@' ∨ isNameChar x = true := by
    rw [hname] at hx
    rcases List.mem_cons.mp hx with rfl | hx
    · exact Or.inl rfl
    · rcases List.mem_cons.mp hx with rfl | hx
      · exact Or.inr (isNameChar_of_isNameStart hc)
      · exact Or.inr (hrun x hx)
  rcases hall with rfl | hchar
  · decide
  · refine ⟨isBlank_of_isNameChar hchar, ?_⟩
    rintro rfl
    exact absurd hchar (by decide)

/-- The opening line of a tag ends visibly. -/
theorem WellFormedTag.getLast_openingLine {tag : Tag} (h : WellFormedTag tag) {first : Text}
    {rest : List Text} (hlines : fieldLines tag.value = first :: rest) {c : Char}
    (hc : (openingLine tag first).getLast? = some c) : isBlank c = false := by
  by_cases hv : tag.value = []
  · rw [openingLine, if_pos hv] at hc
    exact (h.mem_name (List.mem_of_getLast? hc)).1
  · rw [openingLine, if_neg hv] at hc
    have hne := first_ne_nil hv h.trimmed hlines
    rw [List.append_cons, List.getLast?_append_of_ne_nil _ hne] at hc
    exact (trimBy_eq_self_iff.mp (h.trimmedLines first (by simp [hlines]))).2 c hc

/-- The opening line of a tag gives its name and the first line of its value. -/
theorem WellFormedTag.tagLine?_openingLine {tag : Tag} (h : WellFormedTag tag) {first : Text}
    {rest : List Text} (hlines : fieldLines tag.value = first :: rest) :
    tagLine? (openingLine tag first) = some (tag.name, first) := by
  obtain ⟨c, run, hname, hc, hrun⟩ := h.named
  have hkeep : trim (openingLine tag first) = openingLine tag first := by
    refine trimBy_eq_self_iff.mpr ⟨?_, fun c hc => h.getLast_openingLine hlines hc⟩
    intro d hd
    have hat : (openingLine tag first).head? = some '@' := by
      rw [openingLine]
      split <;> rw [hname] <;> rfl
    obtain rfl : '@' = d := Option.some.inj (hat.symm.trans hd)
    decide
  have hfirst : trim first = first := h.trimmedLines first (by simp [hlines])
  refine tagLine?_eq_some_iff.mpr ?_
  by_cases hv : tag.value = []
  · have hnil : first = [] := by
      rw [hv] at hlines
      exact (List.cons.inj hlines).1.symm
    refine ⟨c, run, [], ?_, hc, hrun, fun x hx => (nomatch hx), hname, by rw [hnil]; rfl⟩
    rw [hkeep, openingLine, if_pos hv, hname, List.append_nil]
  · refine ⟨c, run, ' ' :: first, ?_, hc, hrun, ?_, hname, ?_⟩
    · rw [hkeep, openingLine, if_neg hv, hname]
      rfl
    · intro x hx
      obtain rfl : ' ' = x := Option.some.inj hx
      decide
    · have hblank : ∀ x ∈ [' '], isBlank x = true := List.forall_mem_singleton.mpr (by decide)
      exact ((trim_append_of_blank hblank first).trans hfirst).symm

/-- The other lines of a value are no tag lines. -/
theorem WellFormedTag.untagged_rest {tag : Tag} (h : WellFormedTag tag) {first : Text}
    {rest : List Text} (hlines : fieldLines tag.value = first :: rest) : Untagged rest := by
  intro line hline
  have htrim : trim line = line := h.trimmedLines line (by simp [hlines, hline])
  have hhead : line.head? ≠ some '@' := h.untagged line (by simp [hlines, hline])
  cases htag : isTagLine line with
  | false => rfl
  | true =>
      rw [isTagLine_iff, htrim] at htag
      exact absurd htag hhead

/-- Every line of a value comes back as it was. -/
theorem WellFormedTag.plain_line {tag : Tag} (h : WellFormedTag tag) {line : Text}
    (hline : line ∈ fieldLines tag.value) : Plain line :=
  h.writable.plain hline (trimRight_of_trim (h.trimmedLines line hline))

/-- The opening line comes back as it was: the name in front of it brings in no break and no
    star. -/
theorem WellFormedTag.plain_openingLine {tag : Tag} (h : WellFormedTag tag) {first : Text}
    {rest : List Text} (hlines : fieldLines tag.value = first :: rest) :
    Plain (openingLine tag first) := by
  have hfirst : Plain first := h.plain_line (by simp [hlines])
  have hname : Unbroken tag.name := by
    intro x hx
    cases hbreak : isLineBreak x with
    | false => rfl
    | true =>
        have hblank := isBlank_of_isLineBreak hbreak
        rw [(h.mem_name hx).1] at hblank
        exact nomatch hblank
  have hstar : '*' ∉ tag.name := fun hmem => (h.mem_name hmem).2 rfl
  refine ⟨?_, trimRight_eq_self_iff.mpr (fun c hc => h.getLast_openingLine hlines hc), ?_⟩
  · intro x hx
    by_cases hv : tag.value = []
    · rw [openingLine, if_pos hv] at hx
      exact hname x hx
    · rw [openingLine, if_neg hv] at hx
      rcases List.mem_append.mp hx with hmem | hmem
      · exact hname x hmem
      · rcases List.mem_cons.mp hmem with rfl | hmem
        · decide
        · exact hfirst.unbroken x hmem
  · intro hclose
    by_cases hv : tag.value = []
    · rw [openingLine, if_pos hv, ← List.append_nil tag.name] at hclose
      exact absurd (closing_infix_append hstar hclose) (by decide)
    · rw [openingLine, if_neg hv] at hclose
      have hlate : closing <:+: [' '] ++ first := closing_infix_append hstar hclose
      exact hfirst.open_ (closing_infix_append (by decide) hlate)

theorem WellFormedTag.plain_tagLines {tag : Tag} (h : WellFormedTag tag) :
    ∀ line ∈ tagLines tag, Plain line := by
  obtain ⟨first, rest, hlines⟩ := exists_fieldLines tag.value
  rw [tagLines_eq hlines]
  intro line hline
  rcases List.mem_cons.mp hline with rfl | hmem
  · exact h.plain_openingLine hlines
  · exact h.plain_line (by simp [hlines, hmem])

/-- Behind the tags comes an empty line, which belongs to the stretch before the first tag only
    if there is no tag. -/
theorem untilTag_printed_tags {tags : List Tag} (h : ∀ tag ∈ tags, WellFormedTag tag) :
    untilTag (tags.flatMap tagLines ++ [[]]) = [] ∨
      untilTag (tags.flatMap tagLines ++ [[]]) = [[]] := by
  cases tags with
  | nil => exact Or.inr rfl
  | cons tag more =>
      obtain ⟨first, rest, hlines⟩ := exists_fieldLines tag.value
      have hopen := isTagLine_of_tagLine?
        ((h tag List.mem_cons_self).tagLine?_openingLine hlines)
      rw [List.flatMap_cons, tagLines_eq hlines]
      exact Or.inl (untilTag_cons_of_tag hopen _)

/-- **PRINTED TAGS COME BACK**, whatever number of them. -/
theorem tagsOf_printed_tags {tags : List Tag} (h : ∀ tag ∈ tags, WellFormedTag tag) :
    tagsOf (tags.flatMap tagLines ++ [[]]) = tags := by
  induction tags with
  | nil => decide
  | cons tag more ih =>
      have htag : WellFormedTag tag := h tag List.mem_cons_self
      have hmore : ∀ tag ∈ more, WellFormedTag tag := fun t ht => h t (List.mem_cons_of_mem tag ht)
      obtain ⟨first, rest, hlines⟩ := exists_fieldLines tag.value
      have hrest : Untagged rest := htag.untagged_rest hlines
      have hkept : rest.map trim = rest :=
        map_eq_self (fun line hline => htag.trimmedLines line (by simp [hlines, hline]))
      have hbehind : (untilTag (more.flatMap tagLines ++ [[]])).map trim
          = untilTag (more.flatMap tagLines ++ [[]]) := by
        rcases untilTag_printed_tags hmore with hnil | hone
        · rw [hnil]
          rfl
        · rw [hone]
          rfl
      -- the value is put together again from its lines, and perhaps the empty one at the end
      have hvalue : trim (joinLines (first :: (untilTag (rest ++ (more.flatMap tagLines
          ++ [[]]))).map trim)) = tag.value := by
        rw [untilTag_append_of_untagged hrest, List.map_append, hkept, hbehind,
          ← List.cons_append, ← hlines,
          trim_joinLines_append (by simp [hlines]) (untilTag_printed_tags hmore)]
        rw [show joinLines (fieldLines tag.value) = tag.value from join_splitOn '\n' tag.value]
        exact htag.trimmed
      rw [List.flatMap_cons, tagLines_eq hlines, List.append_assoc, List.cons_append,
        tagsOf_cons_of_some (htag.tagLine?_openingLine hlines), hvalue,
        tagsOf_append_of_untagged hrest, ih hmore]

/-- Every tag line of a printed tag is named. -/
theorem allNamed_printed_tags {tags : List Tag} (h : ∀ tag ∈ tags, WellFormedTag tag) :
    AllNamed (tags.flatMap tagLines) := by
  intro line hline hisTag
  obtain ⟨tag, htag, hmem⟩ := List.mem_flatMap.mp hline
  obtain ⟨first, rest, hlines⟩ := exists_fieldLines tag.value
  rw [tagLines_eq hlines] at hmem
  rcases List.mem_cons.mp hmem with rfl | hrest
  · exact ⟨tag.name, first, (h tag htag).tagLine?_openingLine hlines⟩
  · have hfalse := (h tag htag).untagged_rest hlines line hrest
    rw [hisTag] at hfalse
    exact nomatch hfalse

/-! ## Prose -/

/-- The printed lines of a description, after an empty one. -/
def descriptionLines (description : Text) : List Text :=
  if description = [] then [] else [] :: fieldLines description

theorem contentLines_eq (doc : Comment) :
    doc.contentLines = doc.summary.toList ++ descriptionLines doc.description
      ++ doc.tags.flatMap tagLines := rfl

/-- A line of a printed description is empty or a line of the description. -/
theorem mem_descriptionLines {description line : Text}
    (h : line ∈ descriptionLines description) :
    line = [] ∨ line ∈ fieldLines description := by
  by_cases hd : description = []
  · rw [descriptionLines, if_pos hd] at h
    exact nomatch h
  · rw [descriptionLines, if_neg hd] at h
    exact List.mem_cons.mp h

/-- The printed prose comes back as it was. -/
theorem WellFormed.plain_prose {doc : Comment} (h : WellFormed doc) :
    ∀ line ∈ doc.summary.toList ++ descriptionLines doc.description, Plain line := by
  obtain ⟨-, hwritable, hlines⟩ := h.description
  intro line hline
  rcases List.mem_append.mp hline with hsummary | hdescription
  · obtain ⟨-, hfeed, hwrite, htrim, -⟩ := h.summary line (Option.mem_toList.mp hsummary)
    refine ⟨?_, trimRight_of_trim htrim, hwrite.1⟩
    intro c hc
    cases hbreak : isLineBreak c with
    | false => rfl
    | true => exact absurd (hwrite.2 c hc hbreak ▸ hc) hfeed
  · rcases mem_descriptionLines hdescription with rfl | hmem
    · exact ⟨by decide, rfl, by decide⟩
    · exact hwritable.plain hmem (hlines line hmem).1

/-- The printed prose holds no tag line. -/
theorem WellFormed.untagged_prose {doc : Comment} (h : WellFormed doc) :
    Untagged (doc.summary.toList ++ descriptionLines doc.description) := by
  intro line hline
  have hhead : (trim line).head? ≠ some '@' := by
    rcases List.mem_append.mp hline with hsummary | hdescription
    · obtain ⟨-, -, -, htrim, -, -, hat⟩ := h.summary line (Option.mem_toList.mp hsummary)
      rw [htrim]
      exact hat
    · rcases mem_descriptionLines hdescription with rfl | hmem
      · decide
      · exact (h.description.2.2 line hmem).2
  cases htag : isTagLine line with
  | false => rfl
  | true => exact absurd (isTagLine_iff.mp htag) hhead

/-- A well-formed summary is its own headline. -/
theorem WellFormed.headline_summary {doc : Comment} (h : WellFormed doc) {s : Text}
    (hs : doc.summary = some s) : headline s = s ∧ s ≠ [] := by
  obtain ⟨hne, -, -, htrim, hfront, hback, -⟩ := h.summary s hs
  obtain ⟨hhead, hlast⟩ := trimBy_eq_self_iff.mp htrim
  have hclass : ∀ c, isBlank c = false → c ≠ '*' →
      (c == ' ' || c == '\t' || c == '*') = false := by
    intro c hblank hstar
    simp only [Bool.or_eq_false_iff, beq_eq_false_iff_ne, ne_eq]
    refine ⟨⟨?_, ?_⟩, hstar⟩
    · rintro rfl
      exact absurd hblank (by decide)
    · rintro rfl
      exact absurd hblank (by decide)
  refine ⟨?_, hne⟩
  rw [headline, htrim]
  refine trimBy_eq_self_iff.mpr ⟨?_, ?_⟩
  · intro c hc
    exact hclass c (hhead c hc) (fun hstar => hfront (hstar ▸ hc))
  · intro c hc
    exact hclass c (hlast c hc) (fun hstar => hback (hstar ▸ hc))

/-- **A PRINTED DESCRIPTION COMES BACK**: it begins at the margin, so nothing is cut off. -/
theorem WellFormed.withoutMargin_printed {doc : Comment} (h : WellFormed doc) {rest : List Text}
    (hrest : rest = [] ∨ rest = [[]]) :
    withoutMargin (descriptionLines doc.description ++ rest) = doc.description := by
  obtain ⟨htrim, -, -⟩ := h.description
  by_cases hd : doc.description = []
  · rw [descriptionLines, if_pos hd, hd]
    rcases hrest with rfl | rfl <;> rfl
  · rw [descriptionLines, if_neg hd]
    obtain ⟨first, more, hlines⟩ := exists_fieldLines doc.description
    have hne : first ≠ [] := first_ne_nil hd htrim hlines
    have hjoin : joinLines (first :: more) = doc.description := by
      rw [← hlines]
      exact join_splitOn '\n' doc.description
    have hzero : margin ([] :: fieldLines doc.description ++ rest) = 0 := by
      obtain ⟨c, tail, rfl⟩ := List.exists_cons_of_ne_nil hne
      refine @margin_eq_zero _ c tail (by simp [hlines]) ?_
      refine (trimBy_eq_self_iff.mp htrim).1 c ?_
      rw [← hjoin]
      cases more with
      | nil => rfl
      | cons line more => rfl
    have hfeed : joinLines ([] :: fieldLines doc.description)
        = ['\n'] ++ joinLines (fieldLines doc.description) :=
      join_cons_of_ne_nil ['\n'] [] (by simp [hlines])
    rw [withoutMargin_of_margin_eq_zero hzero, trim_joinLines_append (by simp) hrest, hfeed,
      trim_append_of_blank (List.forall_mem_singleton.mpr (by decide)), hlines, hjoin, htrim]

/-- The printed prose gives back summary and description, whatever stretch of empty lines
    follows it. -/
theorem WellFormed.splitSummary_printed {doc : Comment} (h : WellFormed doc) {rest : List Text}
    (hrest : rest = [] ∨ rest = [[]]) :
    (splitSummary ([] :: (doc.summary.toList ++ descriptionLines doc.description ++ rest))).1
      = doc.summary ∧
    withoutMargin
      (splitSummary ([] :: (doc.summary.toList ++ descriptionLines doc.description ++ rest))).2
      = doc.description := by
  rw [splitSummary_cons_of_nil (by decide)]
  cases hs : doc.summary with
  | some s =>
      obtain ⟨hhead, hne⟩ := h.headline_summary hs
      have hheadline : headline s ≠ [] := by
        rw [hhead]
        exact hne
      have hsplit := splitSummary_cons_of_ne_nil hheadline
        (descriptionLines doc.description ++ rest)
      rw [Option.toList_some, List.append_assoc, List.singleton_append, hsplit, hhead]
      exact ⟨rfl, h.withoutMargin_printed hrest⟩
  | none =>
      have hd : doc.description = [] := by
        by_contra hne
        exact h.described hne hs
      rw [hd]
      rcases hrest with rfl | rfl <;> exact ⟨rfl, rfl⟩

/-! ## The whole comment -/

/-- The printed lines come back as the comment that they were printed from. -/
theorem WellFormed.ofLines_printed {doc : Comment} (h : WellFormed doc) :
    ofLines ([] :: (doc.contentLines ++ [[]])) = doc := by
  have hprose : Untagged ([] :: (doc.summary.toList ++ descriptionLines doc.description)) := by
    intro line hline
    rcases List.mem_cons.mp hline with rfl | hmem
    · decide
    · exact h.untagged_prose line hmem
  have hlines : [] :: (doc.contentLines ++ [[]])
      = ([] :: (doc.summary.toList ++ descriptionLines doc.description))
        ++ (doc.tags.flatMap tagLines ++ [[]]) := by
    rw [contentLines_eq, List.append_assoc, List.cons_append]
  have hstretch := untilTag_append_of_untagged hprose (doc.tags.flatMap tagLines ++ [[]])
  obtain ⟨hsummary, hdescription⟩ := h.splitSummary_printed (untilTag_printed_tags h.tags)
  rw [hlines, ofLines, hstretch, tagsOf_append_of_untagged hprose, tagsOf_printed_tags h.tags,
    List.cons_append]
  simp only [hsummary, hdescription]

/-- Every tag line of a printed comment is named. -/
theorem WellFormed.allNamed_printed {doc : Comment} (h : WellFormed doc) :
    AllNamed ([] :: (doc.contentLines ++ [[]])) := by
  intro line hline hisTag
  have hcases : line = [] ∨ line ∈ doc.summary.toList ++ descriptionLines doc.description ∨
      line ∈ doc.tags.flatMap tagLines := by
    rw [contentLines_eq] at hline
    simp only [List.mem_cons, List.mem_append, List.not_mem_nil, or_false] at hline ⊢
    tauto
  rcases hcases with rfl | hprose | htags
  · exact absurd hisTag (by decide)
  · rw [h.untagged_prose line hprose] at hisTag
    exact nomatch hisTag
  · exact allNamed_printed_tags h.tags line htags hisTag

/-- Every printed line comes back as it was. -/
theorem WellFormed.plain_contentLines {doc : Comment} (h : WellFormed doc) :
    ∀ line ∈ doc.contentLines, Plain line := by
  intro line hline
  rw [contentLines_eq] at hline
  rcases List.mem_append.mp hline with hprose | htags
  · exact h.plain_prose line hprose
  · obtain ⟨tag, htag, hmem⟩ := List.mem_flatMap.mp htags
    exact (h.tags tag htag).plain_tagLines line hmem

/-- **ROUND TRIP**: a well-formed comment is read back from its printed form, exactly if every
    inline tag in it is closed. -/
theorem parse_print_iff {doc : Comment} (h : WellFormed doc) :
    parse (print doc) = .ok doc ↔ InlineClosed (joinLines doc.contentLines) := by
  obtain ⟨text, htext, hbody⟩ := body_of_printed h.plain_contentLines
  constructor
  · intro hparse
    obtain ⟨ls, hls, -⟩ := parse_eq_ok_iff.mp hparse
    obtain ⟨text', htext', rfl, -, hinline⟩ := body_eq_ok_iff.mp hls
    -- there is only one interior, so the lines that were checked are the printed ones
    obtain rfl := interior_unique htext htext'
    rw [hbody] at hinline
    exact (inlineClosed_printed _).mp hinline
  · intro hinline
    refine parse_eq_ok_iff.mpr ⟨_, body_eq_ok_iff.mpr ⟨text, htext, hbody.symm, ?_, ?_⟩,
      h.allNamed_printed, h.ofLines_printed.symm⟩
    · intro line hline
      rcases List.mem_cons.mp hline with rfl | hmem
      · decide
      · rcases List.mem_append.mp hmem with hcontent | hlast
        · exact (h.plain_contentLines line hcontent).open_
        · rw [List.mem_singleton.mp hlast]
          decide
    · exact (inlineClosed_printed _).mpr hinline

/-- A comment with stars inside its lines, an indented line, an empty line in a value, a closed
    inline tag and a tag without a value. -/
def starred : Comment where
  summary := some "Sum \x7b@link *a*\x7d up".toList
  description := "* one\n\n    two *".toList
  tags := [⟨"@param-out".toList, "@x $a\n\n* more".toList⟩, ⟨"@\\Entity".toList, []⟩]

theorem wellFormed_starred : WellFormed starred where
  summary := by
    intro s hs
    obtain rfl := Option.some.inj hs
    decide +kernel
  described := by decide +kernel
  description := by decide +kernel
  tags := by
    intro tag htag
    rcases List.mem_cons.mp htag with rfl | htag
    · exact ⟨⟨'p', "aram-out".toList, rfl, by decide, List.all_eq_true.mp (by decide +kernel)⟩,
        by decide +kernel, by decide +kernel, by decide +kernel, by decide +kernel⟩
    · obtain rfl := List.mem_singleton.mp htag
      exact ⟨⟨'\\', "Entity".toList, rfl, by decide, List.all_eq_true.mp (by decide +kernel)⟩,
        by decide +kernel, by decide +kernel, by decide +kernel, by decide +kernel⟩

theorem parse_print_starred :
    WellFormed starred ∧ InlineClosed (joinLines starred.contentLines) ∧
      parse (print starred) = .ok starred := by
  have hclosed : InlineClosed (joinLines starred.contentLines) := by decide +kernel
  exact ⟨wellFormed_starred, hclosed, (parse_print_iff wellFormed_starred).mpr hclosed⟩

end DocAudit.Comment
