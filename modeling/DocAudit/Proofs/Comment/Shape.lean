import DocAudit.Proofs.Comment.RoundTrip
import DocAudit.Proofs.Text.OneLine

/-! # Shape — what a comment that was read looks like

    Whatever the text, the fields that `parse` gives have a fixed shape: the summary is one
    line without outer blanks and stars, description and values are trimmed as a whole and line
    by line, no field holds a closing mark, and the only break in any of them is the LINE FEED.

    Every line of the body is plain (`plain_of_body`), and fields are made of such lines.  What
    remains is that joining and trimming do not spoil them, which is `fieldLines_trim`: trimming
    joined lines keeps a STRETCH of them and takes the indentation off the first. -/

namespace DocAudit.Comment

open Text

/-- The shape that reading gives a comment. -/
structure Shape (doc : Comment) : Prop where
  /-- The summary is a line that is not empty, without a space, tab or star at its ends. -/
  summary : ∀ s, doc.summary = some s → s ≠ [] ∧ Unbroken s ∧ ¬ closing <:+: s ∧
    (∀ c, s.head? = some c → c ∉ [' ', '\t', '*']) ∧
    ∀ c, s.getLast? = some c → c ∉ [' ', '\t', '*']
  /-- A description follows a summary. -/
  described : doc.description ≠ [] → doc.summary ≠ none
  /-- The description is trimmed, its lines end visibly and none of them is a tag. -/
  description : trim doc.description = doc.description ∧ Writable doc.description ∧
    ∀ line ∈ fieldLines doc.description, trimRight line = line ∧ (trim line).head? ≠ some '@'
  tags : ∀ tag ∈ doc.tags, WellFormedTag tag ∧ Writable tag.name

/-! ## Lines of the body -/

/-- A piece of a plain line is plain if it ends visibly. -/
theorem Plain.piece {line piece : Text} (h : Plain line) (hpiece : piece <:+: line)
    (htrim : trimRight piece = piece) : Plain piece where
  unbroken := fun c hc => h.unbroken c (hpiece.subset hc)
  trimmed := htrim
  open_ := fun hclose => h.open_ (hclose.trans hpiece)

theorem Plain.of_suffix {line back : Text} (h : Plain line) (hback : back <:+ line) : Plain back :=
  h.piece hback.isInfix (trimRight_of_suffix h.trimmed hback)

theorem Plain.trim_piece {line piece : Text} (h : Plain line) (hpiece : piece <:+: line) :
    Plain (trim piece) :=
  h.piece ((infix_trimBy isBlank piece).trans hpiece)
    (trimRight_of_trim (trimBy_trimBy isBlank piece))

/-- Decoration is taken off in front. -/
theorem undecorate_suffix (line : Text) : undecorate line <:+ trimRight line := by
  have hback : trimLeft (trimRight line) <:+ trimRight line := List.dropWhile_suffix isBlank
  rw [undecorate]
  split
  · rename_i rest heq
    rw [heq] at hback
    exact (List.suffix_append ['*', ' '] rest).trans hback
  · rename_i rest _ heq
    rw [heq] at hback
    exact (List.suffix_cons '*' rest).trans hback
  · exact List.suffix_rfl

theorem infix_undecorate (line : Text) : undecorate line <:+: line :=
  (undecorate_suffix line).isInfix.trans (List.rdropWhile_prefix isBlank line).isInfix

/-- **THE LINES OF A BODY ARE PLAIN**: no break, no trailing blank, no closing mark. -/
theorem plain_of_body {raw : Text} {ls : List Text} (h : body raw = .ok ls) :
    ∀ line ∈ ls, Plain line := by
  obtain ⟨text, -, rfl, hopen, -⟩ := body_eq_ok_iff.mp h
  intro line hline
  obtain ⟨written, hwritten, rfl⟩ := List.mem_map.mp hline
  refine ⟨?_, ?_, hopen _ hline⟩
  · intro c hc
    exact unbroken_of_mem_lines hwritten c ((infix_undecorate written).subset hc)
  · exact trimRight_of_suffix (List.rdropWhile_idempotent isBlank written)
      (undecorate_suffix written)

/-! ## Joined lines -/

theorem Writable.piece {t piece : Text} (h : Writable t) (hpiece : piece <:+: t) :
    Writable piece :=
  ⟨fun hclose => h.1 (hclose.trans hpiece), fun c hc => h.2 c (hpiece.subset hc)⟩

theorem Plain.writable {line : Text} (h : Plain line) : Writable line := by
  refine ⟨h.open_, ?_⟩
  intro c hc hbreak
  rw [h.unbroken c hc] at hbreak
  exact nomatch hbreak

theorem joinLines_cons (part : Text) {rest : List Text} (hne : rest ≠ []) :
    joinLines (part :: rest) = part ++ '\n' :: joinLines rest := by
  show join ['\n'] (part :: rest) = part ++ '\n' :: joinLines rest
  rw [join_cons_of_ne_nil _ part hne, List.append_assoc, List.singleton_append]

/-- Joined plain lines can stand in a comment: the line feeds between them are their only breaks. -/
theorem writable_joinLines {parts : List Text} (h : ∀ part ∈ parts, Plain part) :
    Writable (joinLines parts) := by
  induction parts with
  | nil => exact ⟨by decide, fun c hc => nomatch hc⟩
  | cons part rest ih =>
      have hpart : Writable part := (h part List.mem_cons_self).writable
      by_cases hr : rest = []
      · subst hr
        exact hpart
      · have hrest := ih fun line hline => h line (List.mem_cons_of_mem part hline)
        rw [joinLines_cons part hr]
        refine ⟨?_, ?_⟩
        · intro hclose
          exact ((infix_append_cons_iff (by decide)).mp hclose).elim hpart.1 hrest.1
        · intro c hc hbreak
          rcases List.mem_append.mp hc with hmem | hmem
          · exact hpart.2 c hmem hbreak
          · rcases List.mem_cons.mp hmem with rfl | hmem
            · rfl
            · exact hrest.2 c hmem hbreak

/-- The line shows nothing. -/
def isBlankLine (line : Text) : Bool := (trim line).isEmpty

/-- The lines without the blank ones at either end. -/
def trimLines (ls : List Text) : List Text := (ls.dropWhile isBlankLine).rdropWhile isBlankLine

theorem isBlankLine_iff {line : Text} : isBlankLine line = true ↔ trimLeft line = [] := by
  rw [isBlankLine, List.isEmpty_iff, trim_eq_nil_iff]
  exact List.dropWhile_eq_nil_iff.symm

/-- Whether a line shows something does not depend on its indentation. -/
theorem isBlankLine_of_trimLeft {line other : Text} (h : trimLeft line = trimLeft other) :
    isBlankLine line = isBlankLine other := by
  rw [Bool.eq_iff_iff, isBlankLine_iff, isBlankLine_iff, h]

/-- A blank line that ends visibly is empty. -/
theorem eq_nil_of_isBlankLine {line : Text} (htrim : trimRight line = line)
    (hblank : isBlankLine line = true) : line = [] := by
  have hall := List.dropWhile_eq_nil_iff.mp (isBlankLine_iff.mp hblank)
  rw [← htrim]
  exact List.rdropWhile_eq_nil_iff.mpr hall

theorem infix_trimLines (ls : List Text) : trimLines ls <:+: ls :=
  (List.rdropWhile_prefix _ _).isInfix.trans (List.dropWhile_suffix _).isInfix

/-- In front, blank lines go and the indentation of the first line that stays. -/
theorem trimLeft_joinLines (parts : List Text) :
    trimLeft (joinLines parts)
      = joinLines ((parts.dropWhile isBlankLine).modifyHead trimLeft) := by
  induction parts with
  | nil => rfl
  | cons part rest ih =>
      by_cases hblank : isBlankLine part = true
      · have hpart := isBlankLine_iff.mp hblank
        rw [List.dropWhile_cons_of_pos hblank]
        by_cases hr : rest = []
        · subst hr
          exact hpart
        · rw [joinLines_cons part hr, ← ih]
          show (part ++ '\n' :: joinLines rest).dropWhile isBlank = _
          rw [List.dropWhile_append_of_pos (List.dropWhile_eq_nil_iff.mp hpart)]
          rfl
      · rw [List.dropWhile_cons_of_neg hblank]
        by_cases hr : rest = []
        · subst hr
          rfl
        · show trimLeft (joinLines (part :: rest)) = joinLines (trimLeft part :: rest)
          rw [joinLines_cons part hr, joinLines_cons (trimLeft part) hr]
          show (part ++ '\n' :: joinLines rest).dropWhile isBlank = _
          rw [List.dropWhile_append, if_neg]
          · rfl
          · rw [List.isEmpty_iff]
            exact fun hnil => hblank (isBlankLine_iff.mpr hnil)

/-- At the back, blank lines go. -/
theorem trimRight_joinLines {parts : List Text} (h : ∀ part ∈ parts, trimRight part = part) :
    trimRight (joinLines parts) = joinLines (parts.rdropWhile isBlankLine) := by
  induction parts using List.reverseRecOn with
  | nil => rfl
  | append_singleton front last ih =>
      have hfront := ih fun part hpart => h part (List.mem_append_left _ hpart)
      have hlast : trimRight last = last := h last (by simp)
      by_cases hblank : isBlankLine last = true
      · rw [List.rdropWhile_concat_pos _ _ _ hblank, ← hfront,
          eq_nil_of_isBlankLine hlast hblank]
        by_cases hf : front = []
        · subst hf
          rfl
        · rw [joinLines_concat_nil hf]
          exact List.rdropWhile_concat_pos isBlank _ _ (by decide)
      · -- the last line shows something and ends the text visibly
        rw [List.rdropWhile_concat_neg _ _ _ hblank]
        refine trimRight_eq_self_iff.mpr ?_
        intro c hc
        have hne : last ≠ [] := by
          rintro rfl
          exact hblank rfl
        have hend : joinLines (front ++ [last]) = joinLines (front ++ [[]]) ++ last :=
          join_concat_append ['\n'] front [] last
        rw [hend, List.getLast?_append_of_ne_nil _ hne] at hc
        exact trimRight_eq_self_iff.mp hlast c hc

theorem trimRight_trimLeft {t : Text} (h : trimRight t = t) : trimRight (trimLeft t) = trimLeft t :=
  trimRight_of_suffix h (List.dropWhile_suffix isBlank)

/-- Taking the indentation off the first line makes no line blank, so the back goes as before. -/
theorem rdropWhile_modifyHead_trimLeft (ls : List Text) :
    (ls.modifyHead trimLeft).rdropWhile isBlankLine
      = (ls.rdropWhile isBlankLine).modifyHead trimLeft := by
  induction ls using List.reverseRecOn with
  | nil => rfl
  | append_singleton front last ih =>
      cases front with
      | nil =>
          have hsame : isBlankLine (trimLeft last) = isBlankLine last :=
            isBlankLine_of_trimLeft (List.dropWhile_idempotent isBlank last)
          show [trimLeft last].rdropWhile isBlankLine = _
          rw [List.nil_append, List.rdropWhile_singleton, List.rdropWhile_singleton, hsame]
          split <;> rfl
      | cons first rest =>
          show (trimLeft first :: rest ++ [last]).rdropWhile isBlankLine = _
          by_cases hblank : isBlankLine last = true
          · rw [List.rdropWhile_concat_pos _ _ _ hblank, List.rdropWhile_concat_pos _ _ _ hblank]
            exact ih
          · rw [List.rdropWhile_concat_neg _ _ _ hblank, List.rdropWhile_concat_neg _ _ _ hblank]
            rfl

/-- **TRIMMING JOINED LINES** drops the blank lines at either end and takes the indentation off the
    first line that is left. -/
theorem trim_joinLines {parts : List Text} (h : ∀ part ∈ parts, trimRight part = part) :
    trim (joinLines parts) = joinLines ((trimLines parts).modifyHead trimLeft) := by
  have hvisible : ∀ part ∈ (parts.dropWhile isBlankLine).modifyHead trimLeft,
      trimRight part = part := by
    intro part hpart
    have hsub : parts.dropWhile isBlankLine ⊆ parts := (List.dropWhile_suffix _).subset
    cases hback : parts.dropWhile isBlankLine with
    | nil =>
        rw [hback] at hpart
        exact nomatch hpart
    | cons first rest =>
        rw [hback] at hpart hsub
        rcases List.mem_cons.mp hpart with rfl | hmem
        · exact trimRight_trimLeft (h first (hsub List.mem_cons_self))
        · exact h part (hsub (List.mem_cons_of_mem first hmem))
  rw [trim_eq, trimLeft_joinLines, trimRight_joinLines hvisible, rdropWhile_modifyHead_trimLeft]
  rfl

/-- Cutting at line feeds undoes joining lines without them. -/
theorem fieldLines_joinLines {parts : List Text} (hne : parts ≠ [])
    (h : ∀ part ∈ parts, OneLine part) : fieldLines (joinLines parts) = parts := by
  rw [fieldLines, splitOn_join '\n' hne]
  calc parts.flatMap (splitOn '\n') = parts.flatMap fun part => [part] :=
        List.flatMap_congr fun part hpart => (h part hpart).splitOn
    _ = parts := List.flatMap_singleton' parts

theorem Plain.oneLine {line : Text} (h : Plain line) : OneLine line := fun hfeed =>
  absurd (h.unbroken '\n' hfeed) (by decide)

/-- **LINES OF A TRIMMED FIELD**: an empty one, or a stretch of the lines that were joined, the
    first of them without its indentation. -/
theorem fieldLines_trim {parts : List Text} (h : ∀ part ∈ parts, Plain part) :
    fieldLines (trim (joinLines parts)) = [[]] ∨
    ∃ first rest, first :: rest <:+: parts ∧
      fieldLines (trim (joinLines parts)) = trimLeft first :: rest := by
  rw [trim_joinLines fun part hpart => (h part hpart).trimmed]
  have hkept := infix_trimLines parts
  cases htrim : trimLines parts with
  | nil => exact Or.inl rfl
  | cons first rest =>
      rw [htrim] at hkept
      refine Or.inr ⟨first, rest, hkept, fieldLines_joinLines (List.cons_ne_nil _ _) ?_⟩
      intro part hpart
      rcases List.mem_cons.mp hpart with rfl | hmem
      · have hfirst := h first (hkept.subset List.mem_cons_self)
        exact (hfirst.of_suffix (List.dropWhile_suffix isBlank)).oneLine
      · exact (h part (hkept.subset (List.mem_cons_of_mem first hmem))).oneLine

/-! ## Tags -/

theorem head?_trim_ne_of_not_tag {line : Text} (h : isTagLine line = false) :
    (trim line).head? ≠ some '@' := by
  intro hat
  rw [isTagLine_iff.mpr hat] at h
  exact nomatch h

theorem mem_untilTag {ls : List Text} {line : Text} (h : line ∈ untilTag ls) :
    line ∈ ls ∧ isTagLine line = false := by
  refine ⟨(List.takeWhile_prefix _).subset h, ?_⟩
  simpa using List.mem_takeWhile_imp h

/-- All lines of a stretch but the first stand behind the first line of all. -/
theorem mem_of_infix_cons {first part line : Text} {rest more : List Text}
    (h : part :: rest <:+: first :: more) (hline : line ∈ rest) : line ∈ more := by
  rcases List.infix_cons_iff.mp h with hstart | hlater
  · exact (List.cons_prefix_cons.mp hstart).2.subset hline
  · exact hlater.subset (List.mem_cons_of_mem part hline)

/-- **A TAG THAT WAS READ** is well formed: its lines were trimmed one by one, and those behind the
    first are no tag lines. -/
theorem wellFormedTag_of_tagLine? {line name first : Text} {rest : List Text} (hline : Plain line)
    (hrest : ∀ l ∈ rest, Plain l) (htag : tagLine? line = some (name, first)) :
    WellFormedTag ⟨name, trim (joinLines (first :: (untilTag rest).map trim))⟩ := by
  obtain ⟨c, run, more, htrim, hc, hrun, -, rfl, rfl⟩ := tagLine?_eq_some_iff.mp htag
  have hmore : more <:+: line := by
    have hback : more <:+ trim line := by
      rw [htrim]
      exact (List.suffix_append run more).trans (List.suffix_append ['@', c] (run ++ more))
    exact hback.isInfix.trans (infix_trimBy isBlank line)
  have hplain : ∀ part ∈ trim more :: (untilTag rest).map trim, Plain part := by
    intro part hpart
    rcases List.mem_cons.mp hpart with rfl | hmem
    · exact hline.trim_piece hmore
    · obtain ⟨l, hl, rfl⟩ := List.mem_map.mp hmem
      exact (hrest l (mem_untilTag hl).1).trim_piece List.infix_rfl
  have htrimmed : ∀ part ∈ trim more :: (untilTag rest).map trim, trim part = part := by
    intro part hpart
    rcases List.mem_cons.mp hpart with rfl | hmem
    · exact trimBy_trimBy isBlank more
    · obtain ⟨l, -, rfl⟩ := List.mem_map.mp hmem
      exact trimBy_trimBy isBlank l
  have hlines := fieldLines_trim hplain
  refine ⟨⟨c, run, rfl, hc, hrun⟩, trimBy_trimBy isBlank _, ?_,
    (writable_joinLines hplain).piece (infix_trimBy isBlank _), ?_⟩
  · intro l hl
    rcases hlines with hnone | ⟨part, others, hstretch, hfield⟩
    · rw [hnone] at hl
      rw [List.mem_singleton.mp hl]
      rfl
    · have hpart := htrimmed part (hstretch.subset List.mem_cons_self)
      have hsame : trimLeft part = part := dropWhile_eq_self_of_trimBy hpart
      rw [hfield, hsame] at hl
      exact htrimmed l (hstretch.subset hl)
  · intro l hl
    rcases hlines with hnone | ⟨part, others, hstretch, hfield⟩
    · rw [hnone] at hl
      exact nomatch hl
    · rw [hfield, List.tail_cons] at hl
      obtain ⟨written, hwritten, rfl⟩ := List.mem_map.mp (mem_of_infix_cons hstretch hl)
      exact head?_trim_ne_of_not_tag (mem_untilTag hwritten).2

/-- A tag name can stand in a comment. -/
theorem WellFormedTag.writable_name {tag : Tag} (h : WellFormedTag tag) : Writable tag.name := by
  constructor
  · intro hclose
    exact (h.mem_name (hclose.subset List.mem_cons_self)).2 rfl
  · intro c hc hbreak
    have hblank := isBlank_of_isLineBreak hbreak
    rw [(h.mem_name hc).1] at hblank
    exact nomatch hblank

theorem wellFormedTag_of_mem_tagsOf {ls : List Text} (h : ∀ line ∈ ls, Plain line) {tag : Tag}
    (htag : tag ∈ tagsOf ls) : WellFormedTag tag := by
  induction ls with
  | nil => exact nomatch htag
  | cons line rest ih =>
      have hrest : ∀ l ∈ rest, Plain l := fun l hl => h l (List.mem_cons_of_mem line hl)
      cases hname : tagLine? line with
      | none =>
          rw [tagsOf_cons_of_none hname] at htag
          exact ih hrest htag
      | some pair =>
          obtain ⟨name, first⟩ := pair
          rw [tagsOf_cons_of_some hname] at htag
          rcases List.mem_cons.mp htag with rfl | hmem
          · exact wellFormedTag_of_tagLine? (h line List.mem_cons_self) hrest hname
          · exact ih hrest hmem

/-! ## Prose -/

/-- What counts on a tag line is what follows its leading blanks. -/
theorem isTagLine_of_trimLeft {line other : Text} (h : trimLeft line = trimLeft other) :
    isTagLine line = isTagLine other := by
  rw [isTagLine, isTagLine, h]

/-- The margin is blank, so a line without it goes on as before. -/
theorem trimLeft_drop_margin {ls : List Text} {line : Text} (hline : line ∈ ls) :
    trimLeft (line.drop (margin ls)) = trimLeft line := by
  have hblank : ∀ c ∈ line.take (margin ls), isBlank c = true :=
    fun c hc => isBlank_of_mem_margin hline hc
  calc trimLeft (line.drop (margin ls))
      = (line.take (margin ls) ++ line.drop (margin ls)).dropWhile isBlank :=
        (List.dropWhile_append_of_pos hblank).symm
    _ = trimLeft line := by rw [List.take_append_drop]; rfl

theorem plain_drop {ls : List Text} (h : ∀ line ∈ ls, Plain line) (width : Nat) :
    ∀ part ∈ ls.map (·.drop width), Plain part := by
  intro part hpart
  obtain ⟨line, hline, rfl⟩ := List.mem_map.mp hpart
  exact (h line hline).of_suffix (List.drop_suffix width line)

/-- The lines of a description are lines of the prose that lost blanks in front. -/
theorem mem_fieldLines_withoutMargin {ls : List Text} (h : ∀ line ∈ ls, Plain line)
    (hls : Untagged ls) {line : Text} (hline : line ∈ fieldLines (withoutMargin ls)) :
    trimRight line = line ∧ isTagLine line = false := by
  have hplain := plain_drop h (margin ls)
  have huntagged : ∀ part ∈ ls.map (·.drop (margin ls)), isTagLine part = false := by
    intro part hpart
    obtain ⟨l, hl, rfl⟩ := List.mem_map.mp hpart
    rw [isTagLine_of_trimLeft (trimLeft_drop_margin hl)]
    exact hls l hl
  rcases fieldLines_trim hplain with hnone | ⟨first, rest, hstretch, hfield⟩
  · rw [withoutMargin, hnone] at hline
    rw [List.mem_singleton.mp hline]
    decide
  · rw [withoutMargin, hfield] at hline
    rcases List.mem_cons.mp hline with rfl | hmem
    · have hfirst : first ∈ ls.map (·.drop (margin ls)) := hstretch.subset List.mem_cons_self
      refine ⟨trimRight_trimLeft (hplain first hfirst).trimmed, ?_⟩
      have hsame := isTagLine_of_trimLeft (List.dropWhile_idempotent isBlank first)
      exact hsame.trans (huntagged first hfirst)
    · have hline : line ∈ ls.map (·.drop (margin ls)) :=
        hstretch.subset (List.mem_cons_of_mem first hmem)
      exact ⟨(hplain line hline).trimmed, huntagged line hline⟩

theorem writable_withoutMargin {ls : List Text} (h : ∀ line ∈ ls, Plain line) :
    Writable (withoutMargin ls) :=
  (writable_joinLines (plain_drop h (margin ls))).piece (infix_trimBy isBlank _)

/-- A headline is a piece of its line. -/
theorem infix_headline (line : Text) : headline line <:+: line :=
  (infix_trimBy _ _).trans (infix_trimBy isBlank line)

/-- A headline has none of the characters that it was trimmed of at its ends. -/
theorem headline_ends (line : Text) :
    (∀ c, (headline line).head? = some c → c ∉ [' ', '\t', '*']) ∧
      ∀ c, (headline line).getLast? = some c → c ∉ [' ', '\t', '*'] := by
  have hstray : ∀ c, (c == ' ' || c == '\t' || c == '*') = false → c ∉ [' ', '\t', '*'] := by
    intro c hc
    simpa [and_assoc] using hc
  obtain ⟨hhead, hlast⟩ := trimBy_eq_self_iff.mp
    (trimBy_trimBy (fun c => c == ' ' || c == '\t' || c == '*') (trim line))
  exact ⟨fun c hc => hstray c (hhead c hc), fun c hc => hstray c (hlast c hc)⟩

/-- Plain lines give a comment of the shape. -/
theorem shape_ofLines {ls : List Text} (h : ∀ line ∈ ls, Plain line) : Shape (ofLines ls) := by
  have hprose : ∀ line ∈ untilTag ls, Plain line := fun line hline => h line (mem_untilTag hline).1
  have huntagged : Untagged (untilTag ls) := fun line hline => (mem_untilTag hline).2
  have htags : ∀ tag ∈ tagsOf ls, WellFormedTag tag ∧ Writable tag.name := by
    intro tag htag
    have hformed := wellFormedTag_of_mem_tagsOf h htag
    exact ⟨hformed, hformed.writable_name⟩
  show Shape ⟨(splitSummary (untilTag ls)).1, withoutMargin (splitSummary (untilTag ls)).2, tagsOf ls⟩
  have hsplit := prose_splitSummary (untilTag ls)
  generalize untilTag ls = prose at *
  generalize (splitSummary prose).1 = summary, withoutMargin (splitSummary prose).2 = description at *
  cases hsplit with
  | silent _ =>
      have hnothing : trim [] = [] ∧ Writable [] ∧
          ∀ line ∈ fieldLines [], trimRight line = line ∧ (trim line).head? ≠ some '@' := by
        decide
      exact ⟨nofun, fun hne => absurd rfl hne, hnothing, htags⟩
  | @spoken before line after _ hline =>
      have hplain : Plain line := hprose line (by simp)
      have hafter : ∀ l ∈ after, Plain l := fun l hl => hprose l (by simp [hl])
      refine ⟨?_, nofun, ⟨trimBy_trimBy isBlank _, writable_withoutMargin hafter, ?_⟩, htags⟩
      · rintro s ⟨⟩
        refine ⟨hline, fun c hc => hplain.unbroken c ((infix_headline line).subset hc),
          fun hclose => hplain.open_ (hclose.trans (infix_headline line)), headline_ends line⟩
      · intro l hl
        obtain ⟨hvisible, hno⟩ := mem_fieldLines_withoutMargin hafter
          (fun l hl => huntagged l (by simp [hl])) hl
        exact ⟨hvisible, head?_trim_ne_of_not_tag hno⟩

/-- **THE SHAPE OF WHAT IS READ**: the fields of every comment that can be read have it. -/
theorem parse_shape {raw : Text} {doc : Comment} (h : parse raw = .ok doc) : Shape doc := by
  obtain ⟨ls, hbody, -, rfl⟩ := parse_eq_ok_iff.mp h
  exact shape_ofLines (plain_of_body hbody)

/-- A comment with outer stars around its summary, three kinds of line breaks, an indented
    description and a value that begins two lines below its tag. -/
theorem parse_shape_ragged :
    parse "/** ** Sum *\u2028 *\r\n *   two \n *    one\n *\n * @see\n *\n *  x \n *   y\n */".toList
      = .ok ⟨some "Sum".toList, "two\n one".toList, [⟨"@see".toList, "x\ny".toList⟩]⟩ ∧
    Shape ⟨some "Sum".toList, "two\n one".toList, [⟨"@see".toList, "x\ny".toList⟩]⟩ := by
  have h : parse
      "/** ** Sum *\u2028 *\r\n *   two \n *    one\n *\n * @see\n *\n *  x \n *   y\n */".toList
      = .ok ⟨some "Sum".toList, "two\n one".toList, [⟨"@see".toList, "x\ny".toList⟩]⟩ := by cbv
  exact ⟨h, parse_shape h⟩

end DocAudit.Comment
