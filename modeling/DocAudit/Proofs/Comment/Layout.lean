import DocAudit.Proofs.Comment.OnePass
import DocAudit.Proofs.Comment.RoundTrip

/-! # Layout — the same lines, laid out differently

    A comment written with one star per line leaves some freedom: how far each star is indented,
    how each line ends, and what blanks stand around the whole.  `Layout` is one such choice, and
    none of it is read: two layouts of the same contents give the SAME OUTCOME, the comment or the
    fault with its line (`parse_layout`).

    Indentation goes with the decoration, and a line ending is one break whichever it is.  What
    remains is the indentation of the closing mark.  It makes one more line if there is any, an
    EMPTY one at the end, and such a line changes nothing (`readLines_concat_nil`). -/

namespace DocAudit.Comment

open Text

/-- The text holds nothing but blanks. -/
def Blank (t : Text) : Prop := ∀ c ∈ t, isBlank c = true

instance (t : Text) : Decidable (Blank t) := List.decidableBAll (fun c => isBlank c = true) t

/-- The usual ways to end a line. -/
inductive LineEnding where
  | lf
  | crlf
  | cr

def LineEnding.text : LineEnding → Text
  | .lf => ['\n']
  | .crlf => ['\r', '\n']
  | .cr => ['\r']

/-- Blanks that stay on their line. -/
structure Indent where
  text : Text
  blank : Blank text
  unbroken : Unbroken text

/-- One line: what stands before its star, what stands behind, and how it ends. -/
structure Row where
  indent : Indent
  content : Text
  ending : LineEnding
  unbroken : Unbroken content

/-- The line without its ending. -/
def Row.line (row : Row) : Text := row.indent.text ++ '*' :: row.content

def Row.text (row : Row) : Text := row.line ++ row.ending.text

/-- A comment with one star per line, as it is laid out. -/
structure Layout where
  /-- What stands before the comment. -/
  before : Text
  /-- What stands behind the comment. -/
  after : Text
  /-- How the line of the opening mark ends. -/
  opened : LineEnding
  rows : List Row
  /-- What stands before the closing mark on its line. -/
  last : Indent
  before_blank : Blank before
  after_blank : Blank after

namespace Layout

/-- What the lines say. -/
def contents (l : Layout) : List Text := l.rows.map Row.content

/-- What stands between the marks. -/
def inside (l : Layout) : Text := l.opened.text ++ (l.rows.flatMap Row.text ++ l.last.text)

def text (l : Layout) : Text := l.before ++ (opening ++ l.inside ++ closing) ++ l.after

end Layout

/-! ## Cutting at line endings -/

/-- A line ending is one break, whichever it is, unless a line feed follows to join it. -/
theorem lines_lineEnding (ending : LineEnding) {rest : Text} (h : rest.head? ≠ some '\n') :
    lines (ending.text ++ rest) = [] :: lines rest := by
  cases ending with
  | lf => rfl
  | crlf => rfl
  | cr =>
      show lines ('\r' :: rest) = [] :: lines rest
      rw [lines, if_pos (by decide)]
      rintro more - rfl
      exact h rfl

/-- A line that holds no break is ended by any line ending. -/
theorem lines_append_lineEnding {line : Text} (hline : Unbroken line) (ending : LineEnding)
    {rest : Text} (h : rest.head? ≠ some '\n') :
    lines (line ++ ending.text ++ rest) = line :: lines rest := by
  rw [List.append_assoc, lines_append_of_unbroken hline (lines_lineEnding ending h),
    List.append_nil]

theorem head?_ne_feed_of_unbroken {t : Text} (h : Unbroken t) : t.head? ≠ some '\n' := by
  intro hfeed
  exact absurd (h '\n' (List.mem_of_mem_head? hfeed)) (by decide)

theorem Row.unbroken_line (row : Row) : Unbroken row.line := by
  intro c hc
  rcases List.mem_append.mp hc with hindent | hrest
  · exact row.indent.unbroken c hindent
  · rcases List.mem_cons.mp hrest with rfl | hcontent
    · decide
    · exact row.unbroken c hcontent

/-- No row begins with a line feed, so what stands in front of it ends as it is. -/
theorem head?_rows_ne_feed (rows : List Row) (last : Indent) :
    (rows.flatMap Row.text ++ last.text).head? ≠ some '\n' := by
  cases rows with
  | nil => exact head?_ne_feed_of_unbroken last.unbroken
  | cons row rest =>
      have hne : row.line ≠ [] := by simp [Row.line]
      rw [List.flatMap_cons, Row.text, List.append_assoc, List.append_assoc,
        List.head?_append_of_ne_nil _ hne]
      exact head?_ne_feed_of_unbroken row.unbroken_line

/-- **THE LINES OF A LAYOUT** are those of its rows, and what stands before the closing mark. -/
theorem lines_rows (rows : List Row) (last : Indent) :
    lines (rows.flatMap Row.text ++ last.text) = rows.map Row.line ++ lines last.text := by
  induction rows with
  | nil => rfl
  | cons row rest ih =>
      rw [List.flatMap_cons, Row.text, List.append_assoc,
        lines_append_lineEnding row.unbroken_line row.ending (head?_rows_ne_feed rest last), ih]
      rfl

/-! ## Taking the decoration off -/

/-- Behind its star a line is read the same, whatever blanks stand before it. -/
theorem undecorate_indent (indent : Indent) (content : Text) :
    undecorate (indent.text ++ '*' :: content) = undecorate ('*' :: content) := by
  have hstar : ∀ front, trimRight (front ++ '*' :: content) = front ++ '*' :: trimRight content := by
    intro front
    have hvisible : trimRight (front ++ ['*']) = front ++ ['*'] := by
      refine trimRight_eq_self_iff.mpr ?_
      intro c hc
      obtain rfl : '*' = c := Option.some.inj (List.getLast?_concat.symm.trans hc)
      decide
    rw [List.append_cons, trimRight_append_of_visible hvisible, ← List.append_cons]
  have hleft : ∀ front, Blank front →
      trimLeft (trimRight (front ++ '*' :: content)) = '*' :: trimRight content := by
    intro front hfront
    rw [hstar]
    exact (List.dropWhile_append_of_pos hfront).trans (List.dropWhile_cons_of_neg (by decide))
  have hbare : trimLeft (trimRight ('*' :: content)) = '*' :: trimRight content :=
    hleft [] fun c hc => nomatch hc
  rw [undecorate, undecorate, hleft indent.text indent.blank, hbare]
  -- both begin with a star, so neither is left as it is
  split
  · rfl
  · rfl
  · rename_i hnone
    exact absurd rfl (hnone _)

/-- What stands before the closing mark is an empty line, or none. -/
theorem undecorate_last (last : Indent) :
    (lines last.text).map undecorate = [] ∨ (lines last.text).map undecorate = [[]] := by
  by_cases hlast : last.text = []
  · rw [hlast]
    exact Or.inl rfl
  · have hempty : trimRight last.text = [] := List.rdropWhile_eq_nil_iff.mpr last.blank
    rw [lines_of_unbroken last.unbroken hlast, List.map_singleton, undecorate, hempty]
    exact Or.inr rfl

/-! ## An empty line at the end -/

theorem closedEarly?_concat_nil (number : Nat) (ls : List Text) :
    closedEarly? number (ls ++ [[]]) = closedEarly? number ls := by
  induction ls generalizing number with
  | nil => rfl
  | cons line rest ih => rw [List.cons_append, closedEarly?, closedEarly?, ih]

theorem badTag?_concat_nil (number : Nat) (ls : List Text) :
    badTag? number (ls ++ [[]]) = badTag? number ls := by
  induction ls generalizing number with
  | nil => rfl
  | cons line rest ih => rw [List.cons_append, badTag?, badTag?, ih]

/-- The empty line belongs to the stretch before the next tag, if no tag line comes first. -/
theorem untilTag_concat_nil (ls : List Text) :
    ∃ rest, (rest = [] ∨ rest = [[]]) ∧ untilTag (ls ++ [[]]) = untilTag ls ++ rest := by
  induction ls with
  | nil => exact ⟨[[]], Or.inr rfl, rfl⟩
  | cons line more ih =>
      cases hline : isTagLine line with
      | true =>
          refine ⟨[], Or.inl rfl, ?_⟩
          rw [List.cons_append, untilTag_cons_of_tag hline, untilTag_cons_of_tag hline]
          rfl
      | false =>
          obtain ⟨rest, hrest, huntil⟩ := ih
          refine ⟨rest, hrest, ?_⟩
          rw [List.cons_append, untilTag_cons_of_not_tag hline, untilTag_cons_of_not_tag hline,
            huntil]
          rfl

theorem tagsOf_concat_nil (ls : List Text) : tagsOf (ls ++ [[]]) = tagsOf ls := by
  induction ls with
  | nil => rfl
  | cons line more ih =>
      rw [List.cons_append]
      cases htag : tagLine? line with
      | none => rw [tagsOf_cons_of_none htag, tagsOf_cons_of_none htag, ih]
      | some pair =>
          obtain ⟨name, first⟩ := pair
          obtain ⟨rest, hrest, huntil⟩ := untilTag_concat_nil more
          have hkept : rest.map trim = rest := by
            rcases hrest with rfl | rfl <;> rfl
          rw [tagsOf_cons_of_some htag, tagsOf_cons_of_some htag, ih, huntil, List.map_append, hkept,
            ← List.cons_append, trim_joinLines_append (List.cons_ne_nil _ _) hrest]

/-- An empty line has no part in the margin and is trimmed off. -/
theorem withoutMargin_concat_nil (ls : List Text) :
    withoutMargin (ls ++ [[]]) = withoutMargin ls := by
  by_cases hls : ls = []
  · subst hls
    rfl
  · have hmargin : margin (ls ++ [[]]) = margin ls := by
      have hnone : ([[]] : List Text).filter (fun line => !(trim line).isEmpty) = [] := rfl
      rw [margin, margin, List.filter_append, hnone, List.append_nil]
    rw [withoutMargin, withoutMargin, hmargin, List.map_append, List.map_singleton, List.drop_nil]
    exact trim_joinLines_append (by simpa using hls) (Or.inr rfl)

/-- The empty line is no summary, and it adds nothing to a description. -/
theorem splitSummary_concat_nil (ls : List Text) :
    (splitSummary (ls ++ [[]])).1 = (splitSummary ls).1 ∧
      withoutMargin (splitSummary (ls ++ [[]])).2 = withoutMargin (splitSummary ls).2 := by
  cases hsummary : (splitSummary ls).1 with
  | none =>
      rw [splitSummary_append_of_none hsummary, splitSummary_snd_of_none hsummary]
      exact ⟨rfl, rfl⟩
  | some summary =>
      rw [splitSummary_append_of_some hsummary]
      exact ⟨rfl, withoutMargin_concat_nil _⟩

theorem ofLines_concat_nil (ls : List Text) : ofLines (ls ++ [[]]) = ofLines ls := by
  obtain ⟨rest, hrest, huntil⟩ := untilTag_concat_nil ls
  have hprose : (splitSummary (untilTag (ls ++ [[]]))).1 = (splitSummary (untilTag ls)).1 ∧
      withoutMargin (splitSummary (untilTag (ls ++ [[]]))).2
        = withoutMargin (splitSummary (untilTag ls)).2 := by
    rw [huntil]
    rcases hrest with rfl | rfl
    · rw [List.append_nil]
      exact ⟨rfl, rfl⟩
    · exact splitSummary_concat_nil _
  show Comment.mk _ _ _ = Comment.mk _ _ _
  rw [hprose.1, hprose.2, tagsOf_concat_nil]

/-- **AN EMPTY LINE AT THE END** changes neither the comment nor the fault. -/
theorem readLines_concat_nil {ls : List Text} (h : ls ≠ []) :
    readLines (ls ++ [[]]) = readLines ls := by
  rw [readLines, readLines, closedEarly?_concat_nil, joinLines_concat_nil h,
    inlineOpen?_concat_feed, badTag?_concat_nil, ofLines_concat_nil]

/-! ## The whole comment -/

/-- **WHAT IS READ OF A LAYOUT**: an empty line for the opening mark, and what each line says behind
    its star. -/
theorem Layout.parse_text (l : Layout) :
    parse l.text = readLines ([] :: l.contents.map fun content => undecorate ('*' :: content)) := by
  have hmarked : trim l.text = opening ++ l.inside ++ closing := by
    rw [Layout.text, trim_blank_after l.after_blank, trim_append_of_blank l.before_blank,
      trim_marked]
  have hrows : (l.rows.map Row.line).map undecorate
      = l.contents.map fun content => undecorate ('*' :: content) := by
    rw [Layout.contents, List.map_map, List.map_map]
    exact List.map_congr_left fun row _ => undecorate_indent row.indent row.content
  have hbody : (lines l.inside).map undecorate
      = ([] :: l.contents.map fun content => undecorate ('*' :: content))
        ++ (lines l.last.text).map undecorate := by
    rw [Layout.inside, lines_lineEnding _ (head?_rows_ne_feed _ _), lines_rows, List.map_cons,
      List.map_append, hrows]
    rfl
  rw [parse_eq_readLines hmarked, hbody]
  rcases undecorate_last l.last with hnone | hempty
  · rw [hnone, List.append_nil]
  · rw [hempty, readLines_concat_nil (List.cons_ne_nil _ _)]

/-- **LAYOUT IS NOT READ**: the same contents give the same comment or the same fault, however they
    are indented, however their lines end, and whatever blanks stand around them.  What is read is
    an empty line for the opening mark and each content without its one space. -/
theorem parse_layout {l l' : Layout} (h : l.contents = l'.contents) :
    parse l.text = parse l'.text ∧
      parse l.text
        = readLines ([] :: l.contents.map fun content => undecorate ('*' :: content)) := by
  refine ⟨?_, l.parse_text⟩
  rw [l.parse_text, l'.parse_text, h]

/-- Two lines in the usual layout, and in one that mixes indentations and line endings. -/
theorem parse_layout_mixed :
    ∃ l l' : Layout,
      l.text = "/**\n * Sum.\n * @return int\n */".toList ∧
      l'.text = "\n\t/**\r\n\t \t* Sum.\r* @return int\r\n*/\r".toList ∧
      l.contents = l'.contents ∧ parse l.text = parse l'.text ∧
      parse l.text = .ok ⟨some "Sum.".toList, [], [⟨"@return".toList, "int".toList⟩]⟩ := by
  let space : Indent := ⟨[' '], by decide, by decide⟩
  let tabs : Indent := ⟨['\t', ' ', '\t'], by decide, by decide⟩
  let flush : Indent := ⟨[], by decide, by decide⟩
  have hsummary : Unbroken " Sum.".toList := by decide
  have htag : Unbroken " @return int".toList := by decide
  let l : Layout := ⟨[], [], .lf, [⟨space, _, .lf, hsummary⟩, ⟨space, _, .lf, htag⟩], space,
    by decide, by decide⟩
  let l' : Layout := ⟨['\n', '\t'], ['\r'], .crlf,
    [⟨tabs, _, .cr, hsummary⟩, ⟨flush, _, .crlf, htag⟩], flush, by decide, by decide⟩
  have hsame : l.contents = l'.contents := rfl
  exact ⟨l, l', rfl, rfl, hsame, (parse_layout hsame).1, by cbv⟩

end DocAudit.Comment
