import DocAudit.Proofs.Comment.Segmentation

/-! # One pass — reading line by line gives the same

    A reader that goes through the lines ONCE keeps the summary, the lines of the
    description, the tags that are finished and one tag that is still open; an open tag
    is finished by the next tag line or by the end.

    `Reads` relates its state to the lines already seen: the open tag stands at the
    LAST tag line among them.  One line keeps the relation (`reads_step`), hence so
    does a whole run (`reads_run`), and at the end the state is the comment that the
    lines are cut into.  Errors agree too: both readers stop at the first
    tag line without a name. -/

namespace DocAudit.Comment

open Text

/-- What a reader that goes line by line has read. -/
structure Scan where
  summary : Option Text := none
  description : List Text := []
  tags : List Tag := []
  /-- The name of the tag that is still open and the lines of its value. -/
  pending : Option (Text × List Text) := none

namespace Scan

/-- The tags with the open one finished. -/
def flush (s : Scan) : List Tag :=
  match s.pending with
  | none => s.tags
  | some (name, value) => s.tags ++ [⟨name, trim (joinLines value)⟩]

/-- Read the line with this number. -/
def step (number : Nat) (s : Scan) (line : Text) : Except Fault Scan :=
  if isTagLine line then
    match tagLine? line with
    | none => .error (.badTag ((trim line).takeWhile fun c => !isBlank c) number)
    | some (name, first) => .ok { s with tags := s.flush, pending := some (name, [first]) }
  else
    match s.pending, s.summary with
    | some (name, value), _ => .ok { s with pending := some (name, value ++ [trim line]) }
    | none, some _ => .ok { s with description := s.description ++ [line] }
    | none, none =>
        if headline line = [] then .ok s else .ok { s with summary := some (headline line) }

/-- Read lines, the first of which has this number. -/
def run (number : Nat) (s : Scan) : List Text → Except Fault Scan
  | [] => .ok s
  | line :: rest =>
      match s.step number line with
      | .error fault => .error fault
      | .ok s => run (number + 1) s rest

/-- The comment that has been read. -/
def finish (s : Scan) : Comment := ⟨s.summary, withoutMargin s.description, s.flush⟩

end Scan

/-- Read a comment in one pass over its lines. -/
def readOnce (raw : Text) : Except Fault Comment :=
  match body raw with
  | .error fault => .error fault
  | .ok ls => (Scan.run 1 {} ls).map Scan.finish

/-! ## Lines added at the end -/

/-- Until a line has a headline, the summary is looked for further on. -/
theorem splitSummary_append_of_none {front : List Text} (h : (splitSummary front).1 = none)
    (rest : List Text) : splitSummary (front ++ rest) = splitSummary rest := by
  induction front with
  | nil => rfl
  | cons line front ih =>
      by_cases hline : headline line = []
      · rw [splitSummary_cons_of_nil hline] at h
        rw [List.cons_append, splitSummary_cons_of_nil hline, ih h]
      · rw [splitSummary_cons_of_ne_nil hline] at h
        exact nomatch h

/-- Behind the summary every line belongs to the description. -/
theorem splitSummary_append_of_some {front : List Text} {summary : Text}
    (h : (splitSummary front).1 = some summary) (rest : List Text) :
    splitSummary (front ++ rest) = (some summary, (splitSummary front).2 ++ rest) := by
  induction front with
  | nil => exact nomatch h
  | cons line front ih =>
      by_cases hline : headline line = []
      · rw [splitSummary_cons_of_nil hline] at h
        rw [List.cons_append, splitSummary_cons_of_nil hline, splitSummary_cons_of_nil hline, ih h]
      · rw [splitSummary_cons_of_ne_nil hline] at h
        rw [List.cons_append, splitSummary_cons_of_ne_nil hline, splitSummary_cons_of_ne_nil hline]
        exact Prod.ext h rfl

/-- Without a summary there is no description. -/
theorem splitSummary_snd_of_none {ls : List Text} (h : (splitSummary ls).1 = none) :
    (splitSummary ls).2 = [] := by
  have := splitSummary_append_of_none h []
  rw [List.append_nil] at this
  rw [this]
  rfl

/-! ## The invariant -/

/-- The state of the reader after the lines `seen`. -/
structure Reads (seen : List Text) (s : Scan) : Prop where
  summary : s.summary = (splitSummary (untilTag seen)).1
  description : s.description = (splitSummary (untilTag seen)).2
  /-- Without an open tag, no tag line has been seen. -/
  prose : s.pending = none → Untagged seen ∧ s.tags = []
  /-- An open tag stands at the last tag line. -/
  tagged : ∀ name value, s.pending = some (name, value) →
    ∃ before line after first, seen = before ++ line :: after ∧
      tagLine? line = some (name, first) ∧ Untagged after ∧
      value = first :: after.map trim ∧ s.tags = tagsOf before

/-- Finishing the open tag gives the tags of the lines seen. -/
theorem Reads.flush {seen : List Text} {s : Scan} (h : Reads seen s) : s.flush = tagsOf seen := by
  rw [Scan.flush]
  cases hp : s.pending with
  | none =>
      obtain ⟨huntagged, htags⟩ := h.prose hp
      rw [htags, tagsOf_of_untagged huntagged]
  | some pair =>
      obtain ⟨name, value⟩ := pair
      obtain ⟨before, line, after, first, rfl, htag, hafter, rfl, htags⟩ := h.tagged name value hp
      rw [tagsOf_append_tag (isTagLine_of_tagLine? htag), tagsOf_cons_of_some htag,
        tagsOf_of_untagged hafter, untilTag_of_untagged hafter, htags]

/-- A tag line finishes the open tag and opens its own. -/
theorem Reads.openTag {seen : List Text} {s : Scan} (h : Reads seen s) {line name first : Text}
    (htag : tagLine? line = some (name, first)) :
    Reads (seen ++ [line]) { s with tags := s.flush, pending := some (name, [first]) } := by
  have huntil := untilTag_append_tag (isTagLine_of_tagLine? htag) seen []
  refine ⟨?_, ?_, ?_, ?_⟩
  · rw [huntil]
    exact h.summary
  · rw [huntil]
    exact h.description
  · intro hnone
    exact nomatch hnone
  · intro name' value' hsome
    obtain ⟨rfl, rfl⟩ := Prod.mk.inj (Option.some.inj hsome)
    exact ⟨seen, line, [], first, rfl, htag, fun l hl => (nomatch hl), rfl, h.flush⟩

/-- Another line goes to the open tag. -/
theorem Reads.continueTag {seen : List Text} {s : Scan} (h : Reads seen s) {line : Text}
    (hline : isTagLine line = false) {name : Text} {value : List Text}
    (hp : s.pending = some (name, value)) :
    Reads (seen ++ [line]) { s with pending := some (name, value ++ [trim line]) } := by
  obtain ⟨before, tagLine, after, first, rfl, htag, hafter, rfl, htags⟩ := h.tagged name value hp
  have htagLine := isTagLine_of_tagLine? htag
  -- the prose ended at the open tag or earlier, so a line behind it changes none of it
  have huntil : untilTag (before ++ tagLine :: after ++ [line])
      = untilTag (before ++ tagLine :: after) := by
    rw [List.append_assoc, List.cons_append, untilTag_append_tag htagLine,
      untilTag_append_tag htagLine]
  refine ⟨?_, ?_, ?_, ?_⟩
  · rw [huntil]
    exact h.summary
  · rw [huntil]
    exact h.description
  · intro hnone
    exact nomatch hnone
  · intro name' value' hsome
    obtain ⟨rfl, rfl⟩ := Prod.mk.inj (Option.some.inj hsome)
    refine ⟨before, tagLine, after ++ [line], first, ?_, htag, hafter.concat hline, ?_, htags⟩
    · rw [List.append_assoc, List.cons_append]
    · rw [List.map_append, List.map_singleton, List.cons_append]

/-- As long as no tag line has been seen, the next line goes to the prose. -/
theorem Reads.continueProse {seen : List Text} {s s' : Scan} (h : Reads seen s) {line : Text}
    (hline : isTagLine line = false) (hp : s.pending = none) (hp' : s'.pending = none)
    (htags' : s'.tags = s.tags) (hsum : s'.summary = (splitSummary (seen ++ [line])).1)
    (hdesc : s'.description = (splitSummary (seen ++ [line])).2) :
    Reads (seen ++ [line]) s' := by
  obtain ⟨huntagged, htags⟩ := h.prose hp
  have hall : Untagged (seen ++ [line]) := huntagged.concat hline
  have huntil : untilTag (seen ++ [line]) = seen ++ [line] := untilTag_of_untagged hall
  refine ⟨?_, ?_, ?_, ?_⟩
  · rw [huntil, hsum]
  · rw [huntil, hdesc]
  · intro _
    exact ⟨hall, htags'.trans htags⟩
  · intro name value hsome
    rw [hp'] at hsome
    exact nomatch hsome

/-! ## Steps and runs -/

/-- **ONE STEP** keeps the relation, or stops at a tag line without a name. -/
theorem reads_step {seen : List Text} {s : Scan} (h : Reads seen s) (number : Nat) (line : Text) :
    (isTagLine line = true ∧ tagLine? line = none ∧
      s.step number line
        = .error (.badTag ((trim line).takeWhile fun c => !isBlank c) number)) ∨
    ((isTagLine line = true → ∃ name first, tagLine? line = some (name, first)) ∧
      ∃ s', s.step number line = .ok s' ∧ Reads (seen ++ [line]) s') := by
  rw [Scan.step]
  cases hline : isTagLine line with
  | true =>
      rw [if_pos rfl]
      cases htag : tagLine? line with
      | none => exact Or.inl ⟨rfl, rfl, rfl⟩
      | some pair =>
          obtain ⟨name, first⟩ := pair
          exact Or.inr ⟨fun _ => ⟨name, first, rfl⟩, _, rfl, h.openTag htag⟩
  | false =>
      rw [if_neg (by simp)]
      refine Or.inr ⟨fun hbad => (nomatch hbad), ?_⟩
      cases hp : s.pending with
      | some pair =>
          obtain ⟨name, value⟩ := pair
          exact ⟨_, rfl, h.continueTag hline hp⟩
      | none =>
          have huntil : untilTag seen = seen := untilTag_of_untagged (h.prose hp).1
          have hsummary := h.summary
          have hdescription := h.description
          rw [huntil] at hsummary hdescription
          cases hs : s.summary with
          | some summary =>
              have hnext := splitSummary_append_of_some (hsummary.symm.trans hs) [line]
              refine ⟨_, rfl, h.continueProse hline hp rfl rfl ?_ ?_⟩
              · rw [hnext]
              · rw [hnext, ← hdescription]
          | none =>
              have hnone := hsummary.symm.trans hs
              have hnext := splitSummary_append_of_none hnone [line]
              have hempty := hdescription.trans (splitSummary_snd_of_none hnone)
              -- the summary is still looked for: this line gives it or is passed over
              by_cases hhead : headline line = []
              · rw [splitSummary_cons_of_nil hhead] at hnext
                refine ⟨s, if_pos hhead, h.continueProse hline hp hp rfl ?_ ?_⟩
                · rw [hnext]
                  exact hs
                · rw [hnext]
                  exact hempty
              · rw [splitSummary_cons_of_ne_nil hhead] at hnext
                refine ⟨_, if_neg hhead, h.continueProse hline hp rfl rfl ?_ ?_⟩
                · rw [hnext]
                · rw [hnext]
                  exact hempty

/-- **A RUN** keeps the relation, or stops at the first tag line without a name. -/
theorem reads_run {seen : List Text} {s : Scan} (h : Reads seen s) (number : Nat)
    (rest : List Text) :
    (∃ fault, badTag? number rest = some fault ∧ s.run number rest = .error fault) ∨
      (badTag? number rest = none ∧
        ∃ s', s.run number rest = .ok s' ∧ Reads (seen ++ rest) s') := by
  induction rest generalizing seen s number with
  | nil => exact Or.inr ⟨rfl, s, rfl, by rwa [List.append_nil]⟩
  | cons line rest ih =>
      rw [badTag?, Scan.run]
      rcases reads_step h number line with ⟨hline, htag, hstep⟩ | ⟨hnamed, s', hstep, hreads⟩
      · rw [if_pos (by simp [hline, htag]), hstep]
        exact Or.inl ⟨_, rfl, rfl⟩
      · have hgood : ¬ (isTagLine line && (tagLine? line).isNone) = true := by
          intro hbad
          rw [Bool.and_eq_true] at hbad
          obtain ⟨name, first, htag⟩ := hnamed hbad.1
          rw [htag, Option.isNone_some] at hbad
          exact Bool.false_ne_true hbad.2
        rw [if_neg hgood, hstep]
        have hrest := ih hreads (number + 1)
        rw [List.append_assoc, List.singleton_append] at hrest
        exact hrest

/-- Before the first line nothing has been read. -/
theorem reads_nil : Reads [] {} where
  summary := rfl
  description := rfl
  prose := fun _ => ⟨fun _ hline => (nomatch hline), rfl⟩
  tagged := fun _ _ hsome => (nomatch hsome)

/-- After the last line the state is the comment that the lines are cut into. -/
theorem Reads.finish {ls : List Text} {s : Scan} (h : Reads ls s) : s.finish = ofLines ls := by
  rw [Scan.finish, h.summary, h.description, h.flush]
  rfl

/-- **ONE PASS IS ENOUGH**: reading line by line gives the comment, or the fault, that cutting
    the lines into segments gives. -/
theorem parse_eq_readOnce (raw : Text) : parse raw = readOnce raw := by
  rw [parse, readOnce]
  cases body raw with
  | error fault => rfl
  | ok ls =>
      rcases reads_run reads_nil 1 ls with ⟨fault, hbad, hrun⟩ | ⟨hbad, s, hrun, hreads⟩
      · simp only [hbad, hrun]
        rfl
      · simp only [hbad, hrun]
        exact congrArg Except.ok hreads.finish.symm

end DocAudit.Comment
