import DocAudit.Proofs.Text.Lines
import DocAudit.Proofs.Text.Trim

/-! # Words — what is left when blanks do not count

    A text is cut into words at its blanks, whatever these are and however many stand together
    (`words_append_blank`).  So two texts with the same words hold the same stretches WITHOUT a
    blank, and if both end visibly, the same stretches go up to SOME blank in both.  Which
    blank it is, the words do not tell.

    Setting single spaces keeps the words and leaves the space as the only blank. -/

namespace DocAudit.Text

variable {s t w : Text} {b : Char}

/-- The text holds no blank. -/
def Solid (t : Text) : Prop := ∀ c ∈ t, isBlank c = false

instance (t : Text) : Decidable (Solid t) := List.decidableBAll (fun c => isBlank c = false) t

@[simp] theorem solid_nil : Solid [] := fun _ hc => nomatch hc

@[simp] theorem solid_cons {c : Char} : Solid (c :: t) ↔ isBlank c = false ∧ Solid t :=
  List.forall_mem_cons

theorem solid_append : Solid (s ++ t) ↔ Solid s ∧ Solid t := List.forall_mem_append

theorem Solid.not_mem (h : Solid t) (hb : isBlank b = true) : b ∉ t := fun hmem =>
  absurd (h b hmem) (by simp [hb])

/-- **INDUCTION OVER BLANKS**: a text has no blank, or it goes up to its first one and on. -/
@[elab_as_elim]
theorem blank_induction {motive : Text → Prop} (solid : ∀ s, Solid s → motive s)
    (blank : ∀ s b r, Solid s → isBlank b = true → motive r → motive (s ++ b :: r)) (t : Text) :
    motive t := by
  -- the characters since the last blank are carried along
  suffices h : ∀ s, Solid s → motive (s ++ t) from h [] solid_nil
  induction t with
  | nil =>
      intro s hs
      rw [List.append_nil]
      exact solid s hs
  | cons c rest ih =>
      intro s hs
      by_cases hc : isBlank c = true
      · exact blank s c rest hs hc (ih [] solid_nil)
      · rw [List.append_cons]
        exact ih (s ++ [c]) (solid_append.mpr ⟨hs, by simpa using hc⟩)

/-! ## Visible ends -/

theorem Solid.trimRight (h : Solid t) : trimRight t = t :=
  trimRight_eq_self_iff.mpr fun c hc => h c (List.mem_of_getLast? hc)

/-- What ends with a text that ends visibly ends visibly. -/
theorem trimRight_append (s : Text) (hne : t ≠ []) (ht : trimRight t = t) :
    trimRight (s ++ t) = s ++ t := by
  rw [trimRight_eq_self_iff, List.getLast?_append_of_ne_nil s hne]
  exact trimRight_eq_self_iff.mp ht

/-- A blank does not end a text that ends visibly. -/
theorem visible_after_blank {r : Text} (hb : isBlank b = true)
    (h : trimRight (s ++ b :: r) = s ++ b :: r) : r ≠ [] ∧ trimRight r = r := by
  refine ⟨?_, trimRight_of_suffix h ⟨s ++ [b], by simp⟩⟩
  rintro rfl
  exact absurd (trimRight_eq_self_iff.mp h b (by simp)) (by simp [hb])

/-! ## Words -/

/-- Blanks in front of a text are in none of its words. -/
theorem words_trimLeft (t : Text) : words (trimLeft t) = words t := by
  induction t with
  | nil => rfl
  | cons c rest ih =>
      by_cases hc : isBlank c = true
      · rw [trimLeft, List.dropWhile_cons_of_pos hc, words, if_pos hc]
        exact ih
      · rw [trimLeft, List.dropWhile_cons_of_neg hc]

/-- The first word goes up to the first blank. -/
theorem words_cons_of_not_blank {c : Char} (hc : isBlank c = false) (rest : Text) :
    words (c :: rest) = (c :: rest.takeWhile fun d => !isBlank d)
      :: words (rest.dropWhile fun d => !isBlank d) := by
  induction rest generalizing c with
  | nil => simp [words, hc, atWordEnd]
  | cons d rest ih =>
      rw [words, if_neg (by simp [hc]), atWordEnd]
      by_cases hd : isBlank d = true
      · rw [if_pos hd, List.takeWhile_cons_of_neg (by simp [hd]),
          List.dropWhile_cons_of_neg (by simp [hd])]
      · have hd' : isBlank d = false := by simpa using hd
        rw [if_neg hd, ih hd', List.takeWhile_cons_of_pos (by simp [hd']),
          List.dropWhile_cons_of_pos (by simp [hd'])]
        rfl

/-- **WORDS ARE CUT AT BLANKS**, whatever the blank. -/
theorem words_append_blank (s : Text) (hb : isBlank b = true) (r : Text) :
    words (s ++ b :: r) = words s ++ words r := by
  induction s with
  | nil =>
      show words (b :: r) = words r
      rw [words, if_pos hb]
  | cons c s ih =>
      rw [List.cons_append, words, words, ih]
      by_cases hc : isBlank c = true
      · rw [if_pos hc, if_pos hc]
      · rw [if_neg hc, if_neg hc]
        cases s with
        | nil =>
            rw [List.nil_append, atWordEnd, atWordEnd, if_pos hb, if_pos rfl]
            rfl
        | cons d s =>
            rw [List.cons_append, atWordEnd, atWordEnd]
            by_cases hd : isBlank d = true
            · rw [if_pos hd, if_pos hd]
              rfl
            · rw [if_neg hd, if_neg hd, words_cons_of_not_blank (by simpa using hd)]
              rfl

/-- A text without blanks is its only word. -/
theorem Solid.words (h : Solid w) (hne : w ≠ []) : words w = [w] := by
  obtain ⟨c, rest, rfl⟩ := List.exists_cons_of_ne_nil hne
  obtain ⟨hc, hrest⟩ := solid_cons.mp h
  have hall : ∀ d ∈ rest, (!isBlank d) = true := fun d hd => by simp [hrest d hd]
  rw [words_cons_of_not_blank hc, List.takeWhile_eq_self_iff.mpr hall,
    List.dropWhile_eq_nil_iff.mpr hall]
  rfl

theorem Solid.mem_words_iff (h : Solid s) : w ∈ Text.words s ↔ s ≠ [] ∧ w = s := by
  by_cases hne : s = []
  · subst hne
    exact iff_of_false (fun hw => nomatch hw) (fun hs => hs.1 rfl)
  · rw [h.words hne, List.mem_singleton]
    exact (and_iff_right hne).symm

theorem Solid.exists_word_iff {P : Text → Prop} (h : Solid s) (hnil : ¬ P []) :
    (∃ word ∈ Text.words s, P word) ↔ P s := by
  simp only [h.mem_words_iff]
  constructor
  · rintro ⟨_, ⟨-, rfl⟩, hP⟩
    exact hP
  · intro hP
    refine ⟨s, ⟨?_, rfl⟩, hP⟩
    rintro rfl
    exact hnil hP

/-- A word is not empty and holds no blank. -/
theorem mem_words (h : w ∈ words t) : w ≠ [] ∧ Solid w := by
  induction t using blank_induction with
  | solid s hs =>
      obtain ⟨hne, rfl⟩ := hs.mem_words_iff.mp h
      exact ⟨hne, hs⟩
  | blank s b r hs hb ih =>
      rw [words_append_blank s hb, List.mem_append] at h
      rcases h with h | h
      · obtain ⟨hne, rfl⟩ := hs.mem_words_iff.mp h
        exact ⟨hne, hs⟩
      · exact ih h

/-- A text that ends visibly has a word. -/
theorem words_ne_nil (hne : t ≠ []) (ht : trimRight t = t) : words t ≠ [] := by
  induction t using blank_induction with
  | solid s hs =>
      rw [hs.words hne]
      exact List.cons_ne_nil _ _
  | blank s b r hs hb ih =>
      obtain ⟨hr, hback⟩ := visible_after_blank hb ht
      rw [words_append_blank s hb]
      exact List.append_ne_nil_of_right_ne_nil _ (ih hr hback)

/-! ## Single spaces -/

theorem words_join {ws : List Text} (h : ∀ w ∈ ws, w ≠ [] ∧ Solid w) :
    words (join [' '] ws) = ws := by
  induction ws with
  | nil => rfl
  | cons w rest ih =>
      obtain ⟨hne, hw⟩ := h w List.mem_cons_self
      by_cases hr : rest = []
      · subst hr
        exact hw.words hne
      · rw [join_cons_of_ne_nil _ w hr, List.append_assoc, List.singleton_append,
          words_append_blank w (by decide), hw.words hne,
          ih fun u hu => h u (List.mem_cons_of_mem w hu)]
        rfl

/-- Single spaces keep the words. -/
theorem words_singleSpaced (t : Text) : words (singleSpaced t) = words t :=
  words_join fun _ hw => mem_words hw

theorem mem_join {sep : Text} {ts : List Text} {c : Char} (h : c ∈ join sep ts) :
    c ∈ sep ∨ ∃ t ∈ ts, c ∈ t := by
  induction ts with
  | nil => exact nomatch h
  | cons t rest ih =>
      by_cases hr : rest = []
      · subst hr
        exact Or.inr ⟨t, List.mem_cons_self, h⟩
      · rw [join_cons_of_ne_nil sep t hr, List.mem_append, List.mem_append] at h
        rcases h with (ht | hsep) | hrest
        · exact Or.inr ⟨t, List.mem_cons_self, ht⟩
        · exact Or.inl hsep
        · obtain hsep | ⟨u, hu, hc⟩ := ih hrest
          · exact Or.inl hsep
          · exact Or.inr ⟨u, List.mem_cons_of_mem t hu, hc⟩

/-- The only blanks in a text with single spaces are these spaces. -/
theorem eq_space_of_mem_singleSpaced {c : Char} (h : c ∈ singleSpaced t) (hc : isBlank c = true) :
    c = ' ' := by
  rcases mem_join h with hspace | ⟨w, hw, hcw⟩
  · exact List.mem_singleton.mp hspace
  · exact absurd hcw ((mem_words hw).2.not_mem hc)

theorem trimRight_join {ws : List Text} (h : ∀ w ∈ ws, w ≠ [] ∧ Solid w) :
    trimRight (join [' '] ws) = join [' '] ws := by
  induction ws with
  | nil => rfl
  | cons w rest ih =>
      have hrest : ∀ u ∈ rest, u ≠ [] ∧ Solid u := fun u hu => h u (List.mem_cons_of_mem w hu)
      by_cases hr : rest = []
      · subst hr
        exact (h w List.mem_cons_self).2.trimRight
      · have hne : join [' '] rest ≠ [] := by
          intro hnil
          have hwords := words_join hrest
          rw [hnil] at hwords
          exact hr hwords.symm
        rw [join_cons_of_ne_nil _ w hr]
        exact trimRight_append _ hne (ih hrest)

/-- A text with single spaces ends visibly. -/
theorem trimRight_singleSpaced (t : Text) : trimRight (singleSpaced t) = singleSpaced t :=
  trimRight_join fun _ hw => mem_words hw

/-! ## Stretches -/

/-- **STRETCHES WITHOUT A BLANK** are in the words. -/
theorem infix_iff_words (hw : Solid w) (hne : w ≠ []) :
    w <:+: t ↔ ∃ word ∈ words t, w <:+: word := by
  have hnil : ¬ w <:+: [] := fun h => hne (List.infix_nil.mp h)
  induction t using blank_induction with
  | solid s hs => exact (hs.exists_word_iff hnil).symm
  | blank s b r hs hb ih =>
      calc w <:+: s ++ b :: r
          ↔ w <:+: s ∨ w <:+: r := infix_append_cons_iff (hw.not_mem hb)
        _ ↔ (∃ word ∈ words s, w <:+: word) ∨ ∃ word ∈ words r, w <:+: word :=
            or_congr (hs.exists_word_iff hnil).symm ih
        _ ↔ ∃ word ∈ words (s ++ b :: r), w <:+: word := by
            rw [words_append_blank s hb]
            simp only [List.mem_append, or_and_right, exists_or]

/-- The stretch goes up to a blank. -/
def UpToBlank (w t : Text) : Prop := ∃ b, isBlank b = true ∧ w ++ [b] <:+: t

theorem upToBlank_iff_cut :
    UpToBlank w t ↔ ∃ front b back, t = front ++ b :: back ∧ isBlank b = true ∧ w <:+ front := by
  constructor
  · rintro ⟨b, hb, front, back, rfl⟩
    exact ⟨front ++ w, b, back, by simp, hb, List.suffix_append front w⟩
  · rintro ⟨_, b, back, rfl, hb, front, rfl⟩
    exact ⟨b, hb, front, back, by simp⟩

/-- Where the space is the only blank, it is the one. -/
theorem upToBlank_iff_space (h : ∀ c ∈ t, isBlank c = true → c = ' ') :
    UpToBlank w t ↔ w ++ [' '] <:+: t := by
  constructor
  · rintro ⟨b, hb, hstretch⟩
    have hspace : b = ' ' := h b (hstretch.subset (by simp)) hb
    exact hspace ▸ hstretch
  · intro hstretch
    exact ⟨' ', by decide, hstretch⟩

theorem not_upToBlank_of_solid (hs : Solid s) : ¬ UpToBlank w s := by
  rintro ⟨b, hb, h⟩
  exact hs.not_mem hb (h.subset (by simp))

/-- The blank is the first one of the text or a later one. -/
theorem upToBlank_append (hw : Solid w) (hs : Solid s) (hb : isBlank b = true) (r : Text) :
    UpToBlank w (s ++ b :: r) ↔ w <:+ s ∨ UpToBlank w r := by
  constructor
  · intro h
    obtain ⟨front, d, back, hcut, hd, hend⟩ := upToBlank_iff_cut.mp h
    rcases List.append_eq_append_iff.mp hcut with ⟨more, rfl, hr⟩ | ⟨more, rfl, hd'⟩
    · cases more with
      | nil => exact Or.inl (by simpa using hend)
      | cons e more =>
          obtain ⟨rfl, rfl⟩ := List.cons.inj hr
          refine Or.inr (upToBlank_iff_cut.mpr ⟨more, d, back, rfl, hd, ?_⟩)
          exact suffix_of_suffix_append_cons (hw.not_mem hb) hend
    · cases more with
      | nil => exact Or.inl (by simpa using hend)
      | cons e more =>
          obtain ⟨rfl, -⟩ := List.cons.inj hd'
          exact absurd (by simp) (hs.not_mem hd)
  · rintro (hend | hlater)
    · exact upToBlank_iff_cut.mpr ⟨s, b, r, rfl, hb, hend⟩
    · obtain ⟨front, d, back, rfl, hd, hend⟩ := upToBlank_iff_cut.mp hlater
      refine upToBlank_iff_cut.mpr ⟨s ++ b :: front, d, back, by simp, hd, ?_⟩
      exact hend.trans ((List.suffix_cons b front).trans (List.suffix_append s _))

/-- **STRETCHES UP TO A BLANK** end a word that is not the last. -/
theorem upToBlank_iff_words (hw : Solid w) (hne : w ≠ []) (ht : trimRight t = t) :
    UpToBlank w t ↔ ∃ word ∈ (words t).dropLast, w <:+ word := by
  induction t using blank_induction with
  | solid s hs =>
      refine iff_of_false (not_upToBlank_of_solid hs) ?_
      rintro ⟨word, hword, -⟩
      by_cases hnil : s = []
      · subst hnil
        exact nomatch hword
      · rw [hs.words hnil] at hword
        exact nomatch hword
  | blank s b r hs hb ih =>
      obtain ⟨hr, hback⟩ := visible_after_blank hb ht
      have hnil : ¬ w <:+ [] := fun h => hne (List.suffix_nil.mp h)
      rw [upToBlank_append hw hs hb, ih hback, words_append_blank s hb,
        List.dropLast_append_of_ne_nil (words_ne_nil hr hback), ← hs.exists_word_iff hnil]
      simp only [List.mem_append, or_and_right, exists_or]

end DocAudit.Text
