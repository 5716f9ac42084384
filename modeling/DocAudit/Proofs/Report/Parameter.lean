import DocAudit.Proofs.Report.Entry

/-! # Parameters — read word by word

    A parameter is read off the line of its tag character by character: what is optional may be
    there or not, and blanks may stand anywhere.  But a variable and a type END AT A BLANK, so
    nothing is ever cut off in the middle of a word, and the words alone decide what is a type, a
    variable and a description (`read?_join`).

    So an entry can be told from the words of the value (`paramWords`, `typedWords`), and every
    word stands in it once.  -/

namespace DocAudit.Report

open Text

variable {w v tail : Text}

/-! ## Variables -/

/-- A dollar sign and word characters, after an optional ampersand and an optional ellipsis. -/
def IsVariable (w : Text) : Prop :=
  ∃ reference ∈ [[], ['&']], ∃ ellipsis ∈ [[], ['.', '.', '.']], ∃ name,
    name ≠ [] ∧ (∀ c ∈ name, isWordChar c = true) ∧ w = reference ++ ellipsis ++ '$' :: name

theorem isBlank_of_isWordChar {c : Char} (h : isWordChar c = true) : isBlank c = false := by
  by_contra hblank
  rw [isWordChar_of_isBlank (by simpa using hblank)] at h
  exact nomatch h

/-- A variable is one word. -/
theorem IsVariable.solid (h : IsVariable w) : Solid w := by
  obtain ⟨reference, href, ellipsis, hell, name, -, hname, rfl⟩ := h
  refine solid_append.mpr ⟨solid_append.mpr ⟨?_, ?_⟩, solid_cons.mpr ⟨by decide, ?_⟩⟩
  · exact (show ∀ t ∈ [[], ['&']], Solid t by decide) reference href
  · exact (show ∀ t ∈ [[], ['.', '.', '.']], Solid t by decide) ellipsis hell
  · exact fun c hc => isBlank_of_isWordChar (hname c hc)

/-- What holds no blank does not reach over the end of a word. -/
theorem prefix_append_wordEnd {pat : Text} (hpat : Solid pat) (hend : atWordEnd tail = true) :
    pat <+: w ++ tail ↔ pat <+: w := by
  refine ⟨?_, fun h => h.trans (List.prefix_append w tail)⟩
  intro h
  rcases List.prefix_or_prefix_of_prefix h (List.prefix_append w tail) with hw | ⟨more, rfl⟩
  · exact hw
  · cases more with
    | nil => simp
    | cons c more =>
        obtain ⟨back, rfl⟩ := (List.prefix_append_right_inj w).mp h
        have hc : isBlank c = false := hpat c (by simp)
        exact absurd hend (by simp [atWordEnd, hc])

theorem skipOptional_append {pat : Text} (hpat : Solid pat) (hend : atWordEnd tail = true) :
    skipOptional pat (w ++ tail) = ((skipOptional pat w).1, (skipOptional pat w).2 ++ tail) := by
  simp only [skipOptional, List.isPrefixOf_iff_prefix, prefix_append_wordEnd hpat hend]
  split
  · rename_i h
    rw [List.drop_append_of_le_length h.length_le]
  · rfl

theorem skipOptional_cut (pat t : Text) :
    (skipOptional pat t).1 ∈ [[], pat] ∧ (skipOptional pat t).1 ++ (skipOptional pat t).2 = t := by
  rw [skipOptional]
  split
  · rename_i h
    exact ⟨by simp, List.prefix_iff_eq_append.mp (List.isPrefixOf_iff_prefix.mp h)⟩
  · exact ⟨by simp, rfl⟩

theorem takeWhile_wordEnd (hend : atWordEnd tail = true) : tail.takeWhile isWordChar = [] := by
  cases tail with
  | nil => rfl
  | cons c rest => exact List.takeWhile_cons_of_neg (by simp [isWordChar_of_isBlank hend])

theorem dropWhile_wordEnd (hend : atWordEnd tail = true) : tail.dropWhile isWordChar = tail := by
  cases tail with
  | nil => rfl
  | cons c rest => exact List.dropWhile_cons_of_neg (by simp [isWordChar_of_isBlank hend])

/-- A variable that is followed by the end of its word is read. -/
theorem readVariable?_of_isVariable (h : IsVariable w) (hend : atWordEnd tail = true) :
    readVariable? (w ++ tail) = some (w, trimLeft tail) := by
  obtain ⟨reference, href, ellipsis, hell, name, hne, hname, rfl⟩ := h
  have htake : (name ++ tail).takeWhile isWordChar = name := by
    rw [List.takeWhile_append_of_pos hname, takeWhile_wordEnd hend, List.append_nil]
  have hdrop : (name ++ tail).dropWhile isWordChar = tail := by
    rw [List.dropWhile_append_of_pos hname, dropWhile_wordEnd hend]
  simp only [List.mem_cons, List.not_mem_nil, or_false] at href hell
  rcases href with rfl | rfl <;> rcases hell with rfl | rfl <;>
    simp [readVariable?, skipOptional, htake, hdrop, hne, hend]

/-- If all up to the end of a word is taken off, the word is made of what is taken off. -/
theorem forall_isWordChar_of_wordEnd (hw : Solid w)
    (h : atWordEnd ((w ++ tail).dropWhile isWordChar) = true) : ∀ c ∈ w, isWordChar c = true := by
  rw [List.dropWhile_append] at h
  cases hdrop : w.dropWhile isWordChar with
  | nil => exact List.dropWhile_eq_nil_iff.mp hdrop
  | cons d more =>
      have hmem : d ∈ w.dropWhile isWordChar := by simp [hdrop]
      have hd : isBlank d = false := hw d ((List.dropWhile_suffix isWordChar).subset hmem)
      rw [hdrop, if_neg (by simp), List.cons_append, atWordEnd, hd] at h
      cases h

/-- What is read as a variable is a whole word. -/
theorem isVariable_of_readVariable? (hw : Solid w) (hend : atWordEnd tail = true)
    (h : (readVariable? (w ++ tail)).isSome = true) : IsVariable w := by
  obtain ⟨href, hcut⟩ := skipOptional_cut "&" w
  obtain ⟨hell, hcut'⟩ := skipOptional_cut "..." (skipOptional "&" w).2
  have hsolid : Solid (skipOptional "..." (skipOptional "&" w).2).2 := by
    rw [← hcut, ← hcut'] at hw
    exact (solid_append.mp (solid_append.mp hw).2).2
  rw [readVariable?, skipOptional_append (by decide) hend] at h
  simp only [skipOptional_append (show Solid "...".toList by decide) hend] at h
  cases hrest : (skipOptional "..." (skipOptional "&" w).2).2 with
  | nil =>
      rw [hrest, List.nil_append] at h
      split at h
      · exact absurd hend (show ¬ isBlank '$' = true by decide)
      · cases h
  | cons c name =>
      rw [hrest, List.cons_append] at h
      rw [hrest] at hsolid hcut'
      split at h
      · rename_i more hmore
        obtain ⟨rfl, rfl⟩ := List.cons.inj hmore
        split at h
        · cases h
        · rename_i hread
          obtain ⟨hne, hword⟩ := not_or.mp hread
          have hname := forall_isWordChar_of_wordEnd (solid_cons.mp hsolid).2 (by simpa using hword)
          rw [List.takeWhile_append_of_pos hname, takeWhile_wordEnd hend, List.append_nil] at hne
          refine ⟨_, href, _, hell, name, hne, hname, ?_⟩
          rw [List.append_assoc, hcut', hcut]
      · cases h

instance (w : Text) : Decidable (IsVariable w) :=
  decidable_of_iff (Solid w ∧ (readVariable? w).isSome = true) (by
    constructor
    · rintro ⟨hw, h⟩
      exact isVariable_of_readVariable? hw rfl (by rwa [List.append_nil])
    · intro h
      have hread := readVariable?_of_isVariable h (show atWordEnd [] = true from rfl)
      rw [List.append_nil] at hread
      exact ⟨h.solid, by rw [hread]; rfl⟩)

/-- **VARIABLES ARE WORDS**: a line begins with a variable exactly if its first word is one. -/
theorem readVariable?_append (hw : Solid w) (hend : atWordEnd tail = true) :
    readVariable? (w ++ tail) = if IsVariable w then some (w, trimLeft tail) else none := by
  split
  · rename_i h
    exact readVariable?_of_isVariable h hend
  · rename_i h
    refine Option.not_isSome_iff_eq_none.mp ?_
    exact fun hread => h (isVariable_of_readVariable? hw hend hread)

/-! ## Words of a line -/

/-- The list is one of words. -/
def AreWords (ws : List Text) : Prop := ∀ w ∈ ws, w ≠ [] ∧ Solid w

theorem areWords_words (t : Text) : AreWords (words t) := fun _ hw => mem_words hw

theorem areWords_cons {ws : List Text} :
    AreWords (w :: ws) ↔ (w ≠ [] ∧ Solid w) ∧ AreWords ws := List.forall_mem_cons

/-- Words with a space before each. -/
def spaced : List Text → Text
  | [] => []
  | w :: rest => ' ' :: join [' '] (w :: rest)

theorem join_cons_eq_spaced (w : Text) (rest : List Text) :
    join [' '] (w :: rest) = w ++ spaced rest := by
  cases rest with
  | nil => exact (List.append_nil w).symm
  | cons v more => rw [join_cons_cons, List.append_assoc]; rfl

theorem atWordEnd_spaced (rest : List Text) : atWordEnd (spaced rest) = true := by
  cases rest <;> rfl

theorem trimLeft_of_solid_head (hne : w ≠ []) (hw : Solid w) (t : Text) :
    trimLeft (w ++ t) = w ++ t := by
  obtain ⟨c, more, rfl⟩ := List.exists_cons_of_ne_nil hne
  exact List.dropWhile_cons_of_neg (by simp [(solid_cons.mp hw).1])

theorem trimLeft_spaced {rest : List Text} (h : AreWords rest) :
    trimLeft (spaced rest) = join [' '] rest := by
  cases rest with
  | nil => rfl
  | cons v more =>
      obtain ⟨⟨hne, hv⟩, -⟩ := areWords_cons.mp h
      rw [spaced, join_cons_eq_spaced]
      exact trimLeft_of_solid_head hne hv _

theorem takeWhile_word (hw : Solid w) (rest : List Text) :
    (w ++ spaced rest).takeWhile (fun c => !isBlank c) = w ∧
      (w ++ spaced rest).dropWhile (fun c => !isBlank c) = spaced rest := by
  have hall : ∀ c ∈ w, (!isBlank c) = true := fun c hc => by simp [hw c hc]
  rw [List.takeWhile_append_of_pos hall, List.dropWhile_append_of_pos hall]
  cases rest with
  | nil => exact ⟨List.append_nil w, rfl⟩
  | cons v more => exact ⟨List.append_nil w, rfl⟩

/-! ## Parameters -/

/-- The word begins like no variable. -/
def FreeStart (w : Text) : Prop := w.head? ∉ [some '$', some '&', some '.']

instance (w : Text) : Decidable (FreeStart w) :=
  inferInstanceAs (Decidable (w.head? ∉ [some '$', some '&', some '.']))

theorem startsType_append (hne : w ≠ []) (hw : Solid w) (t : Text) :
    Param.startsType (w ++ t) = true ↔ FreeStart w := by
  obtain ⟨c, more, rfl⟩ := List.exists_cons_of_ne_nil hne
  simp [Param.startsType, FreeStart, (solid_cons.mp hw).1, and_assoc]

/-- A variable begins like one. -/
theorem IsVariable.not_freeStart (h : IsVariable w) : ¬ FreeStart w := by
  obtain ⟨reference, href, ellipsis, hell, name, -, -, rfl⟩ := h
  simp only [List.mem_cons, List.not_mem_nil, or_false] at href hell
  rcases href with rfl | rfl <;> rcases hell with rfl | rfl <;> simp [FreeStart]

/-- What the words of a line say: a variable first, or a type and then a variable; the rest is
    the description. -/
def Param.ofWords? : List Text → Option Param
  | [] => none
  | w :: rest =>
      if IsVariable w then some ⟨none, w, join [' '] rest⟩
      else
        match rest with
        | [] => none
        | v :: more =>
            if FreeStart w ∧ IsVariable v then some ⟨some w, v, join [' '] more⟩ else none

theorem readVariable?_join {rest : List Text} (h : AreWords (w :: rest)) :
    readVariable? (join [' '] (w :: rest))
      = if IsVariable w then some (w, join [' '] rest) else none := by
  obtain ⟨⟨-, hw⟩, hrest⟩ := areWords_cons.mp h
  rw [join_cons_eq_spaced, readVariable?_append hw (atWordEnd_spaced rest), trimLeft_spaced hrest]

theorem readTyped?_join {rest : List Text} (h : AreWords (w :: rest)) :
    Param.readTyped? (join [' '] (w :: rest))
      = match rest with
        | [] => none
        | v :: more =>
            if FreeStart w ∧ IsVariable v then some ⟨some w, v, join [' '] more⟩ else none := by
  obtain ⟨⟨hne, hw⟩, hrest⟩ := areWords_cons.mp h
  obtain ⟨htake, hdrop⟩ := takeWhile_word hw rest
  rw [join_cons_eq_spaced, Param.readTyped?, htake, hdrop, trimLeft_spaced hrest]
  cases rest with
  | nil => simp [spaced]
  | cons v more =>
      rw [readVariable?_join hrest]
      by_cases hfree : FreeStart w
      · have hstart := (startsType_append hne hw (spaced (v :: more))).mpr hfree
        have hmore : (spaced (v :: more)).isEmpty = false := rfl
        by_cases hv : IsVariable v
        · simp [hstart, hmore, hfree, hv]
        · simp [hv]
      · have hstart : ¬ Param.startsType (w ++ spaced (v :: more)) = true :=
          fun hs => hfree ((startsType_append hne hw _).mp hs)
        simp [hstart, hfree]

/-- **THE WORDS DECIDE** how a line is read. -/
theorem read?_join {ws : List Text} (h : AreWords ws) :
    Param.read? (join [' '] ws) = Param.ofWords? ws := by
  cases ws with
  | nil => rfl
  | cons w rest =>
      rw [Param.read?, readTyped?_join h, Param.readUntyped?, readVariable?_join h]
      by_cases hw : IsVariable w
      · have hfree := hw.not_freeStart
        cases rest with
        | nil => simp [Param.ofWords?, hw]
        | cons v more => simp [Param.ofWords?, hw, hfree]
      · cases rest with
        | nil => simp [Param.ofWords?, hw]
        | cons v more => simp [Param.ofWords?, hw]

/-! ## The pattern of a parameter -/

/-- One or more blanks. -/
def Gap (t : Text) : Prop := t ≠ [] ∧ ∀ c ∈ t, isBlank c = true

theorem gap_space : Gap [' '] := ⟨List.cons_ne_nil _ _, List.forall_mem_singleton.mpr (by decide)⟩

/-- What may follow a variable: nothing, or a gap and a description. -/
inductive Follows : Text → Text → Prop
  | nothing : Follows [] []
  | description {gap description : Text} (hgap : Gap gap) (hline : OneLine description) :
      Follows (gap ++ description) description

/-- **THE PATTERN OF A PARAMETER**: an optional type, which begins like no variable, and a gap; a
    variable; and what may follow it. -/
inductive Param.Spelled : Text → Param → Prop
  | untyped {name tail description : Text} (hname : IsVariable name)
      (htail : Follows tail description) : Spelled (name ++ tail) ⟨none, name, description⟩
  | typed {type gap name tail description : Text} (hne : type ≠ []) (hfree : FreeStart type)
      (hsolid : Solid type) (hgap : Gap gap) (hname : IsVariable name)
      (htail : Follows tail description) :
      Spelled (type ++ gap ++ (name ++ tail)) ⟨some type, name, description⟩

theorem words_gap_append {gap : Text} (hgap : Gap gap) (t : Text) :
    words (w ++ gap ++ t) = words w ++ words t := by
  obtain ⟨c, more, rfl⟩ := List.exists_cons_of_ne_nil hgap.1
  have hmore : words (more ++ t) = words t := by
    rw [← words_trimLeft (more ++ t), trimLeft, List.dropWhile_append_of_pos
      fun d hd => hgap.2 d (List.mem_cons_of_mem c hd)]
    exact words_trimLeft t
  rw [List.append_assoc, List.cons_append, words_append_blank w (hgap.2 c List.mem_cons_self),
    hmore]

/-- On a line with single spaces a gap is ONE space, and the rest has single spaces too. -/
theorem gap_eq_space {gap t : Text} (hne : w ≠ []) (hw : Solid w) (hgap : Gap gap)
    (hline : singleSpaced (w ++ gap ++ t) = w ++ gap ++ t) :
    gap = [' '] ∧ singleSpaced t = t := by
  rw [singleSpaced, words_gap_append hgap, hw.words hne, List.singleton_append,
    join_cons_eq_spaced, List.append_assoc, List.append_cancel_left_eq] at hline
  cases hwords : words t with
  | nil =>
      rw [hwords] at hline
      exact absurd (List.append_eq_nil_iff.mp hline.symm).1 hgap.1
  | cons v more =>
      rw [hwords, spaced] at hline
      obtain ⟨c, blanks, rfl⟩ := List.exists_cons_of_ne_nil hgap.1
      obtain ⟨hc, hrest⟩ := List.cons.inj hline
      obtain ⟨hv, hsolid⟩ := mem_words (show v ∈ words t by simp [hwords])
      have hnil : blanks = [] := by
        cases blanks with
        | nil => rfl
        | cons d blanks =>
            -- a second blank would stand where a word begins
            obtain ⟨e, v, rfl⟩ := List.exists_cons_of_ne_nil hv
            rw [join_cons_eq_spaced] at hrest
            have hblank : isBlank d = true := hgap.2 d (by simp)
            rw [← (List.cons.inj hrest).1, (solid_cons.mp hsolid).1] at hblank
            exact nomatch hblank
      subst hnil
      rw [← hc, singleSpaced, hwords, hrest]
      exact ⟨rfl, rfl⟩

theorem oneLine_join {ws : List Text} (h : AreWords ws) : OneLine (join [' '] ws) := by
  intro hfeed
  rcases mem_join hfeed with hspace | ⟨w, hw, hmem⟩
  · exact absurd hspace (by decide)
  · exact (h w hw).2.not_mem (by decide) hmem

theorem follows_spaced {rest : List Text} (h : AreWords rest) :
    Follows (spaced rest) (join [' '] rest) := by
  cases rest with
  | nil => exact .nothing
  | cons v more => exact .description gap_space (oneLine_join h)

/-- The words of a line that begins with a variable are the variable and those of the
    description. -/
theorem words_of_follows {name description : Text} (hname : IsVariable name)
    (htail : Follows tail description) (hline : singleSpaced (name ++ tail) = name ++ tail) :
    words (name ++ tail) = name :: words description ∧ singleSpaced description = description := by
  have hne : name ≠ [] := by
    rintro rfl
    exact absurd hname (by decide)
  cases htail with
  | nothing =>
      rw [List.append_nil, hname.solid.words hne]
      exact ⟨rfl, rfl⟩
  | description hgap =>
      rw [← List.append_assoc] at hline ⊢
      rw [words_gap_append hgap, hname.solid.words hne]
      exact ⟨rfl, (gap_eq_space hne hname.solid hgap hline).2⟩

theorem ofWords?_of_spelled {line : Text} {param : Param} (h : Param.Spelled line param)
    (hline : singleSpaced line = line) : Param.ofWords? (words line) = some param := by
  cases h with
  | untyped hname htail =>
      obtain ⟨hwords, hdescription⟩ := words_of_follows hname htail hline
      rw [hwords, Param.ofWords?.eq_def]
      simp only [if_pos hname]
      exact congrArg (fun d => some (Param.mk none _ d)) hdescription
  | typed hne hfree hsolid hgap hname htail =>
      obtain ⟨-, hrest⟩ := gap_eq_space hne hsolid hgap hline
      obtain ⟨hwords, hdescription⟩ := words_of_follows hname htail hrest
      rw [words_gap_append hgap, hsolid.words hne, hwords]
      show Param.ofWords? (_ :: _ :: _) = _
      simp only [Param.ofWords?, if_neg fun hvariable => IsVariable.not_freeStart hvariable hfree,
        if_pos (And.intro hfree hname)]
      exact congrArg (fun d => some (Param.mk (some _) _ d)) hdescription

theorem spelled_of_ofWords? {ws : List Text} {param : Param} (hws : AreWords ws)
    (h : Param.ofWords? ws = some param) : Param.Spelled (join [' '] ws) param := by
  cases ws with
  | nil => exact nomatch h
  | cons w rest =>
      obtain ⟨⟨hne, hw⟩, hrest⟩ := areWords_cons.mp hws
      rw [join_cons_eq_spaced]
      by_cases hvariable : IsVariable w
      · rw [Param.ofWords?.eq_def] at h
        simp only [if_pos hvariable, Option.some.injEq] at h
        subst h
        exact .untyped hvariable (follows_spaced hrest)
      · cases rest with
        | nil => simp [Param.ofWords?, hvariable] at h
        | cons v more =>
            obtain ⟨-, hmore⟩ := areWords_cons.mp hrest
            simp only [Param.ofWords?, if_neg hvariable] at h
            split at h
            · rename_i htyped
              obtain rfl := Option.some.inj h
              rw [spaced, join_cons_eq_spaced, List.append_cons]
              exact .typed hne htyped.1 hw gap_space htyped.2 (follows_spaced hmore)
            · exact nomatch h

/-- **READING FINDS THE PATTERN**, and on a line with single spaces there is one way to find
    it. -/
theorem read?_iff_spelled (value : Text) (param : Param) :
    Param.read? (singleSpaced value) = some param ↔ Param.Spelled (singleSpaced value) param := by
  have hread : Param.read? (singleSpaced value) = Param.ofWords? (words value) :=
    read?_join (areWords_words value)
  have hline : singleSpaced (singleSpaced value) = singleSpaced value :=
    congrArg (join [' ']) (words_singleSpaced value)
  rw [hread]
  refine ⟨spelled_of_ofWords? (areWords_words value), ?_⟩
  intro h
  rw [← words_singleSpaced value]
  exact ofWords?_of_spelled h hline

/-! ## Entries -/

/-- Words behind a colon, if there are any. -/
def noted : List Text → Text
  | [] => []
  | w :: rest => ": " ++ join [' '] (w :: rest)

/-- The entry of a parameter that has these words. -/
def paramWords : List Text → Text
  | [] => emptyEntry
  | w :: rest =>
      if IsVariable w then code w ++ noted rest
      else
        match rest with
        | [] => w
        | v :: more =>
            if FreeStart w ∧ IsVariable v then code v ++ " (" ++ code w ++ ")" ++ noted more
            else join [' '] (w :: v :: more)

/-- The entry of a tag that has these words, the first of them a type. -/
def typedWords : List Text → Text
  | [] => emptyEntry
  | [w] => code w
  | w :: v :: more => code w ++ " " ++ join [' '] (v :: more)

theorem join_ne_nil {rest : List Text} (h : AreWords (w :: rest)) :
    join [' '] (w :: rest) ≠ [] := by
  rw [join_cons_eq_spaced]
  exact List.append_ne_nil_of_left_ne_nil (areWords_cons.mp h).1.1 _

theorem descriptionNote_join {rest : List Text} (h : AreWords rest) :
    Param.descriptionNote (join [' '] rest) = noted rest := by
  cases rest with
  | nil => rfl
  | cons v more =>
      obtain ⟨c, line, hline⟩ := List.exists_cons_of_ne_nil (join_ne_nil h)
      rw [noted, hline]
      rfl

theorem paramEntry_eq (value : Text) : paramEntry value = paramWords (words value) := by
  have hws := areWords_words value
  have hread : Param.read? (singleSpaced value) = Param.ofWords? (words value) := read?_join hws
  rw [paramEntry, hread, plainEntry, singleSpaced]
  cases hwords : words value with
  | nil => rfl
  | cons w rest =>
      rw [hwords] at hws
      obtain ⟨-, hrest⟩ := areWords_cons.mp hws
      rw [if_neg (join_ne_nil hws), Param.ofWords?.eq_def, paramWords.eq_def]
      by_cases hvariable : IsVariable w
      · simp [hvariable, Param.entry, Param.typeNote, descriptionNote_join hrest]
      · cases rest with
        | nil => simp [hvariable]
        | cons v more =>
            obtain ⟨-, hmore⟩ := areWords_cons.mp hrest
            by_cases htyped : FreeStart w ∧ IsVariable v
            · simp [hvariable, htyped, Param.entry, Param.typeNote, descriptionNote_join hmore]
            · simp [hvariable, htyped]

theorem typedWords_cons (w : Text) (rest : List Text) :
    typedWords (w :: rest) = code w ++ spaced rest := by
  cases rest with
  | nil => exact (List.append_nil _).symm
  | cons v more => rw [typedWords, List.append_assoc]; rfl

theorem trimRight_spaced {rest : List Text} (h : AreWords rest) :
    trimRight (spaced rest) = spaced rest := by
  cases rest with
  | nil => rfl
  | cons v more => exact trimRight_append [' '] (join_ne_nil h) (trimRight_join h)

theorem typedEntry_eq (value : Text) : typedEntry value = typedWords (words value) := by
  have hws := areWords_words value
  rw [typedEntry, singleSpaced]
  cases hwords : words value with
  | nil => rfl
  | cons w rest =>
      rw [hwords] at hws
      obtain ⟨⟨hne, hw⟩, hrest⟩ := areWords_cons.mp hws
      have hall : ∀ c ∈ w, (c != ' ') = true := by
        intro c hc
        exact bne_iff_ne.mpr (ne_of_mem_of_not_mem hc (hw.not_mem (by decide)))
      have htake : (w ++ spaced rest).takeWhile (· != ' ') = w := by
        rw [List.takeWhile_append_of_pos hall]
        cases rest <;> simp [spaced]
      have hdrop : (w ++ spaced rest).dropWhile (· != ' ') = spaced rest := by
        rw [List.dropWhile_append_of_pos hall]
        cases rest <;> simp [spaced]
      rw [typedWords_cons, join_cons_eq_spaced]
      split
      · rename_i hnil
        exact absurd (List.append_eq_nil_iff.mp hnil).1 hne
      · rw [htake, hdrop, trimRight_append_of_visible (trimRight_code w), trimRight_spaced hrest]

/-! ## Every word is shown -/

/-- The characters that set the words of an entry apart. -/
def entryMarks : Text := [' ', backtick, '(', ')', ':']

/-- The entry is made of these words, in this order, each as it is; all else are marks. -/
inductive MadeOf : List Text → Text → Prop
  | nil : MadeOf [] []
  | mark {ws : List Text} {t : Text} {c : Char} (hc : c ∈ entryMarks) (h : MadeOf ws t) :
      MadeOf ws (c :: t)
  | word {ws : List Text} {t : Text} (w : Text) (h : MadeOf ws t) : MadeOf (w :: ws) (w ++ t)

namespace MadeOf

variable {ws vs : List Text} {s t : Text}

theorem append (hs : MadeOf ws s) (ht : MadeOf vs t) : MadeOf (ws ++ vs) (s ++ t) := by
  induction hs with
  | nil => exact ht
  | mark hc _ ih => exact .mark hc ih
  | word w _ ih =>
      rw [List.append_assoc]
      exact .word w ih

theorem code (w : Text) : MadeOf [w] (Report.code w) := by
  have hback : MadeOf [] [backtick] := .mark (by decide) .nil
  rw [Report.code, List.append_assoc]
  exact .mark (by decide) (.word w hback)

theorem join (ws : List Text) : MadeOf ws (Text.join [' '] ws) := by
  induction ws with
  | nil => exact .nil
  | cons w rest ih =>
      rw [join_cons_eq_spaced]
      refine .word w ?_
      cases rest with
      | nil => exact .nil
      | cons v more => exact .mark (by decide) ih

theorem spaced (ws : List Text) : MadeOf ws (Report.spaced ws) := by
  cases ws with
  | nil => exact .nil
  | cons w rest => exact .mark (by decide) (join (w :: rest))

theorem noted (ws : List Text) : MadeOf ws (Report.noted ws) := by
  cases ws with
  | nil => exact .nil
  | cons w rest => exact .mark (by decide) (.mark (by decide) (join (w :: rest)))

/-- The entry of a type shows the words in their order. -/
theorem typedWords (w : Text) (rest : List Text) :
    MadeOf (w :: rest) (Report.typedWords (w :: rest)) := by
  rw [typedWords_cons]
  exact (code w).append (spaced rest)

/-- The entry of a parameter shows the words in their order, but for a type that comes behind its
    variable. -/
theorem paramWords (w : Text) (rest : List Text) :
    ∃ shown, MadeOf shown (Report.paramWords (w :: rest)) ∧
      (shown = w :: rest ∨ ∃ v more, rest = v :: more ∧ shown = v :: w :: more) := by
  rw [Report.paramWords.eq_def]
  by_cases hvariable : IsVariable w
  · simp only [if_pos hvariable]
    exact ⟨w :: rest, (code w).append (noted rest), Or.inl rfl⟩
  · simp only [if_neg hvariable]
    cases rest with
    | nil => exact ⟨[w], join [w], Or.inl rfl⟩
    | cons v more =>
        by_cases htyped : FreeStart w ∧ IsVariable v
        · have hopen : MadeOf [] " (" := .mark (by decide) (.mark (by decide) .nil)
          have hclose : MadeOf [] ")" := .mark (by decide) .nil
          simp only [if_pos htyped]
          refine ⟨v :: w :: more, ?_, Or.inr ⟨v, more, rfl, rfl⟩⟩
          exact ((((code v).append hopen).append (code w)).append hclose).append (noted more)
        · simp only [if_neg htyped]
          exact ⟨w :: v :: more, join (w :: v :: more), Or.inl rfl⟩

end MadeOf

theorem code_append_ne_emptyEntry (w t : Text) : code w ++ t ≠ emptyEntry := by
  intro h
  have hhead : (code w ++ t).head? = some backtick := rfl
  rw [h] at hhead
  exact absurd hhead (by decide)

/-- The entry of a parameter begins with code, or it is the line as it is. -/
theorem paramWords_cases (w : Text) (rest : List Text) :
    (∃ u t, paramWords (w :: rest) = code u ++ t) ∨
      paramWords (w :: rest) = join [' '] (w :: rest) := by
  rw [paramWords.eq_def]
  by_cases hvariable : IsVariable w
  · exact Or.inl ⟨w, noted rest, if_pos hvariable⟩
  · simp only [if_neg hvariable]
    cases rest with
    | nil => exact Or.inr rfl
    | cons v more =>
        by_cases htyped : FreeStart w ∧ IsVariable v
        · simp only [if_pos htyped, List.append_assoc]
          exact Or.inl ⟨v, _, rfl⟩
        · exact Or.inr (if_neg htyped)

/-- What is shown for a value without words is also shown for the value that says just that. -/
theorem paramWords_eq_emptyEntry_iff {ws : List Text} (h : AreWords ws) :
    paramWords ws = emptyEntry ↔ ws = [] ∨ ws = ["*(no".toList, "details)*".toList] := by
  constructor
  · intro hentry
    cases ws with
    | nil => exact Or.inl rfl
    | cons w rest =>
        rcases paramWords_cases w rest with ⟨u, t, hcode⟩ | hjoin
        · exact absurd (hcode.symm.trans hentry) (code_append_ne_emptyEntry u t)
        · have hwords := words_join h
          rw [← hjoin, hentry] at hwords
          exact Or.inr (hwords.symm.trans (by decide))
  · rintro (rfl | rfl)
    · rfl
    · decide +kernel

/-- **ENTRIES TELL THE WORDS**: what an entry says can be told from the words of the value alone,
    and but for a value without words it shows each of them once, a type behind its variable and
    all others in their order.  Reading a parameter character by character finds the pattern
    that it has. -/
theorem entries_word_by_word (value : Text) :
    paramEntry value = paramWords (words value) ∧
    typedEntry value = typedWords (words value) ∧
    (paramEntry value = emptyEntry ↔
      words value = [] ∨ words value = ["*(no".toList, "details)*".toList]) ∧
    (typedEntry value = emptyEntry ↔ words value = []) ∧
    (words value = [] ∨ ∃ w rest shown, words value = w :: rest ∧
      MadeOf (w :: rest) (typedEntry value) ∧ MadeOf shown (paramEntry value) ∧
      (shown = w :: rest ∨ ∃ v more, rest = v :: more ∧ shown = v :: w :: more)) ∧
    ∀ param, Param.read? (singleSpaced value) = some param ↔
      Param.Spelled (singleSpaced value) param := by
  rw [paramEntry_eq, typedEntry_eq]
  refine ⟨rfl, rfl, paramWords_eq_emptyEntry_iff (areWords_words value), ?_, ?_,
    read?_iff_spelled value⟩
  · cases words value with
    | nil => exact iff_of_true rfl rfl
    | cons w rest =>
        rw [typedWords_cons]
        exact iff_of_false (code_append_ne_emptyEntry w _) (List.cons_ne_nil w rest)
  · cases words value with
    | nil => exact Or.inl rfl
    | cons w rest =>
        obtain ⟨shown, hshown, horder⟩ := MadeOf.paramWords w rest
        exact Or.inr ⟨w, rest, shown, rfl, MadeOf.typedWords w rest, hshown, horder⟩

example : paramEntry "int  &...$x the rest" = "`&...$x` (`int`): the rest".toList := by decide

example : paramEntry "int $a, the rest" = "int $a, the rest".toList := by decide

/-- A value whose words read like an empty entry has that entry, and behind a type that stands
    alone there is no space. -/
theorem entries_lookalike :
    words "*(no details)*" = ["*(no".toList, "details)*".toList] ∧
      paramEntry "*(no details)*" = emptyEntry ∧ typedEntry "bool" = code "bool" := by
  exact ⟨by decide, by decide +kernel, by decide⟩

end DocAudit.Report
