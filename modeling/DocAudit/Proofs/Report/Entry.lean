import DocAudit.Proofs.Text.OneLine
import DocAudit.Proofs.Text.Words
import DocAudit.Report.Entry

/-! # Entries — every tag on one line

    A tag's value is arbitrary text.  Whatever it holds, its entry in the breakdown stays
    on ONE LINE, because an entry is put together from a few fixed characters and pieces of the
    value's words with single spaces between them. -/

namespace DocAudit.Report

open Text

variable {s t line : Text}

theorem oneLine_code : OneLine (code t) ↔ OneLine t := by
  rw [code, oneLine_append, oneLine_append]
  constructor
  · rintro ⟨⟨-, h⟩, -⟩
    exact h
  · intro h
    exact ⟨⟨by decide, h⟩, by decide⟩

/-- The characters that an entry may have beside those of its value. -/
def settingChars : Text := "*(no details): " ++ [backtick]

/-- The text is made of characters of the line and of those that set entries. -/
def SetFrom (line t : Text) : Prop := t ⊆ settingChars ++ line

theorem setFrom_append : SetFrom line (s ++ t) ↔ SetFrom line s ∧ SetFrom line t :=
  List.append_subset

theorem setFrom_of_subset (h : t ⊆ line) : SetFrom line t :=
  List.subset_append_of_subset_right _ h

theorem setFrom_of_setting (h : t ⊆ settingChars) : SetFrom line t :=
  List.subset_append_of_subset_left _ h

theorem setFrom_code (h : t ⊆ line) : SetFrom line (code t) :=
  setFrom_append.mpr ⟨setFrom_append.mpr ⟨setFrom_of_setting (by decide), setFrom_of_subset h⟩,
    setFrom_of_setting (by decide)⟩

theorem trimLeft_subset (t : Text) : trimLeft t ⊆ t := (List.dropWhile_suffix isBlank).subset

theorem trimRight_subset (t : Text) : trimRight t ⊆ t := by
  rw [trimRight_eq_rdropWhile]
  exact (List.rdropWhile_prefix isBlank t).subset

theorem setFrom_plainEntry (value : Text) : SetFrom (singleSpaced value) (plainEntry value) := by
  rw [plainEntry]
  split
  · exact setFrom_of_setting (by decide)
  · exact setFrom_of_subset (List.Subset.refl _)

theorem setFrom_typedEntry (value : Text) : SetFrom (singleSpaced value) (typedEntry value) := by
  rw [typedEntry]
  split
  · exact setFrom_of_setting (by decide)
  · refine List.Subset.trans (trimRight_subset _) (setFrom_append.mpr ⟨setFrom_code ?_, ?_⟩)
    · exact (List.takeWhile_prefix _).subset
    · exact setFrom_of_subset (List.dropWhile_suffix _).subset

/-! ## Parameters -/

theorem skipOptional_subset (pat t : Text) :
    (skipOptional pat t).1 ⊆ t ∧ (skipOptional pat t).2 ⊆ t := by
  rw [skipOptional]
  split
  · rename_i hpat
    exact ⟨(List.isPrefixOf_iff_prefix.mp hpat).subset, (List.drop_suffix _ _).subset⟩
  · exact ⟨List.nil_subset _, List.Subset.refl _⟩

/-- A variable and what follows it are made of the text that they are read from. -/
theorem readVariable?_subset {name rest : Text} (h : readVariable? t = some (name, rest)) :
    name ⊆ t ∧ rest ⊆ t := by
  rw [readVariable?] at h
  obtain ⟨href, hafter⟩ := skipOptional_subset "&" t
  rcases hskip : skipOptional "&" t with ⟨reference, t₁⟩
  rw [hskip] at href hafter
  obtain ⟨hellipsis, hafter'⟩ := skipOptional_subset "..." t₁
  rcases hskip' : skipOptional "..." t₁ with ⟨ellipsis, t₂⟩
  rw [hskip'] at hellipsis hafter'
  simp only [hskip, hskip'] at h
  split at h
  · rename_i more
    obtain ⟨hdollar, hmore⟩ := List.cons_subset.mp (List.Subset.trans hafter' hafter)
    split at h
    · exact nomatch h
    · obtain ⟨rfl, rfl⟩ := Prod.mk.inj (Option.some.inj h)
      refine ⟨?_, ?_⟩
      · simp only [List.append_subset]
        refine ⟨⟨⟨href, List.Subset.trans hellipsis hafter⟩, ?_⟩, ?_⟩
        · exact List.cons_subset.mpr ⟨hdollar, List.nil_subset _⟩
        · exact List.Subset.trans (List.takeWhile_prefix _).subset hmore
      · exact List.Subset.trans (trimLeft_subset _)
          (List.Subset.trans (List.dropWhile_suffix _).subset hmore)
  · exact nomatch h

/-- A parameter's parts are made of the line that it is read from. -/
theorem read?_subset {param : Param} (h : Param.read? line = some param) :
    (∀ type, param.type = some type → type ⊆ line) ∧ param.name ⊆ line ∧
      param.description ⊆ line := by
  rw [Param.read?, Option.or_eq_some_iff] at h
  rcases h with htyped | ⟨-, huntyped⟩
  · rw [Param.readTyped?] at htyped
    simp only at htyped
    split at htyped
    · obtain ⟨⟨name, description⟩, hvariable, rfl⟩ := Option.map_eq_some_iff.mp htyped
      have hrest : trimLeft (line.dropWhile fun c => !isBlank c) ⊆ line :=
        List.Subset.trans (trimLeft_subset _) (List.dropWhile_suffix _).subset
      obtain ⟨hname, hdescription⟩ := readVariable?_subset hvariable
      refine ⟨?_, List.Subset.trans hname hrest, List.Subset.trans hdescription hrest⟩
      rintro type ⟨⟩
      exact (List.takeWhile_prefix _).subset
    · exact nomatch htyped
  · obtain ⟨⟨name, description⟩, hvariable, rfl⟩ := Option.map_eq_some_iff.mp huntyped
    obtain ⟨hname, hdescription⟩ := readVariable?_subset hvariable
    exact ⟨nofun, hname, hdescription⟩

theorem setFrom_typeNote {type : Option Text} (h : ∀ u, type = some u → u ⊆ line) :
    SetFrom line (Param.typeNote type) := by
  cases type with
  | none => exact List.nil_subset _
  | some u =>
      refine setFrom_append.mpr ⟨setFrom_append.mpr ⟨?_, setFrom_code (h u rfl)⟩, ?_⟩
      · exact setFrom_of_setting (by decide)
      · exact setFrom_of_setting (by decide)

theorem setFrom_descriptionNote {description : Text} (h : description ⊆ line) :
    SetFrom line (Param.descriptionNote description) := by
  cases description with
  | nil => exact List.nil_subset _
  | cons c rest =>
      exact setFrom_append.mpr ⟨setFrom_of_setting (by decide), setFrom_of_subset h⟩

theorem setFrom_paramEntry (value : Text) : SetFrom (singleSpaced value) (paramEntry value) := by
  rw [paramEntry]
  cases hread : Param.read? (singleSpaced value) with
  | none => exact setFrom_plainEntry value
  | some param =>
      obtain ⟨htype, hname, hdescription⟩ := read?_subset hread
      exact setFrom_append.mpr ⟨setFrom_append.mpr ⟨setFrom_code hname, setFrom_typeNote htype⟩,
        setFrom_descriptionNote hdescription⟩

/-- **WHAT AN ENTRY IS MADE OF**: the line of its value and a few fixed characters. -/
theorem setFrom_entry {group : TagGroup} (h : group ∈ tagGroups) (value : Text) :
    SetFrom (singleSpaced value) (group.entry value) := by
  simp only [tagGroups, List.mem_cons, List.not_mem_nil, or_false] at h
  rcases h with rfl | rfl | rfl | rfl | rfl
  · exact setFrom_paramEntry value
  · exact setFrom_typedEntry value
  · exact setFrom_typedEntry value
  · exact setFrom_typedEntry value
  · exact setFrom_plainEntry value

/-- The only blank in an entry is the space. -/
theorem eq_space_of_mem_entry {group : TagGroup} (h : group ∈ tagGroups) {value : Text} {c : Char}
    (hc : c ∈ group.entry value) (hblank : isBlank c = true) : c = ' ' := by
  rcases List.mem_append.mp (setFrom_entry h value hc) with hsetting | hline
  · have hall : (settingChars.all fun d => isBlank d = true → d = ' ') = true := by decide
    exact of_decide_eq_true (List.all_eq_true.mp hall c hsetting) hblank
  · exact eq_space_of_mem_singleSpaced hline hblank

/-- **NO ENTRY LEAVES ITS LINE**, whatever the value of the tag. -/
theorem oneLine_entry {group : TagGroup} (h : group ∈ tagGroups) (value : Text) :
    OneLine (group.entry value) := fun hfeed =>
  absurd (eq_space_of_mem_entry h hfeed (by decide)) (by decide)

/-! ## Entries show something -/

theorem code_ne_nil (t : Text) : code t ≠ [] := List.cons_ne_nil _ _

theorem trimRight_code (t : Text) : trimRight (code t) = code t := by
  refine trimRight_eq_self_iff.mpr ?_
  intro c hc
  rw [code, List.getLast?_concat] at hc
  obtain rfl := Option.some.inj hc
  decide

theorem plainEntry_ne_nil (value : Text) : plainEntry value ≠ [] := by
  rw [plainEntry]
  split
  · decide
  · assumption

theorem typedEntry_ne_nil (value : Text) : typedEntry value ≠ [] := by
  rw [typedEntry]
  split
  · decide
  · rw [trimRight_append_of_visible (trimRight_code _)]
    exact List.append_ne_nil_of_left_ne_nil (code_ne_nil _) _

theorem paramEntry_ne_nil (value : Text) : paramEntry value ≠ [] := by
  rw [paramEntry]
  split
  · exact List.append_ne_nil_of_left_ne_nil
      (List.append_ne_nil_of_left_ne_nil (code_ne_nil _) _) _
  · exact plainEntry_ne_nil value

theorem entry_ne_nil {group : TagGroup} (h : group ∈ tagGroups) (value : Text) :
    group.entry value ≠ [] := by
  simp only [tagGroups, List.mem_cons, List.not_mem_nil, or_false] at h
  rcases h with rfl | rfl | rfl | rfl | rfl
  · exact paramEntry_ne_nil value
  · exact typedEntry_ne_nil value
  · exact typedEntry_ne_nil value
  · exact typedEntry_ne_nil value
  · exact plainEntry_ne_nil value

/-- The lines of a breakdown: a title, an entry or an empty line. -/
theorem mem_breakdown {doc : Comment} (h : line ∈ breakdown doc) :
    line = [] ∨ ∃ group ∈ tagGroups,
      line = "**" ++ group.title ++ ":**" ∨ ∃ value, line = "- " ++ group.entry value := by
  obtain ⟨group, hgroup, hline⟩ := List.mem_flatMap.mp h
  rw [groupLines] at hline
  split at hline
  · exact nomatch hline
  · simp only [List.cons_append, List.mem_cons, List.mem_append, List.mem_map,
      List.not_mem_nil, or_false] at hline
    rcases hline with rfl | ⟨tag, -, rfl⟩ | rfl
    · exact Or.inr ⟨group, hgroup, Or.inl rfl⟩
    · exact Or.inr ⟨group, hgroup, Or.inr ⟨tag.value, rfl⟩⟩
    · exact Or.inl rfl

end DocAudit.Report
