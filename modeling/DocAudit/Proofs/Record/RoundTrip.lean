import DocAudit.Proofs.Json.Spelling
import DocAudit.Proofs.Record.Accepted
import DocAudit.Record.Encode

/-! # Round trip — written records are read back

    A list of records has many texts: the texts of every JSON value that DENOTES it.  Such
    a value has an object for each record, with a member for each field under its first
    name; the order of the members is free, and a value that is absent is null or left out.

    All these texts are read back as the records that they were written from, if the records
    are VALID (`read_of_writes`), and nothing but valid records is ever read. -/

namespace DocAudit

open Text

/-- The numerals of the lines are short enough to be read. -/
def RecordedElement.LinesFit (record : RecordedElement) : Prop :=
  (Numeral.ofNat record.startLine).length ≤ Numeral.digitLimit ∧
    (Numeral.ofNat record.endLine).length ≤ Numeral.digitLimit

namespace Json

theorem member?_eq_none {members : List (Text × Value)} {key : Text}
    (h : key ∉ members.map (·.1)) : member? key members = none := by
  induction members with
  | nil => rfl
  | cons first rest ih =>
      obtain ⟨name, v⟩ := first
      rw [List.map_cons, List.mem_cons, not_or] at h
      rw [member?, ih h.2]
      exact if_neg (Ne.symm h.1)

/-- Of members with different names each one is found. -/
theorem member?_of_mem {members : List (Text × Value)} (hnodup : (members.map (·.1)).Nodup)
    {key : Text} {value : Value} (h : (key, value) ∈ members) :
    member? key members = some value := by
  induction members with
  | nil => exact nomatch h
  | cons first rest ih =>
      obtain ⟨name, v⟩ := first
      obtain ⟨hfirst, hrest⟩ := List.nodup_cons.mp hnodup
      rw [member?]
      rcases List.mem_cons.mp h with heq | hmem
      · obtain ⟨rfl, rfl⟩ := Prod.mk.inj heq
        rw [member?_eq_none hfirst]
        exact if_pos rfl
      · rw [ih hrest hmem]

end Json

namespace Record

/-! ## Values that denote records -/

/-- The members for a text that may be absent. -/
inductive OptionalMember (key : Text) : Option Text → Members → Prop
  | present (t : Text) : OptionalMember key (some t) [(key, .text t)]
  | null : OptionalMember key none [(key, .null)]
  | omitted : OptionalMember key none []

/-- The members that say what an element is. -/
def labelMembers (record : RecordedElement) : Members :=
  [("kind", .text record.kind.name), ("name", .text record.name)]

/-- The members that say where an element stands. -/
def lineMembers (record : RecordedElement) : Members :=
  [("startLine", .number (.integer record.startLine)),
    ("endLine", .number (.integer record.endLine))]

/-- The values of an element. -/
def DenotesElement (record : RecordedElement) (value : Json.Value) : Prop :=
  ∃ members scope raw, value = .object members ∧ OptionalMember "namespace" record.scope scope ∧
    OptionalMember "rawComment" record.raw raw ∧
    members.Perm (labelMembers record ++ lineMembers record ++ scope ++ raw)

/-- The values of a file. -/
def DenotesFile (record : RecordedFile) (value : Json.Value) : Prop :=
  ∃ members items, value = .object members ∧ List.Forall₂ DenotesElement record.elements items ∧
    members.Perm [("file", .text record.file), ("elements", .array items)]

/-- The texts of a list of records. -/
def Writes (records : List RecordedFile) (t : Text) : Prop :=
  ∃ items, List.Forall₂ DenotesFile records items ∧
    Json.Padded (Json.Spells Json.depthLimit) (.array items) t

/-! ## Members are found -/

section

variable {members : Members} {key : Text} {others : List Text}

theorem find?_of_mem (hnodup : (members.map (·.1)).Nodup) {value : Json.Value}
    (h : (key, value) ∈ members) : find? members (key :: others) = some (key, value) := by
  rw [find?, Json.member?_of_mem hnodup h]

theorem find?_eq_none {keys : List Text} (h : ∀ key ∈ keys, key ∉ members.map (·.1)) :
    find? members keys = none := by
  induction keys with
  | nil => rfl
  | cons key rest ih =>
      rw [find?, Json.member?_eq_none (h key List.mem_cons_self)]
      exact ih fun k hk => h k (List.mem_cons_of_mem key hk)

theorem required_of_mem {α : Type} {check : Json.Value → Except Problem α} {a : α}
    (hnodup : (members.map (·.1)).Nodup) {value : Json.Value} (h : (key, value) ∈ members)
    (hcheck : check value = .ok a) : required members key others check = .ok a :=
  required_eq_ok.mpr ⟨key, value, find?_of_mem hnodup h, hcheck⟩

/-- A text that may be absent is found, whether it is there, null or left out. -/
theorem optional_of_optionalMember {t : Option Text} {ms : Members} (h : OptionalMember key t ms)
    (hnodup : (members.map (·.1)).Nodup) (hmem : ms ⊆ members)
    (hnone : ms = [] → ∀ k ∈ key :: others, k ∉ members.map (·.1)) :
    optional members key others = .ok t := by
  refine optional_eq_ok.mpr ?_
  cases h with
  | present t =>
      exact Or.inr ⟨key, .text t, find?_of_mem hnodup (hmem List.mem_cons_self), rfl⟩
  | null => exact Or.inr ⟨key, .null, find?_of_mem hnodup (hmem List.mem_cons_self), rfl⟩
  | omitted => exact Or.inl ⟨find?_eq_none (hnone rfl), rfl⟩

end

theorem OptionalMember.sublist {key : Text} {t : Option Text} {ms : Members}
    (h : OptionalMember key t ms) : (ms.map (·.1)).Sublist [key] := by
  cases h with
  | present t => exact List.Sublist.refl _
  | null => exact List.Sublist.refl _
  | omitted => exact List.nil_sublist _

/-! ## Denoted records are accepted -/

theorem kind_text (k : Kind) : kind (.text k.name) = .ok k := by
  rw [kind, Kind.ofName?_name]

theorem name_text {t : Text} (h : t ≠ []) : name (.text t) = .ok t := by
  cases t with
  | nil => exact absurd rfl h
  | cons c rest => rfl

theorem line_number {n : Nat} (h : 1 ≤ n) : line (.number (.integer n)) = .ok n := by
  show atLeastOne n = .ok n
  rw [atLeastOne, if_pos (by omega), Int.toNat_natCast]

/-- The names of the members that every element has. -/
def fixedKeys : List Text := ["kind", "name", "startLine", "endLine"]

/-- Of the names of an optional member none is there if the member is left out. -/
theorem not_mem_keys {keys : List Text} {others : Members} {key : Text} {left : List Text}
    (hkeys : keys.Perm (fixedKeys ++ others.map (·.1)))
    (hothers : (others.map (·.1)).Sublist [key]) (hleft : ∀ k ∈ left, k ∉ fixedKeys ++ [key]) :
    ∀ k ∈ left, k ∉ keys := by
  intro k hk hmem
  have hsub := ((List.Sublist.refl fixedKeys).append hothers).subset
  exact hleft k hk (hsub (hkeys.mem_iff.mp hmem))

/-- The members of a denoted element describe it, whatever their order. -/
theorem describes_of_perm {record : RecordedElement} (hvalid : record.Valid)
    {members scope raw : Members} (hscope : OptionalMember "namespace" record.scope scope)
    (hraw : OptionalMember "rawComment" record.raw raw)
    (hperm : members.Perm (labelMembers record ++ lineMembers record ++ scope ++ raw)) :
    Describes members record := by
  obtain ⟨hname, hstart, hle⟩ := hvalid
  have hkeys : (members.map (·.1)).Perm (fixedKeys ++ scope.map (·.1) ++ raw.map (·.1)) := by
    have := hperm.map (·.1)
    rw [List.map_append, List.map_append] at this
    exact this
  have hnodup : (members.map (·.1)).Nodup := by
    -- an optional member gives its own name or none
    have hsub := ((List.Sublist.refl fixedKeys).append hscope.sublist).append hraw.sublist
    exact hkeys.nodup_iff.mpr (List.Nodup.sublist hsub (by decide))
  have hlabels : labelMembers record ⊆ members := fun member hmember =>
    hperm.mem_iff.mpr (by simp [hmember])
  have hlines : lineMembers record ⊆ members := fun member hmember =>
    hperm.mem_iff.mpr (by simp [hmember])
  have hscopes : scope ⊆ members := fun member hmember => hperm.mem_iff.mpr (by simp [hmember])
  have hraws : raw ⊆ members := fun member hmember => hperm.mem_iff.mpr (by simp [hmember])
  exact {
    kind := required_of_mem hnodup (hlabels List.mem_cons_self) (kind_text record.kind)
    name := required_of_mem hnodup (hlabels (List.mem_cons_of_mem _ List.mem_cons_self))
      (name_text hname)
    scope := by
      refine optional_of_optionalMember hscope hnodup hscopes ?_
      rintro rfl
      rw [List.map_nil, List.append_nil] at hkeys
      exact not_mem_keys hkeys hraw.sublist (by decide)
    startLine := required_of_mem hnodup (hlines List.mem_cons_self) (line_number hstart)
    endLine := required_of_mem hnodup (hlines (List.mem_cons_of_mem _ List.mem_cons_self))
      (line_number (Nat.le_trans hstart hle))
    raw := by
      refine optional_of_optionalMember hraw hnodup hraws ?_
      rintro rfl
      rw [List.map_nil, List.append_nil] at hkeys
      exact not_mem_keys hkeys hscope.sublist (by decide) }

theorem element_of_denotes {record : RecordedElement} (hvalid : record.Valid) {value : Json.Value}
    (h : DenotesElement record value) : element value = .ok record := by
  obtain ⟨members, scope, raw, rfl, hscope, hraw, hperm⟩ := h
  exact element_eq_ok.mpr
    ⟨members, rfl, describes_of_perm hvalid hscope hraw hperm, hvalid.2.2⟩

/-- Denoted records that are valid are accepted one by one. -/
theorem forall₂_of_denotes {α : Type} {check : Json.Value → Checked α} {valid : α → Prop}
    {Denotes : α → Json.Value → Prop}
    (hcheck : ∀ record value, valid record → Denotes record value → check value = .ok record)
    {records : List α} {items : List Json.Value} (hvalid : ∀ record ∈ records, valid record)
    (h : List.Forall₂ Denotes records items) :
    List.Forall₂ (fun item record => check item = .ok record) items records := by
  induction h with
  | nil => exact .nil
  | cons hfirst _ ih =>
      refine .cons (hcheck _ _ (hvalid _ List.mem_cons_self) hfirst) ?_
      exact ih fun record hrecord => hvalid record (List.mem_cons_of_mem _ hrecord)

theorem file_of_denotes {record : RecordedFile} (hvalid : record.Valid) {value : Json.Value}
    (h : DenotesFile record value) : file value = .ok record := by
  obtain ⟨members, items, rfl, hitems, hperm⟩ := h
  obtain ⟨hfile, helements⟩ := hvalid
  have hnodup : (members.map (·.1)).Nodup := by
    refine (hperm.map (·.1)).nodup_iff.mpr ?_
    show ([("file" : Text), "elements"] : List Text).Nodup
    decide
  refine file_eq_ok.mpr ⟨members, rfl, ?_, elementsMember_eq_ok.mpr (Or.inr ⟨items, ?_, ?_⟩)⟩
  · exact required_of_mem hnodup (hperm.mem_iff.mpr List.mem_cons_self) (name_text hfile)
  · exact Json.member?_of_mem hnodup
      (hperm.mem_iff.mpr (List.mem_cons_of_mem _ List.mem_cons_self))
  · exact forall₂_of_denotes (fun _ _ hvalid h => element_of_denotes hvalid h) helements hitems

theorem read_of_writes {records : List RecordedFile} (hvalid : ∀ record ∈ records, record.Valid)
    {t : Text} (h : Writes records t) : read t = .ok records := by
  obtain ⟨items, hitems, hspells⟩ := h
  exact read_eq_ok.mpr ⟨items, Json.read?_of_spells hspells,
    forall₂_of_denotes (fun _ _ hvalid h => file_of_denotes hvalid h) hvalid hitems⟩

/-! ## The text that is written -/

theorem spellsUnit_hex {n : Nat} (h : n < 0x20) : Json.SpellsUnit n ("\\u" ++ Numeral.hex 4 n) := by
  have hall : ∀ n < 0x20, Numeral.hex 4 n = [(n / 4096).digitChar, (n / 256 % 16).digitChar,
      (n / 16 % 16).digitChar, (n % 16).digitChar] := by decide
  rw [hall n h]
  exact ⟨_, _, _, _, rfl, ⟨by omega, Or.inl rfl⟩, ⟨by omega, Or.inl rfl⟩, ⟨by omega, Or.inl rfl⟩,
    ⟨by omega, Or.inl rfl⟩⟩

theorem spellsChar_escape (c : Char) : Json.SpellsChar c (escape c) := by
  rw [escape]
  split
  · rename_i h
    refine .short ?_
    rcases h with rfl | rfl
    · decide
    · decide
  · rename_i h
    obtain ⟨hquote, hslash⟩ := not_or.mp h
    split
    · rename_i hlt
      exact .unit (spellsUnit_hex hlt)
    · rename_i hge
      exact .plain (Nat.le_of_not_lt hge) hquote hslash

theorem spellsString_stringText (t : Text) : Json.SpellsString t (stringText t) := by
  refine ⟨t.map escape, ?_, ?_⟩
  · rw [List.forall₂_map_right_iff, List.forall₂_same]
    exact fun c _ => spellsChar_escape c
  · rw [stringText, List.flatMap_def]

theorem spellsMember_memberText {R : Json.Value → Text → Prop} (key : Text) {value : Json.Value}
    {t : Text} (h : R value t) : Json.SpellsMember R (key, value) (memberText key t) :=
  ⟨stringText key, [], [], t, spellsString_stringText key, Json.space_nil, Json.space_nil, h,
    by simp [memberText]⟩

theorem listed_join {α : Type} {R : α → Text → Prop} {xs : List α} {ts : List Text}
    (h : List.Forall₂ R xs ts) : Json.Listed R xs (join [','] ts) :=
  Or.inr ⟨ts, h.imp fun _ t ht => ⟨[], t, [], Json.space_nil, ht, Json.space_nil, by simp⟩, rfl⟩

section

variable {depth : Nat}

theorem spells_objectText {members : Members} {texts : List Text}
    (h : List.Forall₂ (Json.SpellsMember (Json.Spells depth)) members texts) :
    Json.Spells (depth + 1) (.object members) (objectText texts) :=
  ⟨_, listed_join h, rfl⟩

theorem spells_arrayText {items : List Json.Value} {texts : List Text}
    (h : List.Forall₂ (Json.Spells depth) items texts) :
    Json.Spells (depth + 1) (.array items) (arrayText texts) :=
  ⟨_, listed_join h, rfl⟩

theorem spells_stringText (t : Text) : Json.Spells (depth + 1) (.text t) (stringText t) :=
  .text (spellsString_stringText t)

theorem exists_optionalMember (omitAbsent : Bool) (key : Text) (t : Option Text) :
    ∃ ms, OptionalMember key t ms ∧
      List.Forall₂ (Json.SpellsMember (Json.Spells (depth + 1))) ms
        (optionalMember omitAbsent key t) := by
  cases t with
  | some t => exact ⟨_, .present t, .cons (spellsMember_memberText key (spells_stringText t)) .nil⟩
  | none =>
      cases omitAbsent with
      | true => exact ⟨[], .omitted, .nil⟩
      | false =>
          have hnull : Json.Spells (depth + 1) .null "null" := .null
          exact ⟨_, .null, .cons (spellsMember_memberText key hnull) .nil⟩

end

theorem exists_elementText (depth : Nat) (omitAbsent : Bool) {record : RecordedElement}
    (hfit : record.LinesFit) :
    ∃ value, DenotesElement record value ∧
      Json.Spells (depth + 2) value (elementText omitAbsent record) := by
  obtain ⟨scope, hscope, hscopeText⟩ := exists_optionalMember omitAbsent "namespace" record.scope
  obtain ⟨raw, hraw, hrawText⟩ := exists_optionalMember omitAbsent "rawComment" record.raw
  have hstart : Json.Spells (depth + 1) (.number (.integer record.startLine))
      (Numeral.ofNat record.startLine) := .number hfit.1
  have hend : Json.Spells (depth + 1) (.number (.integer record.endLine))
      (Numeral.ofNat record.endLine) := .number hfit.2
  refine ⟨.object (labelMembers record ++ scope ++ lineMembers record ++ raw),
    ⟨_, scope, raw, rfl, hscope, hraw, List.Perm.append_right raw ?_⟩, spells_objectText ?_⟩
  · rw [List.append_assoc, List.append_assoc]
    exact List.perm_append_comm.append_left (labelMembers record)
  · refine List.rel_append (List.rel_append (List.rel_append ?_ hscopeText) ?_) hrawText
    · exact .cons (spellsMember_memberText _ (spells_stringText _))
        (.cons (spellsMember_memberText _ (spells_stringText _)) .nil)
    · exact .cons (spellsMember_memberText _ hstart) (.cons (spellsMember_memberText _ hend) .nil)

/-- Things that can be written one by one can be written together. -/
theorem exists_forall₂ {α : Type} {Denotes : α → Json.Value → Prop}
    {R : Json.Value → Text → Prop} {text : α → Text} {xs : List α}
    (h : ∀ x ∈ xs, ∃ value, Denotes x value ∧ R value (text x)) :
    ∃ values, List.Forall₂ Denotes xs values ∧ List.Forall₂ R values (xs.map text) := by
  induction xs with
  | nil => exact ⟨[], .nil, .nil⟩
  | cons x rest ih =>
      obtain ⟨value, hdenotes, hspells⟩ := h x List.mem_cons_self
      obtain ⟨values, hrest, htexts⟩ := ih fun y hy => h y (List.mem_cons_of_mem x hy)
      exact ⟨value :: values, .cons hdenotes hrest, .cons hspells htexts⟩

theorem exists_fileText (depth : Nat) (omitAbsent : Bool) {record : RecordedFile}
    (hfit : ∀ element ∈ record.elements, element.LinesFit) :
    ∃ value, DenotesFile record value ∧
      Json.Spells (depth + 4) value (fileText omitAbsent record) := by
  obtain ⟨items, hitems, htexts⟩ := exists_forall₂ fun element helement =>
    exists_elementText depth omitAbsent (hfit element helement)
  refine ⟨_, ⟨_, items, rfl, hitems, List.Perm.refl _⟩, spells_objectText ?_⟩
  exact .cons (spellsMember_memberText _ (spells_stringText _))
    (.cons (spellsMember_memberText _ (spells_arrayText htexts)) .nil)

/-- What is written is one of the texts of the records. -/
theorem writes_encode (omitAbsent : Bool) {records : List RecordedFile}
    (hfit : ∀ record ∈ records, ∀ element ∈ record.elements, element.LinesFit) :
    Writes records (encode omitAbsent records) := by
  obtain ⟨items, hitems, htexts⟩ := exists_forall₂ fun record hrecord =>
    -- an element's text in an object in an array in an object in an array is five deep
    exists_fileText 196 omitAbsent (hfit record hrecord)
  exact ⟨items, hitems, [], _, [], Json.space_nil, spells_arrayText htexts, Json.space_nil,
    by simp [encode]⟩

/-- **THE FORMAT HOLDS EXACTLY THE VALID RECORDS**: what is read is valid, and valid records are
    read back from every text of theirs, one of which is the text that is written. -/
theorem read_roundTrip :
    (∀ t records, read t = .ok records → ∀ record ∈ records, record.Valid) ∧
    ∀ records : List RecordedFile, (∀ record ∈ records, record.Valid) →
      (∀ record ∈ records, ∀ element ∈ record.elements, element.LinesFit) →
      (∀ t, Writes records t → read t = .ok records) ∧
      ∀ omitAbsent, Writes records (encode omitAbsent records) ∧
        read (encode omitAbsent records) = .ok records := by
  refine ⟨fun t records h => valid_of_read h, ?_⟩
  intro records hvalid hfit
  refine ⟨fun t h => read_of_writes hvalid h, ?_⟩
  intro omitAbsent
  have hwrites := writes_encode omitAbsent hfit
  exact ⟨hwrites, read_of_writes hvalid hwrites⟩

/-- A file with an astral name and a trait that has a comment and no namespace. -/
def astral : List RecordedFile :=
  [⟨['😀', '/'], [⟨.trait, ['"'], none, 7, 10, some ['\n', 'é']⟩]⟩]

/-- A text with white space, members in reverse order and every kind of escape. -/
def astralText : Text :=
  "[ \x7b\"elements\":[\x7b\"rawComment\":\"\\u000Aé\",\"namespace\":null,\"endLine\":10,".toList
    ++ "\"startLine\":7,\"name\":\"\\\"\",\"kind\":\"trait\"\x7d],".toList
    ++ "\"file\":\"\\uD83D\\ude00\\/\"\x7d]\n".toList

theorem writes_astralText : Writes astral astralText := by
  have hfeed : Json.SpellsUnit '\n'.toNat "\\u000A" :=
    ⟨'0', '0', '0', 'A', rfl, by decide, by decide, by decide, by decide⟩
  have hhigh : Json.SpellsUnit (0xD800 + 0x3D) "\\uD83D" :=
    ⟨'D', '8', '3', 'D', rfl, by decide, by decide, by decide, by decide⟩
  have hlow : Json.SpellsUnit (0xDC00 + 0x200) "\\ude00" :=
    ⟨'d', 'e', '0', '0', rfl, by decide, by decide, by decide, by decide⟩
  have hcomment : Json.SpellsString ['\n', 'é'] "\"\\u000Aé\"" :=
    ⟨_, .cons (.unit hfeed) (.cons (.plain (by decide) (by decide) (by decide)) .nil), rfl⟩
  have hfile : Json.SpellsString ['😀', '/'] "\"\\uD83D\\ude00\\/\"" :=
    ⟨_, .cons (.pair (by decide) (by decide) (by decide) hhigh hlow)
      (.cons (.short (by decide)) .nil), rfl⟩
  have helement : ∃ value, DenotesElement ⟨.trait, ['"'], none, 7, 10, some ['\n', 'é']⟩ value ∧
      Json.Spells 198 value (objectText [memberText "rawComment" "\"\\u000Aé\"",
        memberText "namespace" "null", memberText "endLine" (Numeral.ofNat 10),
        memberText "startLine" (Numeral.ofNat 7), memberText "name" (stringText ['"']),
        memberText "kind" (stringText "trait")]) := by
    refine ⟨_, ⟨_, _, _, rfl, .null, .present _, List.reverse_perm _⟩, spells_objectText ?_⟩
    exact .cons (spellsMember_memberText _ (.text hcomment))
      (.cons (spellsMember_memberText _ .null)
      (.cons (spellsMember_memberText _ (.number (by decide)))
      (.cons (spellsMember_memberText _ (.number (by decide)))
      (.cons (spellsMember_memberText _ (spells_stringText _))
      (.cons (spellsMember_memberText _ (spells_stringText _)) .nil)))))
  obtain ⟨value, hvalue, htext⟩ := helement
  have hobject : Json.Spells 200
      (.object [("elements", .array [value]), ("file", .text ['😀', '/'])]) _ :=
    spells_objectText (.cons (spellsMember_memberText _ (spells_arrayText (.cons htext .nil)))
      (.cons (spellsMember_memberText _ (.text hfile)) .nil))
  have harray : Json.Listed (Json.Spells 200) [_] _ :=
    Or.inr ⟨[_], .cons ⟨[' '], _, [], by simp [Json.Space], hobject, Json.space_nil, rfl⟩ .nil, rfl⟩
  exact ⟨_, .cons ⟨_, [value], rfl, .cons hvalue .nil, List.Perm.swap _ _ []⟩ .nil, [], _, ['\n'],
    Json.space_nil, ⟨_, harray, rfl⟩, by simp [Json.Space], by decide +kernel⟩

theorem read_roundTrip_astral :
    Writes astral astralText ∧ read astralText = .ok astral ∧
      read (encode true astral) = .ok astral ∧ read (encode false astral) = .ok astral := by
  have hvalid : ∀ record ∈ astral, record.Valid := by
    intro record hrecord
    obtain rfl := List.mem_singleton.mp hrecord
    refine ⟨by decide, ?_⟩
    intro element helement
    obtain rfl := List.mem_singleton.mp helement
    exact ⟨by decide, by decide, by decide⟩
  have hfit : ∀ record ∈ astral, ∀ element ∈ record.elements, element.LinesFit := by
    intro record hrecord element helement
    obtain rfl := List.mem_singleton.mp hrecord
    obtain rfl := List.mem_singleton.mp helement
    exact ⟨by decide, by decide⟩
  obtain ⟨hread, hencode⟩ := read_roundTrip.2 astral hvalid hfit
  exact ⟨writes_astralText, hread astralText writes_astralText, (hencode true).2,
    (hencode false).2⟩

end Record

end DocAudit
