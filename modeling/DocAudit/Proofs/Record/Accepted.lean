import DocAudit.Record.Decode
import Mathlib.Data.List.Forall2

/-! # Accepted records — what a list of records has to be

    The checks of records collect complaints, but whether a value is accepted does not depend on
    the collecting: a check of several parts succeeds exactly if each part does
    (`and_eq_ok`, `each_eq_ok`).  So acceptance can be said member by member (`Describes`) and
    from the text down to the line numbers, and the bounds of a valid record are
    enforced wherever a value can be accepted. -/

namespace DocAudit

open Text

namespace Checked

variable {α β : Type}

theorem and_eq_ok {first : Checked α} {second : Checked β} {p : α × β} :
    first.and second = .ok p ↔ first = .ok p.1 ∧ second = .ok p.2 := by
  obtain ⟨a, b⟩ := p
  cases first with
  | error complaints => cases second <;> simp [Checked.and]
  | ok x => cases second <;> simp [Checked.and]

theorem mapError_eq_ok {ε δ : Type} {x : Except ε α} {f : ε → δ} {a : α} :
    x.mapError f = .ok a ↔ x = .ok a := by
  cases x <;> simp [Except.mapError]

theorem under_eq_ok {step : Step} {checked : Checked α} {a : α} :
    checked.under step = .ok a ↔ checked = .ok a :=
  mapError_eq_ok

theorem map_eq_ok {ε : Type} {x : Except ε α} {f : α → β} {b : β} :
    x.map f = .ok b ↔ ∃ a, x = .ok a ∧ f a = b := by
  cases x <;> simp [Except.map]

/-- A list is accepted exactly if each of its items is. -/
theorem each_eq_ok {check : α → Checked β} {index : Nat} {xs : List α} {ys : List β} :
    each check index xs = .ok ys ↔ List.Forall₂ (fun x y => check x = .ok y) xs ys := by
  induction xs generalizing index ys with
  | nil =>
      rw [each, List.forall₂_nil_left_iff]
      exact ⟨fun h => (Except.ok.inj h).symm, fun h => h ▸ rfl⟩
  | cons x rest ih =>
      rw [each, map_eq_ok, List.forall₂_cons_left_iff]
      constructor
      · rintro ⟨⟨y, more⟩, hboth, rfl⟩
        obtain ⟨hfirst, hrest⟩ := and_eq_ok.mp hboth
        exact ⟨y, more, under_eq_ok.mp hfirst, ih.mp hrest, rfl⟩
      · rintro ⟨y, more, hfirst, hrest, rfl⟩
        exact ⟨(y, more), and_eq_ok.mpr ⟨under_eq_ok.mpr hfirst, ih.mpr hrest⟩, rfl⟩

end Checked

namespace Record

open Checked

/-! ## Members -/

theorem required_eq_ok {α : Type} {members : Members} {key : Text} {others : List Text}
    {check : Json.Value → Except Problem α} {a : α} :
    required members key others check = .ok a ↔
      ∃ found value, find? members (key :: others) = some (found, value) ∧ check value = .ok a := by
  rw [required]
  cases hfind : find? members (key :: others) with
  | none => simp [Checked.under, Checked.complain, Except.mapError]
  | some entry =>
      obtain ⟨found, value⟩ := entry
      cases hcheck : check value with
      | error problem => simp [hcheck, Checked.under, Checked.complain, Except.mapError]
      | ok b => simp [hcheck]

/-- A member that may be absent is accepted if it is absent, null or a text. -/
theorem optional_eq_ok {members : Members} {key : Text} {others : List Text} {t : Option Text} :
    optional members key others = .ok t ↔
      find? members (key :: others) = none ∧ t = none ∨
        ∃ found value, find? members (key :: others) = some (found, value) ∧
          optionalText value = .ok t := by
  rw [optional]
  cases hfind : find? members (key :: others) with
  | none => simp [eq_comm]
  | some entry =>
      obtain ⟨found, value⟩ := entry
      cases hcheck : optionalText value with
      | error problem => simp [hcheck, Checked.under, Checked.complain, Except.mapError]
      | ok b => simp [hcheck]

/-- The members of an object say what the record says, one by one. -/
structure Describes (members : Members) (record : RecordedElement) : Prop where
  kind : required members "kind" [] kind = .ok record.kind
  name : required members "name" [] name = .ok record.name
  scope : optional members "namespace" [] = .ok record.scope
  startLine : required members "startLine" ["start_line"] line = .ok record.startLine
  endLine : required members "endLine" ["end_line"] line = .ok record.endLine
  raw : optional members "rawComment" ["raw_comment"] = .ok record.raw

theorem elementMembers_eq_ok {members : Members} {record : RecordedElement} :
    elementMembers members = .ok record ↔ Describes members record := by
  rw [elementMembers, map_eq_ok]
  constructor
  · rintro ⟨⟨kind, name, scope, startLine, endLine, raw⟩, hall, rfl⟩
    simp only [and_eq_ok] at hall
    obtain ⟨hkind, hname, hscope, hstart, hend, hraw⟩ := hall
    exact ⟨hkind, hname, hscope, hstart, hend, hraw⟩
  · intro h
    refine ⟨(record.kind, record.name, record.scope, record.startLine, record.endLine,
      record.raw), ?_, rfl⟩
    simp only [and_eq_ok]
    exact ⟨h.kind, h.name, h.scope, h.startLine, h.endLine, h.raw⟩

/-! ## Elements, files and texts -/

theorem element_eq_ok {value : Json.Value} {record : RecordedElement} :
    element value = .ok record ↔ ∃ members, value = .object members ∧
      Describes members record ∧ record.startLine ≤ record.endLine := by
  cases value with
  | object members =>
      rw [element]
      cases hmembers : elementMembers members with
      | error complaints =>
          have hno : ¬ Describes members record := by
            intro h
            rw [elementMembers_eq_ok.mpr h] at hmembers
            exact nomatch hmembers
          simp [hno]
      | ok found =>
          have hfound := elementMembers_eq_ok.mp hmembers
          show ordered found = .ok record ↔ _
          rw [ordered]
          constructor
          · intro h
            split at h
            · exact nomatch h
            · rename_i hle
              obtain rfl := Except.ok.inj h
              exact ⟨members, rfl, hfound, Nat.le_of_not_lt hle⟩
          · rintro ⟨_, ⟨⟩, hdescribes, hle⟩
            obtain rfl : found = record := by
              rw [elementMembers_eq_ok.mpr hdescribes] at hmembers
              exact (Except.ok.inj hmembers).symm
            rw [if_neg (Nat.not_lt.mpr hle)]
  | null | bool _ | number _ | text _ | array _ => simp [element, Checked.complain]

theorem elements_eq_ok {value : Json.Value} {records : List RecordedElement} :
    elements value = .ok records ↔ ∃ items, value = .array items ∧
      List.Forall₂ (fun item record => element item = .ok record) items records := by
  cases value with
  | array items =>
      rw [elements, each_eq_ok]
      simp
  | null | bool _ | number _ | text _ | object _ => simp [elements, Checked.complain]

/-- The elements of a file are those of its member, none if there is no such member. -/
theorem elementsMember_eq_ok {members : Members} {records : List RecordedElement} :
    elementsMember members = .ok records ↔
      Json.member? "elements" members = none ∧ records = [] ∨
        ∃ items, Json.member? "elements" members = some (.array items) ∧
          List.Forall₂ (fun item record => element item = .ok record) items records := by
  rw [elementsMember]
  cases Json.member? "elements" members with
  | none => simp [eq_comm]
  | some value =>
      show Checked.under _ _ = _ ↔ _
      rw [under_eq_ok, elements_eq_ok]
      simp

theorem file_eq_ok {value : Json.Value} {record : RecordedFile} :
    file value = .ok record ↔ ∃ members, value = .object members ∧
      required members "file" [] name = .ok record.file ∧
      elementsMember members = .ok record.elements := by
  cases value with
  | object members =>
      rw [file, map_eq_ok]
      constructor
      · rintro ⟨⟨path, elements⟩, hboth, rfl⟩
        obtain ⟨hpath, helements⟩ := and_eq_ok.mp hboth
        exact ⟨members, rfl, hpath, helements⟩
      · rintro ⟨_, ⟨⟩, hpath, helements⟩
        exact ⟨(record.file, record.elements), and_eq_ok.mpr ⟨hpath, helements⟩, rfl⟩
  | null | bool _ | number _ | text _ | array _ => simp [file, Checked.complain]

/-- **ACCEPTED TEXTS** are the JSON arrays whose items are accepted one by one. -/
theorem read_eq_ok {t : Text} {records : List RecordedFile} :
    read t = .ok records ↔ ∃ items, Json.read? t = some (.array items) ∧
      List.Forall₂ (fun item record => file item = .ok record) items records := by
  rw [read]
  cases hread : Json.read? t with
  | none => simp
  | some value =>
      show (files value).mapError Fault.invalid = .ok records ↔ _
      rw [mapError_eq_ok]
      cases value with
      | array items =>
          show each file 0 items = .ok records ↔ _
          rw [each_eq_ok]
          simp
      | null | bool _ | number _ | text _ | object _ => simp [files, Checked.complain]

/-! ## Valid records -/

/-- Every accepted record comes from an item. -/
theorem exists_item {α β : Type} {check : α → Checked β} {items : List α} {records : List β}
    (h : List.Forall₂ (fun item record => check item = .ok record) items records) {record : β}
    (hrecord : record ∈ records) : ∃ item ∈ items, check item = .ok record := by
  induction h with
  | nil => exact nomatch hrecord
  | cons hfirst _ ih =>
      rcases List.mem_cons.mp hrecord with rfl | hmem
      · exact ⟨_, List.mem_cons_self, hfirst⟩
      · obtain ⟨item, hitem, hcheck⟩ := ih hmem
        exact ⟨item, List.mem_cons_of_mem _ hitem, hcheck⟩

theorem ne_nil_of_name {value : Json.Value} {t : Text} (h : name value = .ok t) : t ≠ [] := by
  cases value with
  | text s =>
      cases s with
      | nil => exact nomatch h
      | cons c rest =>
          obtain rfl := Except.ok.inj h
          exact List.cons_ne_nil c rest
  | null | bool _ | number _ | array _ | object _ => exact nomatch h

theorem one_le_of_atLeastOne {n : Int} {m : Nat} (h : atLeastOne n = .ok m) : 1 ≤ m := by
  rw [atLeastOne] at h
  split at h
  · obtain rfl := Except.ok.inj h
    omega
  · exact nomatch h

/-- Whatever form a line number comes in, it is at least one. -/
theorem one_le_of_line {value : Json.Value} {n : Nat} (h : line value = .ok n) : 1 ≤ n := by
  cases value with
  | number number =>
      cases number with
      | integer k => exact one_le_of_atLeastOne h
      | decimal d =>
          rw [line, lineOfDecimal] at h
          split at h
          · exact nomatch h
          · split at h
            · exact nomatch h
            · split at h
              · exact nomatch h
              · exact one_le_of_atLeastOne h
      | notANumber | infinite => exact nomatch h
  | bool b => exact one_le_of_atLeastOne h
  | text t =>
      rw [line, lineOfText] at h
      split at h
      · exact nomatch h
      · split at h
        · exact nomatch h
        · exact one_le_of_atLeastOne h
  | null | array _ | object _ => exact nomatch h

theorem valid_of_element {value : Json.Value} {record : RecordedElement}
    (h : element value = .ok record) : record.Valid := by
  obtain ⟨members, -, hdescribes, hle⟩ := element_eq_ok.mp h
  obtain ⟨-, value, -, hname⟩ := required_eq_ok.mp hdescribes.name
  obtain ⟨-, start, -, hstart⟩ := required_eq_ok.mp hdescribes.startLine
  exact ⟨ne_nil_of_name hname, one_le_of_line hstart, hle⟩

theorem valid_of_elementsMember {members : Members} {records : List RecordedElement}
    (h : elementsMember members = .ok records) : ∀ record ∈ records, record.Valid := by
  rcases elementsMember_eq_ok.mp h with ⟨-, rfl⟩ | ⟨items, -, hitems⟩
  · exact nofun
  · intro record hrecord
    obtain ⟨item, -, hitem⟩ := exists_item hitems hrecord
    exact valid_of_element hitem

/-- **WHAT IS ACCEPTED IS VALID.** -/
theorem valid_of_read {t : Text} {records : List RecordedFile} (h : read t = .ok records) :
    ∀ record ∈ records, record.Valid := by
  obtain ⟨items, -, hitems⟩ := read_eq_ok.mp h
  intro record hrecord
  obtain ⟨item, -, hitem⟩ := exists_item hitems hrecord
  obtain ⟨members, -, hpath, helements⟩ := file_eq_ok.mp hitem
  obtain ⟨-, value, -, hname⟩ := required_eq_ok.mp hpath
  exact ⟨ne_nil_of_name hname, valid_of_elementsMember helements⟩

end Record

end DocAudit
