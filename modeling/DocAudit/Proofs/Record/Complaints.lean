import DocAudit.Proofs.Record.Accepted
import Mathlib

/-! # Complaints — every fault once, in order

    What is wrong with a list of records is reported as a list of complaints, each with its
    location.  Whatever the value, the list is TIDY: no location comes twice or leads beyond
    another, and locations come in the order of the value, which is the order of indices and of
    the members as they are declared.  A member with two names has one place in that order.

    Two locations stand in order if they PART at some step, the first taking the earlier way
    (`Precedes`).  Checks put complaints together in two ways only, one behind the other and one
    step further out.  So there is one lemma for each way (`Sequence.and`, `Orderly.under`), and
    the checks of members, elements and files follow from them.

    That the list leaves nothing out is said by relations which list the faults of a value without
    running its checks (`ListFault`, `FileFault`, `ElementFault`). -/

namespace DocAudit

open Text

variable {α β : Type}

/-- The same complaint one step further out. -/
def Complaint.within (step : Step) (complaint : Complaint) : Complaint :=
  { complaint with location := step :: complaint.location }

/-- The same complaint, about item `i` instead of the first. -/
def Complaint.renumber (i : Nat) (complaint : Complaint) : Complaint :=
  match complaint.location with
  | .index 0 :: rest => { complaint with location := .index i :: rest }
  | _ => complaint

@[simp] theorem Complaint.renumber_within (i : Nat) (complaint : Complaint) :
    (complaint.within (.index 0)).renumber i = complaint.within (.index i) := rfl

namespace Checked

/-- The complaints of a check, none if it gives a value. -/
def complaints : Checked α → List Complaint
  | .ok _ => []
  | .error complaints => complaints

@[simp] theorem complaints_ok (a : α) : complaints (.ok a) = [] := rfl

@[simp] theorem complaints_error (cs : List Complaint) :
    complaints (.error cs : Checked α) = cs := rfl

@[simp] theorem complaints_complain (problem : Problem) :
    (complain problem : Checked α).complaints = [⟨[], problem⟩] := rfl

@[simp] theorem complaints_map (f : α → β) (checked : Checked α) :
    complaints (Except.map f checked) = checked.complaints := by
  cases checked with
  | ok a => rfl
  | error cs => rfl

@[simp] theorem complaints_under (step : Step) (checked : Checked α) :
    (checked.under step).complaints = checked.complaints.map (Complaint.within step) := by
  cases checked with
  | ok a => rfl
  | error cs => rfl

@[simp] theorem complaints_and (first : Checked α) (second : Checked β) :
    (first.and second).complaints = first.complaints ++ second.complaints := by
  cases first with
  | ok a => cases second <;> rfl
  | error cs =>
      cases second with
      | ok b => exact (List.append_nil cs).symm
      | error more => rfl

/-- The complaints about the items of a list, one item behind the other. -/
theorem complaints_each (check : α → Checked β) (index : Nat) (xs : List α) :
    (each check index xs).complaints
      = (xs.zipIdx index).flatMap fun (x, i) =>
          (check x).complaints.map (Complaint.within (.index i)) := by
  induction xs generalizing index with
  | nil => rfl
  | cons x rest ih =>
      rw [each, complaints_map, complaints_and, complaints_under, ih, List.zipIdx_cons,
        List.flatMap_cons]

end Checked

/-! ## The order of locations -/

/-- The members of files and of elements in the order of their declarations; the names of one
    member stand together. -/
def memberOrder : List (List Text) :=
  [["file"], ["elements"], ["kind"], ["name"], ["namespace"], ["startLine", "start_line"],
    ["endLine", "end_line"], ["rawComment", "raw_comment"]]

/-- The place of a step among the steps that lead on from the same value. -/
def Step.order : Step → Nat
  | .index n => n
  | .name key => memberOrder.findIdx fun names => names.contains key

/-- The two locations part at some step, and the first takes the earlier way. -/
def Precedes (p q : List Step) : Prop :=
  ∃ common s t, s.order < t.order ∧ common ++ [s] <+: p ∧ common ++ [t] <+: q

namespace Precedes

variable {p q : List Step}

theorem of_order_lt {s t : Step} (h : s.order < t.order) (p q : List Step) :
    Precedes (s :: p) (t :: q) :=
  ⟨[], s, t, h, List.prefix_append [s] p, List.prefix_append [t] q⟩

protected theorem cons (step : Step) (h : Precedes p q) : Precedes (step :: p) (step :: q) := by
  obtain ⟨common, s, t, hlt, hp, hq⟩ := h
  exact ⟨step :: common, s, t, hlt, List.cons_prefix_cons.mpr ⟨rfl, hp⟩,
    List.cons_prefix_cons.mpr ⟨rfl, hq⟩⟩

/-- Where two locations part, they have taken different steps. -/
theorem not_both_prefix (h : Precedes p q) {r : List Step} (hp : p <+: r) (hq : q <+: r) :
    False := by
  obtain ⟨common, s, t, hlt, hs, ht⟩ := h
  have hsame : common ++ [s] = common ++ [t] :=
    (List.prefix_of_prefix_length_le (hs.trans hp) (ht.trans hq) (by simp)).eq_of_length (by simp)
  obtain rfl : s = t := by simpa using hsame
  exact Nat.lt_irrefl _ hlt

theorem not_prefix (h : Precedes p q) : ¬ p <+: q := fun hp => h.not_both_prefix hp List.prefix_rfl

theorem not_prefix_left (h : Precedes p q) : ¬ q <+: p := fun hq =>
  h.not_both_prefix List.prefix_rfl hq

theorem ne (h : Precedes p q) : p ≠ q := fun heq => h.not_prefix (heq ▸ List.prefix_rfl)

end Precedes

/-! ## Checks whose complaints are in order -/

namespace Checked

/-- The check gives a value or complains, and its complaints are in order. -/
structure Orderly (checked : Checked α) : Prop where
  sincere : checked ≠ .error []
  ordered : checked.complaints.Pairwise fun a b => Precedes a.location b.location

/-- An orderly check that complains about what lies beyond the steps from `low` up to `high`. -/
structure Sequence (low high : Nat) (checked : Checked α) : Prop extends Orderly checked where
  ranged : ∀ c ∈ checked.complaints, ∃ step rest,
    c.location = step :: rest ∧ low ≤ step.order ∧ step.order < high

theorem orderly_ok (a : α) : Orderly (.ok a : Checked α) := ⟨nofun, List.Pairwise.nil⟩

theorem sequence_ok {low high : Nat} (a : α) : Sequence low high (.ok a : Checked α) :=
  ⟨orderly_ok a, fun _ hc => nomatch hc⟩

theorem orderly_complain (problem : Problem) : Orderly (complain problem : Checked α) :=
  ⟨nofun, List.pairwise_singleton _ _⟩

theorem Orderly.complaints_eq_nil_iff {checked : Checked α} (h : checked.Orderly) :
    checked.complaints = [] ↔ ∃ a, checked = .ok a := by
  cases checked with
  | ok a => simp
  | error cs =>
      have hne : cs ≠ [] := fun hnil => h.sincere (congrArg Except.error hnil)
      simp [hne]

theorem Orderly.map {checked : Checked α} (h : checked.Orderly) (f : α → β) :
    Orderly (Except.map f checked) where
  sincere := by
    intro hnil
    cases checked with
    | ok a => exact nomatch hnil
    | error cs => exact h.sincere (congrArg Except.error (Except.error.inj hnil))
  ordered := by
    rw [complaints_map]
    exact h.ordered

theorem Sequence.map {low high : Nat} {checked : Checked α} (h : Sequence low high checked)
    (f : α → β) : Sequence low high (Except.map f checked) where
  toOrderly := h.toOrderly.map f
  ranged := by
    rw [complaints_map]
    exact h.ranged

/-- **ONE STEP FURTHER OUT**: what was in order is in order behind the same step. -/
theorem Orderly.under {checked : Checked α} (h : checked.Orderly) (step : Step) :
    Sequence step.order (step.order + 1) (checked.under step) where
  sincere := by
    intro hnil
    cases checked with
    | ok a => exact nomatch hnil
    | error cs =>
        have hmap : cs.map (Complaint.within step) = [] := Except.error.inj hnil
        exact h.sincere (congrArg Except.error (List.map_eq_nil_iff.mp hmap))
  ordered := by
    rw [complaints_under]
    refine List.pairwise_map.mpr (h.ordered.imp ?_)
    intro a b hab
    exact hab.cons step
  ranged := by
    intro c hc
    rw [complaints_under] at hc
    obtain ⟨inner, -, rfl⟩ := List.mem_map.mp hc
    exact ⟨step, inner.location, rfl, Nat.le_refl _, Nat.lt_succ_self _⟩

/-- **ONE BEHIND THE OTHER**: two checks are in order if the steps of the first come before
    those of the second. -/
theorem Sequence.and {low mid high : Nat} {first : Checked α} {second : Checked β}
    (hfirst : Sequence low mid first) (hsecond : Sequence mid high second)
    (hlow : low ≤ mid) (hhigh : mid ≤ high) : Sequence low high (first.and second) where
  sincere := by
    intro hnil
    have hboth : first.complaints ++ second.complaints = [] := by
      rw [← complaints_and, hnil]
      rfl
    -- neither side complains, so both give a value, and so does the whole
    obtain ⟨hnil₁, hnil₂⟩ := List.append_eq_nil_iff.mp hboth
    obtain ⟨a, rfl⟩ := hfirst.complaints_eq_nil_iff.mp hnil₁
    obtain ⟨b, rfl⟩ := hsecond.complaints_eq_nil_iff.mp hnil₂
    exact nomatch hnil
  ordered := by
    rw [complaints_and]
    refine List.pairwise_append.mpr ⟨hfirst.ordered, hsecond.ordered, ?_⟩
    intro a ha b hb
    obtain ⟨s, p, hs, -, hlt⟩ := hfirst.ranged a ha
    obtain ⟨t, q, ht, hle, -⟩ := hsecond.ranged b hb
    rw [hs, ht]
    exact Precedes.of_order_lt (Nat.lt_of_lt_of_le hlt hle) p q
  ranged := by
    intro c hc
    rw [complaints_and] at hc
    rcases List.mem_append.mp hc with hc | hc
    · obtain ⟨step, rest, hstep, hle, hlt⟩ := hfirst.ranged c hc
      exact ⟨step, rest, hstep, hle, Nat.lt_of_lt_of_le hlt hhigh⟩
    · obtain ⟨step, rest, hstep, hle, hlt⟩ := hsecond.ranged c hc
      exact ⟨step, rest, hstep, Nat.le_trans hlow hle, hlt⟩

/-- The items of a list are checked in order if each check is orderly. -/
theorem sequence_each {check : α → Checked β} (h : ∀ x, (check x).Orderly) (index : Nat)
    (xs : List α) : Sequence index (index + xs.length) (each check index xs) := by
  induction xs generalizing index with
  | nil => exact sequence_ok []
  | cons x rest ih =>
      have hlength : index + (x :: rest).length = index + 1 + rest.length := by
        rw [List.length_cons]
        omega
      rw [each, hlength]
      exact (((h x).under (.index index)).and (ih (index + 1)) (Nat.le_succ index)
        (Nat.le_add_right _ _)).map _

end Checked

/-! ## The checks of records -/

namespace Record

open Checked

variable {members : Members}

/-- A member is found under one of its names. -/
theorem mem_of_find? {names : List Text} {key : Text} {value : Json.Value}
    (h : find? members names = some (key, value)) : key ∈ names := by
  induction names with
  | nil => exact nomatch h
  | cons name others ih =>
      rw [find?] at h
      cases hmember : Json.member? name members with
      | some found =>
          rw [hmember] at h
          obtain ⟨rfl, -⟩ := Prod.mk.inj (Option.some.inj h)
          exact List.mem_cons_self
      | none =>
          rw [hmember] at h
          exact List.mem_cons_of_mem name (ih h)

/-- What is wrong with a member is reported under the name that it is found under. -/
theorem sequence_verdict (found : Text) (verdict : Except Problem α) :
    Sequence (Step.name found).order ((Step.name found).order + 1)
      (match verdict with
        | .ok a => .ok a
        | .error problem => Checked.under (.name found) (Checked.complain problem)) := by
  cases verdict with
  | ok a => exact sequence_ok a
  | error problem => exact (orderly_complain problem).under (.name found)

/-- A member is checked at its place in the order, under whichever name it is found. -/
theorem sequence_required {key : Text} {others : List Text}
    {check : Json.Value → Except Problem α} {n : Nat}
    (h : ∀ name ∈ key :: others, (Step.name name).order = n) :
    Sequence n (n + 1) (required members key others check) := by
  rw [required]
  cases hfind : find? members (key :: others) with
  | none =>
      rw [← h key List.mem_cons_self]
      exact (orderly_complain .missing).under (.name key)
  | some entry =>
      rw [← h entry.1 (mem_of_find? hfind)]
      exact sequence_verdict entry.1 (check entry.2)

theorem sequence_optional {key : Text} {others : List Text} {n : Nat}
    (h : ∀ name ∈ key :: others, (Step.name name).order = n) :
    Sequence n (n + 1) (optional members key others) := by
  rw [optional]
  cases hfind : find? members (key :: others) with
  | none => exact sequence_ok none
  | some entry =>
      obtain ⟨found, value⟩ := entry
      rw [← h found (mem_of_find? hfind)]
      dsimp only
      cases optionalText value with
      | ok t => exact sequence_verdict found (.ok t)
      | error problem => exact sequence_verdict found (.error problem)

theorem sequence_elementMembers : Sequence 2 8 (elementMembers members) := by
  have hkind : Sequence 2 3 (required members "kind" [] kind) := sequence_required (by decide)
  have hname : Sequence 3 4 (required members "name" [] name) := sequence_required (by decide)
  have hscope : Sequence 4 5 (optional members "namespace" []) := sequence_optional (by decide)
  have hstart : Sequence 5 6 (required members "startLine" ["start_line"] line) :=
    sequence_required (by decide)
  have hend : Sequence 6 7 (required members "endLine" ["end_line"] line) :=
    sequence_required (by decide)
  have hraw : Sequence 7 8 (optional members "rawComment" ["raw_comment"]) :=
    sequence_optional (by decide)
  rw [elementMembers]
  refine Sequence.map (hkind.and (hname.and (hscope.and (hstart.and (hend.and hraw ?_ ?_) ?_ ?_)
    ?_ ?_) ?_ ?_) ?_ ?_) _
  all_goals decide

/-- The order of the lines is looked at only where no member is at fault, so it never adds to
    the complaints about members. -/
theorem orderly_element (value : Json.Value) : (element value).Orderly := by
  cases value with
  | object members =>
      have hmembers : Sequence 2 8 (elementMembers members) := sequence_elementMembers
      rw [element]
      cases hrecord : elementMembers members with
      | error cs =>
          rw [hrecord] at hmembers
          exact ⟨fun hnil => hmembers.sincere (congrArg Except.error (Except.error.inj hnil)),
            hmembers.ordered⟩
      | ok record =>
          show (ordered record).Orderly
          rw [ordered]
          split
          · exact orderly_complain _
          · exact orderly_ok record
  | null | bool _ | number _ | text _ | array _ => exact orderly_complain .notObject

theorem orderly_elements (value : Json.Value) : (elements value).Orderly := by
  cases value with
  | array items => exact (sequence_each orderly_element 0 items).toOrderly
  | null | bool _ | number _ | text _ | object _ => exact orderly_complain .notArray

theorem sequence_elementsMember : Sequence 1 2 (elementsMember members) := by
  rw [elementsMember]
  cases Json.member? "elements" members with
  | none => exact sequence_ok []
  | some value => exact (orderly_elements value).under (.name "elements")

theorem orderly_file (value : Json.Value) : (file value).Orderly := by
  cases value with
  | object members =>
      have hpath : Sequence 0 1 (required members "file" [] name) := sequence_required (by decide)
      exact ((hpath.and sequence_elementsMember (by decide) (by decide)).map _).toOrderly
  | null | bool _ | number _ | text _ | array _ => exact orderly_complain .notObject

theorem orderly_files (value : Json.Value) : (files value).Orderly := by
  cases value with
  | array items => exact (sequence_each orderly_file 0 items).toOrderly
  | null | bool _ | number _ | text _ | object _ => exact orderly_complain .notArray

/-! ## Faults, said without the checks -/

/-- A member that has to be there is absent or not as it should be. -/
@[mk_iff]
inductive RequiredFault (members : Members) (key : Text) (others : List Text)
    (check : Json.Value → Except Problem α) : Complaint → Prop
  | missing (h : find? members (key :: others) = none) :
      RequiredFault members key others check ⟨[.name key], .missing⟩
  | invalid {found : Text} {value : Json.Value} {problem : Problem}
      (h : find? members (key :: others) = some (found, value))
      (hcheck : check value = .error problem) :
      RequiredFault members key others check ⟨[.name found], problem⟩

/-- A member that may be absent is there and not as it should be. -/
@[mk_iff]
inductive OptionalFault (members : Members) (key : Text) (others : List Text) : Complaint → Prop
  | invalid {found : Text} {value : Json.Value} {problem : Problem}
      (h : find? members (key :: others) = some (found, value))
      (hcheck : optionalText value = .error problem) :
      OptionalFault members key others ⟨[.name found], problem⟩

/-- All that can be wrong with an element. -/
@[mk_iff]
inductive ElementFault : Json.Value → Complaint → Prop
  | notObject {value : Json.Value} (h : ∀ members, value ≠ .object members) :
      ElementFault value ⟨[], .notObject⟩
  | kind {members : Members} {c : Complaint} (h : RequiredFault members "kind" [] kind c) :
      ElementFault (.object members) c
  | name {members : Members} {c : Complaint} (h : RequiredFault members "name" [] name c) :
      ElementFault (.object members) c
  | scope {members : Members} {c : Complaint} (h : OptionalFault members "namespace" [] c) :
      ElementFault (.object members) c
  | startLine {members : Members} {c : Complaint}
      (h : RequiredFault members "startLine" ["start_line"] line c) :
      ElementFault (.object members) c
  | endLine {members : Members} {c : Complaint}
      (h : RequiredFault members "endLine" ["end_line"] line c) :
      ElementFault (.object members) c
  | raw {members : Members} {c : Complaint}
      (h : OptionalFault members "rawComment" ["raw_comment"] c) :
      ElementFault (.object members) c
  /-- All members are valid, and the lines run backwards. -/
  | reversed {members : Members} {record : RecordedElement} (h : Describes members record)
      (hlines : record.endLine < record.startLine) :
      ElementFault (.object members) ⟨[], .reversed record.startLine record.endLine⟩

/-- All that can be wrong with a list whose items have the given faults. -/
@[mk_iff]
inductive ListFault (fault : Json.Value → Complaint → Prop) : Json.Value → Complaint → Prop
  | notArray {value : Json.Value} (h : ∀ items, value ≠ .array items) :
      ListFault fault value ⟨[], .notArray⟩
  | item {items : List Json.Value} {i : Nat} {item : Json.Value} {c : Complaint}
      (h : items[i]? = some item) (hitem : fault item c) :
      ListFault fault (.array items) (c.within (.index i))

/-- All that can be wrong with a file. -/
@[mk_iff]
inductive FileFault : Json.Value → Complaint → Prop
  | notObject {value : Json.Value} (h : ∀ members, value ≠ .object members) :
      FileFault value ⟨[], .notObject⟩
  | path {members : Members} {c : Complaint} (h : RequiredFault members "file" [] name c) :
      FileFault (.object members) c
  | elements {members : Members} {value : Json.Value} {c : Complaint}
      (h : Json.member? "elements" members = some value)
      (hvalue : ListFault ElementFault value c) :
      FileFault (.object members) (c.within (.name "elements"))

theorem mem_complaints_required {key : Text} {others : List Text}
    {check : Json.Value → Except Problem α} {c : Complaint} :
    c ∈ (required members key others check).complaints ↔
      RequiredFault members key others check c := by
  rw [required, requiredFault_iff]
  cases find? members (key :: others) with
  | none => simp [Complaint.within]
  | some entry =>
      obtain ⟨found, value⟩ := entry
      cases hcheck : check value with
      | ok a => simp [hcheck]
      | error problem => simp [hcheck, Complaint.within]

theorem mem_complaints_optional {key : Text} {others : List Text} {c : Complaint} :
    c ∈ (optional members key others).complaints ↔ OptionalFault members key others c := by
  rw [optional, optionalFault_iff]
  cases find? members (key :: others) with
  | none => simp
  | some entry =>
      obtain ⟨found, value⟩ := entry
      cases hcheck : optionalText value with
      | ok t => simp [hcheck]
      | error problem => simp [hcheck, Complaint.within]

theorem mem_complaints_elementMembers {c : Complaint} :
    c ∈ (elementMembers members).complaints ↔
      RequiredFault members "kind" [] kind c ∨ RequiredFault members "name" [] name c ∨
        OptionalFault members "namespace" [] c ∨
        RequiredFault members "startLine" ["start_line"] line c ∨
        RequiredFault members "endLine" ["end_line"] line c ∨
        OptionalFault members "rawComment" ["raw_comment"] c := by
  rw [elementMembers]
  simp only [complaints_map, complaints_and, List.mem_append, mem_complaints_required,
    mem_complaints_optional]

/-- An object is at fault in its members, or in the order of the lines that they give. -/
theorem elementFault_object_iff {c : Complaint} :
    ElementFault (.object members) c ↔ c ∈ (elementMembers members).complaints ∨
      ∃ record, elementMembers members = .ok record ∧ record.endLine < record.startLine ∧
        c = ⟨[], .reversed record.startLine record.endLine⟩ := by
  rw [elementFault_iff, mem_complaints_elementMembers]
  simp only [elementMembers_eq_ok, or_assoc]
  simp

theorem mem_complaints_element {value : Json.Value} {c : Complaint} :
    c ∈ (element value).complaints ↔ ElementFault value c := by
  cases value with
  | object members =>
      rw [elementFault_object_iff, element]
      cases elementMembers members with
      | error cs => simp
      | ok record =>
          by_cases hlines : record.endLine < record.startLine
          · simp [ordered, hlines]
          · simp [ordered, hlines]
  | null | bool _ | number _ | text _ | array _ => simp [elementFault_iff, element]

/-- The complaints about a list are those about its items. -/
theorem mem_complaints_each {check : Json.Value → Checked α} {items : List Json.Value}
    {c : Complaint} :
    c ∈ (each check 0 items).complaints ↔
      ∃ i item inner, items[i]? = some item ∧ inner ∈ (check item).complaints ∧
        c = inner.within (.index i) := by
  rw [complaints_each, List.mem_flatMap]
  constructor
  · rintro ⟨⟨item, i⟩, hitem, hc⟩
    obtain ⟨inner, hinner, rfl⟩ := List.mem_map.mp hc
    exact ⟨i, item, inner, List.mem_zipIdx_iff_getElem?.mp hitem, hinner, rfl⟩
  · rintro ⟨i, item, inner, hitem, hinner, rfl⟩
    exact ⟨(item, i), List.mem_zipIdx_iff_getElem?.mpr hitem, List.mem_map_of_mem hinner⟩

/-- An array is at fault in its items. -/
theorem listFault_array_iff {fault : Json.Value → Complaint → Prop} {items : List Json.Value}
    {c : Complaint} :
    ListFault fault (.array items) c ↔
      ∃ i item inner, items[i]? = some item ∧ fault item inner ∧
        c = inner.within (.index i) := by
  rw [listFault_iff]
  simp

theorem mem_complaints_elements {value : Json.Value} {c : Complaint} :
    c ∈ (elements value).complaints ↔ ListFault ElementFault value c := by
  cases value with
  | array items =>
      rw [listFault_array_iff, elements, mem_complaints_each]
      simp only [mem_complaints_element]
  | null | bool _ | number _ | text _ | object _ => simp [listFault_iff, elements]

theorem mem_complaints_elementsMember {c : Complaint} :
    c ∈ (elementsMember members).complaints ↔
      ∃ value inner, Json.member? "elements" members = some value ∧
        ListFault ElementFault value inner ∧ c = inner.within (.name "elements") := by
  rw [elementsMember]
  cases Json.member? "elements" members with
  | none => simp
  | some value => simp [mem_complaints_elements, eq_comm]

theorem mem_complaints_file {value : Json.Value} {c : Complaint} :
    c ∈ (file value).complaints ↔ FileFault value c := by
  rw [fileFault_iff]
  cases value with
  | object members =>
      rw [file, complaints_map, complaints_and, List.mem_append, mem_complaints_required,
        mem_complaints_elementsMember]
      simp
  | null | bool _ | number _ | text _ | array _ => simp [file]

/-- **EVERY FAULT IS REPORTED**, and nothing else is. -/
theorem mem_complaints_files {value : Json.Value} {c : Complaint} :
    c ∈ (files value).complaints ↔ ListFault FileFault value c := by
  cases value with
  | array items =>
      rw [listFault_array_iff, files, mem_complaints_each]
      simp only [mem_complaints_file]
  | null | bool _ | number _ | text _ | object _ => simp [listFault_iff, files]

/-! ## The list of complaints as a whole -/

/-- No location comes twice or leads to or beyond another, and locations come in order. -/
structure Tidy (cs : List Complaint) : Prop where
  distinct : (cs.map (·.location)).Nodup
  apart : ∀ a ∈ cs, ∀ b ∈ cs, a.location <+: b.location → a = b
  ordered : cs.Pairwise fun a b => Precedes a.location b.location

/-- What is in order is tidy. -/
theorem tidy_of_ordered {cs : List Complaint}
    (h : cs.Pairwise fun a b => Precedes a.location b.location) : Tidy cs where
  distinct := List.pairwise_map.mpr (h.imp Precedes.ne)
  apart := by
    -- order goes one way only, so both ways are taken together
    have hapart : cs.Pairwise fun a b =>
        ¬ a.location <+: b.location ∧ ¬ b.location <+: a.location :=
      h.imp fun hab => ⟨hab.not_prefix, hab.not_prefix_left⟩
    have hsymm : Std.Symm fun a b : Complaint =>
        ¬ a.location <+: b.location ∧ ¬ b.location <+: a.location := ⟨fun _ _ => And.symm⟩
    intro a ha b hb hprefix
    by_contra hne
    exact (hapart.forall ha hb hne).1 hprefix
  ordered := h

/-- A list of records is checked item by item: it is accepted if each item is by itself, and
    otherwise the complaints about the items follow each other under their own numbers. -/
structure Itemwise (items : List Json.Value) : Prop where
  accepted : ∀ records, files (.array items) = .ok records ↔
    ∃ parts, List.Forall₂ (fun item part => files (.array [item]) = .ok part) items parts ∧
      records = parts.flatten
  complaints : (files (.array items)).complaints
    = items.zipIdx.flatMap fun (item, i) =>
        (files (.array [item])).complaints.map (Complaint.renumber i)

/-- One item by itself is accepted as the only record. -/
theorem files_singleton_eq_ok {item : Json.Value} {records : List RecordedFile} :
    files (.array [item]) = .ok records ↔
      ∃ record, file item = .ok record ∧ records = [record] := by
  show each file 0 [item] = .ok records ↔ _
  rw [each_eq_ok, List.forall₂_cons_left_iff]
  simp

theorem itemwise (items : List Json.Value) : Itemwise items where
  accepted := by
    intro records
    show each file 0 items = .ok records ↔ _
    rw [each_eq_ok]
    constructor
    · intro h
      refine ⟨records.map fun record => [record], List.forall₂_map_right_iff.mpr (h.imp ?_), ?_⟩
      · intro item record hitem
        exact files_singleton_eq_ok.mpr ⟨record, hitem, rfl⟩
      · rw [← List.flatMap_def, List.flatMap_singleton']
    · rintro ⟨parts, h, rfl⟩
      induction h with
      | nil => exact List.Forall₂.nil
      | cons hitem _ ih =>
          obtain ⟨record, hrecord, rfl⟩ := files_singleton_eq_ok.mp hitem
          exact List.Forall₂.cons hrecord ih
  complaints := by
    show (each file 0 items).complaints = _
    rw [complaints_each]
    -- alone, every item has the number zero
    refine List.flatMap_congr ?_
    rintro ⟨item, i⟩ -
    show _ = ((each file 0 [item]).complaints).map _
    simp [complaints_each]

/-- A text with records is read as its value is checked, and it is refused with all complaints. -/
theorem read_of_read? {t : Text} {value : Json.Value} (h : Json.read? t = some value) :
    (∃ records, files value = .ok records ∧ read t = .ok records) ∨
      (files value).complaints ≠ [] ∧ read t = .error (.invalid (files value).complaints) := by
  have hread : read t = (files value).mapError .invalid := by
    rw [read, h]
  have hsincere := (orderly_files value).sincere
  rw [hread]
  cases hfiles : files value with
  | ok records => exact .inl ⟨records, rfl, rfl⟩
  | error cs =>
      rw [hfiles] at hsincere
      exact .inr ⟨fun hnil => hsincere (congrArg Except.error hnil), rfl⟩

/-- **EVERY FAULT ONCE AND IN ORDER**: a list of records is checked item by item, and whatever
    the value, what is reported is all that is wrong with it. -/
theorem files_reported :
    (∀ items, Itemwise items) ∧
    ∀ value : Json.Value,
      Tidy (files value).complaints ∧
      ((files value).complaints = [] ↔ ∃ records, files value = .ok records) ∧
      (∀ c, c ∈ (files value).complaints ↔ ListFault FileFault value c) ∧
      ∀ t, Json.read? t = some value →
        (∃ records, files value = .ok records ∧ read t = .ok records) ∨
          (files value).complaints ≠ [] ∧ read t = .error (.invalid (files value).complaints) := by
  refine ⟨itemwise, ?_⟩
  intro value
  have horderly := orderly_files value
  exact ⟨tidy_of_ordered horderly.ordered, horderly.complaints_eq_nil_iff,
    fun c => mem_complaints_files, fun t h => read_of_read? h⟩

/-- A number among files, a file without a path, reversed lines, and an element with almost
    nothing. -/
def tangled : Json.Value :=
  .array [.number (.integer 7), .object [("elements", .array [
    .object [("kind", .text "class"), ("name", .text "A"), ("startLine", .number (.integer 2)),
      ("endLine", .number (.integer 1))],
    .object [("name", .text []), ("start_line", .number (.integer 0)),
      ("kind", .text "trait")]])]]

/-- A text of the value. -/
def tangledText : Text :=
  "[7,\x7b\"elements\":[\x7b\"kind\":\"class\",\"name\":\"A\",\"startLine\":2,".toList
    ++ "\"endLine\":1\x7d,\x7b\"name\":\"\",\"start_line\":0,\"kind\":\"trait\"\x7d]\x7d]".toList

/-- What is wrong with the value. -/
def tangledFaults : List Complaint :=
  [⟨[.index 0], .notObject⟩, ⟨[.index 1, .name "file"], .missing⟩,
    ⟨[.index 1, .name "elements", .index 0], .reversed 2 1⟩,
    ⟨[.index 1, .name "elements", .index 1, .name "name"], .emptyText⟩,
    ⟨[.index 1, .name "elements", .index 1, .name "start_line"], .belowOne⟩,
    ⟨[.index 1, .name "elements", .index 1, .name "endLine"], .missing⟩]

theorem files_reported_tangled :
    read tangledText = .error (.invalid tangledFaults) ∧ Tidy tangledFaults ∧
      ListFault FileFault tangled ⟨[.index 1, .name "elements", .index 0], .reversed 2 1⟩ := by
  have hread : Json.read? tangledText = some tangled := by cbv
  have hfiles : files tangled = .error tangledFaults := by decide +kernel
  obtain ⟨htidy, -, hfault, hreads⟩ := files_reported.2 tangled
  rw [hfiles] at htidy
  refine ⟨?_, htidy, (hfault _).mp ?_⟩
  · rcases hreads tangledText hread with ⟨records, hok, -⟩ | ⟨-, herror⟩
    · rw [hfiles] at hok
      cases hok
    · rw [herror, hfiles, complaints_error]
  · rw [hfiles, complaints_error, tangledFaults]
    simp

end Record

end DocAudit
