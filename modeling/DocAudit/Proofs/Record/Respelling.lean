import DocAudit.Proofs.Record.Complaints
import DocAudit.Proofs.Record.RoundTrip

/-! # Respelling — one element, many objects

    An element is read off an object by looking up names, and of members with one name the last
    counts.  So the order of the members, members that nobody looks up, earlier members with the
    same name and a second name beside the first CANNOT INTERFERE: nothing that is looked up
    changes (`find?_of_respells`), and a list of records is accepted or refused as before.

    A member that takes its second name is found all the same, and complaints about it lead to
    the new name.  Renaming a step of their locations commutes with every way in which checks are
    put together (`relocated_and`, `relocated_under_self`, `each_replaced`), and a respelling that
    renames nothing is the special case of the identity. -/

namespace DocAudit

open Text

variable {α β : Type}

/-! ## Members that are looked up -/

namespace Json

variable {members : List (Text × Value)} {key : Text}

/-- Of two lists of members the later one is looked at first. -/
theorem member?_append (key : Text) (front back : List (Text × Value)) :
    member? key (front ++ back) = (member? key back).or (member? key front) := by
  induction front with
  | nil => simp [member?]
  | cons first rest ih =>
      obtain ⟨name, value⟩ := first
      rw [List.cons_append, member?, member?, ih]
      cases member? key back with
      | some last => rfl
      | none => rfl

theorem isSome_member?_iff : (member? key members).isSome = true ↔ key ∈ members.map (·.1) := by
  induction members with
  | nil => simp [member?]
  | cons first rest ih =>
      obtain ⟨name, value⟩ := first
      rw [member?, List.map_cons, List.mem_cons, ← ih]
      cases member? key rest with
      | some last => simp
      | none => by_cases hname : key = name <;> simp [hname, eq_comm]

/-- A member in front of others is overruled by a later one with its name, and no other name
    finds it. -/
theorem member?_insert {name : Text} (front back : List (Text × Value)) (value : Value)
    (h : name ≠ key ∨ name ∈ back.map (·.1)) :
    member? key (front ++ (name, value) :: back) = member? key (front ++ back) := by
  rw [member?_append, member?_append]
  refine congrArg (Option.or · _) ?_
  rw [member?]
  cases hback : member? key back with
  | some last => rfl
  | none =>
      refine if_neg ?_
      rintro rfl
      rcases h with hne | hmem
      · exact hne rfl
      · rw [← isSome_member?_iff, hback] at hmem
        cases hmem

/-- Among members with different names the order does not matter. -/
theorem member?_of_perm {members' : List (Text × Value)} (hnodup : (members.map (·.1)).Nodup)
    (h : members.Perm members') (key : Text) : member? key members' = member? key members := by
  have hkeys := h.map (·.1)
  by_cases hkey : key ∈ members.map (·.1)
  · obtain ⟨⟨_, value⟩, hmem, rfl⟩ := List.mem_map.mp hkey
    rw [member?_of_mem hnodup hmem, member?_of_mem (hkeys.nodup hnodup) (h.mem_iff.mp hmem)]
  · rw [member?_eq_none hkey, member?_eq_none fun hmem => hkey (hkeys.mem_iff.mpr hmem)]

/-- The members without those of one name. -/
def without (name : Text) (members : List (Text × Value)) : List (Text × Value) :=
  members.filter fun member => member.1 ≠ name

theorem member?_without {name : Text} (h : key ≠ name) (members : List (Text × Value)) :
    member? key (without name members) = member? key members := by
  induction members with
  | nil => rfl
  | cons first rest ih =>
      obtain ⟨own, value⟩ := first
      rw [member?, ← ih]
      by_cases hown : own = name
      · have hdrop : without name ((own, value) :: rest) = without name rest :=
          List.filter_cons_of_neg (by simpa using hown)
        rw [hdrop, if_neg fun hkey => h (hkey.symm.trans hown)]
        cases member? key (without name rest) <;> rfl
      · have hkeep : without name ((own, value) :: rest) = (own, value) :: without name rest :=
          List.filter_cons_of_pos (by simpa using hown)
        rw [hkeep, member?]

/-- The same members under other names. -/
def rename (f : Text → Text) (members : List (Text × Value)) : List (Text × Value) :=
  members.map fun member => (f member.1, member.2)

/-- A name finds after renaming what the name found before that has become it. -/
theorem member?_rename {f : Text → Text} {key key' : Text}
    (h : ∀ name ∈ members.map (·.1), f name = key' ↔ name = key) :
    member? key' (rename f members) = member? key members := by
  induction members with
  | nil => rfl
  | cons first rest ih =>
      obtain ⟨name, value⟩ := first
      rw [List.map_cons, List.forall_mem_cons] at h
      have hcons : rename f ((name, value) :: rest) = (f name, value) :: rename f rest := rfl
      rw [hcons, member?, member?, ih h.2]
      cases member? key rest with
      | some last => rfl
      | none => exact if_congr h.1 rfl rfl

theorem keys_rename (f : Text → Text) (members : List (Text × Value)) :
    (rename f members).map (·.1) = (members.map (·.1)).map f := by
  rw [rename, List.map_map, List.map_map]
  rfl

end Json

/-! ## Locations with a step renamed -/

/-- Rename the member that a location leads to next when it has come to `place`; a location that
    does not come there stays as it is. -/
def renameAfter (f : Text → Text) : List Step → List Step → List Step
  | [], .name key :: rest => .name (f key) :: rest
  | step :: place, first :: rest =>
      first :: if first = step then renameAfter f place rest else rest
  | _, location => location

theorem renameAfter_id (place location : List Step) : renameAfter id place location = location := by
  induction place generalizing location with
  | nil =>
      cases location with
      | nil => rfl
      | cons first rest => cases first <;> rfl
  | cons step place ih =>
      cases location with
      | nil => rfl
      | cons first rest => rw [renameAfter, ih, ite_self]

/-- The same complaint about another location. -/
def Complaint.relocated (move : List Step → List Step) (complaint : Complaint) : Complaint :=
  { complaint with location := move complaint.location }

namespace Checked

variable {f : Text → Text} {place : List Step}

/-- The same outcome, with complaints about other locations. -/
def relocated (move : List Step → List Step) (checked : Checked α) : Checked α :=
  checked.mapError (List.map (Complaint.relocated move))

theorem relocated_id (checked : Checked α) : checked.relocated id = checked := by
  cases checked with
  | ok a => rfl
  | error cs => exact congrArg Except.error (List.map_id cs)

theorem relocated_map (move : List Step → List Step) (g : α → β) (checked : Checked α) :
    relocated move (Except.map g checked) = Except.map g (checked.relocated move) := by
  cases checked <;> rfl

theorem relocated_and (move : List Step → List Step) (first : Checked α) (second : Checked β) :
    (first.and second).relocated move = (first.relocated move).and (second.relocated move) := by
  cases first with
  | ok a => cases second <;> rfl
  | error cs =>
      cases second with
      | ok b => rfl
      | error more => exact congrArg Except.error List.map_append

/-- Complaints that have taken the first step of the place are renamed further on. -/
theorem relocated_under_self (step : Step) (checked : Checked α) :
    (checked.under step).relocated (renameAfter f (step :: place))
      = (checked.relocated (renameAfter f place)).under step := by
  cases checked with
  | ok a => rfl
  | error cs =>
      refine congrArg Except.error ?_
      simp [Complaint.relocated, renameAfter]

/-- Complaints that have taken another step stay as they are. -/
theorem relocated_under_of_ne {step first : Step} (h : first ≠ step) (checked : Checked α) :
    (checked.under first).relocated (renameAfter f (step :: place)) = checked.under first := by
  cases checked with
  | ok a => rfl
  | error cs =>
      refine congrArg Except.error ?_
      simp [Complaint.relocated, renameAfter, h]

/-- What is wrong with later items of a list has nothing to do with an earlier item. -/
theorem relocated_each_of_lt {n index : Nat} (h : n < index) (check : α → Checked β)
    (xs : List α) :
    (each check index xs).relocated (renameAfter f (.index n :: place))
      = each check index xs := by
  induction xs generalizing index with
  | nil => rfl
  | cons x rest ih =>
      have hne : Step.index index ≠ .index n := by
        intro heq
        exact absurd (Step.index.inj heq) (Nat.ne_of_gt h)
      rw [each, relocated_map, relocated_and, relocated_under_of_ne hne,
        ih (Nat.lt_succ_of_lt h)]

/-- **ONE ITEM OF A LIST** is replaced by one that differs in the locations of its complaints. -/
theorem each_replaced {check : α → Checked β} {x x' : α}
    (h : check x' = (check x).relocated (renameAfter f place)) (index : Nat)
    (front back : List α) :
    each check index (front ++ x' :: back)
      = (each check index (front ++ x :: back)).relocated
          (renameAfter f (.index (index + front.length) :: place)) := by
  induction front generalizing index with
  | nil =>
      rw [List.nil_append, List.nil_append, List.length_nil, Nat.add_zero, each, each,
        relocated_map, relocated_and, relocated_under_self,
        relocated_each_of_lt (Nat.lt_succ_self index), h]
  | cons y rest ih =>
      have hne : Step.index index ≠ .index (index + 1 + rest.length) := by
        intro heq
        have := Step.index.inj heq
        omega
      have hlength : index + (y :: rest).length = index + 1 + rest.length := by
        rw [List.length_cons]
        omega
      rw [List.cons_append, List.cons_append, each, each, hlength, relocated_map, relocated_and,
        relocated_under_of_ne hne, ih]

end Checked

namespace Record

open Checked

variable {f : Text → Text} {place : List Step} {members members' : Members}

/-! ## The names of an element's members -/

/-- The members that have two names, each with its first and its second name. -/
def secondNames : List (Text × Text) :=
  [("startLine", "start_line"), ("endLine", "end_line"), ("rawComment", "raw_comment")]

/-- The names under which the members of an element are looked up. -/
def elementNames : List (List Text) :=
  ["kind".toList, "name".toList, "namespace".toList].map (fun key => [key])
    ++ secondNames.map fun (first, second) => [first, second]

theorem find?_congr {names : List Text}
    (h : ∀ key ∈ names, Json.member? key members' = Json.member? key members) :
    find? members' names = find? members names := by
  induction names with
  | nil => rfl
  | cons key others ih =>
      rw [List.forall_mem_cons] at h
      rw [find?, find?, h.1, ih h.2]

theorem find?_cons_of_mem {key : Text} (h : key ∈ members.map (·.1)) (others : List Text) :
    ∃ value, Json.member? key members = some value ∧
      find? members (key :: others) = some (key, value) := by
  obtain ⟨value, hvalue⟩ := Option.isSome_iff_exists.mp (Json.isSome_member?_iff.mpr h)
  exact ⟨value, hvalue, by rw [find?, hvalue]⟩

theorem not_mem_of_find?_eq_none {names : List Text} (h : find? members names = none) {key : Text}
    (hkey : key ∈ names) : key ∉ members.map (·.1) := by
  induction names with
  | nil => exact nomatch hkey
  | cons first others ih =>
      intro hmem
      rw [find?] at h
      cases hfirst : Json.member? first members with
      | some value => rw [hfirst] at h; cases h
      | none =>
          rw [hfirst] at h
          rcases List.mem_cons.mp hkey with rfl | hother
          · rw [← Json.isSome_member?_iff, hfirst] at hmem
            cases hmem
          · exact ih h hother hmem

/-- Each member of an element is found in the second object as it is in the first, but under the
    name that it has been given; a name that is not there has not been changed. -/
structure Renames (f : Text → Text) (members members' : Members) : Prop where
  found : ∀ names ∈ elementNames,
    find? members' names = (find? members names).map fun member => (f member.1, member.2)
  absent : ∀ key, key ∉ members.map (·.1) → f key = key

namespace Renames

/-- A missing member is reported under its first name before and after. -/
theorem required {key : Text} {others : List Text} (h : Renames f members members')
    (hnames : key :: others ∈ elementNames) (check : Json.Value → Except Problem α) :
    Record.required members' key others check
      = (Record.required members key others check).relocated (renameAfter f []) := by
  rw [Record.required, Record.required, h.found _ hnames]
  cases hfind : find? members (key :: others) with
  | none =>
      have hkey := h.absent key (not_mem_of_find?_eq_none hfind List.mem_cons_self)
      show Except.error [Complaint.mk [.name key] .missing]
        = Except.error [Complaint.mk [.name (f key)] .missing]
      rw [hkey]
  | some member =>
      obtain ⟨found, value⟩ := member
      dsimp only [Option.map_some]
      cases check value with
      | ok a => rfl
      | error problem => rfl

theorem optional {key : Text} {others : List Text} (h : Renames f members members')
    (hnames : key :: others ∈ elementNames) :
    Record.optional members' key others
      = (Record.optional members key others).relocated (renameAfter f []) := by
  rw [Record.optional, Record.optional, h.found _ hnames]
  cases hfind : find? members (key :: others) with
  | none => rfl
  | some member =>
      obtain ⟨found, value⟩ := member
      dsimp only [Option.map_some]
      cases optionalText value with
      | ok t => rfl
      | error problem => rfl

/-- The order of the lines is no matter of names. -/
theorem element (h : Renames f members members') :
    element (.object members') = (element (.object members)).relocated (renameAfter f []) := by
  have hmembers : elementMembers members'
      = (elementMembers members).relocated (renameAfter f []) := by
    rw [elementMembers, elementMembers, relocated_map]
    simp only [relocated_and]
    rw [h.required (by decide), h.required (by decide), h.optional (by decide),
      h.required (by decide), h.required (by decide), h.optional (by decide)]
  rw [Record.element, Record.element, hmembers]
  cases elementMembers members with
  | error cs => rfl
  | ok record =>
      show ordered record = (ordered record).relocated _
      rw [ordered]
      split <;> rfl

end Renames

/-! ## Objects that say the same -/

/-- The second object says what the first one says: its members stand in another order, or there
    is a member more that nobody looks up or that a later one overrules, or they differ in a
    second name whose first name is there. -/
inductive Respells : Members → Members → Prop
  | permuted {members members' : Members} (hnodup : (members.map (·.1)).Nodup)
      (h : members.Perm members') : Respells members members'
  | ignored (front back : Members) {key : Text} (value : Json.Value)
      (hkey : ∀ names ∈ elementNames, key ∉ names) :
      Respells (front ++ back) (front ++ (key, value) :: back)
  | repeated (front back : Members) {key : Text} (value : Json.Value)
      (hkey : key ∈ back.map (·.1)) : Respells (front ++ back) (front ++ (key, value) :: back)
  | overruled {members members' : Members} {first second : Text}
      (hnames : (first, second) ∈ secondNames) (hfirst : first ∈ members.map (·.1))
      (h : Json.without second members' = Json.without second members) :
      Respells members members'

/-- Members with two names share none of them with other members. -/
theorem names_eq_of_mem {names : List Text} (hnames : names ∈ elementNames) {pair : Text × Text}
    (hpair : pair ∈ secondNames) (h : pair.1 ∈ names ∨ pair.2 ∈ names) :
    names = [pair.1, pair.2] :=
  (show ∀ names ∈ elementNames, ∀ pair ∈ secondNames, pair.1 ∈ names ∨ pair.2 ∈ names →
    names = [pair.1, pair.2] by decide) names hnames pair hpair h

theorem first_ne_second {pair other : Text × Text} (hpair : pair ∈ secondNames)
    (hother : other ∈ secondNames) : pair.1 ≠ other.2 :=
  (show ∀ pair ∈ secondNames, ∀ other ∈ secondNames, pair.1 ≠ other.2 by decide)
    pair hpair other hother

theorem pair_eq {pair other : Text × Text} (hpair : pair ∈ secondNames)
    (hother : other ∈ secondNames) (h : pair.1 = other.1 ∨ pair.2 = other.2) : pair = other :=
  (show ∀ pair ∈ secondNames, ∀ other ∈ secondNames, pair.1 = other.1 ∨ pair.2 = other.2 →
    pair = other by decide) pair hpair other hother h

/-- **NOTHING THAT IS LOOKED UP CHANGES** in one respelling. -/
theorem find?_of_respells (h : Respells members members') {names : List Text}
    (hnames : names ∈ elementNames) : find? members' names = find? members names := by
  cases h with
  | permuted hnodup hperm => exact find?_congr fun key _ => Json.member?_of_perm hnodup hperm key
  | ignored front back value hkey =>
      refine find?_congr fun name hname => Json.member?_insert front back value (Or.inl ?_)
      rintro rfl
      exact hkey names hnames hname
  | repeated front back value hkey =>
      exact find?_congr fun name _ => Json.member?_insert front back value (Or.inr hkey)
  | @overruled _ _ first second hpair hfirst hwithout =>
      have hsame : ∀ key, key ≠ second → Json.member? key members' = Json.member? key members := by
        intro key hne
        rw [← Json.member?_without hne members', hwithout, Json.member?_without hne]
      by_cases hsecond : second ∈ names
      · -- the first name is found, and the second is not looked at
        obtain rfl := names_eq_of_mem hnames hpair (Or.inr hsecond)
        obtain ⟨value, hvalue, hfind⟩ := find?_cons_of_mem hfirst [second]
        rw [hfind, find?, hsame first (first_ne_second hpair hpair), hvalue]
      · exact find?_congr fun key hkey => hsame key (ne_of_mem_of_not_mem hkey hsecond)

/-- Nor does it in a chain of respellings, there and back. -/
theorem find?_of_chain (h : Relation.EqvGen Respells members members') {names : List Text}
    (hnames : names ∈ elementNames) : find? members' names = find? members names := by
  induction h with
  | rel _ _ h => exact find?_of_respells h hnames
  | refl _ => rfl
  | symm _ _ _ ih => exact ih.symm
  | trans _ _ _ _ _ ih₁ ih₂ => exact ih₂.trans ih₁

theorem renames_id_of_chain (h : Relation.EqvGen Respells members members') :
    Renames id members members' where
  found := by
    intro names hnames
    rw [find?_of_chain h hnames]
    exact (congrFun Option.map_id _).symm
  absent := fun _ _ => rfl

/-! ## Members that take their second names -/

/-- The second name of a chosen member; other names stay as they are. -/
def secondName (chosen : List (Text × Text)) (key : Text) : Text := (chosen.lookup key).getD key

/-- The object with its chosen members under their second names. -/
def renamed (chosen : List (Text × Text)) (members : Members) : Members :=
  Json.rename (secondName chosen) members

/-- What has become of a name: a name that is not there has not become anything else. -/
def newName (chosen : List (Text × Text)) (members : Members) (key : Text) : Text :=
  if key ∈ members.map (·.1) then secondName chosen key else key

section

variable {chosen : List (Text × Text)} {key : Text}

theorem secondName_cases (chosen : List (Text × Text)) (key : Text) :
    (∀ pair ∈ chosen, pair.1 ≠ key) ∧ secondName chosen key = key ∨
      (key, secondName chosen key) ∈ chosen := by
  rw [secondName]
  cases hlookup : chosen.lookup key with
  | none =>
      rw [List.lookup_eq_none_iff] at hlookup
      refine Or.inl ⟨fun pair hpair heq => ?_, rfl⟩
      simpa [heq] using hlookup pair hpair
  | some name =>
      obtain ⟨front, back, hchosen, -⟩ := List.lookup_eq_some_iff.mp hlookup
      exact Or.inr (by simp [hchosen])

/-- A chosen member has its second name and no other. -/
theorem secondName_of_mem (hchosen : chosen ⊆ secondNames) {pair : Text × Text}
    (hpair : pair ∈ chosen) : secondName chosen pair.1 = pair.2 := by
  rcases secondName_cases chosen pair.1 with ⟨hnone, -⟩ | hmem
  · exact absurd rfl (hnone pair hpair)
  · exact congrArg Prod.snd (pair_eq (hchosen hmem) (hchosen hpair) (Or.inl rfl))

/-- A name that has no part in the renaming finds what it found before. -/
theorem member?_renamed_of_untouched (h : ∀ pair ∈ chosen, pair.1 ≠ key ∧ pair.2 ≠ key) :
    Json.member? key (renamed chosen members) = Json.member? key members := by
  refine Json.member?_rename fun name _ => ?_
  rcases secondName_cases chosen name with ⟨-, hsame⟩ | hmem
  · rw [hsame]
  · refine iff_of_false ?_ ?_
    · exact (h _ hmem).2
    · exact (h _ hmem).1

/-- The second name of a chosen member finds what the first one found, which now finds nothing. -/
theorem member?_renamed_of_chosen (hchosen : chosen ⊆ secondNames) {pair : Text × Text}
    (hpair : pair ∈ chosen) (hfresh : pair.2 ∉ members.map (·.1)) :
    Json.member? pair.1 (renamed chosen members) = none ∧
      Json.member? pair.2 (renamed chosen members) = Json.member? pair.1 members := by
  constructor
  · refine Json.member?_eq_none ?_
    rw [renamed, Json.keys_rename]
    rintro hmem
    obtain ⟨name, -, hname⟩ := List.mem_map.mp hmem
    rcases secondName_cases chosen name with ⟨hnone, hsame⟩ | hother
    · exact hnone pair hpair (hname.symm.trans hsame)
    · exact first_ne_second (hchosen hpair) (hchosen hother) hname.symm
  · refine Json.member?_rename fun name hname => ?_
    constructor
    · intro hsecond
      rcases secondName_cases chosen name with ⟨-, hsame⟩ | hother
      · rw [← hsame, hsecond] at hname
        exact absurd hname hfresh
      · exact congrArg Prod.fst (pair_eq (hchosen hother) (hchosen hpair) (Or.inr hsecond))
    · rintro rfl
      exact secondName_of_mem hchosen hpair

theorem renames_renamed (hchosen : chosen ⊆ secondNames)
    (hfresh : ∀ pair ∈ chosen, pair.2 ∉ members.map (·.1)) :
    Renames (newName chosen members) members (renamed chosen members) where
  found := by
    intro names hnames
    by_cases htouched : ∃ pair ∈ chosen, pair.1 ∈ names ∨ pair.2 ∈ names
    · obtain ⟨pair, hpair, hmem⟩ := htouched
      obtain rfl := names_eq_of_mem hnames (hchosen hpair) hmem
      obtain ⟨hfirst, hsecond⟩ := member?_renamed_of_chosen hchosen hpair (hfresh pair hpair)
      simp only [find?, hfirst, hsecond, Json.member?_eq_none (hfresh pair hpair)]
      cases hvalue : Json.member? pair.1 members with
      | none => rfl
      | some value =>
          have hkey : pair.1 ∈ members.map (·.1) :=
            Json.isSome_member?_iff.mp (by rw [hvalue]; rfl)
          have hnew : newName chosen members pair.1 = pair.2 :=
            (if_pos hkey).trans (secondName_of_mem hchosen hpair)
          simp [hnew]
    · have huntouched : ∀ key ∈ names, ∀ pair ∈ chosen, pair.1 ≠ key ∧ pair.2 ≠ key := by
        intro key hkey pair hpair
        refine ⟨?_, ?_⟩
        · rintro rfl
          exact htouched ⟨pair, hpair, Or.inl hkey⟩
        · rintro rfl
          exact htouched ⟨pair, hpair, Or.inr hkey⟩
      rw [find?_congr fun key hkey => member?_renamed_of_untouched (huntouched key hkey)]
      cases hfind : find? members names with
      | none => rfl
      | some member =>
          have hsame : newName chosen members member.1 = member.1 := by
            rw [newName]
            rcases secondName_cases chosen member.1 with ⟨-, hsame⟩ | hmem
            · rw [hsame, ite_self]
            · exact absurd rfl (huntouched _ (mem_of_find? hfind) _ hmem).1
          simp [hsame]
  absent := fun _ hkey => if_neg hkey

end

/-! ## An element among others -/

/-- A list of records with a place for one element; no later member takes the place of the
    list that the element stands in. -/
structure Slot where
  before : List Json.Value
  front : Members
  earlier : List Json.Value
  later : List Json.Value
  back : Members
  after : List Json.Value
  counts : "elements".toList ∉ back.map (·.1)

namespace Slot

/-- The file with the element. -/
def owner (slot : Slot) (value : Json.Value) : Json.Value :=
  .object (slot.front
    ++ ("elements".toList, .array (slot.earlier ++ value :: slot.later)) :: slot.back)

/-- The list of records with the element. -/
def fill (slot : Slot) (value : Json.Value) : Json.Value :=
  .array (slot.before ++ slot.owner value :: slot.after)

/-- Where the element stands. -/
def location (slot : Slot) : List Step :=
  [.index slot.before.length, .name "elements", .index slot.earlier.length]

variable {value value' : Json.Value}

/-- What is wrong with the path of a file has nothing to do with its elements. -/
theorem relocated_path (members : Members) :
    (required members "file" [] name).relocated (renameAfter f (.name "elements" :: place))
      = required members "file" [] name := by
  have hne : Step.name "file" ≠ .name "elements" := by decide
  rw [required]
  cases hfind : find? members ["file".toList] with
  | none => exact relocated_under_of_ne hne _
  | some member =>
      obtain ⟨found, value⟩ := member
      obtain rfl := List.mem_singleton.mp (mem_of_find? hfind)
      dsimp only
      cases name value with
      | ok t => rfl
      | error problem => exact relocated_under_of_ne hne _

theorem file_owner (slot : Slot)
    (h : element value' = (element value).relocated (renameAfter f place)) :
    file (slot.owner value') = (file (slot.owner value)).relocated
      (renameAfter f (.name "elements" :: .index slot.earlier.length :: place)) := by
  have hpath : ∀ v, required (slot.front ++ ("elements".toList, v) :: slot.back) "file" [] name
      = required (slot.front ++ slot.back) "file" [] name := by
    intro v
    rw [required, required, find?_congr fun key hkey => Json.member?_insert _ _ v (Or.inl ?_)]
    obtain rfl := List.mem_singleton.mp hkey
    decide
  have helements : ∀ v, elementsMember (slot.front ++ ("elements".toList, v) :: slot.back)
      = Checked.under (.name "elements") (elements v) := by
    intro v
    have hmember : Json.member? "elements" (slot.front ++ ("elements".toList, v) :: slot.back)
        = some v := by
      rw [Json.member?_append, Json.member?, Json.member?_eq_none slot.counts]
      simp
    rw [elementsMember, hmember]
  have hitems := each_replaced h 0 slot.earlier slot.later
  rw [Nat.zero_add] at hitems
  rw [owner, owner, file, file, relocated_map, relocated_and, relocated_path, hpath, hpath,
    helements, helements, relocated_under_self]
  rw [elements, elements, hitems]

/-- **THE REST OF THE LIST STANDS STILL**: an element whose complaints are renamed leaves all
    other complaints and all other records as they are. -/
theorem files_fill (slot : Slot)
    (h : element value' = (element value).relocated (renameAfter f [])) :
    files (slot.fill value')
      = (files (slot.fill value)).relocated (renameAfter f slot.location) := by
  have hitems := each_replaced (slot.file_owner h) 0 slot.before slot.after
  rw [Nat.zero_add] at hitems
  exact hitems

end Slot

/-! ## Texts with records -/

/-- The same fault, with complaints about other locations. -/
def Fault.relocated (move : List Step → List Step) : Fault → Fault
  | .notJson => .notJson
  | .invalid complaints => .invalid (complaints.map (Complaint.relocated move))

theorem read_of_relocated {t t' : Text} {value value' : Json.Value} {move : List Step → List Step}
    (ht : Json.read? t = some value) (ht' : Json.read? t' = some value')
    (h : files value' = (files value).relocated move) :
    read t' = (read t).mapError (Fault.relocated move) := by
  rw [read, read, ht, ht']
  show (files value').mapError Fault.invalid = ((files value).mapError Fault.invalid).mapError _
  rw [h]
  cases files value with
  | ok records => rfl
  | error cs => rfl

/-- **SPELLINGS DO NOT INTERFERE**: wherever an element stands in a list of records, good or bad,
    respelling it changes nothing, and giving members their second names renames them in the
    complaints about them and changes nothing else. -/
theorem read_respelled (slot : Slot) (members : Members) (t : Text)
    (ht : Json.read? t = some (slot.fill (.object members))) :
    (∀ members' t', Relation.EqvGen Respells members members' →
      Json.read? t' = some (slot.fill (.object members')) → read t' = read t) ∧
    ∀ chosen t', chosen ⊆ secondNames → (∀ pair ∈ chosen, pair.2 ∉ members.map (·.1)) →
      Json.read? t' = some (slot.fill (.object (renamed chosen members))) →
      read t' = (read t).mapError
        (Fault.relocated (renameAfter (newName chosen members) slot.location)) := by
  constructor
  · intro members' t' hchain ht'
    have hfiles := slot.files_fill (renames_id_of_chain hchain).element
    have hid : renameAfter id slot.location = id := funext (renameAfter_id slot.location)
    rw [hid, relocated_id] at hfiles
    rw [read, read, ht, ht']
    exact congrArg (Except.mapError Fault.invalid) hfiles
  · intro chosen t' hchosen hfresh ht'
    exact read_of_relocated ht ht' (slot.files_fill (renames_renamed hchosen hfresh).element)

/-- The second element of a file. -/
def secondElement : Slot where
  before := []
  front := [("file", .text "a.php")]
  earlier := [.null]
  later := []
  back := []
  after := []
  counts := by decide

/-- A first line too small. -/
def lineZero : Text × Json.Value := ("startLine", .number (.integer 0))

/-- What kind of element it is, and that it has no name. -/
def namelessTrait : Members := [("name", .text []), ("kind", .text "trait")]

/-- An element without a name, with its first line too small and its last line missing. -/
def nameless : Members := [("kind", .text "trait"), ("name", .text []), lineZero]

/-- The same element, with members in another order and members that do not count. -/
def namelessRespelled : Members :=
  ("start_line", .null)
    :: ([lineZero, ("note", .bool true)] ++ ("kind".toList, .text "enum") :: namelessTrait)

def namelessText : Text :=
  "[\x7b\"file\":\"a.php\",\"elements\":[null,".toList
    ++ "\x7b\"kind\":\"trait\",\"name\":\"\",\"startLine\":0\x7d]\x7d]".toList

def namelessRespelledText : Text :=
  "[\x7b\"file\":\"a.php\",\"elements\":[null,\x7b\"start_line\":null,\"startLine\":0,".toList
    ++ "\"note\":true,\"kind\":\"enum\",\"name\":\"\",\"kind\":\"trait\"\x7d]\x7d]".toList

def namelessRenamedText : Text :=
  "[\x7b\"file\":\"a.php\",\"elements\":[null,".toList
    ++ "\x7b\"kind\":\"trait\",\"name\":\"\",\"start_line\":0\x7d]\x7d]".toList

/-- What is wrong with the element, whose first line is found under the given name. -/
def namelessFaults (startLine : Text) : List Complaint :=
  [⟨[.index 0, .name "elements", .index 0], .notObject⟩,
    ⟨[.index 0, .name "elements", .index 1, .name "name"], .emptyText⟩,
    ⟨[.index 0, .name "elements", .index 1, .name startLine], .belowOne⟩,
    ⟨[.index 0, .name "elements", .index 1, .name "endLine"], .missing⟩]

theorem chain_nameless : Relation.EqvGen Respells nameless namelessRespelled := by
  have hperm : Respells nameless ([lineZero] ++ namelessTrait) :=
    .permuted (by decide) (List.reverse_perm nameless).symm
  have hnote : Respells ([lineZero] ++ namelessTrait)
      ([lineZero] ++ ("note".toList, .bool true) :: namelessTrait) :=
    .ignored _ _ _ (by decide)
  have hkind : Respells ([lineZero, ("note".toList, .bool true)] ++ namelessTrait)
      namelessRespelled.tail :=
    .repeated _ _ _ (by decide)
  have hsecond : Respells namelessRespelled.tail namelessRespelled :=
    @Respells.overruled _ _ "startLine" "start_line" (by decide) (by decide) rfl
  exact ((Relation.EqvGen.rel _ _ hperm).trans _ _ _ (.rel _ _ hnote)).trans _ _ _
    ((Relation.EqvGen.rel _ _ hkind).trans _ _ _ (.rel _ _ hsecond))

theorem read_respelled_nameless :
    read namelessRespelledText = .error (.invalid (namelessFaults "startLine")) ∧
      read namelessRenamedText = .error (.invalid (namelessFaults "start_line")) := by
  have hread : Json.read? namelessText = some (secondElement.fill (.object nameless)) := by cbv
  have hfiles : files (secondElement.fill (.object nameless))
      = .error (namelessFaults "startLine") := by decide +kernel
  have hfault : read namelessText = .error (.invalid (namelessFaults "startLine")) := by
    rw [read, hread]
    exact congrArg (Except.mapError Fault.invalid) hfiles
  obtain ⟨hrespelled, hrenamed⟩ := read_respelled secondElement nameless namelessText hread
  constructor
  · rw [hrespelled namelessRespelled namelessRespelledText chain_nameless (by cbv), hfault]
  · rw [hrenamed secondNames namelessRenamedText (List.Subset.refl _) (by decide) (by cbv), hfault]
    decide +kernel

end Record

end DocAudit
