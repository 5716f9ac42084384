import DocAudit.FileTree.Basic
import Mathlib.Data.List.Basic

/-! # Writing a file — one place changes

    A place of a file tree shows nothing, a directory or a file with its bytes.  Writing
    a file changes what ONE place shows and nothing else: this is the frame that every
    statement about what a run leaves behind rests on.

    The argument is an induction along the place (`standingAt_set_of_ne`).  Following a path
    looks at no more than what places show (`follow_eq`), so a path that led to a
    file before the write still leads there, and the file then holds what was
    written. -/

namespace DocAudit

open Text

/-- What a place shows. -/
inductive Standing where
  | nothing
  | directory
  | file (bytes : List UInt8)
  deriving Repr, DecidableEq

namespace Node

/-- What a node shows of itself. -/
def standing : Node → Standing
  | .file bytes => .file bytes
  | .dir _ => .directory

/-- What stands at the end of a list of names. -/
def standingAt (root : Node) (place : List Text) : Standing :=
  ((root.get? place).map standing).getD .nothing

/-! ## Entries -/

/-- The entry that was set is found. -/
theorem entry?_setEntry_self (name : Text) (node : Node) (entries : List (Text × Node)) :
    entry? name (setEntry name node entries) = some node := by
  induction entries with
  | nil => simp [ entry?, setEntry]
  | cons head rest ih =>
      obtain ⟨key, old⟩ := head
      by_cases hkey : key = name
      · rw [setEntry, if_pos hkey]
        simp [ entry?]
      · rw [setEntry, if_neg hkey]
        rw [ entry?] at ih ⊢
        rw [List.find?_cons_of_neg (by simpa using hkey)]
        exact ih

theorem entry?_setEntry_of_ne {name other : Text} (h : other ≠ name) (node : Node)
    (entries : List (Text × Node)) :
    entry? other (setEntry name node entries) = entry? other entries := by
  induction entries with
  | nil => simp [ entry?, setEntry, Ne.symm h]
  | cons head rest ih =>
      obtain ⟨key, old⟩ := head
      by_cases hkey : key = name
      · rw [setEntry, if_pos hkey]
        subst hkey
        rw [ entry?, entry?, List.find?_cons_of_neg (by simpa using Ne.symm h),
          List.find?_cons_of_neg (by simpa using Ne.symm h)]
      · rw [setEntry, if_neg hkey]
        rw [ entry?, entry?] at ih ⊢
        by_cases hother : key = other
        · rw [List.find?_cons_of_pos (by simpa using hother),
            List.find?_cons_of_pos (by simpa using hother)]
        · rw [List.find?_cons_of_neg (by simpa using hother),
            List.find?_cons_of_neg (by simpa using hother)]
          exact ih

/-! ## Places -/

/-- A longer place is reached through the shorter one. -/
theorem get?_append (front back : List Text) (root : Node) :
    root.get? (front ++ back) = (root.get? front).bind (get? back) := by
  induction front generalizing root with
  | nil => rfl
  | cons name rest ih =>
      cases root with
      | file bytes => rfl
      | dir entries =>
          rw [List.cons_append, get?, get?]
          cases entry? name entries with
          | none => rfl
          | some node => exact ih node

/-- Only directories have something below them. -/
theorem get?_concat (root : Node) (place : List Text) (name : Text) :
    root.get? (place ++ [name])
      = match root.get? place with
        | some (.dir entries) => entry? name entries
        | _ => none := by
  rw [get?_append]
  cases root.get? place with
  | none => rfl
  | some node =>
      cases node with
      | file bytes => rfl
      | dir entries =>
          show get? [name] (.dir entries) = entry? name entries
          rw [get?]
          cases entry? name entries with
          | none => rfl
          | some node => rfl

theorem standingAt_file_of_ne_nil (bytes : List UInt8) {place : List Text} (h : place ≠ []) :
    (Node.file bytes).standingAt place = .nothing := by
  cases place with
  | nil => exact absurd rfl h
  | cons name rest => rfl

/-- Below a directory the first name decides. -/
theorem standingAt_dir_cons (entries : List (Text × Node)) (name : Text) (rest : List Text) :
    (Node.dir entries).standingAt (name :: rest)
      = match entry? name entries with
        | some node => node.standingAt rest
        | none => .nothing := by
  rw [standingAt]
  rw [get?]
  cases entry? name entries with
  | none => rfl
  | some node => rfl

/-! ## Putting a file somewhere -/

/-- Farther down, the node below the first name is changed. -/
theorem set_cons_of_ne_nil {rest : List Text} (h : rest ≠ []) (new : Node) (name : Text)
    {entries : List (Text × Node)} {node : Node} (hnode : entry? name entries = some node) :
    set new (name :: rest) (.dir entries) = .dir (setEntry name (set new rest node) entries) := by
  cases rest with
  | nil => exact absurd rfl h
  | cons next more => rw [set, hnode]; simp

/-- What leads on from a root is an entry of it. -/
theorem exists_entry_of_get?_cons {root node : Node} {name : Text} {rest : List Text}
    (h : root.get? (name :: rest) = some node) :
    ∃ entries next, root = .dir entries ∧ entry? name entries = some next ∧
      next.get? rest = some node := by
  cases root with
  | file bytes => exact nomatch h
  | dir entries =>
      rw [get?] at h
      cases hnext : entry? name entries with
      | none =>
          rw [hnext] at h
          exact nomatch h
      | some next =>
          rw [hnext] at h
          exact ⟨entries, next, rfl, hnext, h⟩

/-- The place shows what was put there. -/
theorem get?_set_self (new : Node) {front : List Text} (name : Text) {root : Node}
    {entries : List (Text × Node)} (h : root.get? front = some (.dir entries)) :
    (set new (front ++ [name]) root).get? (front ++ [name]) = some new := by
  induction front generalizing root with
  | nil =>
      obtain rfl : root = .dir entries := Option.some.inj h
      show get? [name] (.dir (setEntry name new entries)) = some new
      rw [get?, entry?_setEntry_self]
      rfl
  | cons next rest ih =>
      obtain ⟨es, node, rfl, hnode, hrest⟩ := exists_entry_of_get?_cons h
      rw [List.cons_append, set_cons_of_ne_nil (by simp) new next hnode, get?,
        entry?_setEntry_self]
      exact ih hrest

/-- **THE FRAME**: every other place shows what it showed before. -/
theorem standingAt_set_of_ne (bytes : List UInt8) {front : List Text} {name : Text} {root : Node}
    {entries : List (Text × Node)} (h : root.get? front = some (.dir entries))
    (hvacant : root.standingAt (front ++ [name]) ≠ .directory) {other : List Text}
    (hother : other ≠ front ++ [name]) :
    (set (.file bytes) (front ++ [name]) root).standingAt other = root.standingAt other := by
  induction front generalizing root other with
  | nil =>
      obtain rfl : root = .dir entries := Option.some.inj h
      show (Node.dir (setEntry name (.file bytes) entries)).standingAt other = _
      cases other with
      | nil => rfl
      | cons key more =>
          rw [standingAt_dir_cons, standingAt_dir_cons]
          by_cases hkey : key = name
          · -- below the place itself nothing stands, before and after
            subst hkey
            have hmore : more ≠ [] := by
              rintro rfl
              exact hother rfl
            rw [ entry?_setEntry_self]
            show (Node.file bytes).standingAt more = _
            rw [standingAt_file_of_ne_nil bytes hmore]
            rw [List.nil_append, standingAt_dir_cons] at hvacant
            cases hold : entry? key entries with
            | none => rfl
            | some node =>
                rw [hold] at hvacant
                cases node with
                | dir es => exact absurd rfl hvacant
                | file old => exact (standingAt_file_of_ne_nil old hmore).symm
          · rw [ entry?_setEntry_of_ne hkey]
  | cons next rest ih =>
      obtain ⟨es, node, rfl, hnode, hrest⟩ := exists_entry_of_get?_cons h
      rw [List.cons_append, standingAt_dir_cons, hnode] at hvacant
      rw [List.cons_append, set_cons_of_ne_nil (by simp) (.file bytes) next hnode]
      cases other with
      | nil => rfl
      | cons key more =>
          rw [standingAt_dir_cons, standingAt_dir_cons]
          by_cases hkey : key = next
          · subst hkey
            rw [ entry?_setEntry_self, hnode]
            refine ih hrest hvacant ?_
            rintro rfl
            exact hother rfl
          · rw [ entry?_setEntry_of_ne hkey]

/-- A place shows a directory exactly if one stands there. -/
theorem standingAt_eq_directory_iff {root : Node} {place : List Text} :
    root.standingAt place = .directory ↔ ∃ entries, root.get? place = some (.dir entries) := by
  rw [standingAt]
  cases root.get? place with
  | none =>
      constructor
      · intro h
        exact nomatch h
      · rintro ⟨entries, h⟩
        exact nomatch h
  | some node =>
      cases node with
      | dir entries => exact ⟨fun _ => ⟨entries, rfl⟩, fun _ => rfl⟩
      | file bytes =>
          constructor
          · intro h
            exact nomatch h
          · rintro ⟨entries, h⟩
            exact nomatch h

/-- A place shows nothing exactly if no node stands there. -/
theorem standingAt_eq_nothing_iff {root : Node} {place : List Text} :
    root.standingAt place = .nothing ↔ root.get? place = none := by
  rw [standingAt]
  cases root.get? place with
  | none => exact ⟨fun _ => rfl, fun _ => rfl⟩
  | some node =>
      cases node with
      | dir entries => exact ⟨fun h => (nomatch h), fun h => (nomatch h)⟩
      | file bytes => exact ⟨fun h => (nomatch h), fun h => (nomatch h)⟩

end Node

namespace FileTree

/-- What a place of the tree shows. -/
def standing (tree : FileTree) (place : List Text) : Standing := tree.root.standingAt place

/-! ## Following paths -/

/-- Following one part looks at no more than what two places show. -/
theorem follow_eq (tree : FileTree) (place : List Text) (part : Text) :
    tree.follow place part
      = if tree.standing place = .directory then
          if part = Path.parent then .ok place.dropLast
          else if nameLimit < byteLength part then .error .tooLong
          else if tree.standing (place ++ [part]) = .nothing then .error .missing
          else .ok (place ++ [part])
        else .error .notDirectory := by
  rw [follow]
  by_cases hdir : tree.standing place = .directory
  · obtain ⟨entries, hentries⟩ := Node.standingAt_eq_directory_iff.mp hdir
    have hbelow : tree.standing (place ++ [part]) = .nothing ↔
        Node.entry? part entries = none := by
      rw [standing, Node.standingAt_eq_nothing_iff, Node.get?_concat, hentries]
    rw [if_pos hdir, hentries]
    simp only [hbelow, Option.isSome_iff_ne_none, ne_eq, ite_not]
  · have hnone : ∀ entries, tree.root.get? place ≠ some (.dir entries) := by
      intro entries hentries
      exact hdir (Node.standingAt_eq_directory_iff.mpr ⟨entries, hentries⟩)
    rw [if_neg hdir]
    split
    · rename_i entries hentries
      exact absurd hentries (hnone entries)
    · rfl

/-- All that following one part can do, and when. -/
inductive Follows (tree : FileTree) (place : List Text) (part : Text) :
    Except PathFault (List Text) → Prop
  | blocked (hplace : tree.standing place ≠ .directory) :
      Follows tree place part (.error .notDirectory)
  | up (hplace : tree.standing place = .directory) (hpart : part = Path.parent) :
      Follows tree place part (.ok place.dropLast)
  | tooLong (hplace : tree.standing place = .directory) (hpart : part ≠ Path.parent)
      (hlong : nameLimit < byteLength part) : Follows tree place part (.error .tooLong)
  | missing (hplace : tree.standing place = .directory) (hpart : part ≠ Path.parent)
      (hshort : ¬ nameLimit < byteLength part)
      (hbelow : tree.standing (place ++ [part]) = .nothing) :
      Follows tree place part (.error .missing)
  | down (hplace : tree.standing place = .directory) (hpart : part ≠ Path.parent)
      (hshort : ¬ nameLimit < byteLength part)
      (hbelow : tree.standing (place ++ [part]) ≠ .nothing) :
      Follows tree place part (.ok (place ++ [part]))

/-- A part is followed as said. -/
theorem follows_follow (tree : FileTree) (place : List Text) (part : Text) :
    Follows tree place part (tree.follow place part) := by
  rw [follow_eq]
  by_cases hplace : tree.standing place = .directory
  · rw [if_pos hplace]
    by_cases hpart : part = Path.parent
    · rw [if_pos hpart]
      exact .up hplace hpart
    · rw [if_neg hpart]
      by_cases hlong : nameLimit < byteLength part
      · rw [if_pos hlong]
        exact .tooLong hplace hpart hlong
      · rw [if_neg hlong]
        by_cases hbelow : tree.standing (place ++ [part]) = .nothing
        · rw [if_pos hbelow]
          exact .missing hplace hpart hlong hbelow
        · rw [if_neg hbelow]
          exact .down hplace hpart hlong hbelow
  · rw [if_neg hplace]
    exact .blocked hplace

theorem followAll_append (tree : FileTree) (place : List Text) (front back : List Text) :
    tree.followAll place (front ++ back)
      = match tree.followAll place front with
        | .ok next => tree.followAll next back
        | .error fault => .error fault := by
  induction front generalizing place with
  | nil => rfl
  | cons part rest ih =>
      rw [List.cons_append, followAll, followAll]
      cases tree.follow place part with
      | error fault => rfl
      | ok next => exact ih next

/-- What stands above a directory is a directory. -/
theorem standing_dropLast {tree : FileTree} {place : List Text}
    (h : tree.standing place = .directory) : tree.standing place.dropLast = .directory := by
  rcases List.eq_nil_or_concat' place with rfl | ⟨front, name, rfl⟩
  · exact h
  · obtain ⟨entries, hentries⟩ := Node.standingAt_eq_directory_iff.mp h
    rw [List.dropLast_concat]
    rw [Node.get?_concat] at hentries
    refine Node.standingAt_eq_directory_iff.mpr ?_
    split at hentries
    · rename_i above habove
      exact ⟨above, habove⟩
    · exact nomatch hentries

/-! ## The place of a file -/

/-- A place is taken for that of a file only if a file stands there. -/
theorem standing_of_file {tree : FileTree} {next place : List Text}
    (h : (match tree.root.get? next with
      | some (.file _) => Except.ok next
      | _ => .error PathFault.isDirectory) = .ok place) :
    place = next ∧ ∃ bytes, tree.standing next = .file bytes := by
  split at h
  · rename_i bytes hnode
    refine ⟨(Except.ok.inj h).symm, bytes, ?_⟩
    rw [standing, Node.standingAt, hnode]
    rfl
  · exact nomatch h

/-- A path has a place for a file only where its last part is a name in the directory that
    the others lead to, and no directory stands under that name. -/
theorem locateFile_eq_ok {tree : FileTree} {path : Path} {place : List Text}
    (h : tree.locateFile path = .ok place) :
    isTooLong path = false ∧ ∃ front name, path.parts = path.parts.dropLast ++ [name] ∧
      tree.followAll (tree.base path) path.parts.dropLast = .ok front ∧
      place = front ++ [name] ∧ tree.standing front = .directory ∧ name ≠ Path.parent ∧
      ¬ nameLimit < byteLength name ∧ tree.standing place ≠ .directory := by
  rw [locateFile] at h
  cases hlong : isTooLong path with
  | true =>
      rw [hlong] at h
      exact nomatch h
  | false =>
      refine ⟨rfl, ?_⟩
      rw [hlong, if_neg (by simp)] at h
      cases hlast : path.parts.getLast? with
      | none =>
          rw [hlast] at h
          exact nomatch h
      | some name =>
          have hparts : path.parts = path.parts.dropLast ++ [name] :=
            (List.dropLast_append_getLast? name hlast).symm
          rw [hlast] at h
          cases hfront : tree.followAll (tree.base path) path.parts.dropLast with
          | error fault =>
              simp only [hfront] at h
              exact nomatch h
          | ok front =>
              refine ⟨front, name, hparts, rfl, ?_⟩
              simp only [hfront] at h
              have hfollows := follows_follow tree front name
              generalize tree.follow front name = result at h hfollows
              cases hfollows with
              | blocked => exact nomatch h
              | tooLong => exact nomatch h
              | up hdir =>
                  -- upwards there are only directories
                  obtain ⟨-, bytes, hfile⟩ := standing_of_file h
                  rw [standing_dropLast hdir] at hfile
                  exact nomatch hfile
              | missing hdir hparent hshort hnothing =>
                  obtain rfl := Except.ok.inj h
                  exact ⟨rfl, hdir, hparent, hshort, by rw [hnothing]; exact nofun⟩
              | down hdir hparent hshort =>
                  obtain ⟨rfl, bytes, hfile⟩ := standing_of_file h
                  exact ⟨rfl, hdir, hparent, hshort, by rw [hfile]; exact nofun⟩

/-! ## Writing -/

/-- One tree differs from another in what stands at one place, which is a file. -/
structure Rewritten (before after : FileTree) (place : List Text) (bytes : List UInt8) : Prop where
  cwd : after.cwd = before.cwd
  written : after.root.get? place = some (.file bytes)
  elsewhere : ∀ other, other ≠ place → after.standing other = before.standing other

/-- Writing rewrites the place of the file. -/
theorem rewritten_of_write {tree after : FileTree} {path : Path} {bytes : List UInt8}
    (h : tree.write path bytes = .ok after) :
    ∃ place, tree.locateFile path = .ok place ∧ Rewritten tree after place bytes := by
  rw [write] at h
  cases hplace : tree.locateFile path with
  | error fault =>
      rw [hplace] at h
      exact nomatch h
  | ok place =>
      rw [hplace] at h
      obtain rfl := Except.ok.inj h
      obtain ⟨-, front, name, -, -, rfl, hdir, -, -, hvacant⟩ := locateFile_eq_ok hplace
      obtain ⟨entries, hentries⟩ := Node.standingAt_eq_directory_iff.mp hdir
      refine ⟨front ++ [name], rfl, rfl, Node.get?_set_self _ name hentries, ?_⟩
      intro other hother
      exact Node.standingAt_set_of_ne bytes hentries hvacant hother

/-- The place that was written shows a file. -/
theorem Rewritten.standing_place {before after : FileTree} {place : List Text}
    {bytes : List UInt8} (h : Rewritten before after place bytes) :
    after.standing place = .file bytes := by
  rw [standing, Node.standingAt, h.written]
  rfl

/-- The same places show directories. -/
theorem Rewritten.standing_eq_directory_iff {before after : FileTree} {place : List Text}
    {bytes : List UInt8} (h : Rewritten before after place bytes)
    (hfile : before.standing place ≠ .directory) (here : List Text) :
    after.standing here = .directory ↔ before.standing here = .directory := by
  by_cases heq : here = place
  · subst heq
    rw [h.standing_place]
    exact ⟨nofun, fun hdir => absurd hdir hfile⟩
  · rw [h.elsewhere here heq]

/-- What could be followed still can be after a file was written. -/
theorem Rewritten.follow {before after : FileTree} {place : List Text} {bytes : List UInt8}
    (h : Rewritten before after place bytes) (hfile : before.standing place ≠ .directory)
    {here next : List Text} {part : Text} (hfollow : before.follow here part = .ok next) :
    after.follow here part = .ok next := by
  have hhere := h.standing_eq_directory_iff hfile here
  have hfollows := follows_follow before here part
  rw [hfollow] at hfollows
  rw [follow_eq]
  cases hfollows with
  | up hdir hparent => rw [if_pos (hhere.mpr hdir), if_pos hparent]
  | down hdir hparent hshort hthere =>
      -- the step may have led to the very place that was written, where a file stands now
      have hstill : after.standing (here ++ [part]) ≠ .nothing := by
        by_cases heq : here ++ [part] = place
        · rw [heq, h.standing_place]
          exact nofun
        · rw [h.elsewhere _ heq]
          exact hthere
      rw [if_pos (hhere.mpr hdir), if_neg hparent, if_neg hshort, if_neg hstill]

/-- Whole paths can be followed as before. -/
theorem Rewritten.followAll {before after : FileTree} {place : List Text} {bytes : List UInt8}
    (h : Rewritten before after place bytes) (hfile : before.standing place ≠ .directory)
    {here next : List Text} {parts : List Text} (hfollow : before.followAll here parts = .ok next) :
    after.followAll here parts = .ok next := by
  induction parts generalizing here with
  | nil => exact hfollow
  | cons part rest ih =>
      rw [FileTree.followAll] at hfollow ⊢
      cases hstep : before.follow here part with
      | error fault =>
          rw [hstep] at hfollow
          exact nomatch hfollow
      | ok mid =>
          rw [hstep] at hfollow
          rw [h.follow hfile hstep]
          exact ih hfollow

/-- After a write the path leads to the place that was written, through the same directory. -/
theorem follow_of_write {tree after : FileTree} {path : Path} {bytes : List UInt8}
    (h : tree.write path bytes = .ok after) :
    isTooLong path = false ∧ ∃ front name, path.parts = path.parts.dropLast ++ [name] ∧
      after.followAll (after.base path) path.parts.dropLast = .ok front ∧
      after.follow front name = .ok (front ++ [name]) ∧
      after.root.get? (front ++ [name]) = some (.file bytes) := by
  obtain ⟨place, hplace, hrewritten⟩ := rewritten_of_write h
  obtain ⟨hlong, front, name, hparts, hfront, rfl, hdir, hparent, hname, hvacant⟩ :=
    locateFile_eq_ok hplace
  have hbase : after.base path = tree.base path := by
    rw [base, base, hrewritten.cwd]
  have hhere : after.standing front = .directory :=
    (hrewritten.standing_eq_directory_iff hvacant front).mpr hdir
  have hthere : after.standing (front ++ [name]) ≠ .nothing := by
    rw [hrewritten.standing_place]
    exact nofun
  refine ⟨hlong, front, name, hparts, ?_, ?_, hrewritten.written⟩
  · rw [hbase]
    exact hrewritten.followAll hvacant hfront
  · rw [follow_eq, if_pos hhere, if_neg hparent, if_neg hname, if_neg hthere]

/-- **WHAT WAS WRITTEN IS READ**: along the same path the file is found with its new bytes. -/
theorem read_of_write {tree after : FileTree} {path : Path} {bytes : List UInt8}
    (h : tree.write path bytes = .ok after) : after.read path = .ok bytes := by
  obtain ⟨hlong, front, name, hparts, hfront, hlast, hwritten⟩ := follow_of_write h
  have hlocate : after.locate path = .ok (front ++ [name]) := by
    rw [locate, hlong, if_neg (by simp), hparts, followAll_append, hfront]
    simp only [FileTree.followAll, hlast]
  rw [read, hlocate]
  simp only [hwritten]

end FileTree

end DocAudit
