import DocAudit.Proofs.FileTree.Write

/-! # What a write does not disturb

    After a file was written, the same write changes NOTHING more, files at other places are read
    as before, and directories are where they were.

    The third is the one that needs care: a path that led nowhere may now lead to the file that
    was written, or end at it because a file has nothing below it.  Following one part is
    inverted for both trees at once (`Rewritten.follow_error`), whole paths follow by induction,
    and neither a missing file nor a present one is a directory. -/

namespace DocAudit

open Text

namespace Node

/-- Setting an entry to what it is changes nothing. -/
theorem setEntry_of_entry? {name : Text} {node : Node} {entries : List (Text × Node)}
    (h : entry? name entries = some node) : setEntry name node entries = entries := by
  induction entries with
  | nil => exact nomatch h
  | cons head rest ih =>
      obtain ⟨key, old⟩ := head
      rw [setEntry]
      by_cases hkey : key = name
      · rw [if_pos hkey]
        rw [ entry?, List.find?_cons_of_pos (by simpa using hkey)] at h
        obtain rfl : old = node := Option.some.inj h
        rw [hkey]
      · rw [if_neg hkey]
        rw [ entry?, List.find?_cons_of_neg (by simpa using hkey)] at h
        rw [ih h]

/-- Putting a node where it stands changes nothing. -/
theorem set_of_get? {node : Node} {place : List Text} {root : Node}
    (h : root.get? place = some node) : set node place root = root := by
  induction place generalizing root with
  | nil => exact (Option.some.inj h).symm
  | cons name rest ih =>
      obtain ⟨entries, next, rfl, hnext, hrest⟩ := exists_entry_of_get?_cons h
      by_cases hlast : rest = []
      · subst hlast
        obtain rfl : next = node := Option.some.inj hrest
        rw [set, setEntry_of_entry? hnext]
      · rw [set_cons_of_ne_nil hlast node name hnext, ih hrest, setEntry_of_entry? hnext]

end Node

namespace FileTree

/-! ## Writing again -/

/-- **WRITING TWICE IS WRITING ONCE**: the same bytes at the same path change nothing more. -/
theorem write_of_write {tree after : FileTree} {path : Path} {bytes : List UInt8}
    (h : tree.write path bytes = .ok after) : after.write path bytes = .ok after := by
  obtain ⟨hlong, front, name, hparts, hfront, hlast, hwritten⟩ := follow_of_write h
  have hname : path.parts.getLast? = some name := by
    rw [hparts]
    exact List.getLast?_concat
  have hlocate : after.locateFile path = .ok (front ++ [name]) := by
    rw [locateFile, hlong, if_neg (by simp), hname]
    simp only [hfront, hlast, hwritten]
  rw [write, hlocate]
  show Except.ok { after with root := Node.set (.file bytes) (front ++ [name]) after.root } = _
  rw [Node.set_of_get? hwritten]

/-- Whole paths lead where they led before. -/
theorem Rewritten.locate {before after : FileTree} {place : List Text} {bytes : List UInt8}
    (h : Rewritten before after place bytes) (hfile : before.standing place ≠ .directory)
    {path : Path} {there : List Text} (hlocate : before.locate path = .ok there) :
    after.locate path = .ok there := by
  rw [FileTree.locate] at hlocate ⊢
  rw [base, h.cwd]
  cases hlong : isTooLong path with
  | true =>
      rw [hlong] at hlocate
      cases hlocate
  | false =>
      rw [hlong] at hlocate
      exact h.followAll hfile hlocate

/-- A path is read exactly if it leads to a file. -/
theorem read_eq_ok_iff {tree : FileTree} {path : Path} {bytes : List UInt8} :
    tree.read path = .ok bytes ↔
      ∃ place, tree.locate path = .ok place ∧ tree.standing place = .file bytes := by
  rw [read]
  cases tree.locate path with
  | error fault => simp
  | ok place =>
      simp only [Except.ok.injEq, exists_eq_left', standing, Node.standingAt]
      cases tree.root.get? place with
      | none => simp
      | some node =>
          cases node with
          | file content => simp [Node.standing]
          | dir entries => simp [Node.standing]

/-- A file at another place is read as before. -/
theorem Rewritten.read {before after : FileTree} {place : List Text} {bytes : List UInt8}
    (h : Rewritten before after place bytes) (hfile : before.standing place ≠ .directory)
    {path : Path} (hother : before.locate path ≠ .ok place) {content : List UInt8}
    (hread : before.read path = .ok content) : after.read path = .ok content := by
  obtain ⟨there, hlocate, hthere⟩ := read_eq_ok_iff.mp hread
  have hne : there ≠ place := by
    rintro rfl
    exact hother hlocate
  refine read_eq_ok_iff.mpr ⟨there, h.locate hfile hlocate, ?_⟩
  rw [h.elsewhere there hne]
  exact hthere

/-- What could not be followed still cannot, unless it led to the very place that was written and
    nothing stood there. -/
theorem Rewritten.follow_error {before after : FileTree} {place : List Text} {bytes : List UInt8}
    (h : Rewritten before after place bytes) (hfile : before.standing place ≠ .directory)
    {here : List Text} {part : Text} {fault : PathFault}
    (hfollow : before.follow here part = .error fault) :
    after.follow here part = .error fault ∨
      fault = .missing ∧ after.follow here part = .ok place := by
  have hhere := h.standing_eq_directory_iff hfile here
  have hfollows := follows_follow before here part
  rw [hfollow] at hfollows
  rw [follow_eq]
  cases hfollows with
  | blocked hdir => exact Or.inl (if_neg fun hafter => hdir (hhere.mp hafter))
  | tooLong hdir hparent hlong =>
      refine Or.inl ?_
      rw [if_pos (hhere.mpr hdir), if_neg hparent, if_pos hlong]
  | missing hdir hparent hshort hnothing =>
      rw [if_pos (hhere.mpr hdir), if_neg hparent, if_neg hshort]
      by_cases heq : here ++ [part] = place
      · refine Or.inr ⟨rfl, ?_⟩
        rw [heq, h.standing_place]
        exact if_neg nofun
      · refine Or.inl ?_
        rw [h.elsewhere _ heq]
        exact if_pos hnothing

/-- A whole path that could not be followed still cannot, or it now leads to the file that was
    written or beyond it. -/
theorem Rewritten.followAll_error {before after : FileTree} {place : List Text}
    {bytes : List UInt8} (h : Rewritten before after place bytes)
    (hfile : before.standing place ≠ .directory) {here : List Text} {parts : List Text}
    {fault : PathFault} (hfollow : before.followAll here parts = .error fault) :
    after.followAll here parts = .error fault ∨
      fault = .missing ∧ (after.followAll here parts = .ok place ∨
        after.followAll here parts = .error .notDirectory) := by
  induction parts generalizing here with
  | nil => cases hfollow
  | cons part rest ih =>
      rw [FileTree.followAll] at hfollow ⊢
      cases hstep : before.follow here part with
      | ok mid =>
          rw [hstep] at hfollow
          rw [h.follow hfile hstep]
          exact ih hfollow
      | error fault' =>
          rw [hstep] at hfollow
          obtain rfl : fault' = fault := Except.error.inj hfollow
          rcases h.follow_error hfile hstep with hstill | ⟨hmissing, hnow⟩
          · rw [hstill]
            exact Or.inl rfl
          · rw [hnow]
            refine Or.inr ⟨hmissing, ?_⟩
            cases rest with
            | nil => exact Or.inl rfl
            | cons next more =>
                -- a file has nothing below it
                have hblocked : after.follow place next = .error .notDirectory := by
                  rw [follow_eq, h.standing_place]
                  exact if_neg (by simp)
                refine Or.inr ?_
                simp only [FileTree.followAll, hblocked]

theorem directory?_eq (tree : FileTree) (path : Path) :
    tree.directory? path
      = if path.hasNul then .ok none
        else
          match tree.locate path with
          | .error .tooLong => .error .tooLong
          | .error _ => .ok none
          | .ok place => .ok (if tree.standing place = .directory then some place else none) := by
  rw [directory?]
  cases tree.locate path with
  | error fault => cases fault <;> rfl
  | ok place =>
      by_cases hdir : tree.standing place = .directory
      · obtain ⟨entries, hentries⟩ := Node.standingAt_eq_directory_iff.mp hdir
        simp only [hentries, hdir, if_true]
      · simp only [hdir, if_false]
        congr 1
        split
        · rename_i entries hentries
          exact absurd (Node.standingAt_eq_directory_iff.mpr ⟨entries, hentries⟩) hdir
        · rfl

/-- **DIRECTORIES ARE WHERE THEY WERE**: every path leads to the same directory, to none as
    before, or is too long as before. -/
theorem Rewritten.directory? {before after : FileTree} {place : List Text} {bytes : List UInt8}
    (h : Rewritten before after place bytes) (hfile : before.standing place ≠ .directory)
    (path : Path) : after.directory? path = before.directory? path := by
  rw [directory?_eq, directory?_eq]
  cases hbefore : before.locate path with
  | ok there =>
      rw [h.locate hfile hbefore]
      simp only [h.standing_eq_directory_iff hfile there]
  | error fault =>
      have hafter : after.locate path = .error fault ∨
          fault = .missing ∧ (after.locate path = .ok place ∨
            after.locate path = .error .notDirectory) := by
        rw [FileTree.locate] at hbefore ⊢
        rw [base, h.cwd]
        cases hlong : isTooLong path with
        | true =>
            rw [hlong] at hbefore
            exact Or.inl hbefore
        | false =>
            rw [hlong] at hbefore
            exact h.followAll_error hfile hbefore
      rcases hafter with hstill | ⟨rfl, hnow | hnow⟩
      · rw [hstill]
        cases fault <;> rfl
      · -- a file stands there now, and no directory
        rw [hnow]
        simp [h.standing_place]
      · rw [hnow]

end FileTree

end DocAudit
