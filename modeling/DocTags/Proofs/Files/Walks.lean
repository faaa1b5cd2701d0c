/-
# Walks over a disk

A walk goes from directory to directory, and looks at a file only when it has arrived there. So on
two disks that differ in the contents of some files and in nothing else, every path leads to the same
place, and what is read there is the same unless the place is that of such a file.
-/

import DocTags.Files.Disk
import DocTags.Proofs.Except

namespace DocTags.Disk

variable {disk other : Disk} {places : Place → Prop} {followLast : Bool}

/-! ## Steps -/

section

variable {links : Nat} {place : Place} {piece : Text} {rest : List Text}

/-- A walk without pieces has arrived. -/
theorem walk_nil {entry : DiskEntry} (present : disk.entry? place = some entry) :
    disk.walk followLast links place [] = .ok (place, entry) := by
  rw [walk, present]

/-- A walk ends where nothing stands. -/
theorem walk_absent (absent : disk.entry? place = none) :
    disk.walk followLast links place rest = .error .notFound := by
  rw [walk, absent]

/-- An empty piece leads from a directory to itself. -/
theorem walk_empty (dir : disk.entry? place = some .dir) :
    disk.walk followLast links place ([] :: rest) = disk.walk followLast links place rest := by
  rw [walk, dir]
  simp

/-- A name leads to what stands under it in a directory, unless that is a link. -/
theorem walk_name (dir : disk.entry? place = some .dir) (name : piece ∉ [[], ['.'], ['.', '.']])
    (short : Text.utf8Size piece ≤ 255)
    (noLink : ∀ target, disk.entry? (place ++ [piece]) ≠ some (.link target)) :
    disk.walk followLast links place (piece :: rest) =
      disk.walk followLast links (place ++ [piece]) rest := by
  simp only [List.mem_cons, List.not_mem_nil, or_false, not_or] at name
  obtain ⟨notEmpty, notHere, notUp⟩ := name
  rw [walk, dir]
  simp [notEmpty, notHere, notUp, Nat.not_lt.mpr short]

end

/-! ## Contents of files -/

/-- Two disks are the same but for the contents of files at some places. -/
def SameBeside (places : Place → Prop) (disk other : Disk) : Prop :=
  ∀ place, other.entry? place = disk.entry? place ∨
    places place ∧ ∃ old new, disk.entry? place = some (.file old) ∧
      other.entry? place = some (.file new)

/-- Where nothing stands on one disk, nothing stands on the other. -/
theorem SameBeside.absent (same : SameBeside places disk other) {place : Place}
    (absent : disk.entry? place = none) : other.entry? place = none := by
  rcases same place with equal | ⟨-, old, new, file, -⟩
  · rw [equal, absent]
  · rw [absent] at file
    cases file

/-- A directory or a link is the same on both disks. -/
theorem SameBeside.present (same : SameBeside places disk other) {place : Place}
    {entry : DiskEntry} (present : disk.entry? place = some entry)
    (noFile : ∀ content, entry ≠ .file content) : other.entry? place = some entry := by
  rcases same place with equal | ⟨-, old, new, file, -⟩
  · rw [equal, present]
  · rw [present] at file
    exact absurd (Option.some.inj file) (noFile old)

theorem SameBeside.symm (same : SameBeside places disk other) : SameBeside places other disk := by
  intro place
  rcases same place with equal | ⟨there, old, new, file, newFile⟩
  · exact Or.inl equal.symm
  · exact Or.inr ⟨there, new, old, newFile, file⟩

/-- Where a walk ends does not depend on the contents of files. Where it stops before its end, what
stands there is not a directory on either disk. -/
theorem SameBeside.walk (same : SameBeside places disk other) (links : Nat) (start : Place)
    (pieces : List Text) :
    (other.walk followLast links start pieces).map Prod.fst =
      (disk.walk followLast links start pieces).map Prod.fst := by
  fun_induction disk.walk followLast links start pieces with
  | case1 links place pieces absent => rw [walk_absent (same.absent absent)]
  | case2 links place entry present =>
      rcases same place with equal | ⟨-, old, new, -, newFile⟩
      · rw [walk_nil (equal.trans present)]
      · rw [walk_nil newFile]
        rfl
  | case3 links place piece rest stays dir ih =>
      rw [Disk.walk, same.present dir (by simp)]
      simpa only [if_pos stays] using ih
  | case4 links place rest dir moves ih =>
      rw [Disk.walk, same.present dir (by simp)]
      simpa only [if_neg moves, if_true] using ih
  | case5 links place piece rest moves down long dir =>
      rw [Disk.walk, same.present dir (by simp)]
      simp only [if_neg moves, if_neg down, if_pos long]
  | case6 links place piece rest moves down short target link last dir =>
      have otherLink := same.present link (by simp)
      rw [Disk.walk, same.present dir (by simp)]
      simp only [if_neg moves, if_neg down, if_neg short, otherLink, if_pos last]
  | case7 place piece rest moves down short target link through dir =>
      have otherLink := same.present link (by simp)
      rw [Disk.walk, same.present dir (by simp)]
      simp only [if_neg moves, if_neg down, if_neg short, otherLink, if_neg through]
  | case8 place piece rest moves down short target link through links dir ih =>
      have otherLink := same.present link (by simp)
      rw [Disk.walk, same.present dir (by simp)]
      simpa only [if_neg moves, if_neg down, if_neg short, otherLink, if_neg through,
        dite_eq_ite] using ih
  | case9 links place piece rest moves down short noLink dir ih =>
      have otherNoLink : ∀ target, other.entry? (place ++ [piece]) ≠ some (.link target) :=
        fun target link => noLink target (same.symm.present link (by simp))
      rw [Disk.walk, same.present dir (by simp)]
      simpa only [if_neg moves, if_neg down, if_neg short, otherNoLink] using ih
  | case10 links place entry present piece rest noDir =>
      rw [Disk.walk]
      cases found : other.entry? place with
      | none =>
          rw [same.symm.absent found] at present
          cases present
      | some otherEntry =>
          cases otherEntry with
          | dir =>
              rw [same.symm.present found (by simp)] at present
              exact absurd (Option.some.inj present).symm noDir
          | file content => rfl
          | link target => rfl

/-- A walk ends at an entry of the disk. -/
theorem entry?_of_walk {links : Nat} {start place : Place} {pieces : List Text}
    {entry : DiskEntry}
    (arrived : disk.walk followLast links start pieces = .ok (place, entry)) :
    disk.entry? place = some entry := by
  fun_induction disk.walk followLast links start pieces
  case case2 present =>
    cases arrived
    exact present
  case case6 link _ _ =>
    cases arrived
    exact link
  case case3 ih | case4 ih | case8 ih | case9 ih => exact ih arrived
  case case1 | case5 | case7 | case10 => cases arrived

/-! ## Paths -/

variable {workingDir : Place} {path : Path}

/-- A path leads to a place. -/
def LeadsTo (disk : Disk) (workingDir : Place) (path : Path) (place : Place) : Prop :=
  ∃ entry, disk.resolve workingDir true path = .ok (place, entry)

/-- Where a path leads to does not depend on the contents of files. -/
theorem SameBeside.resolve (same : SameBeside places disk other) :
    (other.resolve workingDir followLast path).map Prod.fst =
      (disk.resolve workingDir followLast path).map Prod.fst := by
  unfold Disk.resolve
  split
  · rfl
  · split
    · rfl
    · split
      · rfl
      · exact same.walk _ _ _

/-- A path leads to an entry of the disk. -/
theorem entry?_of_resolve {place : Place} {entry : DiskEntry}
    (found : disk.resolve workingDir followLast path = .ok (place, entry)) :
    disk.entry? place = some entry := by
  unfold Disk.resolve at found
  split at found
  · cases found
  · split at found
    · cases found
    · split at found
      · cases found
      · exact entry?_of_walk found

/-- A path that does not lead to one of the places leads to the same entry on both disks. -/
theorem SameBeside.resolve_of_apart (same : SameBeside places disk other)
    (apart : ∀ place, disk.LeadsTo workingDir path place → ¬ places place) :
    other.resolve workingDir true path = disk.resolve workingDir true path := by
  have alike : (other.resolve workingDir true path).map Prod.fst =
      (disk.resolve workingDir true path).map Prod.fst := same.resolve
  cases found : disk.resolve workingDir true path with
  | error fault =>
      cases otherFound : other.resolve workingDir true path with
      | error otherFault => simpa [found, otherFound, Except.map] using alike
      | ok reached => simp [found, otherFound, Except.map] at alike
  | ok reached =>
      obtain ⟨place, entry⟩ := reached
      cases otherFound : other.resolve workingDir true path with
      | error otherFault => simp [found, otherFound, Except.map] at alike
      | ok otherReached =>
          obtain ⟨otherPlace, otherEntry⟩ := otherReached
          obtain rfl : otherPlace = place := by simpa [found, otherFound, Except.map] using alike
          have here := entry?_of_resolve found
          have otherHere := entry?_of_resolve otherFound
          rcases same otherPlace with equal | ⟨there, -⟩
          · rw [otherHere, here] at equal
            rw [Option.some.inj equal]
          · exact absurd there (apart otherPlace ⟨entry, found⟩)

/-- So what is read there is the same. -/
theorem SameBeside.readText (same : SameBeside places disk other)
    (apart : ∀ place, disk.LeadsTo workingDir path place → ¬ places place) :
    (other.fileSystem workingDir).readText path = (disk.fileSystem workingDir).readText path := by
  simp only [fileSystem, same.resolve_of_apart apart]

end DocTags.Disk
