import MemShell.Proofs.Path.Within
import MemShell.Proofs.Session.Containment
import MemShell.Proofs.Session.Standing

/-!
# When `rmdir` removes a directory

`rmdir` asks in turn whether the session stands at or below the place, whether there is a directory
and whether it is empty. In a session that stands in a tree this comes to four situations, each
with its answer, so for each answer it is known exactly when it is given (`rmdir_decided`). What a
removal leaves is `Removes`: one path less in the index, one name less in the list of the parent.
-/

namespace MemShell

namespace FileSystem

/-- The directory at `path` is gone, and with it its name from the list of its parent, which keeps
its order. Nothing else has changed. -/
structure Removes (fs : FileSystem) (path : String) (next : FileSystem) : Prop where
  contains : ∀ other, next.contains other = true ↔ other ≠ path ∧ fs.contains other = true
  parent : ∃ up before behind, fs.directory? (Path.parent path) = some up ∧
    up.subdirectories = before ++ Path.lastName path :: behind ∧
    Path.lastName path ∉ before ++ behind ∧
    next.directory? (Path.parent path) = some { up with subdirectories := before ++ behind }
  others : ∀ other, other ≠ path → other ≠ Path.parent path →
    next.directory? other = fs.directory? other

variable {fs : FileSystem} {path : String} {dir : Directory}

/-- Below the root a directory is in the list of its parent, under the last name of its path. -/
theorem TreeShaped.lists_lastName (h : TreeShaped ValidName fs)
    (hdir : fs.directory? path = some dir) (hroot : path ≠ Path.root) :
    dir.name = Path.lastName path ∧ fs.Lists (Path.parent path) (Path.lastName path) := by
  obtain ⟨-, hchecked⟩ := isConsistent_iff.1 (h.isConsistent fun _ => ValidName.isName)
  obtain ⟨hname, hlists⟩ := (hchecked path dir hdir).1.resolve_left hroot
  exact ⟨hname, hname ▸ hlists⟩

/-- A name that is listed once is dropped without a change of the order. -/
theorem exists_dropSubdirectory {up : Directory} {name : String} (hnodup : up.subdirectories.Nodup)
    (hname : name ∈ up.subdirectories) :
    ∃ before behind, up.subdirectories = before ++ name :: behind ∧ name ∉ before ++ behind ∧
      up.dropSubdirectory name = { up with subdirectories := before ++ behind } := by
  obtain ⟨before, behind, hsplit⟩ := List.append_of_mem hname
  rw [hsplit, List.perm_middle.nodup_iff, List.nodup_cons] at hnodup
  refine ⟨before, behind, hsplit, hnodup.1, ?_⟩
  have hkept : (before ++ behind).filter (· ≠ name) = before ++ behind := by
    refine List.filter_eq_self.2 fun other hother => ?_
    have hne : other ≠ name := fun heq => hnodup.1 (heq ▸ hother)
    simpa using hne
  rw [List.filter_append] at hkept
  rw [Directory.dropSubdirectory, hsplit, List.filter_append, List.filter_cons_of_neg (by simp),
    hkept]

theorem TreeShaped.removes {removed : Outcome FileSystem Unit} (h : TreeShaped ValidName fs)
    (hremoved : fs.removeDirectory path = .ok removed) : fs.Removes path removed.state := by
  obtain ⟨hroot, dir, hdir, hempty, -, hstate⟩ := removeDirectory_ok hremoved
  obtain ⟨hname, up, hup, hlisted⟩ := h.lists_lastName hdir hroot
  obtain ⟨before, behind, hsplit, hfree, hdropped⟩ :=
    exists_dropSubdirectory (h.fits hup).nodup_subdirectories hlisted
  have hparent : Path.parent path ≠ path := by
    intro heq
    rw [heq, hdir] at hup
    cases hup
    rw [(Directory.isEmpty_iff.1 hempty).2] at hlisted
    cases hlisted
  refine ⟨fun other => contains_removeDirectory hremoved,
    ⟨up, before, behind, hup, hsplit, hfree, ?_⟩, fun other hne hother => ?_⟩
  · rw [hstate, if_neg hparent, if_pos rfl, hup, Option.map_some, hname, hdropped]
  · rw [hstate, if_neg hne, if_neg hother]

end FileSystem

namespace Session

open FileSystem (ValidName)

variable {s : Session} {target : PathArg} {path : String}

/-- The session stands at or below a directory exactly if its path goes through the names of the
directory first. -/
theorem Standing.isWithin_iff (h : Standing s) (hpath : s.fs.contains path = true) :
    Path.isWithin s.cwd path = true ↔ Path.segments path <+: Path.segments s.cwd := by
  obtain ⟨dir, hdir⟩ := FileSystem.contains_eq_true_iff.1 hpath
  obtain ⟨here, hhere⟩ := FileSystem.contains_eq_true_iff.1 h.cwd
  exact Path.isWithin_iff (h.tree.segment_of_directory? hhere) (h.tree.segment_of_directory? hdir)

/-- The answer of a removal that is carried out. -/
def removedFrom (s : Session) (target : PathArg) (removed : Outcome FileSystem Unit) :
    Outcome Session Reply :=
  ⟨.ofLines [.success ("Directory '" ++ target.typed ++ "' removed")],
    { s with fs := removed.state }, removed.events⟩

/-- Where the session does not stand at or below the place, the file system decides. -/
theorem attempt_rmdir_of_free
    (hfree : (s.fs.contains (target.resolve s.cwd) &&
      Path.isWithin s.cwd (target.resolve s.cwd)) = false) :
    s.attempt (.rmdir target) =
      match s.fs.removeDirectory (target.resolve s.cwd) with
      | .error e => .error e
      | .ok removed => .ok (s.removedFrom target removed) := by
  simp only [attempt, executeRmdir, hfree, Bool.false_eq_true, ↓reduceIte]
  cases s.fs.removeDirectory (target.resolve s.cwd) with
  | ok removed => rfl
  | error e => rfl

namespace Standing

theorem attempt_rmdir_of_missing (h : Standing s)
    (hmissing : s.fs.contains (target.resolve s.cwd) = false) :
    s.attempt (.rmdir target) = .error (.notFound (Path.display (target.resolve s.cwd))) := by
  have hne : target.resolve s.cwd ≠ Path.root := by
    intro heq
    rw [heq, h.tree.root] at hmissing
    cases hmissing
  rw [attempt_rmdir_of_free (by rw [hmissing, Bool.false_and]), FileSystem.removeDirectory,
    if_neg hne, FileSystem.directory_of_none (FileSystem.contains_eq_false_iff.1 hmissing)]

theorem attempt_rmdir_of_above (h : Standing s)
    (hthere : s.fs.contains (target.resolve s.cwd) = true)
    (habove : Path.segments (target.resolve s.cwd) <+: Path.segments s.cwd) :
    s.attempt (.rmdir target) = .error (.busy (Path.display (target.resolve s.cwd))) := by
  have hwithin := (h.isWithin_iff hthere).2 habove
  rw [Session.attempt, Session.executeRmdir, if_pos (by rw [hthere, hwithin, Bool.and_self])]

/-- What is not above the current directory is not the root. -/
theorem free_of_not_above (h : Standing s)
    (hthere : s.fs.contains (target.resolve s.cwd) = true)
    (hfree : ¬ Path.segments (target.resolve s.cwd) <+: Path.segments s.cwd) :
    Path.isWithin s.cwd (target.resolve s.cwd) = false ∧ target.resolve s.cwd ≠ Path.root := by
  refine ⟨Bool.eq_false_iff.2 fun hwithin => hfree ((h.isWithin_iff hthere).1 hwithin), ?_⟩
  intro heq
  exact hfree (by simp [heq])

theorem attempt_rmdir_of_holding (h : Standing s) {dir : Directory}
    (hdir : s.fs.directory? (target.resolve s.cwd) = some dir)
    (hfree : ¬ Path.segments (target.resolve s.cwd) <+: Path.segments s.cwd)
    (hholds : dir.isEmpty = false) :
    s.attempt (.rmdir target) = .error (.notEmpty (Path.display (target.resolve s.cwd))) := by
  obtain ⟨hwithin, hne⟩ :=
    h.free_of_not_above (FileSystem.contains_eq_true_iff.2 ⟨dir, hdir⟩) hfree
  rw [attempt_rmdir_of_free (by rw [hwithin, Bool.and_false]), FileSystem.removeDirectory,
    if_neg hne, FileSystem.directory_of_some hdir]
  simp [hholds]

theorem attempt_rmdir_of_isEmpty (h : Standing s) {dir : Directory}
    (hdir : s.fs.directory? (target.resolve s.cwd) = some dir)
    (hfree : ¬ Path.segments (target.resolve s.cwd) <+: Path.segments s.cwd)
    (hempty : dir.isEmpty = true) :
    ∃ removed, s.fs.removeDirectory (target.resolve s.cwd) = .ok removed ∧
      s.attempt (.rmdir target) = .ok (s.removedFrom target removed) := by
  obtain ⟨hwithin, hne⟩ :=
    h.free_of_not_above (FileSystem.contains_eq_true_iff.2 ⟨dir, hdir⟩) hfree
  obtain ⟨removed, hremoved⟩ := FileSystem.removeDirectory_of_isEmpty hne hdir hempty
  refine ⟨removed, hremoved, ?_⟩
  rw [attempt_rmdir_of_free (by rw [hwithin, Bool.and_false]), hremoved]

end Standing

/-- The command was refused for this reason: that is all it says, and it did nothing. -/
def Refused (s : Session) (command : Command) (e : FsError) : Prop :=
  s.attempt command = .error e ∧
    s.execute command = s.answer [.error (command.name ++ ": " ++ e.message)]

theorem refused_iff {command : Command} {e : FsError} :
    s.Refused command e ↔ s.attempt command = .error e :=
  ⟨And.left, fun h => ⟨h, execute_of_error h⟩⟩

/-- What `rmdir` does to a session when it removes the directory at `path`. -/
def Removed (s : Session) (target : PathArg) (path : String) (done : Outcome Session Reply) :
    Prop :=
  ∃ next, s.fs.Removes path next ∧
    done = ⟨.ofLines [.success ("Directory '" ++ target.typed ++ "' removed")],
      { s with fs := next }, [.directoryRemoved path]⟩

theorem not_removed_of_error {command : Command} {e : FsError} (h : s.attempt command = .error e) :
    ¬ s.Removed target path (s.execute command) := by
  rintro ⟨next, -, hdone⟩
  rw [execute_of_error h] at hdone
  simp [answer, Reply.ofLines] at hdone

theorem Standing.removed {removed : Outcome FileSystem Unit} (h : Standing s)
    (hremoved : s.fs.removeDirectory path = .ok removed) :
    s.Removed target path (s.removedFrom target removed) := by
  obtain ⟨-, -, -, -, hevents, -⟩ := FileSystem.removeDirectory_ok hremoved
  exact ⟨removed.state, h.tree.removes hremoved, by rw [removedFrom, hevents]⟩

/-- `rmdir` says that there is no such directory exactly if there is none, that it is busy exactly
if it is the current directory or one above it, that it is not empty exactly if it is free but holds
a file or a subdirectory, and otherwise it removes the directory. Whatever it says, nothing else
changes: on a refusal nothing does, and with the directory goes its name in the list of its
parent. -/
theorem rmdir_decided (settings : Settings) (actions : List Action) (target : PathArg) :
    let s := after settings actions
    let path := target.resolve s.cwd
    let above := Path.segments path <+: Path.segments s.cwd
    (∀ shown, s.Refused (.rmdir target) (.notFound shown) ↔
      shown = Path.display path ∧ s.fs.contains path = false) ∧
    (∀ shown, s.Refused (.rmdir target) (.busy shown) ↔
      shown = Path.display path ∧ s.fs.contains path = true ∧ above) ∧
    (∀ shown, s.Refused (.rmdir target) (.notEmpty shown) ↔
      shown = Path.display path ∧ ∃ dir, s.fs.directory? path = some dir ∧ ¬ above ∧
        ¬ (dir.files = [] ∧ dir.subdirectories = [])) ∧
    (s.Removed target path (s.execute (.rmdir target)) ↔
      ∃ dir, s.fs.directory? path = some dir ∧ ¬ above ∧
        dir.files = [] ∧ dir.subdirectories = []) := by
  intro s path above
  have hstanding : Standing s := .after settings actions
  simp only [refused_iff, ← Directory.isEmpty_iff]
  cases hdir : s.fs.directory? path with
  | none =>
    have hmissing : s.fs.contains path = false := FileSystem.contains_eq_false_iff.2 hdir
    have he := hstanding.attempt_rmdir_of_missing hmissing
    have hkept : ¬ s.Removed target path _ := not_removed_of_error he
    simp [he, hkept, hmissing, path, @eq_comm _ (Path.display _)]
  | some dir =>
    have hthere : s.fs.contains path = true := FileSystem.contains_eq_true_iff.2 ⟨dir, hdir⟩
    by_cases habove : above
    · have he := hstanding.attempt_rmdir_of_above hthere habove
      have hkept : ¬ s.Removed target path _ := not_removed_of_error he
      simp [he, hkept, hthere, habove, path, @eq_comm _ (Path.display _)]
    · cases hempty : dir.isEmpty with
      | false =>
        have he := hstanding.attempt_rmdir_of_holding hdir habove hempty
        have hkept : ¬ s.Removed target path _ := not_removed_of_error he
        simp [he, hkept, hthere, habove, hempty, path, @eq_comm _ (Path.display _)]
      | true =>
        obtain ⟨removed, hremoved, hok⟩ :=
          hstanding.attempt_rmdir_of_isEmpty hdir habove hempty
        have hgone : s.Removed target path (s.execute (.rmdir target)) := by
          rw [execute_of_ok hok]
          exact hstanding.removed hremoved
        simp [hok, hgone, hthere, habove, hempty]

/-- From `/homes` the directory `/home` is free: its name is only the start of the other. -/
example :
    let s := after .standard [.submit "mkdir homes", .submit "cd homes"]
    (s.execute (.rmdir ⟨"/homes"⟩)).value.output =
        [.error "rmdir: /homes: Device or resource busy"] ∧
      (s.execute (.rmdir ⟨"../home"⟩)).value.output = [.success "Directory '../home' removed"] := by
  decide +kernel

end Session

end MemShell
