import MemShell.Proofs.FileSystem.TreeShaped
import MemShell.Proofs.Session.Effect

/-!
# Where a session stands

The current directory is a text, and a removal could leave it pointing at nothing. `Standing` says
that it does not and that the file system is tree shaped. Every command keeps it, because `rmdir`
refuses the directory that the session stands in, and so does every other action
(`Standing.act`), in every order and with the editor open or not (`Standing.after`, `cwd_after`).
-/

namespace MemShell.Session

open FileSystem (TreeShaped ValidName)

/-- A proof by `simp`, since to unify the two trees would compute the startup tree. -/
theorem start_fs (settings : Settings) :
    (start settings).state.fs = FileSystem.startup.state := by
  simp only [start]

/-- The session stands in a directory of a tree. -/
structure Standing (s : Session) : Prop where
  tree : TreeShaped ValidName s.fs
  cwd : s.fs.contains s.cwd = true

namespace Standing

variable {s : Session}

/-- Only the file system and the current directory matter. -/
theorem congr (h : Standing s) {next : Session} (hfs : next.fs = s.fs) (hcwd : next.cwd = s.cwd) :
    Standing next :=
  ⟨hfs ▸ h.tree, by rw [hfs, hcwd]; exact h.cwd⟩

theorem start (settings : Settings) : Standing (Session.start settings).state := by
  have hcwd : (Session.start settings).state.cwd = Path.root := by
    simp only [Session.start]
  constructor
  · rw [start_fs]
    exact TreeShaped.startup
  · rw [start_fs, hcwd]
    exact TreeShaped.startup.root

/-! ## Commands -/

/-- A directory that is removed is not the current one, since a path is within itself. -/
theorem executeRmdir {target : PathArg} {done : Outcome Session Reply} (h : Standing s)
    (hdone : s.executeRmdir target = .ok done) : Standing done.state := by
  obtain ⟨hfree, removed, hremoved, rfl⟩ := executeRmdir_ok hdone
  have hcwd : s.cwd ≠ target.resolve s.cwd := by
    intro heq
    rw [← heq, h.cwd, Path.isWithin_self] at hfree
    cases hfree
  exact ⟨h.tree.removeDirectory hremoved,
    (FileSystem.contains_removeDirectory hremoved).2 ⟨hcwd, h.cwd⟩⟩

theorem attempt {command : Command} {done : Outcome Session Reply} (h : Standing s)
    (hdone : s.attempt command = .ok done) : Standing done.state := by
  unfold Session.attempt at hdone
  cases command with
  | ls target =>
    obtain ⟨listing, -, rfl⟩ := executeLs_ok hdone
    exact h
  | cd target =>
    obtain ⟨hthere, rfl⟩ := executeCd_ok hdone
    exact ⟨h.tree, hthere⟩
  | mkdir names =>
    cases hdone
    exact ⟨h.tree.makeDirectories, FileSystem.contains_makeDirectories h.cwd⟩
  | rmdir target => exact h.executeRmdir hdone
  | rm file =>
    obtain ⟨removed, hremoved, rfl⟩ := executeRm_ok hdone
    exact ⟨h.tree.erase hremoved, FileSystem.contains_erase hremoved h.cwd⟩
  | cat file =>
    obtain ⟨content, -, rfl⟩ := executeCat_ok hdone
    exact h
  | nano file =>
    obtain ⟨opened, hopened, rfl⟩ := executeNano_ok hdone
    exact ⟨h.tree.openFile hopened, FileSystem.contains_openFile hopened h.cwd⟩
  | pwd | clear | help | ifconfig | top | startx =>
    cases hdone
    exact h

theorem execute (h : Standing s) (command : Command) : Standing (s.execute command).state := by
  rcases s.execute_state command with heq | ⟨done, hdone, heq⟩
  · rw [heq]
    exact h
  · rw [heq]
    exact h.attempt hdone

theorem submit (h : Standing s) (line : String) : Standing (s.submit line).state := by
  rcases s.submit_state line with heq | ⟨call, log, view, heq⟩
  · rw [heq]
    exact h
  have hrun : Standing (s.run call).state := by
    rcases s.run_state call with heq | ⟨command, heq⟩
    · rw [heq]
      exact h
    · rw [heq]
      exact h.execute command
  rw [heq]
  exact hrun.congr rfl rfl

/-! ## The editor and the desktop -/

theorem editorInput (h : Standing s) (text : String) : Standing (s.editorInput text) := by
  rw [Session.editorInput]
  split
  · exact h
  · exact h.congr rfl rfl

theorem save (h : Standing s) (editor : Editor) : Standing (s.save editor).state := by
  rw [Session.save]
  split
  · next written hwritten =>
    exact ⟨h.tree.write hwritten, FileSystem.contains_write hwritten h.cwd⟩
  · exact h.congr rfl rfl

theorem editorCommand (h : Standing s) (command : EditorCommand) :
    Standing (s.editorCommand command).state := by
  rw [Session.editorCommand]
  split
  · exact h
  · cases command with
    | save => exact h.save _
    | exit => exact h.congr rfl rfl

theorem editorKey (h : Standing s) (ctrl : Bool) (key : String) :
    Standing (s.editorKey ctrl key).state := by
  obtain ⟨-, command, -, hkey⟩ | hkey := s.editorKey_cases ctrl key
  · rw [hkey]
    exact h.editorCommand command
  · rw [hkey]
    exact h

theorem createFolder {name : String} {made : Outcome Session Unit} (h : Standing s)
    (hmade : s.createFolder name = .ok made) : Standing made.state := by
  obtain ⟨folder, hfolder, rfl⟩ := createFolder_ok hmade
  exact ⟨h.tree.makeDirectory hfolder, FileSystem.contains_makeDirectory hfolder h.cwd⟩

/-! ## All actions -/

/-- Whatever is done to a session, it goes on standing in a directory of a tree. -/
theorem act (h : Standing s) (action : Action) : Standing (s.act action).state := by
  cases action with
  | submit line => exact h.submit line
  | execute command => exact h.execute command
  | editorInput text => exact h.editorInput text
  | editorCommand command => exact h.editorCommand command
  | editorKey ctrl key => exact h.editorKey ctrl key
  | setView view => exact h.congr rfl rfl
  | createFolder name =>
    rw [Session.act]
    split
    · next made hmade => exact h.createFolder hmade
    · exact h

theorem after (settings : Settings) (actions : List Action) :
    Standing (Session.after settings actions) :=
  Run.invariant (fun _ action h => h.act action) (Standing.start settings) actions

end Standing

/-- After any actions in any order the current directory is there and canonical, the root is there
and the file system is consistent. -/
theorem cwd_after (settings : Settings) (actions : List Action) :
    (after settings actions).fs.contains (after settings actions).cwd = true ∧
      Path.IsCanonical ValidName (after settings actions).cwd ∧
      (after settings actions).fs.isConsistent = true ∧
      (after settings actions).fs.contains Path.root = true := by
  have h := Standing.after settings actions
  obtain ⟨dir, hdir⟩ := FileSystem.contains_eq_true_iff.1 h.cwd
  exact ⟨h.cwd, (h.tree.fits hdir).canonical, h.tree.isConsistent fun _ => ValidName.isName,
    h.tree.root⟩

end MemShell.Session
