import MemShell.Proofs.Session.Standing
import MemShell.Proofs.Session.Unsaved
import MemShell.Proofs.Text.Words

/-!
# Visits to the editor

A visit opens a file from the command line, replaces the buffer some times, saves, goes on
replacing the buffer and leaves. What it does is to put the text of the moment of the save into
the file and nothing else (`visit_state`): drafts before it and edits after it are gone.
`visit_saves` follows a visit with `cat` and with a second one, from every session that can be
reached.
-/

namespace MemShell.Session

/-- The input to an open editor that saves `text` and leaves. -/
def edit (drafts : List String) (text : String) (unsaved : List String) : List Action :=
  drafts.map .editorInput ++ [.editorInput text, .editorCommand .save] ++
    unsaved.map .editorInput ++ [.editorCommand .exit]

/-- The actions of a visit to `file` that saves `text`. -/
def visit (file : String) (drafts : List String) (text : String) (unsaved : List String) :
    List Action :=
  .submit ("nano " ++ file) :: edit drafts text unsaved

variable {s : Session} {file : String}

/-! ## Single steps -/

theorem submit_nano (hmode : s.mode = .prompting) (hfile : Text.IsWord file)
    {opened : Outcome FileSystem File} (hopened : s.fs.openFile s.cwd file = .ok opened) :
    (s.submit ("nano " ++ file)).value = .empty ∧
      ∃ log, (s.submit ("nano " ++ file)).state =
        { s with
          fs := opened.state
          mode := .editing (.open s.cwd file opened.value.content)
          log } := by
  have hexecute : s.execute (.nano file) =
      ⟨.empty,
        { s with
          fs := opened.state
          mode := .editing (.open s.cwd file opened.value.content) },
        opened.events ++ [.editorOpened s.cwd file]⟩ := by
    rw [execute, attempt, executeNano, hopened]
  exact @submit_call s "nano" file _ _ hmode (by decide) hfile rfl hexecute

theorem buffer_submit_nano (hmode : s.mode = .prompting) (hfile : Text.IsWord file)
    {opened : Outcome FileSystem File} (hopened : s.fs.openFile s.cwd file = .ok opened) :
    (s.submit ("nano " ++ file)).state.editor?.map (·.buffer) = some opened.value.content := by
  obtain ⟨-, log, hstate⟩ := submit_nano hmode hfile hopened
  rw [hstate]
  rfl

theorem submit_cat (hmode : s.mode = .prompting) (hfile : Text.IsWord file) {content : String}
    (hcontent : s.fs.content s.cwd file = .ok content) :
    (s.submit ("cat " ++ file)).value =
        .ofLines (if content = "" then [] else [.text content]) ∧
      ∃ log, (s.submit ("cat " ++ file)).state = { s with log } := by
  have hexecute : s.execute (.cat file) =
      s.answer (if content = "" then [] else [.text content]) := by
    rw [execute, attempt, executeCat, hcontent]
  exact @submit_call s "cat" file _ _ hmode (by decide) hfile rfl hexecute

/-- Input to the open editor changes its buffer and nothing else. -/
theorem state_inputs (editor : Editor) (hmode : s.mode = .editing editor) (texts : List String) :
    ∃ buffer, Run.state act s (texts.map .editorInput) =
      { s with mode := .editing (editor.setBuffer buffer) } := by
  apply state_unsaved hmode
  intro action haction
  obtain ⟨text, -, rfl⟩ := List.mem_map.1 haction
  trivial

/-- What is saved is the buffer of the moment, in the directory that the editor was opened in. -/
theorem state_save (editor : Editor) (hmode : s.mode = .editing editor) {text : String}
    {written : Outcome FileSystem Unit}
    (hwritten : s.fs.write editor.dir editor.file text = .ok written) :
    ∃ status log, Run.state act s [.editorInput text, .editorCommand .save] =
      { s with
        fs := written.state
        mode := .editing { editor with buffer := text, status }
        log } := by
  have hinput : (s.act (.editorInput text)).state =
      { s with mode := .editing (editor.setBuffer text) } := by
    simp only [act, editorInput, hmode]
  have hsave : ∃ status log,
      (act { s with mode := .editing (editor.setBuffer text) } (.editorCommand .save)).state =
        { s with
          fs := written.state
          mode := .editing { editor with buffer := text, status }
          log } := by
    simp only [act, editorCommand]
    rw [save_of_write hwritten]
    exact ⟨_, _, rfl⟩
  obtain ⟨status, log, hsave⟩ := hsave
  refine ⟨status, log, ?_⟩
  rw [Run.state_cons, hinput, Run.state_cons, hsave, Run.state_nil]

/-! ## The whole visit -/

theorem state_edit (editor : Editor) (hmode : s.mode = .editing editor) {text : String}
    {written : Outcome FileSystem Unit}
    (hwritten : s.fs.write editor.dir editor.file text = .ok written)
    (drafts unsaved : List String) :
    ∃ log, Run.state act s (edit drafts text unsaved) =
      { s with fs := written.state, mode := .prompting, log } := by
  obtain ⟨draft, hdrafts⟩ := state_inputs editor hmode drafts
  have hsave : ∃ status log,
      Run.state act { s with mode := .editing (editor.setBuffer draft) }
          [.editorInput text, .editorCommand .save] =
        { s with
          fs := written.state
          mode := .editing { editor with buffer := text, status }
          log } :=
    state_save (editor.setBuffer draft) rfl hwritten
  obtain ⟨status, log, hsave⟩ := hsave
  have hunsaved : ∃ buffer,
      Run.state act
          { s with
            fs := written.state
            mode := .editing { editor with buffer := text, status }
            log }
          (unsaved.map .editorInput) =
        { s with
          fs := written.state
          mode := .editing { editor with buffer, status }
          log } :=
    state_inputs { editor with buffer := text, status } rfl unsaved
  obtain ⟨buffer, hunsaved⟩ := hunsaved
  refine ⟨log, ?_⟩
  rw [edit, Run.state_append, Run.state_append, Run.state_append, hdrafts, hsave, hunsaved]
  rfl

/-- A visit puts the saved text into the file. Besides that only the log changes. -/
theorem visit_state (hmode : s.mode = .prompting) (hfile : Text.IsWord file) {dir : Directory}
    (hdir : s.fs.directory? s.cwd = some dir) (drafts : List String) (text : String)
    (unsaved : List String) :
    ∃ log, Run.state act s (visit file drafts text unsaved) =
      { s with fs := s.fs.put s.cwd (dir.putFile file text), log } := by
  obtain ⟨opened, hopened⟩ := FileSystem.openFile_of_some hdir file
  obtain ⟨-, _, hnano⟩ := submit_nano hmode hfile hopened
  have hediting : (s.submit ("nano " ++ file)).state.mode =
      .editing (.open s.cwd file opened.value.content) := by
    rw [hnano]
  have hwritten : (s.submit ("nano " ++ file)).state.fs.write s.cwd file text =
      .ok ⟨(), s.fs.put s.cwd (dir.putFile file text),
        [.fileWritten s.cwd file text.utf8ByteSize]⟩ := by
    rw [hnano, ← FileSystem.write_of_some hdir]
    exact FileSystem.write_openFile hopened text
  obtain ⟨log, hedit⟩ := state_edit _ hediting hwritten drafts unsaved
  refine ⟨log, ?_⟩
  have hvisit : Run.state act s (visit file drafts text unsaved) =
      Run.state act (s.submit ("nano " ++ file)).state (edit drafts text unsaved) := rfl
  rw [hvisit, hedit, hnano, hmode]

/-- After the visit the file is printed and opened with the saved text, and the tree is as before
but for that file, which stands where it stood or at the end of its directory. -/
theorem visit_saves (settings : Settings) (actions : List Action)
    (hmode : (after settings actions).mode = .prompting) (hfile : Text.IsWord file)
    (drafts : List String) (text : String) (unsaved : List String) :
    let s := after settings actions
    let left := after settings (actions ++ visit file drafts text unsaved)
    let printed := left.submit ("cat " ++ file)
    left.mode = .prompting ∧ left.cwd = s.cwd ∧
      printed.value = .ofLines (if text = "" then [] else [.text text]) ∧
      (printed.state.submit ("nano " ++ file)).state.editor?.map (·.buffer) = some text ∧
      (left.submit ("nano " ++ file)).state.editor?.map (·.buffer) = some text ∧
      (∀ path, path ≠ s.cwd → left.fs.directory? path = s.fs.directory? path) ∧
      ∃ dir, s.fs.directory? s.cwd = some dir ∧
        left.fs.directory? s.cwd = some
          { dir with
            files :=
              if file ∈ dir.files.map (·.name) then
                dir.files.map fun other => if other.name = file then ⟨file, text⟩ else other
              else dir.files ++ [⟨file, text⟩] } := by
  have hstanding := Standing.after settings actions
  obtain ⟨dir, hdir⟩ := FileSystem.contains_eq_true_iff.1 hstanding.cwd
  intro s left printed
  obtain ⟨log, hleft⟩ : ∃ log, left =
      { s with fs := s.fs.put s.cwd (dir.putFile file text), log } := by
    obtain ⟨log, hvisit⟩ := visit_state hmode hfile hdir drafts text unsaved
    exact ⟨log, (Run.state_append ..).trans hvisit⟩
  have hprompting : left.mode = .prompting := by
    rw [hleft]
    exact hmode
  have hcwd : left.cwd = s.cwd := by
    rw [hleft]
  have hwritten := FileSystem.write_of_some hdir file text
  have hcontent : left.fs.content left.cwd file = .ok text := by
    rw [hleft]
    exact FileSystem.content_write hwritten
  have hopen : left.fs.openFile left.cwd file = .ok ⟨⟨file, text⟩, left.fs, []⟩ := by
    rw [hleft]
    exact FileSystem.openFile_write hwritten
  obtain ⟨hcat, log, hprinted⟩ := submit_cat hprompting hfile hcontent
  refine ⟨hprompting, hcwd, hcat, ?_, ?_, fun path hpath => ?_, dir, hdir, ?_⟩
  · have hreopened : printed.state.mode = .prompting ∧
        printed.state.fs.openFile printed.state.cwd file = .ok ⟨⟨file, text⟩, left.fs, []⟩ := by
      rw [hprinted]
      exact ⟨hprompting, hopen⟩
    exact buffer_submit_nano hreopened.1 hfile hreopened.2
  · exact buffer_submit_nano hprompting hfile hopen
  · rw [hleft, FileSystem.directory?_put, if_neg (Ne.symm hpath)]
  · rw [hleft, FileSystem.directory?_put_self, Directory.putFile,
      Directory.putContent_eq (hstanding.tree.fits hdir).nodup_files]

/-- A visit in the startup tree, after a directory was made, with a draft before the save and a
loss after it. -/
theorem visit_saves_notes :
    (after .standard [.submit "mkdir docs"]).mode = .prompting ∧ Text.IsWord "notes" ∧
      ((after .standard ([.submit "mkdir docs"] ++
          visit "notes" ["draft"] "~\nkept\n" ["lost"])).submit ("cat " ++ "notes")).value =
        .ofLines [.text "~\nkept\n"] := by
  have hmode : (after .standard [.submit "mkdir docs"]).mode = .prompting := rfl
  have hfile : Text.IsWord "notes" := by decide
  exact ⟨hmode, hfile, (visit_saves .standard _ hmode hfile ["draft"] "~\nkept\n" ["lost"]).2.2.1⟩

end MemShell.Session
