import MemShell.Proofs.Session.Effect
import MemShell.Proofs.Session.Standing

/-!
# The file of an open editor

While an editor is open, command lines are refused, and no other action removes a file or moves the
session. So the file that the editor was opened on stays where it is and holds what was written to
it last: `Locked` says so of one moment, `Locked.act` that every action but a command executed past
the command line keeps it, and `editor_after` that it holds after every run of such actions. A save
then has a directory to write to and cannot fail.
-/

namespace MemShell.Session

/-- What the file of the open editor holds after an action on `s`, if it held `text` before. The
action that opens the editor has just read the file, a save writes the buffer of that moment, and
nothing else changes the file. -/
def keep (s : Session) (text : String) (action : Action) : String :=
  match s.mode with
  | .prompting => ((s.act action).state.editor?.map (·.buffer)).getD text
  | .editing editor => if action.control? = some .save then editor.buffer else text

/-- The text of the last save since the open editor was opened, or the text that it was opened with
if there was none. At the prompt there is no such text, and `text` stands for it. -/
def stored (s : Session) (text : String) : List Action → String
  | [] => text
  | action :: actions => stored (s.act action).state (s.keep text action) actions

/-- An open editor is in the current directory, and its file holds `text`. -/
structure Locked (s : Session) (text : String) : Prop where
  standing : Standing s
  dir : ∀ editor, s.mode = .editing editor → editor.dir = s.cwd
  content : ∀ editor, s.mode = .editing editor → s.fs.content s.cwd editor.file = .ok text

variable {s : Session} {text : String}

/-- From the prompt, only a command opens an editor, on a file of the current directory. -/
theorem act_opens {action : Action} {editor : Editor} (hmode : s.mode = .prompting)
    (hopens : (s.act action).state.mode = .editing editor) :
    ∃ file opened, s.fs.openFile s.cwd file = .ok opened ∧
      editor = .open s.cwd file opened.value.content ∧
      (s.act action).state.fs = opened.state ∧ (s.act action).state.cwd = s.cwd := by
  have hstays : (s.act action).state.mode ≠ s.mode := by
    rw [hopens, hmode]
    simp
  have hprompt := isEditing_of_prompting hmode
  cases action with
  | submit line =>
    rcases s.submit_state line with hsame | ⟨call, log, view, hline⟩
    · exact absurd (congrArg mode hsame) hstays
    have hrun : (s.run call).state.mode = .editing editor := by
      rw [← hopens]
      exact (congrArg mode hline).symm
    rcases s.run_state call with hsame | ⟨command, hcommand⟩
    · rw [hsame, hmode] at hrun
      cases hrun
    · rw [hcommand] at hrun
      obtain ⟨file, opened, hopened, heditor, hstate⟩ := execute_opens hmode hrun
      refine ⟨file, opened, hopened, heditor, ?_⟩
      rw [act, hline, hcommand, hstate]
      exact ⟨rfl, rfl⟩
  | execute command =>
    obtain ⟨file, opened, hopened, heditor, hstate⟩ := execute_opens hmode hopens
    refine ⟨file, opened, hopened, heditor, ?_⟩
    rw [act, hstate]
    exact ⟨rfl, rfl⟩
  | editorInput input => exact absurd (by simp only [act, editorInput, hmode]) hstays
  | editorCommand command => exact absurd (by simp only [act, editorCommand, hmode]) hstays
  | editorKey ctrl key => exact absurd (by simp [act, editorKey, hprompt]) hstays
  | setView view => exact absurd rfl hstays
  | createFolder name =>
    obtain ⟨fs, hmade⟩ := s.act_createFolder name
    exact absurd (congrArg mode hmade) hstays

namespace Locked

theorem of_prompting (h : Standing s) (hmode : s.mode = .prompting) : Locked s text := by
  have hnone : ∀ editor, s.mode ≠ .editing editor := by
    intro editor
    rw [hmode]
    simp
  exact ⟨h, fun editor hediting => absurd hediting (hnone editor),
    fun editor hediting => absurd hediting (hnone editor)⟩

/-- Only the file system, the current directory and the editor's directory and file matter. -/
theorem congr (h : Locked s text) {next : Session} {editor other : Editor}
    (hmode : s.mode = .editing editor) (hnext : next.mode = .editing other)
    (hdir : other.dir = editor.dir) (hfile : other.file = editor.file) (hfs : next.fs = s.fs)
    (hcwd : next.cwd = s.cwd) : Locked next text := by
  refine ⟨h.standing.congr hfs hcwd, fun shown hshown => ?_, fun shown hshown => ?_⟩
  · cases hnext.symm.trans hshown
    rw [hdir, hcwd]
    exact h.dir editor hmode
  · cases hnext.symm.trans hshown
    rw [hfile, hfs, hcwd]
    exact h.content editor hmode

theorem exists_write (h : Locked s text) {editor : Editor} (hmode : s.mode = .editing editor)
    (buffer : String) : ∃ written, s.fs.write editor.dir editor.file buffer = .ok written := by
  obtain ⟨dir, file, hdir, -, -⟩ := FileSystem.content_eq_ok_iff.1 (h.content editor hmode)
  rw [h.dir editor hmode]
  exact ⟨_, FileSystem.write_of_some hdir editor.file buffer⟩

theorem save (h : Locked s text) {editor : Editor} (hmode : s.mode = .editing editor) :
    Locked (s.save editor).state editor.buffer := by
  obtain ⟨written, hwritten⟩ := h.exists_write hmode editor.buffer
  have hstanding := h.standing.save editor
  rw [save_of_write hwritten] at hstanding ⊢
  rw [h.dir editor hmode] at hwritten
  refine ⟨hstanding, fun shown hshown => ?_, fun shown hshown => ?_⟩
  · cases hshown
    exact h.dir editor hmode
  · cases hshown
    exact FileSystem.content_write hwritten

theorem createFolder (h : Locked s text) {name : String} {made : Outcome Session Unit}
    (hmade : s.createFolder name = .ok made) : Locked made.state text := by
  have hstanding := h.standing.createFolder hmade
  obtain ⟨folder, hfolder, rfl⟩ := createFolder_ok hmade
  exact ⟨hstanding, h.dir, fun editor hmode =>
    FileSystem.content_makeDirectory hfolder (h.content editor hmode)⟩

/-- Opening an editor reads the file, or makes it empty. -/
theorem act_of_prompting (h : Standing s) (hmode : s.mode = .prompting) (action : Action) :
    Locked (s.act action).state (s.keep text action) := by
  have hstanding := h.act action
  cases hnext : (s.act action).state.mode with
  | prompting => exact of_prompting hstanding hnext
  | editing editor =>
    obtain ⟨file, opened, hopened, heditor, hfs, hcwd⟩ := act_opens hmode hnext
    have hkeep : s.keep text action = editor.buffer := by
      simp only [keep, hmode, editor?, hnext, Mode.editor?, Option.map_some, Option.getD_some]
    rw [hkeep]
    refine ⟨hstanding, fun shown hshown => ?_, fun shown hshown => ?_⟩
    · cases hnext.symm.trans hshown
      rw [heditor, hcwd]
      rfl
    · cases hnext.symm.trans hshown
      rw [heditor, hfs, hcwd]
      exact FileSystem.content_openFile hopened

theorem act_of_editing (h : Locked s text) {editor : Editor} (hmode : s.mode = .editing editor)
    {action : Action} (hline : ∀ command, action ≠ .execute command) :
    Locked (s.act action).state (s.keep text action) := by
  -- A save is the only action that reaches the file, and only the exit closes the editor.
  cases hcontrol : action.control? with
  | some command =>
    rw [act_of_control hcontrol, editorCommand, hmode]
    cases command with
    | save =>
      have hkeep : s.keep text action = editor.buffer := by
        simp only [keep, hmode, hcontrol, ↓reduceIte]
      rw [hkeep]
      exact h.save hmode
    | exit => exact of_prompting (h.standing.congr rfl rfl) rfl
  | none =>
    have hkeep : s.keep text action = text := by
      simp only [keep, hmode, hcontrol, reduceCtorEq, ↓reduceIte]
    rw [hkeep]
    cases action with
    | submit line =>
      rw [act, submit_of_editing hmode]
      exact h
    | execute command => exact absurd rfl (hline command)
    | editorInput input =>
      have hinput : (s.act (.editorInput input)).state =
          { s with mode := .editing (editor.setBuffer input) } := by
        simp only [act, editorInput, hmode]
      rw [hinput]
      exact h.congr hmode rfl rfl rfl rfl rfl
    | editorCommand command => cases hcontrol
    | editorKey ctrl key =>
      have hkey : EditorCommand.ofKey? ctrl key = none := hcontrol
      rw [act_editorKey_of_none hkey]
      exact h
    | setView view => exact h.congr hmode hmode rfl rfl rfl rfl
    | createFolder name =>
      rw [Session.act]
      split
      · next made hmade => exact h.createFolder hmade
      · exact h

theorem act (h : Locked s text) {action : Action} (hline : ∀ command, action ≠ .execute command) :
    Locked (s.act action).state (s.keep text action) := by
  cases hmode : s.mode with
  | prompting => exact act_of_prompting h.standing hmode action
  | editing editor => exact h.act_of_editing hmode hline

theorem run (h : Locked s text) {actions : List Action}
    (hlines : ∀ command, .execute command ∉ actions) :
    Locked (Run.state Session.act s actions) (s.stored text actions) := by
  -- The text that is stored changes on the way, so it is generalised together with the session.
  induction actions generalizing s text with
  | nil => exact h
  | cons action actions ih =>
    have hfirst : ∀ command, action ≠ .execute command := by
      intro command heq
      exact hlines command (by simp [heq])
    have hrest : ∀ command, .execute command ∉ actions := by
      intro command hmem
      exact hlines command (List.mem_cons_of_mem _ hmem)
    exact ih (h.act hfirst) hrest

end Locked

/-- While an editor is open, it is in the current directory, its file holds the text of the last
save or, before the first one, of the opening, and a save is carried out and says so in one line. -/
theorem editor_after (settings : Settings) (actions : List Action)
    (hlines : ∀ command, .execute command ∉ actions) {editor : Editor}
    (hmode : (after settings actions).mode = .editing editor) :
    let s := after settings actions
    editor.dir = s.cwd ∧ s.fs.contains editor.dir = true ∧
      s.fs.content editor.dir editor.file = .ok (stored (start settings).state "" actions) ∧
      (∃ written, s.fs.write editor.dir editor.file editor.buffer = .ok written) ∧
      (s.editorCommand .save).value = [.success ("File '" ++ editor.file ++ "' saved")] := by
  intro s
  have hstart : Locked (start settings).state "" := .of_prompting (.start settings) rfl
  have hlocked : Locked s (stored (start settings).state "" actions) := hstart.run hlines
  have hdir : editor.dir = s.cwd := hlocked.dir editor hmode
  obtain ⟨written, hwritten⟩ := hlocked.exists_write hmode editor.buffer
  refine ⟨hdir, ?_, ?_, ⟨written, hwritten⟩, ?_⟩
  · rw [hdir]
    exact hlocked.standing.cwd
  · rw [hdir]
    exact hlocked.content editor hmode
  · have hediting : s.mode = .editing editor := hmode
    rw [editorCommand, hediting]
    exact congrArg Outcome.value (save_of_write hwritten)

/-- Two saves, a refused `rm`, a new folder beside the file and a draft that is not saved. -/
theorem editor_after_draft :
    let actions : List Action :=
      [.submit "cd home", .submit "nano notes", .editorInput "first", .editorCommand .save,
        .submit "rm notes", .createFolder "docs", .editorInput "kept", .editorKey true "S",
        .editorInput "draft", .setView .desktop]
    let s := after .standard actions
    (∀ command, .execute command ∉ actions) ∧
      s.mode = .editing ⟨"/home/", "notes", "draft", some "File 'notes' saved"⟩ ∧
      s.fs.content "/home/" "notes" = .ok "kept" ∧
      (s.editorCommand .save).value = [.success "File 'notes' saved"] := by
  intro actions s
  have hlines : ∀ command, .execute command ∉ actions := by
    intro command
    simp [actions]
  have hmode : s.mode = .editing ⟨"/home/", "notes", "draft", some "File 'notes' saved"⟩ := rfl
  obtain ⟨-, -, hcontent, -, hsave⟩ := editor_after .standard actions hlines hmode
  exact ⟨hlines, hmode, hcontent.trans rfl, hsave.trans rfl⟩

end MemShell.Session
