import MemShell.Proofs.Invocation
import MemShell.Proofs.Run
import MemShell.Session.Submit

/-!
# What can be done to a session

The ways in which the outside acts on a session, as data: `act` carries out one of them, and a run
of a session is a list of them. Commands can be executed directly, without a command line, also
while the editor is open.
-/

namespace MemShell.Session

inductive Action where
  | submit (line : String)
  | execute (command : Command)
  | editorInput (text : String)
  | editorCommand (command : EditorCommand)
  | editorKey (ctrl : Bool) (key : String)
  | setView (view : View)
  | createFolder (name : String)
deriving DecidableEq, Repr

/-- Act on the session. The answers differ in kind and are left out. -/
def act (s : Session) : Action → Outcome Session Unit
  | .submit line => let done := s.submit line; ⟨(), done.state, done.events⟩
  | .execute command => let done := s.execute command; ⟨(), done.state, done.events⟩
  | .editorInput text => ⟨(), s.editorInput text, []⟩
  | .editorCommand command => let done := s.editorCommand command; ⟨(), done.state, done.events⟩
  | .editorKey ctrl key => let done := s.editorKey ctrl key; ⟨(), done.state, done.events⟩
  | .setView view => ⟨(), s.setView view, []⟩
  | .createFolder name =>
    match s.createFolder name with
    | .ok made => made
    | .error _ => ⟨(), s, []⟩

/-- The control input of the editor that an action is. -/
def Action.control? : Action → Option EditorCommand
  | .editorCommand command => some command
  | .editorKey ctrl key => EditorCommand.ofKey? ctrl key
  | .submit _ | .execute _ | .editorInput _ | .setView _ | .createFolder _ => none

/-- The session that a run of actions leads to from a new one. -/
def after (settings : Settings) (actions : List Action) : Session :=
  Run.state act (start settings).state actions

/-! ## Prompt and editor -/

theorem isEditing_of_prompting {s : Session} (hmode : s.mode = .prompting) :
    s.isEditing = false := by
  rw [isEditing, hmode]
  rfl

theorem isEditing_of_editing {s : Session} {editor : Editor} (hmode : s.mode = .editing editor) :
    s.isEditing = true := by
  rw [isEditing, hmode]
  rfl

theorem submit_of_editing {s : Session} {editor : Editor} (hmode : s.mode = .editing editor)
    (line : String) : (s.submit line).state = s := by
  rw [submit, if_pos (isEditing_of_editing hmode)]

/-- A key is a control input of the open editor, or it does nothing. -/
theorem editorKey_cases (s : Session) (ctrl : Bool) (key : String) :
    (s.isEditing = true ∧ ∃ command, EditorCommand.ofKey? ctrl key = some command ∧
      s.editorKey ctrl key =
        ⟨true, (s.editorCommand command).state, (s.editorCommand command).events⟩) ∨
      s.editorKey ctrl key = ⟨false, s, []⟩ := by
  rw [editorKey]
  split
  · next hediting =>
    split
    · next command hkey => exact .inl ⟨hediting, command, hkey, rfl⟩
    · exact .inr rfl
  · exact .inr rfl

/-- A control key does what its control input does; at the prompt neither does anything. -/
theorem act_of_control {s : Session} {action : Action} {command : EditorCommand}
    (h : action.control? = some command) :
    (s.act action).state = (s.editorCommand command).state := by
  cases action with
  | editorCommand other =>
    cases h
    rfl
  | editorKey ctrl key =>
    have hkey : EditorCommand.ofKey? ctrl key = some command := h
    simp only [act, editorKey, hkey]
    cases hmode : s.mode with
    | prompting => simp [isEditing_of_prompting hmode, editorCommand, hmode]
    | editing editor => simp [isEditing_of_editing hmode]
  | submit | execute | editorInput | setView | createFolder => cases h

theorem act_editorKey_of_none {s : Session} {ctrl : Bool} {key : String}
    (h : EditorCommand.ofKey? ctrl key = none) : (s.act (.editorKey ctrl key)).state = s := by
  simp only [act, editorKey, h, ite_self]

/-- The editor says that a save that the file system accepts went well. -/
theorem save_of_write {s : Session} {editor : Editor} {written : Outcome FileSystem Unit}
    (h : s.fs.write editor.dir editor.file editor.buffer = .ok written) :
    s.save editor =
      ⟨[.success ("File '" ++ editor.file ++ "' saved")],
        { s with
          fs := written.state
          mode := .editing { editor with status := some ("File '" ++ editor.file ++ "' saved") }
          log := s.log ++ [.success ("File '" ++ editor.file ++ "' saved")] },
        written.events⟩ := by
  rw [save, h]

/-! ## Folders -/

/-- A new folder is a new directory, and the rest of the session stays as it is. -/
theorem createFolder_ok {s : Session} {name : String} {made : Outcome Session Unit}
    (h : s.createFolder name = .ok made) :
    ∃ folder, s.fs.makeDirectory Path.home name = .ok folder ∧
      made = ⟨(), { s with fs := folder.state },
        folder.events ++ [.desktopFolderCreated name]⟩ := by
  unfold createFolder at h
  split at h
  · next folder hfolder => exact ⟨folder, hfolder, (Except.ok.inj h).symm⟩
  · cases h

/-- Whether or not the folder is made, nothing but the file system changes. -/
theorem act_createFolder (s : Session) (name : String) :
    ∃ fs, (s.act (.createFolder name)).state = { s with fs } := by
  rw [act]
  split
  · next made hmade =>
    obtain ⟨folder, -, rfl⟩ := createFolder_ok hmade
    exact ⟨folder.state, rfl⟩
  · exact ⟨s.fs, rfl⟩

/-! ## Command lines -/

/-- At the prompt a line is told by its words and its trimmed text. -/
theorem submit_congr {s : Session} (hmode : s.mode = .prompting) {line other : String}
    (hwords : Text.words line = Text.words other) (htrim : Text.trim line = Text.trim other) :
    s.submit line = s.submit other := by
  have hprompt := isEditing_of_prompting hmode
  rw [submit, submit, hprompt, if_neg Bool.false_ne_true, if_neg Bool.false_ne_true, htrim,
    Invocation.ofLine?_congr hwords]

/-- Blanks around a line do not show. -/
theorem submit_trim {s : Session} (hmode : s.mode = .prompting) (line : String) :
    s.submit (Text.trim line) = s.submit line :=
  submit_congr hmode (Text.words_trim line) (Text.trim_trim line)

/-- A command line that is not refused and not blank runs its command; besides that it only writes
the log and shows a view. -/
theorem submit_state (s : Session) (line : String) :
    (s.submit line).state = s ∨
      ∃ call log view, (s.submit line).state = { (s.run call).state with log, view } := by
  rw [submit]
  split
  · exact .inl rfl
  · split
    · exact .inl rfl
    · next call _ => exact .inr ⟨call, _, _, rfl⟩

/-- At the prompt a line that calls a command has the command's answer, and besides what the
command does it only writes the log and shows the view that was asked for. -/
theorem submit_of_words {s : Session} {line name : String} {args : List String} {command : Command}
    (hmode : s.mode = .prompting) (hwords : Text.words line = name :: args)
    (hcommand : Command.ofInvocation ⟨name, args⟩ = .ok command) :
    (s.submit line).value = (s.execute command).value ∧
      ∃ log, (s.submit line).state =
        { (s.execute command).state with
          log
          view := (s.execute command).value.view.getD (s.execute command).state.view } := by
  have hprompt := isEditing_of_prompting hmode
  have hcall := Invocation.ofLine?_of_words hwords
  have hrun : s.run ⟨name, args⟩ = s.execute command := by
    rw [run, hcommand]
  rw [submit, hprompt, if_neg Bool.false_ne_true, hcall]
  dsimp only
  rw [hrun]
  exact ⟨rfl, _, rfl⟩

/-- At the prompt a call with one argument does what its command does, and the log gets longer. -/
theorem submit_call {s : Session} {name arg : String} {command : Command}
    {done : Outcome Session Reply} (hmode : s.mode = .prompting) (hname : Text.IsWord name)
    (harg : Text.IsWord arg) (hcommand : Command.ofInvocation ⟨name, [arg]⟩ = .ok command)
    (hexecute : s.execute command = done) :
    (s.submit (name ++ " " ++ arg)).value = done.value ∧
      ∃ log, (s.submit (name ++ " " ++ arg)).state =
        { done.state with log, view := done.value.view.getD done.state.view } := by
  have hsubmit := submit_of_words hmode (Text.words_call hname harg) hcommand
  rwa [hexecute] at hsubmit

/-- A line runs a command or is answered with an error. -/
theorem run_state (s : Session) (call : Invocation) :
    (s.run call).state = s ∨ ∃ command, (s.run call).state = (s.execute command).state := by
  rw [run]
  split
  · next command _ => exact .inr ⟨command, rfl⟩
  · exact .inl rfl

/-- A command that fails changes nothing. -/
theorem execute_state (s : Session) (command : Command) :
    (s.execute command).state = s ∨
      ∃ done, s.attempt command = .ok done ∧ (s.execute command).state = done.state := by
  rw [execute]
  split
  · next done hdone => exact .inr ⟨done, hdone, rfl⟩
  · exact .inl rfl

end MemShell.Session
