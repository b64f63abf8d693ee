import MemShell.Proofs.FileSystem.Outline
import MemShell.Proofs.Session.Containment
import MemShell.Proofs.Session.Standing

/-!
# The events as an audit trail

The events that a session reports are enough to know which directories and files there are, where
it stands and what it edits. `Outline.note` keeps track of these by events alone, and the events of
every action agree with what the action does (`tells_act`), so that replaying all events since the
session was made gives its outline. An action that is refused or fails reports no change
(`isChange_of_refuses`). `outline_replayed` puts the two together.
-/

namespace MemShell

/-- The event says that something was changed. -/
def Event.isChange : Event → Bool
  | .directoryCreated _ | .directoryRemoved _ | .fileCreated _ _ | .fileRemoved _ _
  | .fileWritten _ _ _ | .changedDirectory _ _ | .editorOpened _ _ | .editorClosed _ => true
  | .lineRefused _ | .editorCommandRefused _ | .desktopFolderCreated _ | .desktopFolderRejected _
  | .folderWindowOpened _ | .editorShortcut _ => false

namespace Session

/-- What the events tell of a session. -/
structure Outline where
  tree : FileSystem.Outline
  cwd : String
  /-- The directory and the name of the file that is being edited. -/
  edited : Option (String × String)

namespace Outline

/-- The outline before there are any events: the root alone, and no editor. -/
def bare : Outline := ⟨.bare, Path.root, none⟩

def note (o : Outline) (event : Event) : Outline where
  tree := o.tree.note event
  cwd :=
    match event with
    | .changedDirectory _ target => target
    | _ => o.cwd
  edited :=
    match event with
    | .editorOpened dir name => some (dir, name)
    | .editorClosed _ => none
    | _ => o.edited

theorem foldl_note_of_isOfTree {events : List Event}
    (h : ∀ event ∈ events, event.isOfTree = true) (o : Outline) :
    events.foldl note o = { o with tree := events.foldl FileSystem.Outline.note o.tree } := by
  induction events generalizing o with
  | nil => rfl
  | cons event events ih =>
    obtain ⟨hevent, hrest⟩ := List.forall_mem_cons.1 h
    have hnote : o.note event = { o with tree := o.tree.note event } := by
      cases event with
      | directoryCreated | directoryRemoved | fileCreated | fileRemoved | fileWritten => rfl
      | changedDirectory | editorOpened | editorClosed | lineRefused | editorCommandRefused
      | desktopFolderCreated | desktopFolderRejected | folderWindowOpened
      | editorShortcut => cases hevent
    rw [List.foldl_cons, ih hrest, hnote]
    rfl

end Outline

def outline (s : Session) : Outline :=
  ⟨s.fs.outline, s.cwd, s.editor?.map fun editor => (editor.dir, editor.file)⟩

/-- The events tell how the outline of `s` becomes the one of `next`. -/
def Tells (s : Session) (events : List Event) (next : Session) : Prop :=
  events.foldl Outline.note s.outline = next.outline

variable {s : Session}

/-! ## Commands -/

/-- The events of the file system tell of it and of nothing else. -/
theorem tells_withFs {events : List Event} {fs : FileSystem} (h : s.fs.Tells events fs) :
    s.Tells events { s with fs } := by
  rw [Tells, Outline.foldl_note_of_isOfTree h.isOfTree]
  exact congrArg (fun tree => { s.outline with tree }) h.foldl_note

theorem tells_attempt {command : Command} {done : Outcome Session Reply} (h : Standing s)
    (hdone : s.attempt command = .ok done) : s.Tells done.events done.state := by
  unfold attempt at hdone
  cases command with
  | ls target =>
    obtain ⟨listing, -, rfl⟩ := executeLs_ok hdone
    rfl
  | cd target =>
    obtain ⟨-, rfl⟩ := executeCd_ok hdone
    generalize target.resolve s.cwd = place
    rfl
  | mkdir names =>
    cases hdone
    exact tells_withFs (FileSystem.tells_makeDirectories h.tree)
  | rmdir target =>
    obtain ⟨-, removed, hremoved, rfl⟩ := executeRmdir_ok hdone
    exact tells_withFs (FileSystem.tells_removeDirectory h.tree hremoved)
  | rm file =>
    obtain ⟨removed, hremoved, rfl⟩ := executeRm_ok hdone
    exact tells_withFs (FileSystem.tells_erase hremoved)
  | cat file =>
    obtain ⟨content, -, rfl⟩ := executeCat_ok hdone
    rfl
  | nano file =>
    obtain ⟨opened, hopened, rfl⟩ := executeNano_ok hdone
    have hmade : opened.events.foldl Outline.note s.outline =
        outline { s with fs := opened.state } :=
      tells_withFs (FileSystem.tells_openFile hopened)
    dsimp only
    rw [Tells, List.foldl_append, hmade]
    rfl
  | pwd | clear | help | ifconfig | top | startx =>
    cases hdone
    rfl

theorem tells_execute (h : Standing s) (command : Command) :
    s.Tells (s.execute command).events (s.execute command).state := by
  rw [execute]
  split
  · next done hdone => exact tells_attempt h hdone
  · rfl

theorem tells_submit (h : Standing s) (line : String) :
    s.Tells (s.submit line).events (s.submit line).state := by
  have hrun : ∀ call, s.Tells (s.run call).events (s.run call).state := by
    intro call
    rw [run]
    split
    · exact tells_execute h _
    · rfl
  rw [submit]
  split
  · rfl
  · split
    · rfl
    · next call _ => exact hrun call

/-! ## The editor and the desktop -/

theorem tells_editorCommand (command : EditorCommand) :
    s.Tells (s.editorCommand command).events (s.editorCommand command).state := by
  rw [editorCommand]
  cases hmode : s.mode with
  | prompting => rfl
  | editing editor =>
    have hedited : s.editor? = some editor := by
      rw [editor?, hmode]
      rfl
    cases command with
    | exit => rfl
    | save =>
      dsimp only
      rw [save]
      split
      · next written hwritten =>
        have htold := tells_withFs (FileSystem.tells_write hwritten)
        rw [Tells, htold, outline, outline, editor?, hmode]
        rfl
      · rw [Tells, outline, hedited]
        rfl

theorem tells_act (h : Standing s) (action : Action) :
    s.Tells (s.act action).events (s.act action).state := by
  cases action with
  | submit line => exact tells_submit h line
  | execute command => exact tells_execute h command
  | editorInput text =>
    rw [act, editorInput]
    cases hmode : s.mode with
    | prompting => rfl
    | editing editor =>
      rw [Tells, outline, editor?, hmode]
      rfl
  | editorCommand command => exact tells_editorCommand command
  | editorKey ctrl key =>
    obtain ⟨-, command, -, hkey⟩ | hkey := s.editorKey_cases ctrl key
    · rw [act, hkey]
      exact tells_editorCommand command
    · rw [act, hkey]
      rfl
  | setView view => rfl
  | createFolder name =>
    rw [act]
    split
    · next made hmade =>
      obtain ⟨folder, hfolder, rfl⟩ := createFolder_ok hmade
      have htold : folder.events.foldl Outline.note s.outline =
          outline { s with fs := folder.state } :=
        tells_withFs (FileSystem.tells_makeDirectory h.tree hfolder)
      dsimp only
      rw [Tells, List.foldl_append, htold]
      rfl
    · rfl

/-! ## Refusals -/

/-- The lines say that something went wrong, and nothing else. -/
def OnlyErrors (lines : List Line) : Prop :=
  lines ≠ [] ∧ ∀ line ∈ lines, line.isError = true

/-- The session does not carry out the action, because it is not the time for it or because the
action fails. -/
def Refuses (s : Session) : Action → Prop
  | .submit line => s.isEditing = true ∨ OnlyErrors (s.submit line).value.output
  | .execute command => OnlyErrors (s.execute command).value.output
  | .editorInput _ => s.isEditing = false
  | .editorCommand command => s.isEditing = false ∨ OnlyErrors (s.editorCommand command).value
  | .editorKey ctrl key =>
    (s.editorKey ctrl key).value = false ∨
      ∃ command, EditorCommand.ofKey? ctrl key = some command ∧
        OnlyErrors (s.editorCommand command).value
  | .setView _ => False
  | .createFolder name => ∃ e, s.createFolder name = .error e

/-- If `mkdir` refuses all its names, then it makes nothing. -/
theorem events_makeDirectories_of_errors {fs : FileSystem} {parent : String} {names : List String}
    (h : ∀ line ∈ List.zipWith mkdirLine names (fs.makeDirectories parent names).value,
      line.isError = true) : (fs.makeDirectories parent names).events = [] := by
  induction names with
  | nil => rfl
  | cons name names ih =>
    rw [FileSystem.makeDirectories] at h ⊢
    cases hmade : fs.makeDirectory parent name with
    | ok made =>
      simp only [hmade] at h
      cases h _ (List.mem_cons_self ..)
    | error e =>
      simp only [hmade] at h
      exact ih fun line hline => h line (List.mem_cons_of_mem _ hline)

theorem events_execute_of_onlyErrors {command : Command}
    (h : OnlyErrors (s.execute command).value.output) : (s.execute command).events = [] := by
  cases hattempt : s.attempt command with
  | error e =>
    rw [execute_of_error hattempt]
    rfl
  | ok done =>
    rw [execute_of_ok hattempt] at h ⊢
    by_cases hmkdir : ∃ names, command = .mkdir names
    · obtain ⟨names, rfl⟩ := hmkdir
      cases hattempt
      exact events_makeDirectories_of_errors h.2
    · -- No other command that succeeds has an error line.
      obtain ⟨line, hline⟩ := List.exists_mem_of_ne_nil _ h.1
      have hfine := isError_of_attempt hattempt (fun names heq => hmkdir ⟨names, heq⟩) hline
      rw [h.2 line hline] at hfine
      cases hfine

theorem isChange_submit_of_refuses {line : String} (h : s.Refuses (.submit line)) :
    ∀ event ∈ (s.submit line).events, event.isChange = false := by
  intro event hevent
  by_cases hediting : s.isEditing = true
  · rw [submit, if_pos hediting] at hevent
    rw [List.mem_singleton.1 hevent]
    rfl
  · have hoff := h.resolve_left hediting
    rw [submit, if_neg hediting] at hoff hevent
    cases hcall : Invocation.ofLine? line with
    | none =>
      rw [hcall] at hevent
      cases hevent
    | some call =>
      rw [hcall] at hoff hevent
      have hnone : (s.run call).events = [] := by
        dsimp only at hoff
        rw [run] at hoff ⊢
        split
        · next command hcommand =>
          rw [hcommand] at hoff
          exact events_execute_of_onlyErrors hoff
        · rfl
      dsimp only at hevent
      rw [hnone] at hevent
      cases hevent

theorem isChange_editorCommand_of_refuses {command : EditorCommand}
    (h : s.Refuses (.editorCommand command)) :
    ∀ event ∈ (s.editorCommand command).events, event.isChange = false := by
  intro event hevent
  cases hmode : s.mode with
  | prompting =>
    rw [editorCommand, hmode] at hevent
    rw [List.mem_singleton.1 hevent]
    rfl
  | editing editor =>
    have hoff : OnlyErrors (s.editorCommand command).value := by
      refine h.resolve_left ?_
      rw [isEditing_of_editing hmode]
      exact Bool.noConfusion
    rw [editorCommand, hmode] at hoff hevent
    cases command with
    | exit => exact absurd rfl hoff.1
    | save =>
      dsimp only at hoff hevent
      rw [save] at hoff hevent
      split at hevent
      · next written hwritten =>
        rw [hwritten] at hoff
        cases hoff.2 _ (List.mem_singleton_self _)
      · cases hevent

/-- What is refused or fails reports no change. -/
theorem isChange_of_refuses {action : Action} (h : s.Refuses action) :
    ∀ event ∈ (s.act action).events, event.isChange = false := by
  cases action with
  | submit line => exact isChange_submit_of_refuses h
  | execute command =>
    have hnone : (s.act (.execute command)).events = [] := events_execute_of_onlyErrors h
    rw [hnone]
    simp
  | editorInput text =>
    simp [act]
  | editorCommand command => exact isChange_editorCommand_of_refuses h
  | editorKey ctrl key =>
    intro event hevent
    obtain ⟨-, command, hcommand, hkey⟩ | hkey := s.editorKey_cases ctrl key
    · rw [act, hkey] at hevent
      rcases h with hpassed | ⟨other, hother, hoff⟩
      · rw [hkey] at hpassed
        cases hpassed
      · cases hcommand.symm.trans hother
        exact isChange_editorCommand_of_refuses (.inr hoff) event hevent
    · rw [act, hkey] at hevent
      cases hevent
  | setView view => cases h
  | createFolder name =>
    obtain ⟨e, he⟩ := h
    rw [act, he]
    simp

/-! ## Whole runs -/

theorem replay_start (settings : Settings) :
    (start settings).events.foldl Outline.note .bare = (start settings).state.outline := by
  have hmade := FileSystem.tells_startup
  have hevents : (start settings).events = FileSystem.startup.events := by
    simp only [start]
  have htree : FileSystem.startup.events.foldl FileSystem.Outline.note .bare =
      (start settings).state.fs.outline := by
    rw [start_fs, FileSystem.outline_bare]
    exact hmade.foldl_note
  rw [hevents, Outline.foldl_note_of_isOfTree hmade.isOfTree]
  exact congrArg (fun tree => Outline.mk tree Path.root none) htree

/-- Replaying the events of a run, those of the start included, gives the directories with their
subdirectories and files in order, the current directory and the file that is being edited. An
action that is refused or fails reports no change, and `mkdir` reports exactly the directories that
it makes. -/
theorem outline_replayed (settings : Settings) (actions : List Action) :
    let s := after settings actions
    let replayed := ((start settings).events ++
      Run.events act (start settings).state actions).foldl Outline.note .bare
    (∀ path, replayed.tree[path]? = (s.fs.list path).toOption) ∧ replayed.cwd = s.cwd ∧
      replayed.edited = s.editor?.map (fun editor => (editor.dir, editor.file)) ∧
      (∀ action, s.Refuses action →
        ∀ event ∈ (s.act action).events, event.isChange = false) ∧
      ∀ names, (s.execute (.mkdir names)).events =
        ((s.fs.makeDirectories s.cwd names).value.filterMap Except.toOption).map
          .directoryCreated := by
  intro s replayed
  have hreplayed : replayed = s.outline := by
    have hrun : (Run.events act (start settings).state actions).foldl Outline.note
        (start settings).state.outline = s.outline :=
      Run.foldl_events (P := Standing) (fun _ action h => h.act action)
        (fun _ action h => tells_act h action) (.start settings) actions
    rw [← hrun, ← replay_start settings]
    exact List.foldl_append
  refine ⟨fun path => ?_, ?_, ?_, fun action h => isChange_of_refuses h, fun names => ?_⟩
  · rw [hreplayed]
    exact s.fs.getElem?_outline_eq_list path
  · rw [hreplayed]
    rfl
  · rw [hreplayed]
    rfl
  · exact s.fs.events_makeDirectories s.cwd names

/-- The directory of an open editor is removed behind its back, so a save is refused. -/
theorem outline_replayed_lost :
    let actions : List Action :=
      [.submit "cd home", .createFolder "docs", .submit "mkdir music docs", .submit "cd docs",
        .submit "nano notes", .execute (.rm "notes"), .execute (.cd ⟨".."⟩),
        .execute (.rmdir ⟨"docs"⟩)]
    let s := after .standard actions
    let replayed := ((start .standard).events ++
      Run.events act (start .standard).state actions).foldl Outline.note .bare
    replayed.tree["/home/"]? = some ⟨["music"], []⟩ ∧ replayed.tree["/home/docs/"]? = none ∧
      replayed.cwd = "/home/" ∧ replayed.edited = some ("/home/docs/", "notes") ∧
      s.Refuses (.editorCommand .save) ∧
      ∀ event ∈ (s.act (.editorCommand .save)).events, event.isChange = false := by
  intro actions s replayed
  obtain ⟨htree, hcwd, hedited, hquiet, -⟩ := outline_replayed .standard actions
  have hend : (s.fs.list "/home/").toOption = some ⟨["music"], []⟩ ∧
      (s.fs.list "/home/docs/").toOption = none ∧ s.cwd = "/home/" ∧
      s.editor?.map (fun editor => (editor.dir, editor.file)) = some ("/home/docs/", "notes") ∧
      (s.editorCommand .save).value =
        [.error "nano: /home/docs: No such file or directory"] := by
    decide +kernel
  obtain ⟨hhome, hdocs, hhere, heditor, hsave⟩ := hend
  have hrefuses : s.Refuses (.editorCommand .save) := by
    rw [Refuses, hsave]
    exact .inr ⟨List.cons_ne_nil _ _, by simp [Line.isError]⟩
  exact ⟨(htree _).trans hhome, (htree _).trans hdocs, hcwd.trans hhere, hedited.trans heditor,
    hrefuses, hquiet _ hrefuses⟩

end Session

end MemShell
