import MemShell.Proofs.FileSystem.Outline
import MemShell.Proofs.Session.Effect

/-!
# Reported refusals

A session refuses a command line while the editor is open and a control input while it is not, and
reports that. Nothing else reports a refusal: no command does (`isRefusal_execute`), so neither does
a line at the prompt (`isRefusal_submit`), and a key is not taken for a control input at the prompt
(`isRefusal_editorKey`).
-/

namespace MemShell

/-- The event says that the input was for the other mode. -/
def Event.isRefusal : Event → Bool
  | .lineRefused _ | .editorCommandRefused _ => true
  | .directoryCreated _ | .directoryRemoved _ | .fileCreated _ _ | .fileRemoved _ _
  | .fileWritten _ _ _ | .changedDirectory _ _ | .editorOpened _ _ | .editorClosed _
  | .desktopFolderCreated _ | .desktopFolderRejected _ | .folderWindowOpened _
  | .editorShortcut _ => false

/-- The file system does not refuse input. -/
theorem Event.isRefusal_of_isOfTree {event : Event} (h : event.isOfTree = true) :
    event.isRefusal = false := by
  cases event with
  | lineRefused | editorCommandRefused => cases h
  | directoryCreated | directoryRemoved | fileCreated | fileRemoved | fileWritten
  | changedDirectory | editorOpened | editorClosed | desktopFolderCreated
  | desktopFolderRejected | folderWindowOpened | editorShortcut => rfl

namespace Session

variable {s : Session} {event : Event}

theorem isRefusal_attempt {command : Command} {done : Outcome Session Reply}
    (h : s.attempt command = .ok done) (hevent : event ∈ done.events) :
    event.isRefusal = false := by
  unfold attempt at h
  cases command with
  | ls target =>
    obtain ⟨listing, -, rfl⟩ := executeLs_ok h
    cases hevent
  | cd target =>
    obtain ⟨-, rfl⟩ := executeCd_ok h
    rw [List.mem_singleton.1 hevent]
    rfl
  | mkdir names =>
    cases h
    have hmade : event ∈ (s.fs.makeDirectories s.cwd names).events := hevent
    rw [FileSystem.events_makeDirectories] at hmade
    obtain ⟨path, -, rfl⟩ := List.mem_map.1 hmade
    rfl
  | rmdir target =>
    obtain ⟨-, removed, hremoved, rfl⟩ := executeRmdir_ok h
    obtain ⟨-, -, -, -, hevents, -⟩ := FileSystem.removeDirectory_ok hremoved
    have hremoved : event ∈ removed.events := hevent
    rw [hevents] at hremoved
    rw [List.mem_singleton.1 hremoved]
    rfl
  | rm file =>
    obtain ⟨removed, hremoved, rfl⟩ := executeRm_ok h
    exact Event.isRefusal_of_isOfTree ((FileSystem.tells_erase hremoved).isOfTree event hevent)
  | cat file =>
    obtain ⟨content, -, rfl⟩ := executeCat_ok h
    cases hevent
  | nano file =>
    obtain ⟨opened, hopened, rfl⟩ := executeNano_ok h
    rcases List.mem_append.1 hevent with hevent | hevent
    · exact Event.isRefusal_of_isOfTree ((FileSystem.tells_openFile hopened).isOfTree event hevent)
    · rw [List.mem_singleton.1 hevent]
      rfl
  | pwd | clear | help | ifconfig | top | startx =>
    cases h
    cases hevent

theorem isRefusal_execute {command : Command} (hevent : event ∈ (s.execute command).events) :
    event.isRefusal = false := by
  rw [execute] at hevent
  split at hevent
  · next done hdone => exact isRefusal_attempt hdone hevent
  · cases hevent

theorem isRefusal_submit (hmode : s.mode = .prompting) {line : String}
    (hevent : event ∈ (s.submit line).events) : event.isRefusal = false := by
  rw [submit, isEditing_of_prompting hmode, if_neg Bool.false_ne_true] at hevent
  split at hevent
  · cases hevent
  · next call _ =>
    dsimp only at hevent
    rw [run] at hevent
    split at hevent
    · exact isRefusal_execute hevent
    · cases hevent

theorem isRefusal_editorCommand {editor : Editor} (hmode : s.mode = .editing editor)
    {command : EditorCommand} (hevent : event ∈ (s.editorCommand command).events) :
    event.isRefusal = false := by
  rw [editorCommand, hmode] at hevent
  cases command with
  | save =>
    dsimp only at hevent
    rw [save] at hevent
    split at hevent
    · next written hwritten =>
      exact Event.isRefusal_of_isOfTree ((FileSystem.tells_write hwritten).isOfTree event hevent)
    · cases hevent
  | exit =>
    rw [List.mem_singleton.1 hevent]
    rfl

/-- At the prompt a key is not a control input. -/
theorem isRefusal_editorKey {ctrl : Bool} {key : String}
    (hevent : event ∈ (s.editorKey ctrl key).events) : event.isRefusal = false := by
  obtain ⟨hediting, command, -, hkey⟩ | hkey := s.editorKey_cases ctrl key
  · rw [hkey] at hevent
    cases hmode : s.mode with
    | prompting =>
      rw [isEditing_of_prompting hmode] at hediting
      cases hediting
    | editing editor => exact isRefusal_editorCommand hmode hevent
  · rw [hkey] at hevent
    cases hevent

theorem isRefusal_createFolder {name : String} {made : Outcome Session Unit}
    (h : s.createFolder name = .ok made) (hevent : event ∈ made.events) :
    event.isRefusal = false := by
  obtain ⟨folder, hfolder, rfl⟩ := createFolder_ok h
  obtain ⟨-, -, dir, -, rfl⟩ := FileSystem.makeDirectory_ok hfolder
  rcases List.mem_append.1 hevent with hevent | hevent
  · rw [List.mem_singleton.1 hevent]
    rfl
  · rw [List.mem_singleton.1 hevent]
    rfl

end Session

end MemShell
