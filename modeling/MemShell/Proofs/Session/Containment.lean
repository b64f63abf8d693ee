import MemShell.Proofs.FileSystem.Files
import MemShell.Proofs.FileSystem.Operation
import MemShell.Proofs.Session.Effect

/-!
# What a command cannot do

Two bounds on every command, whatever session it runs in. One that fails says so in a single line
under its own name and leaves the session as it was; one that does not fail changes only what it is
there for, which `Confined` spells out part by part. `execute_contained` puts the two together.
`mkdir` never fails as a whole: it has one line for each of its names, good or bad.
-/

namespace MemShell.Session

/-- The reply to the command says that it failed. Lines of `mkdir` are about single names. -/
def Failed (command : Command) (reply : Reply) : Prop :=
  (∀ names, command ≠ .mkdir names) ∧ ∃ line ∈ reply.output, line.isError = true

/-- The session afterwards differs only in what the command is there to change. What `rm` takes away
is one entry of the current directory's files, what `nano` may add there is one empty file of a new
name. -/
def Confined (s : Session) : Command → Session → Prop
  | .cd _, next => ∃ cwd, next = { s with cwd }
  | .mkdir _, next | .rmdir _, next => ∃ fs, next = { s with fs }
  | .rm name, next =>
    ∃ dir before file behind, s.fs.directory? s.cwd = some dir ∧
      dir.files = before ++ file :: behind ∧ file.name = name ∧
      next = { s with fs := s.fs.put s.cwd { dir with files := before ++ behind } }
  | .nano name, next =>
    ∃ editor, next = { s with mode := .editing editor } ∨
      ∃ dir, s.fs.directory? s.cwd = some dir ∧ dir.file? name = none ∧
        next =
          { s with
            fs := s.fs.put s.cwd { dir with files := dir.files ++ [⟨name, ""⟩] }
            mode := .editing editor }
  | .ls _, next | .cat _, next | .pwd, next | .clear, next | .help, next | .ifconfig, next
  | .top, next | .startx, next => next = s

variable {s : Session} {command : Command} {done : Outcome Session Reply}

/-! ## Commands that succeed -/

/-- Of the commands that succeed only `mkdir` has error lines. -/
theorem isError_of_attempt (h : s.attempt command = .ok done)
    (hmkdir : ∀ names, command ≠ .mkdir names) {line : Line} (hline : line ∈ done.value.output) :
    line.isError = false := by
  obtain ⟨names, -, -, rfl, -⟩ | ⟨text, rfl | rfl | rfl⟩ := line_of_attempt h hline
  · exact absurd rfl (hmkdir names)
  · rfl
  · rfl
  · rfl

theorem attempt_confined (h : s.attempt command = .ok done) : Confined s command done.state := by
  -- How the files change is left open by the effects of `rm` and `nano`, so these two are looked
  -- into as far as the directory.
  have heffect := attempt_effect h
  cases command with
  | rm name =>
    obtain ⟨removed, hremoved, rfl⟩ := executeRm_ok h
    obtain ⟨dir, file, hdir, hfile, rfl⟩ := FileSystem.erase_ok hremoved
    obtain ⟨before, behind, hfiles, hname, -, hdropped⟩ := Directory.exists_dropFile hfile
    exact ⟨dir, before, file, behind, hdir, hfiles, hname, by rw [hdropped]⟩
  | nano name =>
    obtain ⟨opened, hopened, hnext⟩ := heffect
    obtain ⟨dir, hdir, ⟨file, -, rfl⟩ | ⟨hfresh, rfl⟩⟩ := FileSystem.openFile_ok hopened
    · exact ⟨_, .inl hnext⟩
    · exact ⟨_, .inr ⟨dir, hdir, hfresh, hnext⟩⟩
  | ls | cd | mkdir | rmdir | cat | pwd | clear | help | ifconfig | top | startx => exact heffect

/-! ## Commands in general -/

theorem execute_of_ok (h : s.attempt command = .ok done) : s.execute command = done := by
  rw [execute, h]

theorem execute_of_error {e : FsError} (h : s.attempt command = .error e) :
    s.execute command = s.answer [.error (command.name ++ ": " ++ e.message)] := by
  rw [execute, h]

theorem failed_of_error {e : FsError} (h : s.attempt command = .error e) :
    Failed command (s.execute command).value := by
  rw [execute_of_error h]
  refine ⟨?_, _, List.mem_singleton_self _, rfl⟩
  rintro names rfl
  cases h

/-- The reply says that a command failed exactly if it did. -/
theorem failed_iff :
    Failed command (s.execute command).value ↔ ∃ e, s.attempt command = .error e := by
  constructor
  · rintro ⟨hmkdir, line, hline, herror⟩
    cases h : s.attempt command with
    | error e => exact ⟨e, rfl⟩
    | ok done =>
      rw [execute_of_ok h] at hline
      rw [isError_of_attempt h hmkdir hline] at herror
      cases herror
  · rintro ⟨e, h⟩
    exact failed_of_error h

/-- No error gets out of a command: it becomes the one line of the reply. A reply with an error line
comes from a command that changed nothing, and that line is all it has and starts with the command's
name. Any other reply comes from a command that kept to its part of the session. -/
theorem execute_contained (s : Session) (command : Command) :
    (∀ e, s.attempt command = .error e →
        s.execute command = s.answer [.error (command.name ++ ": " ++ e.message)]) ∧
      (Failed command (s.execute command).value →
        (∃ text, (s.execute command).value.output = [.error (command.name ++ ": " ++ text)]) ∧
          (s.execute command).state = s) ∧
      (¬ Failed command (s.execute command).value →
        Confined s command (s.execute command).state) := by
  refine ⟨fun e h => execute_of_error h, fun hfailed => ?_, fun hfine => ?_⟩
  · obtain ⟨e, h⟩ := failed_iff.1 hfailed
    rw [execute_of_error h]
    exact ⟨⟨e.message, rfl⟩, rfl⟩
  · cases h : s.attempt command with
    | error e => exact absurd (failed_of_error h) hfine
    | ok done =>
      rw [execute_of_ok h]
      exact attempt_confined h

example : ((start .standard).state.execute (.rm "ghost")).value.output =
    [.error "rm: ghost: No such file or directory"] := by
  decide +kernel

end MemShell.Session
