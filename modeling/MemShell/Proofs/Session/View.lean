import MemShell.Proofs.Session.Replay

/-!
# Command lines, the view and the prompt

No command looks at the view, so a line has the same answer and does the same in every view
(`submit_setView`), and the editor leaves the view alone. A line's first word decides what it may
do to the front end: only `startx` shows a view, the desktop (`view_submit`), and only `nano` leaves
the prompt (`submit_prompting`). No line does both (`view_of_opens`).
-/

namespace MemShell.Session

/-- The outcome with another view in the session. -/
def inView {α : Type} (view : View) (done : Outcome Session α) : Outcome Session α :=
  { done with state := done.state.setView view }

/-- The line calls the desktop. -/
def callsDesktop (line : String) : Bool := (Text.words line).head? == some "startx"

variable {s : Session}

/-! ## The view is not looked at -/

theorem attempt_setView (s : Session) (view : View) (command : Command) :
    (s.setView view).attempt command = (s.attempt command).map (inView view) := by
  cases command with
  | ls target =>
    simp only [attempt, executeLs, setView]
    cases s.fs.list ((target.map (·.resolve s.cwd)).getD s.cwd) with
    | ok listing =>
      by_cases hempty : listing.isEmpty
      · simp [hempty, Except.map, answer, inView, setView]
      · simp [hempty, Except.map, answer, inView, setView]
    | error e => rfl
  | cd target =>
    simp only [attempt, executeCd, setView]
    by_cases hthere : s.fs.contains (target.resolve s.cwd)
    · simp [hthere, Except.map, inView, setView]
    · simp [hthere, Except.map]
  | rmdir target =>
    by_cases hbusy :
        (s.fs.contains (target.resolve s.cwd) && Path.isWithin s.cwd (target.resolve s.cwd)) = true
    · simp only [attempt, executeRmdir, setView, hbusy, ↓reduceIte]
      rfl
    · simp only [attempt, executeRmdir, setView, hbusy, Bool.false_eq_true, ↓reduceIte]
      cases s.fs.removeDirectory (target.resolve s.cwd) with
      | ok removed => rfl
      | error e => rfl
  | rm file =>
    simp only [attempt, executeRm, setView]
    cases s.fs.erase s.cwd file with
    | ok removed => rfl
    | error e => rfl
  | cat file =>
    simp only [attempt, executeCat, setView]
    cases s.fs.content s.cwd file with
    | ok content => rfl
    | error e => rfl
  | nano file =>
    simp only [attempt, executeNano, setView]
    cases s.fs.openFile s.cwd file with
    | ok opened => rfl
    | error e => rfl
  | mkdir | pwd | clear | help | ifconfig | top | startx => rfl

theorem execute_setView (s : Session) (view : View) (command : Command) :
    (s.setView view).execute command = inView view (s.execute command) := by
  rw [execute, execute, attempt_setView]
  cases s.attempt command with
  | ok done => rfl
  | error e => rfl

theorem run_setView (s : Session) (view : View) (call : Invocation) :
    (s.setView view).run call = inView view (s.run call) := by
  rw [run, run]
  cases Command.ofInvocation call with
  | ok command => exact execute_setView s view command
  | error e => rfl

/-- A line does the same in every view, and a view that it asks for is shown. -/
theorem submit_setView (s : Session) (view : View) (line : String) :
    (s.setView view).submit line =
      inView ((s.submit line).value.view.getD view) (s.submit line) := by
  have hediting : (s.setView view).isEditing = s.isEditing := rfl
  rw [submit, submit, hediting]
  by_cases hmode : s.isEditing = true
  · rw [if_pos hmode, if_pos hmode]
    rfl
  · rw [if_neg hmode, if_neg hmode]
    cases Invocation.ofLine? line with
    | none => rfl
    | some call =>
      simp only [run_setView]
      rfl

/-! ## The editor -/

theorem editorCommand_view (s : Session) (command : EditorCommand) :
    (s.editorCommand command).state.view = s.view := by
  rw [editorCommand]
  split
  · rfl
  · cases command with
    | save =>
      simp only [save]
      split
      · rfl
      · rfl
    | exit => rfl

theorem editorInput_view (s : Session) (text : String) : (s.editorInput text).view = s.view := by
  rw [editorInput]
  split
  · rfl
  · rfl

theorem editorKey_view (s : Session) (ctrl : Bool) (key : String) :
    (s.editorKey ctrl key).state.view = s.view := by
  obtain ⟨-, command, -, hkey⟩ | hkey := s.editorKey_cases ctrl key
  · rw [hkey]
    exact s.editorCommand_view command
  · rw [hkey]

/-! ## What the first word decides -/

/-- The session shows the view that the line asks for, and otherwise keeps its own. -/
theorem submit_view (s : Session) (line : String) :
    (s.submit line).state.view = (s.submit line).value.view.getD s.view :=
  congrArg (·.state.view) (submit_setView s s.view line)

theorem view_run (s : Session) (call : Invocation) :
    (s.run call).value.view = if call.name = "startx" then some .desktop else none := by
  rw [run]
  split
  · next command hcommand =>
    rw [execute_view, ← name_of_ofInvocation hcommand]
    cases command <;> simp [Command.name]
  · next e he =>
    rw [if_neg]
    · rfl
    · intro hname
      simp [Command.ofInvocation, hname] at he

theorem view_submit (hmode : s.mode = .prompting) (line : String) :
    (s.submit line).value.view = if callsDesktop line then some .desktop else none := by
  rw [submit, if_neg (by simp [isEditing_of_prompting hmode]), Invocation.ofLine?, callsDesktop]
  cases Text.words line with
  | nil => rfl
  | cons name args =>
    simp only [List.head?_cons, beq_iff_eq, Option.some_inj]
    exact view_run s ⟨name, args⟩

theorem execute_mode {command : Command} (hcommand : ∀ file, command ≠ .nano file) :
    (s.execute command).state.mode = s.mode := by
  rcases s.execute_effect command with hsame | heffect
  · rw [hsame]
  · cases command with
    | ls | cat | pwd | clear | help | ifconfig | top | startx => exact congrArg mode heffect
    | cd | mkdir | rmdir | rm =>
      obtain ⟨_, heffect⟩ := heffect
      rw [heffect]
    | nano file => exact absurd rfl (hcommand file)

theorem run_mode {call : Invocation} (hname : call.name ≠ "nano") :
    (s.run call).state.mode = s.mode := by
  rw [run]
  split
  · next command hcommand =>
    refine execute_mode fun file hnano => hname ?_
    rw [← name_of_ofInvocation hcommand, hnano]
    rfl
  · rfl

/-- A line that does not call `nano` leaves the session at the prompt. -/
theorem submit_prompting (hmode : s.mode = .prompting) {line : String}
    (hname : (Text.words line).head? ≠ some "nano") :
    (s.submit line).state.mode = .prompting := by
  rw [submit, if_neg (by simp [isEditing_of_prompting hmode]), Invocation.ofLine?]
  cases hwords : Text.words line with
  | nil => exact hmode
  | cons name args =>
    rw [hwords] at hname
    exact (run_mode fun hnano => hname (congrArg some hnano)).trans hmode

/-- A line that opens an editor leaves the view as it is. -/
theorem view_of_opens (hmode : s.mode = .prompting) {line : String}
    (hopens : (s.submit line).state.mode ≠ .prompting) :
    (s.submit line).value.view = none := by
  have hnano : (Text.words line).head? = some "nano" := by
    by_contra hname
    exact hopens (submit_prompting hmode hname)
  rw [view_submit hmode, callsDesktop, hnano, if_neg (by simp)]

theorem isEditing_eq_false_iff : s.isEditing = false ↔ s.mode = .prompting := by
  refine ⟨fun h => ?_, isEditing_of_prompting⟩
  cases hmode : s.mode with
  | prompting => rfl
  | editing editor =>
    rw [isEditing_of_editing hmode] at h
    cases h

/-- A line opens the editor in the view that it was submitted in. -/
theorem view_submit_of_isEditing (hmode : s.mode = .prompting) {line : String}
    (hediting : (s.submit line).state.isEditing = true) : (s.submit line).state.view = s.view := by
  have hopens : (s.submit line).state.mode ≠ .prompting := by
    rw [ne_eq, ← isEditing_eq_false_iff, hediting]
    exact Bool.noConfusion
  rw [submit_view, view_of_opens hmode hopens]
  rfl

end MemShell.Session
