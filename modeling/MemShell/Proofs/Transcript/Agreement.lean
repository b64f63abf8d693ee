import Mathlib.Data.List.DropRight
import MemShell.Proofs.Session.View
import MemShell.Proofs.Transcript.Writing

/-!
# The transcript against the log

The front end writes what a line is answered with, and the session logs it, on separate ways. They
agree but for the echoes, which are logged and not written: clearing the screen empties the log, and
a line that answers is logged (`takeLine_log`). So after any input the log has, but for echoes, the
lines that were written since the screen was last cleared, and the log of the start in front of them
if it never was (`log_agrees`, which has the whole text of the transcript).
-/

namespace MemShell

/-- The lines that are no echoes. -/
def Line.withoutEchoes (lines : List Line) : List Line := lines.filter fun line => !line.isEcho

/-- The lines since the screen was last cleared, which `none` stands for. -/
def Transcript.shown (answers : List (Option Line)) : List Line :=
  (answers.rtakeWhile Option.isSome).reduceOption

open Line (withoutEchoes)

@[simp] theorem Line.withoutEchoes_append (lines others : List Line) :
    withoutEchoes (lines ++ others) = withoutEchoes lines ++ withoutEchoes others :=
  List.filter_append lines others

/-! ## What the session logs -/

namespace Session

variable {s : Session} {line : Line}

theorem isEcho_mkdirLine (name : String) (made : Except FsError String) :
    (mkdirLine name made).isEcho = false := by
  cases made with
  | ok path => rfl
  | error e => rfl

theorem isEcho_execute {command : Command} (hline : line ∈ (s.execute command).value.output) :
    line.isEcho = false := by
  rw [execute] at hline
  split at hline
  · next done hdone =>
    obtain ⟨-, name, made, -, rfl⟩ | ⟨text, rfl | rfl | rfl⟩ := line_of_attempt hdone hline
    · exact isEcho_mkdirLine name made
    · rfl
    · rfl
    · rfl
  · rw [List.mem_singleton.1 hline]
    rfl

/-- A line is answered without an echo. -/
theorem isEcho_submit {input : String} (hline : line ∈ (s.submit input).value.output) :
    line.isEcho = false := by
  rw [submit] at hline
  split at hline
  · cases hline
  · split at hline
    · cases hline
    · next call _ =>
      simp only [run] at hline
      split at hline
      · exact isEcho_execute hline
      · rw [List.mem_singleton.1 hline]
        rfl

/-- But for the echo a line is logged as it is answered. -/
theorem withoutEchoes_submit (s : Session) (input : String) :
    withoutEchoes (s.submit input).state.log =
      (if (s.submit input).value.clear then [] else withoutEchoes s.log) ++
        withoutEchoes (s.submit input).value.output := by
  have hrefused : withoutEchoes s.log =
      (if Reply.empty.clear then [] else withoutEchoes s.log) ++
        withoutEchoes Reply.empty.output := by
    simp [Reply.empty, withoutEchoes]
  rw [submit]
  split
  · exact hrefused
  · split
    · exact hrefused
    · next call _ =>
      dsimp only
      rw [logged, run_log, Line.withoutEchoes_append]
      split
      · rfl
      · simp [withoutEchoes, Line.isEcho]

theorem isEcho_saveLine (s : Session) (editor : Editor) : (s.saveLine editor).isEcho = false := by
  rw [saveLine]
  split
  · rfl
  · rfl

/-- The editor logs what it answers. -/
theorem editorCommand_log (s : Session) (command : EditorCommand) :
    (s.editorCommand command).state.log = s.log ++ (s.editorCommand command).value := by
  rw [editorCommand]
  split
  · exact (List.append_nil s.log).symm
  · next editor _ =>
    cases command with
    | save => rw [save_log, save_value]
    | exit => exact (List.append_nil s.log).symm

theorem isEcho_editorCommand {command : EditorCommand}
    (hline : line ∈ (s.editorCommand command).value) : line.isEcho = false := by
  rw [editorCommand] at hline
  split at hline
  · cases hline
  · next editor _ =>
    cases command with
    | save =>
      rw [save_value] at hline
      rw [List.mem_singleton.1 hline]
      exact isEcho_saveLine s editor
    | exit => cases hline

theorem editorInput_log (s : Session) (text : String) : (s.editorInput text).log = s.log := by
  rw [editorInput]
  split
  · rfl
  · rfl

end Session

/-! ## What is shown -/

namespace Transcript

theorem shown_concat_none (answers : List (Option Line)) : shown (answers ++ [none]) = [] := by
  rw [shown, List.rtakeWhile_concat_neg _ _ _ (by simp)]
  rfl

theorem shown_append_lines (answers : List (Option Line)) (lines : List Line) :
    shown (answers ++ lines.map some) = shown answers ++ lines := by
  -- `shown` looks from the end, and so does the induction.
  induction lines using List.reverseRecOn with
  | nil => simp
  | append_singleton lines line ih =>
    rw [shown] at ih ⊢
    rw [List.map_append, List.map_singleton, ← List.append_assoc,
      List.rtakeWhile_concat_pos _ _ _ (by simp), List.reduceOption_append, ih,
      List.reduceOption_singleton, List.append_assoc]
    rfl

/-! ## Single lines -/

/-- If the log has what is shown before a line, it has it after the line too. -/
theorem takeLine_log {before : List (Option Line)} {st : State}
    (h : withoutEchoes st.session.log = withoutEchoes (shown before)) (line : String) :
    withoutEchoes (takeLine st line).state.session.log =
      withoutEchoes (shown (before ++ answered st.session line)) := by
  cases hmode : st.session.mode with
  | editing editor =>
    rw [takeLine_of_editing hmode, answered_of_editing hmode, shown_append_lines,
      Line.withoutEchoes_append, ← h, ← Line.withoutEchoes_append, editLine]
    cases EditorCommand.ofLine? line with
    | none => simp [Session.editorInput_log]
    | some command => simp [Session.editorCommand_log]
  | prompting =>
    have hlog : (commandLine st line).state.session.log = (st.session.submit line).state.log := by
      rw [commandLine_session hmode]
      rfl
    rw [takeLine_of_prompting hmode, answered_of_prompting hmode, hlog,
      Session.withoutEchoes_submit, ← List.append_assoc, shown_append_lines,
      Line.withoutEchoes_append]
    split
    · rw [shown_concat_none]
      rfl
    · rw [List.append_nil, h]

theorem isEcho_answered {s : Session} {input : String} {line : Line}
    (hline : some line ∈ answered s input) : line.isEcho = false := by
  rw [answered] at hline
  split at hline
  · cases hcommand : EditorCommand.ofLine? input with
    | none => simp [hcommand] at hline
    | some command =>
      rw [hcommand] at hline
      exact Session.isEcho_editorCommand (by simpa using hline)
  · rcases List.mem_append.1 hline with hscreen | hanswer
    · split at hscreen
      · simp at hscreen
      · cases hscreen
    · exact Session.isEcho_submit (by simpa using hanswer)

theorem takeLine_view {st : State} (h : st.session.view = .terminal) (input : String) :
    (takeLine st input).state.session.view = .terminal := by
  cases hmode : st.session.mode with
  | editing editor =>
    rw [takeLine_of_editing hmode, editLine]
    split
    · exact (st.session.editorCommand_view _).trans h
    · exact (st.session.editorInput_view _).trans h
  | prompting =>
    rw [takeLine_of_prompting hmode, commandLine_session hmode, h, ite_self]
    rfl

/-! ## Whole runs -/

theorem steps_log {before : List (Option Line)} {st : State}
    (h : withoutEchoes st.session.log = withoutEchoes (shown before)) (lines : List String) :
    withoutEchoes (Run.state takeLine st lines).session.log =
      withoutEchoes (shown (before ++
        (Run.steps takeLine st lines).flatMap fun read => answered read.1.session read.2)) := by
  -- The answers grow at their end, so what was answered before is generalised with the state.
  induction lines generalizing before st with
  | nil => simpa [Run.steps] using h
  | cons line lines ih =>
    rw [Run.state_cons, Run.steps, List.flatMap_cons, ← List.append_assoc]
    exact ih (takeLine_log h line)

/-- The transcript is the log of the start, then for each line that is read the prompt of the
moment, unless the editor is open, and the answer, and then the last prompt. Its lines agree with
the log after any input, whether or not it ends in the editor or is cut off by a line that is not
UTF-8; and where the front end begins in the terminal view it is there at every read and at the
end. -/
theorem log_agrees (s : Session) (lines : List (Option String)) :
    let done := run s lines
    let taken := Run.steps takeLine ⟨s, false⟩ (readable lines)
    let last := (Run.state takeLine ⟨s, false⟩ (readable lines)).session
    let met := reads ⟨s, false⟩ (readable lines)
    let written := taken.flatMap fun read => answered read.1.session read.2
    let prompt := fun s : Session => if s.isEditing then "" else s.promptText ++ "$ "
    done.value.text =
        String.join (s.log.map fun line => line.plain ++ "\n") ++
        String.join (taken.map fun read =>
          prompt read.1.session ++
          (String.join ((answered read.1.session read.2).map fun answer =>
            answer.elim "\x1b[2J\x1b[H" fun line => line.plain ++ "\n") ++
          (opened? read.1.session read.2).elim "" (fun editor =>
            editor.title ++ "\n" ++ editor.display ++
              (if editor.buffer = "" then "" else "\n") ++ "^S Save  ^X Exit\n") ++
          (icons? read.1.session read.2).elim "" fun names =>
            "Desktop: " ++ "  ".intercalate names ++ "\n")) ++
        prompt last ++ (if none ∈ lines then "" else "\n") ∧
      withoutEchoes done.state.log = withoutEchoes (shown (s.log.map some ++ written)) ∧
      (∀ line, some line ∈ written → line.isEcho = false) ∧
      (s.view = .terminal →
        (∀ st ∈ met, st.session.view = .terminal) ∧ done.state.view = .terminal) := by
  intro done taken last met written prompt
  have hstate : done.state = last := congrArg State.session (takeLines_state ⟨s, false⟩ lines)
  have hbegin : withoutEchoes (State.mk s false).session.log =
      withoutEchoes (shown (s.log.map some)) :=
    congrArg withoutEchoes (shown_append_lines [] s.log).symm
  refine ⟨?_, ?_, ?_, ?_⟩
  · have htext := run_text s lines
    simp only [takeLine_text] at htext
    rw [htext, ← String.append_assoc]
  · rw [hstate]
    exact steps_log hbegin (readable lines)
  · intro line hline
    obtain ⟨read, -, hread⟩ := List.mem_flatMap.1 hline
    exact isEcho_answered hread
  · intro hview
    have hmet : ∀ st ∈ met, st.session.view = .terminal :=
      invariant_reads (fun _ line hst => takeLine_view hst line) hview (readable lines)
    refine ⟨hmet, ?_⟩
    rw [hstate]
    exact hmet _ (List.mem_append_right _ (List.mem_singleton_self _))

/-- The screen is cleared between two visits to the desktop, and the input breaks off in the open
editor. -/
theorem log_agrees_cleared :
    let s := (Session.start .standard).state
    let lines := [some "startx", some "clear", some "startx", some "nano notes", some "kept",
      some "^S", none, some "ls"]
    s.view = .terminal ∧ (run s lines).state.view = .terminal ∧
      withoutEchoes (run s lines).state.log =
        [.info "Starting desktop...", .success "File 'notes' saved"] ∧
      (run s lines).value.text =
        "webterm - type 'help' for available commands\n" ++
        "user@local.lg:/$ Starting desktop...\nDesktop: \n" ++
        "user@local.lg:/$ \x1b[2J\x1b[H" ++
        "user@local.lg:/$ Starting desktop...\nDesktop: \n" ++
        "user@local.lg:/$ nano  /notes\n" ++ String.join (List.replicate 20 "~\n") ++
        "^S Save  ^X Exit\n" ++
        "File 'notes' saved\n" := by
  intro s lines
  have hview : s.view = .terminal := rfl
  obtain ⟨htext, hlog, -, hstays⟩ := log_agrees s lines
  refine ⟨hview, (hstays hview).2, ?_, ?_⟩
  · rw [hlog]
    decide +kernel
  · rw [htext]
    decide +kernel

end Transcript
end MemShell
