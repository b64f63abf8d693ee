import MemShell.Proofs.Transcript.Reading

/-!
# What is written

The session tells what it answers a line with: lines of output and a cleared screen (`answered`), an
editor that is open now (`opened?`) or the desktop that was asked for (`icons?`). The front end
writes just this, in this order (`takeLine_text`), and the answers have nothing between them but the
prompt of the moment, unless the editor is open (`takeLines_text`). So what a run writes is told
from what its session does (`run_text`).
-/

namespace MemShell.Transcript

/-- What the session answers a line with: lines of output, and `none` where the screen is
cleared. -/
def answered (s : Session) (line : String) : List (Option Line) :=
  if s.isEditing then
    ((EditorCommand.ofLine? line).elim [] fun command =>
      (s.editorCommand command).value).map some
  else
    (if (s.submit line).value.clear then [none] else []) ++
      (s.submit line).value.output.map some

/-- The editor that a command line has opened. -/
def opened? (s : Session) (line : String) : Option Editor :=
  if s.isEditing then none else (s.submit line).state.editor?

/-- The folders of the desktop, if a command line asks for it. -/
def icons? (s : Session) (line : String) : Option (List String) :=
  if (s.submit line).value.view = some .desktop then some (s.submit line).state.homeFolders
  else none

variable {st : State} {editor : Editor}

theorem answered_of_prompting (hmode : st.session.mode = .prompting) (line : String) :
    answered st.session line =
      (if (st.session.submit line).value.clear then [none] else []) ++
        (st.session.submit line).value.output.map some := by
  rw [answered, if_neg (by simp [Session.isEditing_of_prompting hmode])]

theorem answered_of_editing (hmode : st.session.mode = .editing editor) (line : String) :
    answered st.session line =
      ((EditorCommand.ofLine? line).elim [] fun command =>
        (st.session.editorCommand command).value).map some := by
  rw [answered, if_pos (Session.isEditing_of_editing hmode)]

theorem opened?_of_prompting (hmode : st.session.mode = .prompting) (line : String) :
    opened? st.session line = (st.session.submit line).state.editor? := by
  rw [opened?, if_neg (by simp [Session.isEditing_of_prompting hmode])]

theorem opened?_of_editing (hmode : st.session.mode = .editing editor) (line : String) :
    opened? st.session line = none := by
  rw [opened?, if_pos (Session.isEditing_of_editing hmode)]

theorem icons?_of_editing (hmode : st.session.mode = .editing editor) (line : String) :
    icons? st.session line = none := by
  rw [icons?, Session.submit, if_pos (Session.isEditing_of_editing hmode)]
  rfl

/-! ## Single lines -/

/-- The front end prints the lines and the cleared screens of the answer, and behind them the editor
or the icons. -/
theorem takeLine_value (st : State) (line : String) :
    (takeLine st line).value =
      (answered st.session line).map (fun answer => answer.elim .clearScreen .line) ++
        (opened? st.session line).toList.map .editor ++
        (icons? st.session line).toList.map .icons := by
  cases hmode : st.session.mode with
  | editing editor =>
    rw [takeLine_of_editing hmode, answered_of_editing hmode, opened?_of_editing hmode,
      icons?_of_editing hmode, editLine]
    cases EditorCommand.ofLine? line with
    | none => rfl
    | some command => simp
  | prompting =>
    have hscreen : (if (st.session.submit line).value.clear then [Print.clearScreen] else []) =
        (if (st.session.submit line).value.clear then [none] else []).map
          (fun answer : Option Line => answer.elim .clearScreen .line) := by
      split
      · rfl
      · rfl
    rw [takeLine_of_prompting hmode, answered_of_prompting hmode, opened?_of_prompting hmode,
      icons?]
    by_cases hdesktop : (st.session.submit line).value.view = some .desktop
    · simp [commandLine, hscreen, hdesktop]
    · simp [commandLine, hscreen, hdesktop]

theorem join_toList {α : Type} (f : α → String) (a? : Option α) :
    String.join (a?.toList.map f) = a?.elim "" f := by
  cases a? with
  | none => rfl
  | some a => exact String.empty_append

/-- The text that answers a line: the lines, a control sequence where the screen is cleared, the
editor that was opened and the icons. -/
theorem takeLine_text (st : State) (line : String) :
    String.join ((takeLine st line).value.map Print.text) =
      String.join ((answered st.session line).map fun answer =>
        answer.elim "\x1b[2J\x1b[H" fun line => line.plain ++ "\n") ++
      (opened? st.session line).elim "" (fun editor =>
        editor.title ++ "\n" ++ editor.display ++ (if editor.buffer = "" then "" else "\n") ++
          "^S Save  ^X Exit\n") ++
      (icons? st.session line).elim "" fun names =>
        "Desktop: " ++ "  ".intercalate names ++ "\n" := by
  have hanswer : ∀ answer : Option Line,
      (answer.elim Print.clearScreen Print.line).text =
        answer.elim "\x1b[2J\x1b[H" fun line => line.plain ++ "\n" := by
    intro answer
    cases answer with
    | none => rfl
    | some line => rfl
  rw [takeLine_value, ← join_toList, ← join_toList]
  simp only [List.map_append, String.join_append, List.map_map, Function.comp_def, hanswer]
  rfl

/-! ## Whole runs -/

theorem Turn.text_prompt (s : Session) (prints : List Print) :
    Turn.text ⟨promptText? s, prints⟩ =
      (if s.isEditing then "" else s.promptText ++ "$ ") ++
        String.join (prints.map Print.text) := by
  rw [Turn.text, promptText?]
  split
  · rfl
  · rfl

/-- Each answer has the prompt of its moment in front, unless the editor is open, and the last
prompt stands alone. -/
theorem takeLines_text (st : State) (lines : List (Option String)) :
    let prompt := fun s : Session => if s.isEditing then "" else s.promptText ++ "$ "
    String.join ((takeLines st lines).value.1.map Turn.text) =
      String.join ((Run.steps takeLine st (readable lines)).map fun read =>
        prompt read.1.session ++ String.join ((takeLine read.1 read.2).value.map Print.text)) ++
      prompt (Run.state takeLine st (readable lines)).session := by
  intro prompt
  have hturn : ∀ s prints, Turn.text ⟨promptText? s, prints⟩ =
      prompt s ++ String.join (prints.map Print.text) := Turn.text_prompt
  fun_induction takeLines st lines with
  | case1 st => simp [hturn, Run.steps]
  | case2 st lines => simp [hturn, Run.steps]
  | case3 st line lines taken others ih =>
    rw [List.map_cons, String.join_cons, hturn, ih]
    simp only [readable_some, Run.steps, Run.state_cons, List.map_cons, String.join_cons,
      String.append_assoc, taken]

/-- The opening lines, the turns and the last prompt, with a line end behind it if the input was
read to its end. -/
theorem run_text (s : Session) (lines : List (Option String)) :
    let prompt := fun s : Session => if s.isEditing then "" else s.promptText ++ "$ "
    (run s lines).value.text =
      String.join (s.log.map fun line => line.plain ++ "\n") ++
      (String.join ((Run.steps takeLine ⟨s, false⟩ (readable lines)).map fun read =>
        prompt read.1.session ++ String.join ((takeLine read.1 read.2).value.map Print.text)) ++
      prompt (Run.state takeLine ⟨s, false⟩ (readable lines)).session) ++
      if none ∈ lines then "" else "\n" := by
  intro prompt
  rw [text, ← takeLines_text, run, takeLines_ending]
  by_cases hbad : none ∈ lines
  · rw [if_pos hbad, if_pos hbad]
  · rw [if_neg hbad, if_neg hbad]

end MemShell.Transcript
