import MemShell.Session.Submit

/-!
# The line-oriented front end

A line-oriented front end reads lines and writes a transcript. Each turn starts with the prompt,
unless the editor is open, and then reads one line. A command line is submitted and its output
written. While the editor is open a line is text for the buffer, except the lines that stand for
the editor's control inputs: `^S` and the control character saves, `^X` and its control character
leaves. There is no desktop here: its icons are listed in one line and the terminal view stays.

The end of the input ends the transcript, and so does a line that is not UTF-8; then no later line
is looked at.
-/

namespace MemShell

/-- The control input that a line stands for. -/
def EditorCommand.ofLine? (line : String) : Option EditorCommand :=
  match Text.trim line with
  | "^S" | "^s" | "\x13" => some .save
  | "^X" | "^x" | "\x18" => some .exit
  | _ => none

namespace Transcript

/-- The buffer with one more line. The first line that is typed into an empty buffer starts it;
any other line goes on a line of its own. -/
def appendLine (buffer line : String) (typed : Bool) : String :=
  if typed || buffer ≠ "" then buffer ++ "\n" ++ line else line

/-- One thing that is written in answer to a line. -/
inductive Print where
  | line (line : Line)
  /-- The screen is cleared. -/
  | clearScreen
  /-- The editor as it was opened. -/
  | editor (editor : Editor)
  /-- The names of the desktop's icons. -/
  | icons (names : List String)
deriving DecidableEq, Repr

namespace Print

/-- The control sequence that clears a screen and moves to its corner. -/
def clearSequence : String := "\x1b[2J\x1b[H"

def text : Print → String
  | line l => l.plain ++ "\n"
  | clearScreen => clearSequence
  | editor e =>
    e.title ++ "\n" ++ e.display ++ (if e.buffer = "" then "" else "\n") ++ "^S Save  ^X Exit\n"
  | icons names => "Desktop: " ++ "  ".intercalate names ++ "\n"

end Print

/-- The front end between two lines. -/
structure State where
  session : Session
  /-- The open editor has received a line. -/
  typed : Bool

/-- Take one line while the editor is open. -/
def editLine (st : State) (editor : Editor) (line : String) : Outcome State (List Print) :=
  match EditorCommand.ofLine? line with
  | some command =>
    let done := st.session.editorCommand command
    ⟨done.value.map .line, { st with session := done.state }, done.events⟩
  | none =>
    ⟨[], ⟨st.session.editorInput (appendLine editor.buffer line st.typed), true⟩, []⟩

/-- Take one line while the session is prompting. -/
def commandLine (st : State) (line : String) : Outcome State (List Print) :=
  let done := st.session.submit line
  let screen := if done.value.clear then [Print.clearScreen] else []
  let opened := done.state.editor?
  let desktop := done.value.view == some .desktop
  let icons := if desktop then [Print.icons done.state.homeFolders] else []
  ⟨screen ++ done.value.output.map .line ++ opened.toList.map .editor ++ icons,
    { session := if desktop then done.state.setView .terminal else done.state
      typed := if opened.isSome then false else st.typed },
    done.events⟩

def takeLine (st : State) (line : String) : Outcome State (List Print) :=
  match st.session.mode with
  | .editing editor => editLine st editor line
  | .prompting => commandLine st line

/-- What is written around one read: the prompt before it, and the answer to the line. -/
structure Turn where
  promptText : Option String
  prints : List Print
deriving DecidableEq, Repr

def Turn.text (turn : Turn) : String :=
  (turn.promptText.map (· ++ Line.promptMark)).getD "" ++
    String.join (turn.prints.map Print.text)

def promptText? (s : Session) : Option String :=
  if s.isEditing then none else some s.promptText

/-- How reading ended. -/
inductive Ending where
  /-- The input was read to its end. -/
  | closed
  /-- The next line was not UTF-8. -/
  | undecodable
deriving DecidableEq, Repr

/-- The turns over the given lines; the last one reads nothing. -/
def takeLines (st : State) : List (Option String) → Outcome State (List Turn × Ending)
  | [] => ⟨([⟨promptText? st.session, []⟩], .closed), st, []⟩
  | none :: _ => ⟨([⟨promptText? st.session, []⟩], .undecodable), st, []⟩
  | some line :: lines =>
    let taken := takeLine st line
    let others := takeLines taken.state lines
    ⟨(⟨promptText? st.session, taken.value⟩ :: others.value.1, others.value.2), others.state,
      taken.events ++ others.events⟩

end Transcript

open Transcript in
/-- The whole of what a line-oriented front end writes. -/
structure Transcript where
  /-- The log at the start. -/
  opening : List Line
  turns : List Turn
  ending : Ending
deriving DecidableEq, Repr

namespace Transcript

/-- The text written. The line of the last prompt is ended only if the input was read to its
end. -/
def text (t : Transcript) : String :=
  String.join (t.opening.map fun line => line.plain ++ "\n") ++
    String.join (t.turns.map Turn.text) ++
    (match t.ending with
      | .closed => "\n"
      | .undecodable => "")

/-- Read the given lines, `none` for a line that is not UTF-8. -/
def run (s : Session) (lines : List (Option String)) : Outcome Session Transcript :=
  let done := takeLines ⟨s, false⟩ lines
  ⟨⟨s.log, done.value.1, done.value.2⟩, done.state.session, done.events⟩

end Transcript

end MemShell
