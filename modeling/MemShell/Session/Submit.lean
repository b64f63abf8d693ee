import MemShell.Session.Execute

/-!
# Submitting a command line

A line is echoed into the log behind the prompt of the moment before it runs, and its output
follows. A blank line does nothing. A line that arrives while the editor is open is refused.
-/

namespace MemShell.Session

/-- The log after a command line: the echo joins it first, so `clear` drops the echo too. -/
def logged (log : List Line) (echo : Line) (reply : Reply) : List Line :=
  (if reply.clear then [] else log ++ [echo]) ++ reply.output

/-- Find the command of a line and run it; a line without a command is answered with an error. -/
def run (s : Session) (call : Invocation) : Outcome Session Reply :=
  match Command.ofInvocation call with
  | .ok command => s.execute command
  | .error e => s.answer [.error e.message]

def submit (s : Session) (line : String) : Outcome Session Reply :=
  if s.isEditing then ⟨.empty, s, [.lineRefused line]⟩
  else
    match Invocation.ofLine? line with
    | none => ⟨.empty, s, []⟩
    | some call =>
      let echo := Line.command s.promptText (Text.trim line)
      let done := s.run call
      ⟨done.value,
        { done.state with
          log := logged done.state.log echo done.value
          view := done.value.view.getD done.state.view },
        done.events⟩

end MemShell.Session
