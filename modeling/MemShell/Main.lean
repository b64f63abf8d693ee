import MemShell.Program

/-!
# The program on a terminal

The input is read line by line and every line is answered before the next one is read, so the
program can be talked to. What is written is what `Program.run` says of the whole input.
-/

namespace MemShell

/-- The bytes up to and with the next line feed, or to the end of the input. -/
partial def nextLine (input : IO.FS.Stream) (before : List UInt8) : IO (List UInt8) := do
  match (← input.read 1).toList with
  | [] => return before.reverse
  | b :: _ =>
    if b = Text.lineFeed then return (b :: before).reverse
    else nextLine input (b :: before)

/-- Answer the lines of the input until it ends; the answer is the exit status. -/
partial def converse (input output : IO.FS.Stream) (st : Transcript.State) : IO UInt32 := do
  output.putStr ((Transcript.promptText? st.session).elim "" (· ++ Line.promptMark))
  output.flush
  match Text.linesOfBytes (← nextLine input []) with
  | some line :: _ =>
    let taken := Transcript.takeLine st line
    output.putStr (String.join (taken.value.map Transcript.Print.text))
    converse input output taken.state
  | none :: _ => return 1
  | [] =>
    output.putStr "\n"
    return 0

/-- The content of a file, with the reason if there is none. -/
def contentOf (path : String) : IO (Except FileFault (List UInt8)) := do
  try
    return .ok (← IO.FS.readBinFile path).toList
  catch e =>
    match e with
    | .noFileOrDirectory .. => return .error .missing
    | .inappropriateType .. => return .error .isDirectory
    | e => return .error (.other (toString e))

def complain (message : String) : IO Unit := IO.eprintln ("webterm: " ++ message)

end MemShell

open MemShell in
def main (args : List String) : IO UInt32 := do
  match Options.ofArgs args with
  | .error e =>
    complain e.message
    return 2
  | .ok .version =>
    IO.print Program.versionText
    return 0
  | .ok .help =>
    IO.print Program.helpText
    return 0
  | .ok (.start options) =>
    match Program.openSession options (← options.config.mapM contentOf) with
    | .error e =>
      complain e.message
      return 1
    | .ok session =>
      let output ← IO.getStdout
      output.putStr (String.join (session.log.map fun line => line.plain ++ "\n"))
      converse (← IO.getStdin) output ⟨session, false⟩
