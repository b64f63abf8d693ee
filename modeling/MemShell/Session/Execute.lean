import MemShell.Session

/-!
# Running a command

`execute` runs one command. A command that fails changes nothing and answers with one error line,
which starts with the command's name. Only `mkdir` is different: it treats each of its names on
its own and has a line for every one.

Running a command does not touch the log and does not switch the view: the reply says what to log
and which view to show, and `Session.Submit` does so.
-/

namespace MemShell

/-- What a command asks the front end to show. -/
structure Reply where
  output : List Line
  /-- The log is to be emptied. -/
  clear : Bool
  /-- The view to switch to. -/
  view : Option View
deriving DecidableEq, Repr

namespace Reply

def empty : Reply := ⟨[], false, none⟩

def ofLines (lines : List Line) : Reply := ⟨lines, false, none⟩

end Reply

namespace Session

/-- A command that only looks. -/
def answer (s : Session) (lines : List Line) : Outcome Session Reply := ⟨.ofLines lines, s, []⟩

/-- The names in a directory on one line, no line if there are none. -/
def executeLs (s : Session) (target : Option PathArg) : Except FsError (Outcome Session Reply) :=
  match s.fs.list ((target.map (·.resolve s.cwd)).getD s.cwd) with
  | .error e => .error e
  | .ok listing =>
    if listing.isEmpty then .ok (s.answer [])
    else .ok (s.answer [.text ("  ".intercalate listing.names)])

/-- A target that does not exist is reported as it was typed. -/
def executeCd (s : Session) (target : PathArg) : Except FsError (Outcome Session Reply) :=
  let path := target.resolve s.cwd
  if s.fs.contains path then
    .ok ⟨.empty, { s with cwd := path }, [.changedDirectory s.cwd path]⟩
  else .error (.notFound target.typed)

def mkdirLine (name : String) : Except FsError String → Line
  | .ok _ => .success ("Directory '" ++ name ++ "' created")
  | .error e => .error ("mkdir: " ++ e.message)

def executeMkdir (s : Session) (names : List String) : Outcome Session Reply :=
  let made := s.fs.makeDirectories s.cwd names
  ⟨.ofLines (List.zipWith mkdirLine names made.value), { s with fs := made.state }, made.events⟩

/-- A directory that the session stands in, or below, is busy, so the current directory stays
valid. -/
def executeRmdir (s : Session) (target : PathArg) : Except FsError (Outcome Session Reply) :=
  let path := target.resolve s.cwd
  if s.fs.contains path && Path.isWithin s.cwd path then .error (.busy (Path.display path))
  else
    match s.fs.removeDirectory path with
    | .error e => .error e
    | .ok removed =>
      .ok ⟨.ofLines [.success ("Directory '" ++ target.typed ++ "' removed")],
        { s with fs := removed.state }, removed.events⟩

def executeRm (s : Session) (file : String) : Except FsError (Outcome Session Reply) :=
  match s.fs.erase s.cwd file with
  | .error e => .error e
  | .ok removed =>
    .ok ⟨.ofLines [.success ("File '" ++ file ++ "' removed")],
      { s with fs := removed.state }, removed.events⟩

/-- The content is one line whatever it holds, and no line if it is empty. -/
def executeCat (s : Session) (file : String) : Except FsError (Outcome Session Reply) :=
  match s.fs.content s.cwd file with
  | .error e => .error e
  | .ok content => .ok (s.answer (if content = "" then [] else [.text content]))

/-- The file is made as soon as the editor opens it. -/
def executeNano (s : Session) (file : String) : Except FsError (Outcome Session Reply) :=
  match s.fs.openFile s.cwd file with
  | .error e => .error e
  | .ok opened =>
    .ok ⟨.empty,
      { s with
        fs := opened.state
        mode := .editing (.open s.cwd file opened.value.content) },
      opened.events ++ [.editorOpened s.cwd file]⟩

/-- Run a command that may fail. -/
def attempt (s : Session) : Command → Except FsError (Outcome Session Reply)
  | .ls target => s.executeLs target
  | .cd target => s.executeCd target
  | .mkdir names => .ok (s.executeMkdir names)
  | .rmdir target => s.executeRmdir target
  | .rm file => s.executeRm file
  | .cat file => s.executeCat file
  | .pwd => .ok (s.answer [.text s.displayDir])
  | .nano file => s.executeNano file
  | .clear => .ok ⟨{ Reply.empty with clear := true }, s, []⟩
  | .help => .ok (s.answer (Manual.help.map .text))
  | .ifconfig => .ok (s.answer (Manual.ifconfig.map .text))
  | .top => .ok (s.answer (Manual.top.map .text))
  | .startx => .ok ⟨⟨[.info "Starting desktop..."], false, some .desktop⟩, s, []⟩

/-- Run a command. A failure becomes the only line of the reply. -/
def execute (s : Session) (command : Command) : Outcome Session Reply :=
  match s.attempt command with
  | .ok done => done
  | .error e => s.answer [.error (command.name ++ ": " ++ e.message)]

end Session

end MemShell
