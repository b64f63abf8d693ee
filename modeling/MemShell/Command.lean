import MemShell.FileSystem.Error
import MemShell.Path
import MemShell.Text.Blank

/-!
# Command lines and commands

A command line is split into words at blanks; there is no quoting. Its first word names the
command, the others are arguments. `Command.ofInvocation` finds the command, with exactly the
arguments that it uses: what is left over is ignored, what is missing is a usage error.
-/

namespace MemShell

/-- A command name with its arguments. -/
structure Invocation where
  name : String
  args : List String
deriving DecidableEq, Repr

/-- The words of a command line, `none` if it is blank. -/
def Invocation.ofLine? (line : String) : Option Invocation :=
  match Text.words line with
  | [] => none
  | name :: args => some ⟨name, args⟩

/-- A path as the user typed it. Where it leads depends on the directory that it is read in. -/
structure PathArg where
  typed : String
deriving DecidableEq, Repr

def PathArg.resolve (arg : PathArg) (base : String) : String := Path.resolve base arg.typed

/-- Why a command line was not carried out. -/
inductive ShellError where
  | fs (error : FsError)
  /-- An argument is missing; `usage` says how the command is called. -/
  | invalidUsage (usage : String)
  | commandNotFound (name : String)
deriving DecidableEq, Repr

def ShellError.message : ShellError → String
  | .fs error => error.message
  | .invalidUsage usage => "usage: " ++ usage
  | .commandNotFound name =>
    name ++ ": command not found. Type 'help' for available commands."

inductive Command where
  /-- List a directory, the current one if none is given. -/
  | ls (target : Option PathArg)
  | cd (target : PathArg)
  | mkdir (names : List String)
  | rmdir (target : PathArg)
  | rm (file : String)
  | cat (file : String)
  | pwd
  | nano (file : String)
  | clear
  | help
  | ifconfig
  | top
  | startx
deriving DecidableEq, Repr

namespace Command

/-- The word that calls the command; it also starts the command's error lines. -/
def name : Command → String
  | ls _ => "ls"
  | cd _ => "cd"
  | mkdir _ => "mkdir"
  | rmdir _ => "rmdir"
  | rm _ => "rm"
  | cat _ => "cat"
  | pwd => "pwd"
  | nano _ => "nano"
  | clear => "clear"
  | help => "help"
  | ifconfig => "ifconfig"
  | top => "top"
  | startx => "startx"

/-- A command made from the first argument. -/
def ofFirst (usage : String) (make : String → Command) : List String → Except ShellError Command
  | [] => .error (.invalidUsage usage)
  | arg :: _ => .ok (make arg)

def ofInvocation (call : Invocation) : Except ShellError Command :=
  match call.name with
  | "ls" => .ok (ls (call.args.head?.map PathArg.mk))
  | "cd" => ofFirst "cd <directory>" (fun arg => cd ⟨arg⟩) call.args
  | "mkdir" => ofFirst "mkdir <name>..." (fun _ => mkdir call.args) call.args
  | "rmdir" => ofFirst "rmdir <directory>" (fun arg => rmdir ⟨arg⟩) call.args
  | "rm" => ofFirst "rm <file>" rm call.args
  | "cat" => ofFirst "cat <file>" cat call.args
  | "pwd" => .ok pwd
  | "nano" => ofFirst "nano <file>" nano call.args
  | "clear" => .ok clear
  | "help" => .ok help
  | "ifconfig" => .ok ifconfig
  | "top" => .ok top
  | "startx" => .ok startx
  | other => .error (.commandNotFound other)

end Command

end MemShell
