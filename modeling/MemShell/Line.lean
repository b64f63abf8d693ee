/-!
# Output lines and views

A session keeps a log of output lines. A line is either the echo of a command line or one line
of output of some kind; the kind decides its colour on the page.
-/

namespace MemShell

inductive Line where
  | text (text : String)
  | error (text : String)
  | success (text : String)
  | info (text : String)
  /-- A command line as it was entered, behind the prompt of that moment. -/
  | command (promptText input : String)
deriving DecidableEq, Repr

namespace Line

/-- What stands between the prompt and the input. -/
def promptMark : String := "$ "

/-- The line as a plain terminal prints it. -/
def plain : Line → String
  | .text t | .error t | .success t | .info t => t
  | .command promptText input => promptText ++ promptMark ++ input

def isEcho : Line → Bool
  | .command _ _ => true
  | _ => false

def isError : Line → Bool
  | .error _ => true
  | _ => false

end Line

inductive View where
  | terminal
  | desktop
deriving DecidableEq, Repr

end MemShell
