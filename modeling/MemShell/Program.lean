import MemShell.Options
import MemShell.Settings.Load
import MemShell.Transcript

/-!
# The command line program

The program reads its options and its settings and then runs a session over the lines of its
input. Its exit status tells the three ways of failing apart: by the options (2), by the settings
or the input (1), not at all (0).
-/

namespace MemShell.Program

/-- What the program has written and its exit status. -/
structure Result where
  out : String
  exit : Nat
deriving DecidableEq, Repr

def versionText : String := "webterm 0.1.0\n"

def helpText : String := String.join (List.map (· ++ "\n") [
  "Interactive shell over an in-memory filesystem",
  "",
  "Usage: webterm [OPTIONS]",
  "",
  "Options:",
  "      --config <CONFIG>        TOML file with \x60user\x60 and \x60host\x60 keys",
  "      --user <USER>            User name shown in the prompt",
  "      --host <HOST>            Host name shown in the prompt",
  "      --log-level <LOG_LEVEL>  Log level used when RUST_LOG is unset [default: warn]",
  "  -h, --help                   Print help",
  "  -V, --version                Print version"])

/-- The session that the options ask for, with the content of the settings file if they name
one. -/
def openSession (options : Options) (content : Option (Except FileFault (List UInt8))) :
    Except SettingsError Session :=
  let file := options.config.bind fun path => content.map fun content => (path, content)
  (Settings.load file options.user options.host).map fun settings => (Session.start settings).state

def exitOf : Transcript.Ending → Nat
  | .closed => 0
  | .undecodable => 1

/-- The whole run with the arguments behind the program's name, over the bytes of the input;
`lookUp` gives the content of a file. -/
def run (lookUp : String → Except FileFault (List UInt8)) (args : List String)
    (input : List UInt8) : Result :=
  match Options.ofArgs args with
  | .error _ => ⟨"", 2⟩
  | .ok .version => ⟨versionText, 0⟩
  | .ok .help => ⟨helpText, 0⟩
  | .ok (.start options) =>
    match openSession options (options.config.map lookUp) with
    | .error _ => ⟨"", 1⟩
    | .ok session =>
      let t := (Transcript.run session (Text.linesOfBytes input)).value
      ⟨t.text, exitOf t.ending⟩

end MemShell.Program
