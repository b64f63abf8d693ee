/-!
# Command line options

Options are read from left to right, and the first fault or the first request for the version or
for help decides. An option takes its value behind an equals sign or from the next argument; such
an argument does not begin with a dash, unless it is nothing but a dash. Each option is given once.
-/

namespace MemShell

/-- The options that take a value. -/
inductive OptionName where
  | config
  | user
  | host
  | logLevel
deriving DecidableEq, Repr

def OptionName.ofText? : String → Option OptionName
  | "config" => some .config
  | "user" => some .user
  | "host" => some .host
  | "log-level" => some .logLevel
  | _ => none

def OptionName.text : OptionName → String
  | config => "--config"
  | user => "--user"
  | host => "--host"
  | logLevel => "--log-level"

inductive UsageError where
  | unexpectedArgument (arg : String)
  | missingValue (name : OptionName)
  | repeatedOption (name : OptionName)
deriving DecidableEq, Repr

def UsageError.message : UsageError → String
  | unexpectedArgument arg => "unexpected argument '" ++ arg ++ "' found"
  | missingValue name => "a value is required for '" ++ name.text ++ "'"
  | repeatedOption name => "the argument '" ++ name.text ++ "' cannot be used multiple times"

structure Options where
  config : Option String
  user : Option String
  host : Option String
  logLevel : Option String
deriving DecidableEq, Repr

/-- What the command line asks for. -/
inductive Request where
  | start (options : Options)
  | version
  | help
deriving DecidableEq, Repr

namespace Options

def none : Options := ⟨.none, .none, .none, .none⟩

def get (o : Options) : OptionName → Option String
  | .config => o.config
  | .user => o.user
  | .host => o.host
  | .logLevel => o.logLevel

def put (o : Options) (value : String) : OptionName → Options
  | .config => { o with config := some value }
  | .user => { o with user := some value }
  | .host => { o with host := some value }
  | .logLevel => { o with logLevel := some value }

/-- Give an option its value. A path is not empty. -/
def set (o : Options) (name : OptionName) (value : String) : Except UsageError Options :=
  if (o.get name).isSome then .error (.repeatedOption name)
  else if name = .config ∧ value = "" then .error (.missingValue name)
  else .ok (o.put value name)

/-- The argument cannot be the value of an option. -/
def isFlagLike (arg : String) : Bool := arg.toList.head? == some '-' && arg ≠ "-"

/-- The text before the first equals sign and, if there is one, the text behind it. -/
def splitEquals : List Char → List Char × Option (List Char)
  | [] => ([], .none)
  | c :: cs =>
    if c = '=' then ([], some cs)
    else
      let (name, value) := splitEquals cs
      (c :: name, value)

/-- What an argument is that stands where an option may stand. -/
inductive Argument where
  | option (name : OptionName) (attached : Option String)
  | request (request : Request)
  /-- The end of the options. -/
  | terminator
  | unexpected
deriving DecidableEq, Repr

/-- An argument behind two dashes: the name of an option or of a flag. -/
def Argument.ofLong (long : List Char) : Argument :=
  let (name, attached) := splitEquals long
  let name := String.ofList name
  match OptionName.ofText? name with
  | some known => .option known (attached.map String.ofList)
  | .none =>
    if attached.isSome then .unexpected
    else if name = "version" then .request .version
    else if name = "help" then .request .help
    else .unexpected

def Argument.ofText (arg : String) : Argument :=
  match arg.toList with
  | ['-', '-'] => .terminator
  | '-' :: '-' :: long => .ofLong long
  | '-' :: 'V' :: _ => .request .version
  | '-' :: 'h' :: _ => .request .help
  | _ => .unexpected

def readFrom (o : Options) : List String → Except UsageError Request
  | [] => .ok (.start o)
  | arg :: rest =>
    match Argument.ofText arg with
    | .unexpected => .error (.unexpectedArgument arg)
    | .request request => .ok request
    | .terminator =>
      match rest with
      | [] => .ok (.start o)
      | other :: _ => .error (.unexpectedArgument other)
    | .option name (some value) =>
      match o.set name value with
      | .error e => .error e
      | .ok o => readFrom o rest
    | .option name .none =>
      match rest with
      | [] => .error (.missingValue name)
      | value :: rest =>
        if isFlagLike value then .error (.missingValue name)
        else
          match o.set name value with
          | .error e => .error e
          | .ok o => readFrom o rest

/-- Read the arguments behind the program's name. -/
def ofArgs (args : List String) : Except UsageError Request := readFrom none args

end Options

end MemShell
