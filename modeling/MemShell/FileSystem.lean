import MemShell.Event
import MemShell.FileSystem.Directory
import MemShell.Path
import Std.Data.ExtTreeMap

/-!
# The file system

Directories are kept in an index from paths to directories, and the index alone decides what
exists. Each directory also lists the names of its subdirectories, in the order of their
creation, so every change of the tree touches both places; `isConsistent` checks that they
describe the same tree.

Paths are looked up as they are: a path that is not canonical names nothing. An operation that is
refused gives an error and no new state, so a refusal changes nothing.
-/

namespace MemShell

structure FileSystem where
  index : Std.ExtTreeMap String Directory

namespace FileSystem

/-- The file system that holds only the root. -/
def bare : FileSystem :=
  ⟨(∅ : Std.ExtTreeMap String Directory).insert Path.root (.empty Path.root)⟩

def directory? (fs : FileSystem) (path : String) : Option Directory := fs.index[path]?

def contains (fs : FileSystem) (path : String) : Bool := (fs.directory? path).isSome

/-- The directory at `path`, which the caller needs to exist. -/
def directory (fs : FileSystem) (path : String) : Except FsError Directory :=
  match fs.directory? path with
  | some dir => .ok dir
  | none => .error (.notFound (Path.display path))

/-- The file system with the directory at `path` replaced. -/
def put (fs : FileSystem) (path : String) (dir : Directory) : FileSystem :=
  ⟨fs.index.insert path dir⟩

theorem directory?_put (fs : FileSystem) (path other : String) (dir : Directory) :
    (fs.put path dir).directory? other =
        if path = other then some dir else fs.directory? other := by
  simp [put, directory?, Std.ExtTreeMap.getElem?_insert]

/-- File systems that hold the same directories at the same paths are the same. -/
theorem ext_directory? {fs gs : FileSystem} (h : ∀ path, fs.directory? path = gs.directory? path) :
    fs = gs := by
  cases fs
  cases gs
  exact congrArg mk (Std.ExtTreeMap.ext_getElem? h)

/-! ## Directories -/

def isNameChar (c : Char) : Bool := c.isAlphanum || c == '_' || c == '-'

/-- Directory names are made of ASCII letters, digits, `_` and `-`, at least one of them. -/
def isValidName (name : String) : Bool :=
  !name.toList.isEmpty && name.toList.all isNameChar

/-- Make the directory `name` inside `parent`; the answer is its path. A bad name is reported
before a missing parent, and that before a name that is taken. -/
def makeDirectory (fs : FileSystem) (parent name : String) :
    Except FsError (Outcome FileSystem String) :=
  if isValidName name = false then .error (.invalidName name)
  else if fs.contains parent = false then .error (.notFound (Path.display parent))
  else
    let child := Path.join parent name
    if fs.contains child then .error (.alreadyExists name)
    else
      let index := (fs.index.insert child (.empty name)).modify parent (·.addSubdirectory name)
      .ok ⟨child, ⟨index⟩, [.directoryCreated child]⟩

/-- Make several directories inside `parent`, one after the other. Each name is tried, whatever
became of the names before it. -/
def makeDirectories (fs : FileSystem) (parent : String) :
    List String → Outcome FileSystem (List (Except FsError String))
  | [] => ⟨[], fs, []⟩
  | name :: names =>
    match fs.makeDirectory parent name with
    | .ok made =>
      let others := makeDirectories made.state parent names
      ⟨.ok made.value :: others.value, others.state, made.events ++ others.events⟩
    | .error e =>
      let others := makeDirectories fs parent names
      ⟨.error e :: others.value, others.state, others.events⟩

/-- Remove the empty directory at `path`. -/
def removeDirectory (fs : FileSystem) (path : String) : Except FsError (Outcome FileSystem Unit) :=
  if path = Path.root then .error (.busy Path.root)
  else
    match fs.directory path with
    | .error e => .error e
    | .ok dir =>
      if dir.isEmpty = false then .error (.notEmpty (Path.display path))
      else
        let index := (fs.index.erase path).modify (Path.parent path) (·.dropSubdirectory dir.name)
        .ok ⟨(), ⟨index⟩, [.directoryRemoved path]⟩

def list (fs : FileSystem) (path : String) : Except FsError Listing :=
  (fs.directory path).map Directory.listing

/-! ## Files -/

/-- The named file of `dir`, made empty at the end of its files if it is not there. -/
def openFile (fs : FileSystem) (path name : String) : Except FsError (Outcome FileSystem File) :=
  match fs.directory path with
  | .error e => .error e
  | .ok dir =>
    match dir.file? name with
    | some file => .ok ⟨file, fs, []⟩
    | none =>
      let file : File := ⟨name, ""⟩
      .ok ⟨file, fs.put path (dir.addFile file), [.fileCreated path name]⟩

def erase (fs : FileSystem) (path name : String) : Except FsError (Outcome FileSystem Unit) :=
  match fs.directory path with
  | .error e => .error e
  | .ok dir =>
    match dir.file? name with
    | none => .error (.notFound name)
    | some _ => .ok ⟨(), fs.put path (dir.dropFile name), [.fileRemoved path name]⟩

def content (fs : FileSystem) (path name : String) : Except FsError String :=
  match fs.directory path with
  | .error e => .error e
  | .ok dir =>
    match dir.file? name with
    | none => .error (.notFound name)
    | some file => .ok file.content

/-- Give the named file the content, in place if it is there and at the end of the files of its
directory if it is not. -/
def write (fs : FileSystem) (path name content : String) :
    Except FsError (Outcome FileSystem Unit) :=
  match fs.directory path with
  | .error e => .error e
  | .ok dir =>
    .ok ⟨(), fs.put path (dir.putFile name content),
      [.fileWritten path name content.utf8ByteSize]⟩

/-! ## The startup tree -/

/-- The directories of the root that every session starts with. -/
def startupDirectories : List String := ["bin", "home", "var"]

/-- The startup tree, with the events of its making. -/
def startup : Outcome FileSystem Unit :=
  let made := bare.makeDirectories Path.root startupDirectories
  ⟨(), made.state, made.events⟩

/-! ## Walking the tree -/

/-- The directory at `path` and those below it, each before its subdirectories, down to the given
depth. -/
def walkFrom (fs : FileSystem) : Nat → String → List (String × Directory)
  | 0, _ => []
  | depth + 1, path =>
    match fs.directory? path with
    | none => []
    | some dir =>
      (path, dir) ::
        dir.subdirectories.flatMap fun name => fs.walkFrom depth (Path.join path name)

/-- All directories, each before its subdirectories. No path is deeper than there are
directories. -/
def walk (fs : FileSystem) : List (String × Directory) := fs.walkFrom fs.index.size Path.root

/-! ## Consistency -/

/-- The directory at `path` is listed by its parent under its own name, which is the last name of
its path. -/
def isListed (fs : FileSystem) (path : String) (dir : Directory) : Bool :=
  dir.name == Path.lastName path &&
    (fs.directory? (Path.parent path)).any (·.subdirectories.contains dir.name)

/-- The index and the lists of subdirectories describe the same tree: the root is there, every
other directory is listed by its parent, everything listed is there, and no directory lists a
name twice. -/
def isConsistent (fs : FileSystem) : Bool :=
  fs.contains Path.root &&
    fs.index.toList.all fun (path, dir) =>
      (path == Path.root || fs.isListed path dir) &&
        dir.subdirectories.all (fun name => fs.contains (Path.join path name)) &&
        decide dir.subdirectories.Nodup && decide (dir.files.map (·.name)).Nodup

end FileSystem

end MemShell
