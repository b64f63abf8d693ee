/-!
# Files, directories and listings

What one directory holds: files in the order of their creation, and the names of its
subdirectories in the same order. Subdirectories are held by name only; where they live is the
business of the index (`FileSystem`).
-/

namespace MemShell

structure File where
  name : String
  content : String
deriving DecidableEq, Repr

structure Directory where
  name : String
  files : List File
  subdirectories : List String
deriving DecidableEq, Repr

namespace Directory

/-- A directory that holds nothing. -/
def empty (name : String) : Directory := ⟨name, [], []⟩

def isEmpty (dir : Directory) : Bool :=
  dir.files.isEmpty && dir.subdirectories.isEmpty

def file? (dir : Directory) (name : String) : Option File :=
  dir.files.find? (·.name == name)

def addSubdirectory (dir : Directory) (name : String) : Directory :=
  { dir with subdirectories := dir.subdirectories ++ [name] }

def dropSubdirectory (dir : Directory) (name : String) : Directory :=
  { dir with subdirectories := dir.subdirectories.filter (· ≠ name) }

def addFile (dir : Directory) (file : File) : Directory :=
  { dir with files := dir.files ++ [file] }

def dropFile (dir : Directory) (name : String) : Directory :=
  { dir with files := dir.files.eraseP (·.name == name) }

/-- The files with the content of `name` replaced in place, or with the file added at the end. -/
def putContent (name content : String) : List File → List File
  | [] => [⟨name, content⟩]
  | file :: files =>
    if file.name = name then { file with content } :: files
    else file :: putContent name content files

def putFile (dir : Directory) (name content : String) : Directory :=
  { dir with files := putContent name content dir.files }

end Directory

/-- What `ls` shows of a directory. -/
structure Listing where
  dirs : List String
  files : List String
deriving DecidableEq, Repr

namespace Listing

/-- All names, subdirectories first. -/
def names (listing : Listing) : List String := listing.dirs ++ listing.files

def isEmpty (listing : Listing) : Bool := listing.names.isEmpty

end Listing

def Directory.listing (dir : Directory) : Listing :=
  ⟨dir.subdirectories, dir.files.map (·.name)⟩

end MemShell
