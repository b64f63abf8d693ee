/-!
# Why a file system operation is refused

Each cause carries the path or name to show to the user.
-/

namespace MemShell

inductive FsError where
  /-- No such path, directory or file. -/
  | notFound (path : String)
  /-- A directory of that name is there already. -/
  | alreadyExists (name : String)
  /-- The directory still holds files or subdirectories. -/
  | notEmpty (path : String)
  /-- The name holds other characters than letters, digits, `_` and `-`, or none at all. -/
  | invalidName (name : String)
  /-- The root, or a directory that the session stands in. -/
  | busy (path : String)
deriving DecidableEq, Repr

def FsError.message : FsError → String
  | .notFound path => path ++ ": No such file or directory"
  | .alreadyExists name => name ++ ": File exists"
  | .notEmpty path => path ++ ": Directory not empty"
  | .invalidName name => name ++ ": Invalid name (use letters, numbers, '_' and '-')"
  | .busy path => path ++ ": Device or resource busy"

end MemShell
