import MemShell.Geometry
import MemShell.Session

/-!
# The desktop

The desktop shows an icon for each folder of the home directory, and at most one folder window. A
pointer that is pressed on an icon, on the window's title bar or on its resize handle drags that
thing until it is released. The context menu is shown where it was asked for.
-/

namespace MemShell

structure Icon (K : Type) where
  name : String
  pos : Point K
deriving DecidableEq, Repr

/-- What the pointer is dragging. -/
inductive Drag (K : Type) where
  /-- The icon at this index. -/
  | icon (index : Nat)
  /-- The folder window, held at this offset from its corner. -/
  | window (grab : Point K)
  /-- The resize handle of the folder window. -/
  | resize
deriving DecidableEq, Repr

structure Desktop (K : Type) where
  icons : List (Icon K)
  drag : Option (Drag K)
  /-- The folder that the window shows; without one there is no window. -/
  openFolder : Option String
  windowPos : Point K
  windowSize : Size K
  /-- Where the context menu is shown. -/
  menu : Option (Point K)

namespace Desktop

open MemShell.Geometry

variable {K : Type} [Coordinate K]

/-- An icon at the given share of the room in the viewport. -/
def placeIcon (viewport : Size K) (name : String) (share : Point K) : Icon K :=
  ⟨name, scattered viewport iconSize share⟩

/-- A desktop with one icon per name, each at its share of the room. -/
def start (viewport : Size K) (folders : List (String × Point K)) : Desktop K :=
  { icons := folders.map fun (name, share) => placeIcon viewport name share
    drag := none
    openFolder := none
    windowPos := windowStart
    windowSize := windowStartSize
    menu := none }

def addIcon (d : Desktop K) (viewport : Size K) (name : String) (share : Point K) : Desktop K :=
  { d with icons := d.icons ++ [placeIcon viewport name share] }

/-- Make a folder and, if the session accepts its name, add its icon. -/
def createFolder (d : Desktop K) (s : Session) (viewport : Size K) (name : String)
    (share : Point K) : Except FsError (Outcome (Desktop K × Session) Unit) :=
  match s.createFolder name with
  | .ok made => .ok ⟨(), (d.addIcon viewport name share, made.state), made.events⟩
  | .error e => .error e

/-- Show a folder in the window, which goes back to where windows appear. -/
def openWindow (d : Desktop K) (name : String) : Outcome (Desktop K) Unit :=
  ⟨(),
    { d with
      openFolder := some name
      windowPos := windowStart
      windowSize := windowStartSize },
    [.folderWindowOpened name]⟩

def release (d : Desktop K) : Desktop K := { d with drag := none }

def closeWindow (d : Desktop K) : Desktop K := { d.release with openFolder := none }

def grabIcon (d : Desktop K) (index : Nat) : Desktop K := { d with drag := some (.icon index) }

/-- Hold the window where the pointer is. -/
def grabWindow (d : Desktop K) (pointer : Point K) : Desktop K :=
  { d with drag := some (.window (offset pointer d.windowPos)) }

def grabHandle (d : Desktop K) : Desktop K := { d with drag := some .resize }

/-- Move what is being dragged along with the pointer. -/
def pointerMoved (d : Desktop K) (pointer : Point K) (viewport : Size K) : Desktop K :=
  match d.drag with
  | none => d
  | some (.icon index) =>
    { d with
      icons := d.icons.modify index fun icon =>
        { icon with pos := dropped pointer iconSize viewport } }
  | some (.window grab) =>
    { d with windowPos := dragged pointer grab d.windowSize viewport }
  | some .resize => { d with windowSize := resized d.windowPos pointer }

end Desktop

end MemShell
