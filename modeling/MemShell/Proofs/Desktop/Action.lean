import MemShell.Desktop
import MemShell.Proofs.Run

/-!
# What can be done to a desktop

The ways in which the user acts on a desktop, as data: `act` carries out one of them on the desktop
and the session behind it, and a run of a desktop is a list of them. The viewport is read anew each
time that it is needed, so it can be another one at every action. An icon can also be added without
a folder, which no action of the user does: `change` carries out that as well.
-/

namespace MemShell.Desktop

inductive Action (K : Type) where
  /-- The share of the room is where the icon of the new folder goes. -/
  | createFolder (viewport : Size K) (name : String) (share : Point K)
  | openWindow (name : String)
  | closeWindow
  | grabIcon (index : Nat)
  | grabWindow (pointer : Point K)
  | grabHandle
  | movePointer (pointer : Point K) (viewport : Size K)
  | release
deriving DecidableEq, Repr

variable {K : Type} [Coordinate K]

/-- Act on a desktop and its session. A folder that is refused changes neither. -/
def act : Desktop K × Session → Action K → Outcome (Desktop K × Session) Unit
  | (d, s), .createFolder viewport name share =>
    match d.createFolder s viewport name share with
    | .ok made => made
    | .error _ => ⟨(), (d, s), []⟩
  | (d, s), .openWindow name =>
    let opened := d.openWindow name
    ⟨(), (opened.state, s), opened.events⟩
  | (d, s), .closeWindow => ⟨(), (d.closeWindow, s), []⟩
  | (d, s), .grabIcon index => ⟨(), (d.grabIcon index, s), []⟩
  | (d, s), .grabWindow pointer => ⟨(), (d.grabWindow pointer, s), []⟩
  | (d, s), .grabHandle => ⟨(), (d.grabHandle, s), []⟩
  | (d, s), .movePointer pointer viewport => ⟨(), (d.pointerMoved pointer viewport, s), []⟩
  | (d, s), .release => ⟨(), (d.release, s), []⟩

/-- What can be done to a desktop, with or without the user. -/
inductive Change (K : Type) where
  | act (action : Action K)
  | addIcon (viewport : Size K) (name : String) (share : Point K)
deriving DecidableEq, Repr

def change (shown : Desktop K × Session) : Change K → Outcome (Desktop K × Session) Unit
  | .act action => act shown action
  | .addIcon viewport name share => ⟨(), (shown.1.addIcon viewport name share, shown.2), []⟩

end MemShell.Desktop
