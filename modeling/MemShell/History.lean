/-!
# Command history

The history keeps the latest hundred command lines for recall, oldest first. Blank lines and
immediate repetitions are not kept. A position among the entries is held while the user steps
through them; it is dropped by the next submitted line and by a step past the newest entry.
-/

namespace MemShell

structure History where
  /-- The kept lines, oldest first. -/
  entries : List String
  /-- The entry that was recalled last, while the user steps through them. -/
  position : Option Nat
deriving DecidableEq, Repr

namespace History

def empty : History := ⟨[], none⟩

def limit : Nat := 100

/-- The entries with one more line at the end; the oldest makes room. -/
def push (entries : List String) (line : String) : List String :=
  if entries.getLast? = some line then entries
  else
    let longer := entries ++ [line]
    if limit < longer.length then longer.tail else longer

/-- Keep a trimmed line, unless it is blank. -/
def record (history : History) (trimmed : String) : History :=
  ⟨if trimmed = "" then history.entries else push history.entries trimmed, none⟩

/-- The position after a step. A negative direction steps to older entries and stops at the
oldest, a positive one steps to newer entries and ends after the newest. -/
def move (count : Nat) (direction : Int) : Option Nat → Option Nat
  | none => if direction < 0 then some (count - 1) else none
  | some i =>
    if direction < 0 then (if 0 < i then some (i - 1) else some i)
    else if 0 < direction then (if i + 1 < count then some (i + 1) else none)
    else some i

/-- Step through the entries. The answer is the entry at the new position. -/
def step (history : History) (direction : Int) : History × Option String :=
  if history.entries.isEmpty then (history, none)
  else
    let position := move history.entries.length direction history.position
    ({ history with position }, position.bind (history.entries[·]?))

end History

end MemShell
