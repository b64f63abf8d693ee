/-!
# Settings

The two names in the prompt.
-/

namespace MemShell

structure Settings where
  user : String
  host : String
deriving DecidableEq, Repr

/-- The settings of a session that nobody configured. -/
def Settings.standard : Settings := ⟨"user", "local.lg"⟩

/-- The settings with the given names in place of those that were set before. -/
def Settings.override (settings : Settings) (user host : Option String) : Settings :=
  ⟨user.getD settings.user, host.getD settings.host⟩

end MemShell
