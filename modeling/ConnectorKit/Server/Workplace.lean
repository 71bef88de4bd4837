import ConnectorKit.Machine
import ConnectorKit.Settings.Resolve

/-!
What the server works with, and the world that it works on: the disk, and whatever version control
keeps beside it.
-/

set_option autoImplicit false
set_option relaxedAutoImplicit false

namespace ConnectorKit.Server

structure World (γ : Type) where
  disk : Disk
  aside : γ

namespace World

variable {γ α : Type}

def setDisk (d : Disk) (w : World γ) : World γ :=
  { w with disk := d }

/-- An action on the disk alone. -/
def onDisk (act : Action Disk α) : Action (World γ) α :=
  Action.within World.disk setDisk act

/-- An answer that is read off the disk. -/
def inspect (read : Disk → Except Failure α) : Action (World γ) α := fun w =>
  (read w.disk, w)

end World

structure Workplace (γ : Type) extends Machine where
  settings : Settings
  git : Git (World γ)

/-- The root of the repository. -/
def Workplace.root {γ : Type} (p : Workplace γ) : String :=
  p.settings.repository

/-- A workplace with version control by the program on the search path. -/
def Workplace.standard (m : Machine) (settings : Settings) : Workplace Unit where
  toMachine := m
  settings := settings
  git := Git.within World.disk World.setDisk
    (Git.commandLine m.run m.environment settings.repository)

end ConnectorKit.Server
