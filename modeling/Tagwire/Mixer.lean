import Tagwire.Host.Program
import Tagwire.Path

/-! The mixer: a local program that asks the servers itself, started the first time it is needed. -/

namespace Tagwire

namespace Mixer

/-- Delays are in milliseconds; `retries` counts the attempts after the first. -/
structure Settings where
  enabled : Bool := false
  port : UInt16 := 2220
  command : String := "gtagsmixer"
  settle : UInt64 := 1000
  retries : UInt32 := 3
  retryDelay : UInt64 := 500
deriving DecidableEq

end Mixer

structure Mixer where
  settings : Mixer.Settings := {}
  launched : Bool := false
  /-- How often a start was tried because a command needed the mixer. -/
  attempts : UInt32 := 0
deriving DecidableEq

namespace Mixer

def portArgument (m : Mixer) : String :=
  "--port=" ++ Decimal.text m.settings.port.toNat

def program (m : Mixer) : Program String :=
  if 1 < Path.depth m.settings.command then return m.settings.command
  else return (← .request (.which m.settings.command)).getD m.settings.command

def start (m : Mixer) (extra : List String) : Program (Except TagError Unit) := do
  let program ← m.program
  match ← .request (.launch program (m.portArgument :: extra)) with
  | .ok () => return .ok ()
  | .error fault => return .error (.config (.launch program fault))

def settle (m : Mixer) : Program Unit :=
  .request (.pause m.settings.settle.toNat)

/-- Starts the mixer unless it has been started. A start that fails counts as well. -/
def ensureLaunched (m : Mixer) : Program Mixer :=
  if m.launched then return m
  else do
    match ← m.start [] with
    | .ok () => m.settle
    | .error _ => pure ()
    return { m with launched := true, attempts := m.attempts + 1 }

def restart (m : Mixer) : Program (Except TagError Unit × Mixer) := do
  match ← m.start ["--replace"] with
  | .ok () =>
    m.settle
    return (.ok (), { m with launched := true })
  | .error e => return (.error e, m)

def setPort (m : Mixer) (port : UInt16) : Mixer :=
  if port = m.settings.port then m
  else { m with settings.port := port, launched := false }

def setSettings (m : Mixer) (settings : Settings) : Mixer :=
  { m.setPort settings.port with settings }

def invalidate (m : Mixer) : Mixer :=
  { m with launched := false }

end Mixer

end Tagwire
