import Signpost.Server.Address
import Signpost.Server.Error
import Signpost.Text.Blank

/-!
# Server configuration

The settings of a server, with their defaults, and their reading from named
texts such as the variables of an environment.
-/

namespace Signpost

structure ServerConfig where
  hostname : String := "0.0.0.0"
  port : Nat := 3000
  /-- The number of workers; where none is set the machine decides. -/
  workers : Option Nat := none
  backlog : Int := 1024
  /-- The longest head that is read, with its blank line. -/
  maxHeadSize : Nat := 16384
  /-- The longest body that is read. -/
  maxBodySize : Nat := 1048576
  /-- The milliseconds within which a request must be read. -/
  readTimeout : Nat := 30000
  deriving DecidableEq, Repr

/-- The bounds within which a request is read. -/
structure ConnectionLimits where
  maxHeadSize : Nat
  maxBodySize : Nat
  deriving DecidableEq, Repr

namespace ServerConfig

def hostKey : String := "SQUALL_HOST"

def portKey : String := "SQUALL_PORT"

def workersKey : String := "SQUALL_WORKERS"

def readTimeoutKey : String := "SQUALL_READ_TIMEOUT_MS"

/-- A number of at most `bound`, with blanks around it. -/
def readNumber (bound : Nat) (key value : String) : Except ServerError Nat :=
  (Numeral.read 10 bound (Text.trim value)).mapError fun e => .config (.badNumber key value e)

/-- The defaults, with what named settings say in their place. -/
def ofSettings (setting : String → Option String) : Except ServerError ServerConfig := do
  let config : ServerConfig := {}
  let port ← (setting portKey).mapM (readNumber 65535 portKey)
  let workers ← (setting workersKey).mapM (readNumber Numeral.maxWord workersKey)
  if workers == some 0 then
    throw (.config (.noWorkers workersKey))
  let timeout ← (setting readTimeoutKey).mapM (readNumber Numeral.maxWord readTimeoutKey)
  return { config with
    hostname := (setting hostKey).getD config.hostname
    port := port.getD config.port
    workers
    readTimeout := timeout.getD config.readTimeout }

/-- Set the number of workers; there is at least one. -/
def setWorkers (c : ServerConfig) (workers : Nat) : ServerConfig :=
  { c with workers := some (max workers 1) }

/-- The address that a server listens on. -/
def address (c : ServerConfig) : Except ServerError SocketAddress :=
  let text := c.hostname ++ ":" ++ Numeral.decimal c.port
  match SocketAddress.ofText? text with
  | some address => .ok address
  | none => .error (.config (.badAddress text))

def limits (c : ServerConfig) : ConnectionLimits where
  maxHeadSize := c.maxHeadSize
  maxBodySize := c.maxBodySize

end ServerConfig

end Signpost
