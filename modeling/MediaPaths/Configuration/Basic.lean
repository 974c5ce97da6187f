import MediaPaths.Configuration.Table
import MediaPaths.LogLevel

/-!
# Configurations
-/

namespace MediaPaths

/-- The settings that every source is made with. -/
structure SourceOptions where
  /-- How long reading may take. -/
  readTimeout : Duration := .tenSeconds
  /-- How long writing may take. -/
  writeTimeout : Duration := .tenSeconds
  /-- The depth of the queue between a source and its readers. -/
  writeQueueSize : UInt64 := 512
  deriving DecidableEq

/-- A configuration. -/
structure Configuration where
  /-- The least important messages that are logged. -/
  logLevel : LogLevel := .info
  /-- The settings that every source is made with. -/
  options : SourceOptions := {}
  /-- The settings that entries start from. -/
  defaults : Settings := {}
  /-- The entries. -/
  table : Table := {}

namespace Configuration

instance : Inhabited Configuration := ⟨{}⟩

/-- Whether a number is a power of two. -/
def isPowerOfTwo (n : Nat) : Bool := 0 < n && 1 <<< n.log2 == n

/-- Checks the settings that are about no path. -/
def check (c : Configuration) : Except ConfigError Configuration :=
  if isPowerOfTwo c.options.writeQueueSize.toNat then .ok c else .error .queueNotPowerOfTwo

/-- Declares one more entry. -/
def insert (c : Configuration) (name : String) (s : Settings) :
    Except ConfigError Configuration :=
  (c.table.insert name s).map fun t => { c with table := t }

/-- The entry that applies to a path. -/
def find (c : Configuration) (name : String) : Except LookupError Match := c.table.find name

end Configuration

end MediaPaths
