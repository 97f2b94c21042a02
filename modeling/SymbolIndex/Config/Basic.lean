import SymbolIndex.Files

/-! # Configuration

How much is logged and in which layout, and how large a name cache starts. Every setting has a
default. A valid configuration names one of five levels and one of three layouts and starts with
room for at least one module; of several faults the level's comes first and the capacity's last.
-/
namespace SymbolIndex

structure LoggingConfig where
  level : String := "info"
  format : String := "pretty"
  deriving DecidableEq, Repr

structure NamesConfig where
  initialCapacity : UInt64 := 256
  deriving DecidableEq, Repr

structure Config where
  logging : LoggingConfig := {}
  names : NamesConfig := {}
  deriving DecidableEq, Repr

inductive ConfigFault where
  | level (text : String)
  | format (text : String)
  | capacity
  deriving DecidableEq, Repr

def ConfigFault.message : ConfigFault → String
  | level text => "Invalid log level: " ++ text
  | format text => "Invalid log format: " ++ text
  | capacity => "Name cache capacity must be greater than 0"

inductive ConfigError where
  | unreadable (path : Path) (fault : ReadFault)
  | unparsable (path : Path)
  | invalid (fault : ConfigFault)
  deriving DecidableEq, Repr

namespace ConfigError

def message : ConfigError → String
  | unreadable path _ => "Failed to read config: " ++ path.display
  | unparsable path => "Failed to parse config: " ++ path.display
  | invalid fault => fault.message

def detail : ConfigError → String
  | unreadable path fault => (unreadable path fault).message ++ ": " ++ fault.message
  | error => error.message

end ConfigError

namespace Config

def fileName : String := ".hiedb.toml"

def levels : List String := ["error", "warn", "info", "debug", "trace"]

def formats : List String := ["compact", "pretty", "json"]

def validate (c : Config) : Except ConfigFault Unit :=
  if c.logging.level ∉ levels then .error (.level c.logging.level)
  else if c.logging.format ∉ formats then .error (.format c.logging.format)
  else if c.names.initialCapacity = 0 then .error .capacity
  else .ok ()

end Config

end SymbolIndex
