import SymbolIndex.Config.Basic
import SymbolIndex.Identifier
import SymbolIndex.Store.Record

/-! # Log events

What the index reports while it works. Each event has a level, the part of the index that reports
it and one message.
-/
namespace SymbolIndex

inductive Level where
  | error
  | warn
  | info
  | debug
  | trace
  deriving DecidableEq, Repr

namespace Level

def name : Level → String
  | error => "ERROR"
  | warn => "WARN"
  | info => "INFO"
  | debug => "DEBUG"
  | trace => "TRACE"

/-- The larger, the more is let through. -/
def verbosity : Level → Nat
  | error => 1
  | warn => 2
  | info => 3
  | debug => 4
  | trace => 5

end Level

inductive Event where
  | loggingStarted (level format : String)
  | configLoaded (path : Path)
  | configUnusable (path : Path) (error : ConfigError)
  | defaultsUsed
  | columnRejected (found : StorageClass) (expected : String)
  | keyRejected (key reason : String)
  | nameAdded (name : Name)
  | versionSet (version : Int32)
  | versionRead (got : Int32)
  | versionDiffers (expected got : Int32)
  deriving DecidableEq, Repr

namespace Event

def level : Event → Level
  | loggingStarted .. | configUnusable .. | keyRejected .. | versionRead .. => .debug
  | configLoaded .. | defaultsUsed | versionSet .. => .info
  | columnRejected .. | nameAdded .. => .trace
  | versionDiffers .. => .warn

def source : Event → String
  | loggingStarted .. => "hiedb::logging"
  | configLoaded .. | configUnusable .. | defaultsUsed => "hiedb::config"
  | columnRejected .. => "hiedb::index::ident"
  | keyRejected .. => "hiedb::index::symbol"
  | nameAdded .. => "hiedb::names"
  | versionSet .. | versionRead .. | versionDiffers .. => "hiedb::index::schema"

def message : Event → String
  | loggingStarted level format => "Logging initialised at " ++ level ++ " (" ++ format ++ ")"
  | configLoaded path => "Loaded configuration from " ++ path.display
  | configUnusable path error =>
    "Could not load config from " ++ path.display ++ ": " ++ error.detail
  | defaultsUsed => "Using default configuration"
  | columnRejected found expected =>
    "Rejecting " ++ found.name ++ " column where " ++ expected ++ " was expected"
  | keyRejected key reason => "Rejecting symbol key " ++ Quoted.quote key ++ ": " ++ reason
  | nameAdded name => "New name " ++ name.display ++ " with unique " ++ toString name.unique.value
  | versionSet version => "Setting store schema version to v" ++ toString version.toInt
  | versionRead got => "Store schema version: " ++ toString got.toInt
  | versionDiffers expected got =>
    "Store schema v" ++ toString got.toInt ++ " does not match v" ++ toString expected.toInt

end Event

end SymbolIndex
