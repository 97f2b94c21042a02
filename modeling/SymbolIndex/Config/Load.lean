import SymbolIndex.Json.Members
import SymbolIndex.Log.Logged
import SymbolIndex.Toml.Document

/-! # Loading a configuration

Every setting may be left out of a tree, and an array may end early; the default of each missing
setting stands in. Whether an array may also have surplus values depends on the format of the text.

A file is read, parsed and validated, and the first step that fails decides the error. A folder
always has a configuration: that of its file, or the default one if anything is wrong with it.
-/
namespace SymbolIndex

def Member.withDefault {α : Type} (key : String) (codec : JsonCodec α) (value : α) : Member α :=
  ⟨key, codec, some value⟩

namespace JsonCodec

def loggingConfig (surplus : Bool) : JsonCodec LoggingConfig :=
  structured
    (.cons (.withDefault "level" text ({} : LoggingConfig).level) <|
      .cons (.withDefault "format" text ({} : LoggingConfig).format) .nil)
    (fun c => (c.level, c.format, ())) (fun (level, format, ()) => ⟨level, format⟩)
    ⟨true, surplus⟩

def namesConfig (surplus : Bool) : JsonCodec NamesConfig :=
  structured
    (.cons (.withDefault "initial_capacity" uint64 ({} : NamesConfig).initialCapacity) .nil)
    (fun c => (c.initialCapacity, ())) (fun (initialCapacity, ()) => ⟨initialCapacity⟩)
    ⟨true, surplus⟩

def config (surplus : Bool) : JsonCodec Config :=
  structured
    (.cons (.withDefault "logging" (loggingConfig surplus) {}) <|
      .cons (.withDefault "names" (namesConfig surplus) {}) .nil)
    (fun c => (c.logging, c.names, ())) (fun (logging, names, ()) => ⟨logging, names⟩)
    ⟨true, surplus⟩

end JsonCodec

end SymbolIndex

namespace SymbolIndex.Config

/-- The settings a document gives, with the default of each one it leaves out. -/
def ofText (text : String) : Option Config :=
  (Toml.parse text).bind fun tree => ((JsonCodec.config true).read tree).toOption

def ofContent (path : Path) (content : Except ReadFault (List UInt8)) : Except ConfigError Config :=
  match content.bind textOf with
  | .error fault => .error (.unreadable path fault)
  | .ok text =>
    match ofText text with
    | none => .error (.unparsable path)
    | some c =>
      match c.validate with
      | .error fault => .error (.invalid fault)
      | .ok () => .ok c

def fromFile (read : Reader) (path : Path) : Except ConfigError Config :=
  ofContent path (read path)

def fromFolder (read : Reader) (folder : Path) : Logged Config := do
  let path := folder.child fileName
  match fromFile read path with
  | .ok c =>
    Logged.emit (.configLoaded path)
    return c
  | .error error =>
    Logged.emit (.configUnusable path error)
    Logged.emit .defaultsUsed
    return {}

end SymbolIndex.Config
