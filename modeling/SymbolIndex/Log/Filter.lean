import SymbolIndex.Log.Logged
import SymbolIndex.Log.Pattern
import SymbolIndex.Text.Numeral
import SymbolIndex.Text.Split
import SymbolIndex.Text.Utf8

/-! # Log filters

A filter is a list of directives, each a level for all sources or for those that start with some
text. A directive may also ask for a field that an event carries, or for a span around it. Of the
directives that cover an event the one with the longest text decides; without one nothing passes.

Events that pass are written in one of three layouts. The two for people show the control characters
that a terminal would obey as escapes; the third one has quoted texts and needs no such thing.
-/
namespace SymbolIndex

inductive Layout where
  | compact
  | pretty
  | json
  deriving DecidableEq, Repr

namespace Layout

def ofFormat (format : String) : Layout :=
  if format = "json" then json else if format = "compact" then compact else pretty

def name : Layout → String
  | compact => "compact"
  | pretty => "pretty"
  | json => "json"

/-- Escape, bell, backspace, form feed and delete, and the controls beyond ASCII. -/
def escape (c : Char) : List Char :=
  if c ∈ ['\x1b', '\x07', '\x08', '\x0c', '\x7f'] then
    ['\\', 'x'] ++ Hexadecimal.fixed 2 c.toNat
  else if 0x80 ≤ c.toNat ∧ c.toNat ≤ 0x9F then
    ['\\', 'u', '\x7b'] ++ Hexadecimal.fixed 2 c.toNat ++ ['\x7d']
  else [c]

def showMessage : Layout → String → String
  | json, message => message
  | _, message => String.ofList (message.toList.flatMap escape)

end Layout

structure Directive where
  /-- How the sources start; the empty text is for all of them. -/
  source : String
  /-- The field that an event has to carry. -/
  field : Option String
  /-- Whether only events inside certain spans are meant. -/
  spanned : Bool
  /-- The most verbose level that passes, if any does. -/
  level : Option Level
  deriving DecidableEq, Repr

namespace Directive

/-- The levels in the order of their numbers; none is `off`. -/
def levels : List (String × Option Level) :=
  [("off", none), ("error", some .error), ("warn", some .warn), ("info", some .info),
    ("debug", some .debug), ("trace", some .trace)]

def number? (text : List Char) : Option Nat :=
  let digits :=
    match text with
    | '+' :: digits => digits
    | digits => digits
  if digits = [] ∨ !digits.all Char.isDigit then none
  else some (Numeral.value 10 digits)

/-- A level by its name, in any case of letters, or by its number. -/
def level? (text : List Char) : Option (Option Level) :=
  match number? text with
  | some n => (levels[n]?).map (·.2)
  | none => levels.lookup (String.ofList (text.map Char.toLower))

/-- The level after an equals sign; none at all lets everything pass. -/
def levelPart? (text : List Char) : Option (Option Level) :=
  if text = [] then some (some .trace) else level? text

/-- A directive that is one word: a level, or else a source of which everything passes. -/
def ofWord (text : List Char) : Directive :=
  match level? text with
  | some level => ⟨"", none, false, level⟩
  | none => ⟨String.ofList text, none, false, some .trace⟩

def startsDirective (c : Char) : Bool :=
  c = '[' || c = '-' || c = ':' || c = '_' || Text.isAlphanumeric c

inductive Fault where
  | malformed
  /-- A part would begin or end inside a scalar. -/
  | divided
  deriving DecidableEq, Repr

def part (text : List Char) (place length : Nat) : Except Fault (List Char) :=
  ((Utf8.drop? place text).bind (Utf8.take? length)).elim (.error .divided) .ok

def partFrom (text : List Char) (place : Nat) : Except Fault (List Char) :=
  (Utf8.drop? place text).elim (.error .divided) .ok

def untilAny (stops : List Char) (cs : List Char) : List Char := cs.takeWhile fun c => c ∉ stops

/-- The level of a directive of which `rest` is left, `place` bytes being read. -/
def levelFrom (text rest : List Char) (place : Nat) : Except Fault (Option Level) :=
  match rest with
  | [] => .ok (some .trace)
  | '=' :: _ => do (levelPart? (← partFrom text (place + 1))).elim (.error .malformed) .ok
  | _ => .error .malformed

def isValue (text : List Char) : Bool := Numeral.isDecimal text || Pattern.isValid text

/-- The name of a field, and whether a value is asked for as well, which has to be well formed; a
second equals sign ends it. -/
def fieldPart (text : List Char) : Except Fault (String × Bool) :=
  match Text.split '=' text with
  | name :: value :: _ =>
    if isValue value then .ok (String.ofList name, true) else .error .malformed
  | _ => .ok (String.ofList text, false)

def ofBracket (text : List Char) (source : String) (rest : List Char) (place : Nat) :
    Except Fault Directive :=
  let span := untilAny [']', '\x7b'] rest
  let size := Utf8.size span
  match rest.drop span.length with
  | [] => .error .malformed
  | ']' :: rest => do
    let _ ← part text place size
    let level ← levelFrom text rest (place + size + 1)
    return ⟨source, none, true, level⟩
  | _ :: rest => do
    let _ ← part text place size
    let place := place + size + 1
    let field := untilAny ['\x7d'] rest
    match rest.drop field.length with
    | [] => throw .malformed
    | _ :: rest =>
      let fieldText ← part text place (Utf8.size field)
      if fieldText = [] then throw .malformed
      let (name, valued) ← fieldPart fieldText
      match rest with
      | ']' :: rest =>
        let level ← levelFrom text rest (place + Utf8.size field + 2)
        return ⟨source, some name, size ≠ 0 || valued, level⟩
      | _ => throw .malformed

/-- A source, then perhaps brackets, then a level. The places of these parts are counted in `inner`,
the text without the white space at its ends, but the parts are taken from the whole text. -/
def ofParts (text inner : List Char) : Except Fault Directive :=
  let head := untilAny ['=', '['] inner
  let size := Utf8.size head
  match inner.drop head.length with
  | [] => .ok (ofWord text)
  | '[' :: rest => do
    let source ← part text 0 size
    ofBracket text (String.ofList source) rest (size + 1)
  | rest => do
    let source ← part text 0 size
    let level ← levelFrom text rest size
    return ⟨String.ofList source, none, false, level⟩

def parse (text : List Char) : Except Fault Directive :=
  let inner := Text.trim text
  match inner with
  | [] => .error .malformed
  | c :: _ => if startsDirective c then ofParts text inner else .error .malformed

/-- Events carry one field, their message, and are raised outside any span. -/
def covers (d : Directive) (event : Event) : Bool :=
  !d.spanned && (d.field = none || d.field = some "message")
    && d.source.toList.isPrefixOf event.source.toList

def passes (d : Directive) (event : Event) : Bool :=
  match d.level with
  | none => false
  | some level => event.level.verbosity ≤ level.verbosity

def atLeast (d e : Directive) : Bool :=
  e.source.length < d.source.length
    || e.source.length = d.source.length && (d.field.isSome || e.field.isNone)

end Directive

abbrev Filter := List Directive

namespace Filter

def parts (text : String) : List (List Char) := (Text.split ',' text.toList).filter (· ≠ [])

def parse (text : String) : Except Directive.Fault Filter := (parts text).mapM Directive.parse

def directive? (text : List Char) : Except Directive.Fault (Option Directive) :=
  match Directive.parse text with
  | .ok d => .ok (some d)
  | .error .malformed => .ok none
  | .error .divided => .error .divided

/-- The well-formed directives of a text, or errors alone if there are none. -/
def ofLevel (text : String) : Except Directive.Fault Filter := do
  match (← (parts text).mapM directive?).filterMap id with
  | [] => return [⟨"", none, false, some .error⟩]
  | directives => return directives

def ofConfig (c : LoggingConfig) (override : Option String) : Except Directive.Fault Filter :=
  match override.map parse with
  | some (.ok f) => .ok f
  | some (.error .divided) => .error .divided
  | _ => ofLevel c.level

/-- Of two directives that are equally specific the later one counts. -/
def deciding? (f : Filter) (event : Event) : Option Directive :=
  (f.filter (·.covers event)).foldl (fun best d =>
    match best with
    | some b => if d.atLeast b then some d else some b
    | none => some d) none

def passes (f : Filter) (event : Event) : Bool :=
  ((f.deciding? event).map (·.passes event)).getD false

end Filter

structure Subscriber where
  filter : Filter
  layout : Layout
  deriving Repr

namespace Subscriber

/-- A process has one subscriber; says whether it is the new one. Nothing is installed if a part of
the filter is divided. -/
def install (current : Option Subscriber) (c : LoggingConfig) (override : Option String) :
    Traced Directive.Fault (Bool × Option Subscriber) := do
  let filter ← Traced.ofExcept (Filter.ofConfig c override)
  match current with
  | some s => return (false, some s)
  | none =>
    Traced.emit (.loggingStarted c.level c.format)
    return (true, some ⟨filter, Layout.ofFormat c.format⟩)

def report (s : Subscriber) (events : List Event) : List (Level × String) :=
  (events.filter s.filter.passes).map fun event =>
    (event.level, s.layout.showMessage event.message)

end Subscriber

end SymbolIndex
