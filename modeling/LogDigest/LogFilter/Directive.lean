import LogDigest.LogFilter.Field
import LogDigest.Text.AlphanumericTable
import LogDigest.Text.Basic
import LogDigest.Text.Number

/-!
# Log directives

A directive gives a level to a target, to spans in it, or to everything.  It is written
`target[span\x7bfield=value\x7d]=level`, of which every part may be left out.

A level says how much is logged, from nothing to everything.  It has a name and a number.
-/

namespace LogDigest

/-! ## Levels -/

inductive LogLevel where
  | off
  | error
  | warn
  | info
  | debug
  | trace
  deriving DecidableEq, Repr

namespace LogLevel

def all : List LogLevel :=
  [.off, .error, .warn, .info, .debug, .trace]

def name : LogLevel → String
  | .off => "off"
  | .error => "error"
  | .warn => "warn"
  | .info => "info"
  | .debug => "debug"
  | .trace => "trace"

/-- The level that a text gives by its number, or by its name in ASCII letters of any case. -/
def ofText? (text : List Char) : Option LogLevel :=
  match (Text.unsigned64? text).bind (all[·]?) with
  | some level => some level
  | none => all.find? fun level => level.name.toList == text.map Char.toLower

end LogLevel

/-! ## Directives -/

structure LogDirective where
  target : Option String := none
  span : Option String := none
  field : Option LogField := none
  level : LogLevel := .trace

namespace LogDirective

/-! ## Reading -/

def isStart (c : Char) : Bool :=
  Text.alphanumerics.contains c || c == '-' || c == ':' || c == '_'

def levelAfter? (text : List Char) : Option LogLevel :=
  if text.isEmpty then some .trace else LogLevel.ofText? text

/-- A text seen through another one: `guide` tells its parts apart, and `text` gives them.  They
are as long as in `guide`, counted in bytes. -/
structure Window where
  text : List Char
  guide : List Char

namespace Window

def cut (window : Window) (isEnd : Char → Bool) : String × Window :=
  let size := Text.size (window.guide.takeWhile (!isEnd ·))
  (String.ofList (Text.takeSize size window.text),
    ⟨Text.dropSize size window.text, window.guide.dropWhile (!isEnd ·)⟩)

def next (window : Window) : Window :=
  ⟨Text.dropSize 1 window.text, window.guide.drop 1⟩

end Window

def withLevel? (directive : LogDirective) (window : Window) : Option LogDirective :=
  match window.guide with
  | [] => some directive
  | '=' :: _ => (levelAfter? window.next.text).map fun level => { directive with level }
  | _ => none

def withSpan? (directive : LogDirective) (window : Window) : Option LogDirective := do
  let (span, window) := window.cut fun c => c == ']' || c == '\x7b'
  match window.guide with
  | ']' :: _ => withLevel? { directive with span := some span } window.next
  | '\x7b' :: _ =>
    let (field, window) := window.next.cut (· == '\x7d')
    let span := if span.isEmpty then none else some span
    let field ← LogField.ofText? field.toList
    match window.guide with
    | '\x7d' :: ']' :: _ =>
      withLevel? { directive with span, field := some field } window.next.next
    | _ => none
  | _ => none

/-- The directive that a text gives.  Blanks around it do not count when its parts are told apart,
but each part is taken from the text as it is, at the place that it would have without them. -/
def ofText? (text : List Char) : Option LogDirective := do
  let window : Window := ⟨text, Text.trim text⟩
  if window.guide.head? = some '[' then withSpan? {} window.next
  else
    guard (window.guide.head?.any isStart)
    let (target, window) := window.cut fun c => c == '=' || c == '['
    match window.guide, LogLevel.ofText? text with
    | [], some level => some { level }
    | [], none => some { target := some (String.ofList text) }
    | '[' :: _, _ => withSpan? { target := some target } window.next
    | _, _ => withLevel? { target := some target } window

/-! ## Order -/

def isDynamic (directive : LogDirective) : Bool :=
  directive.span.isSome || directive.field.isSome

def isStatic (directive : LogDirective) : Bool :=
  directive.span.isNone && directive.field.all (·.value.isNone)

/-- The order of directives by how specific they are: longer targets come after shorter ones, then
those with a span and those with a field after those without, and then texts decide. -/
def order (a b : LogDirective) : Ordering :=
  (compare (a.target.map String.utf8ByteSize) (b.target.map String.utf8ByteSize)).then <|
    (compare a.span.isSome b.span.isSome).then <|
    (compare a.field.isSome b.field.isSome).then <|
    (compare a.target b.target).then <| (compare a.span b.span).then <|
    match a.field, b.field with
    | some a, some b => a.order b
    | _, _ => .eq

/-! ## Text -/

def spanText (directive : LogDirective) : String :=
  if directive.isDynamic then
    let field := match directive.field with
      | some field => "\x7b" ++ field.text ++ "\x7d"
      | none => ""
    "[" ++ directive.span.getD "" ++ field ++ "]"
  else ""

def text (directive : LogDirective) : String :=
  let subject := directive.target.getD "" ++ directive.spanText
  let isBare := directive.target.isNone && !directive.isDynamic
  if isBare then directive.level.name else subject ++ "=" ++ directive.level.name

end LogDirective

end LogDigest
