import NodeIdentity.Text.Alphanumeric
import NodeIdentity.Text.Blank

/-!
# Log filter

Which events are logged.  A filter is a list of directives between commas.  A directive gives a
level: for everything, for the sources whose names begin in some way, for events with some fields,
or for what happens within some spans.  Of the directives that concern an event, the one with the
longest beginning decides, and of those the one with the most fields.
-/

namespace NodeIdentity

/-- How much an event matters; a filter at a level lets through what matters no less. -/
inductive LogLevel
  | off
  | error
  | warn
  | info
  | debug
  | trace
deriving DecidableEq, Repr

namespace LogLevel

/-- The place of a level among the levels. -/
def rank : LogLevel → Nat
  | .off => 0
  | .error => 1
  | .warn => 2
  | .info => 3
  | .debug => 4
  | .trace => 5

/-- The name of a level in a log. -/
def name : LogLevel → String
  | .off => "OFF"
  | .error => "ERROR"
  | .warn => "WARN"
  | .info => "INFO"
  | .debug => "DEBUG"
  | .trace => "TRACE"

/-- Whether a filter at a level lets an event through. -/
def admits (filter event : LogLevel) : Bool :=
  event.rank ≤ filter.rank

/-- All levels. -/
def all : List LogLevel :=
  [.off, .error, .warn, .info, .debug, .trace]

/-- The number that a decimal text states, which may have a plus in front. -/
def numberOf? (cs : List Char) : Option Nat :=
  let digits := if cs.head? = some '+' then cs.drop 1 else cs
  if digits.isEmpty || !digits.all Char.isDigit then none
  else some (digits.foldl (fun n c => 10 * n + (c.toNat - '0'.toNat)) 0)

/-- The level with a name, in capital letters or not, or with a number. -/
def ofText? (cs : List Char) : Option LogLevel :=
  match numberOf? cs with
  | some number => all.find? (fun level => level.rank = number)
  | none => all.find? (fun level => level.name.toList = cs.map Char.toUpper)

end LogLevel

/-- A field that an event or a span must have, and perhaps what it must hold. -/
structure FieldWish where
  name : String
  hasValue : Bool
deriving DecidableEq, Repr

/-- A directive of a filter. -/
structure LogDirective where
  /-- How the name of the source must begin. -/
  source : Option String := none
  /-- The span within which the directive holds. -/
  span : Option String := none
  fields : List FieldWish := []
  level : LogLevel
deriving DecidableEq, Repr

namespace LogDirective

/-- Whether a text may be the first of a directive without brackets. -/
def mayStart (c : Char) : Bool :=
  c = '-' || c = ':' || c = '_' || Text.isAlphanumeric c

/-- The part of a text between two places. -/
def between (cs : List Char) (first last : Nat) : List Char :=
  (cs.take last).drop first

/-- The level that a directive states behind its equals sign; none stated is the finest. -/
def levelOf? (cs : List Char) : Option LogLevel :=
  if cs.isEmpty then some .trace else LogLevel.ofText? cs

/-- The field that a text asks for. -/
def fieldOf (cs : List Char) : FieldWish where
  name := String.ofList (cs.takeWhile (· ≠ '='))
  hasValue := cs.contains '='

/-- The level that stands at a place behind the brackets of a directive. -/
def behindBrackets? (cs trimmed : List Char) (place : Nat) : Option LogLevel :=
  match trimmed.drop place with
  | [] => some .trace
  | '=' :: _ => levelOf? (cs.drop (place + 1))
  | _ => none

/-- The directive whose bracket opens in front of a place. -/
def ofBrackets? (cs trimmed : List Char) (source : Option String) (place : Nat) :
    Option LogDirective :=
  let width := ((trimmed.drop place).takeWhile (fun c => c ≠ ']' ∧ c ≠ '\x7b')).length
  let span := String.ofList (between cs place (place + width))
  match trimmed.drop (place + width) with
  | ']' :: _ =>
      (behindBrackets? cs trimmed (place + width + 1)).map (fun level =>
        { source := source, span := some span, level := level })
  | '\x7b' :: rest =>
      let start := place + width + 1
      let fieldWidth := (rest.takeWhile (· ≠ '\x7d')).length
      let field := between cs start (start + fieldWidth)
      match trimmed.drop (start + fieldWidth) with
      | '\x7d' :: ']' :: _ =>
          if field.isEmpty then none
          else
            (behindBrackets? cs trimmed (start + fieldWidth + 2)).map (fun level =>
              { source := source
                span := if span.isEmpty then none else some span
                fields := [fieldOf field]
                level := level })
      | _ => none
  | _ => none

/--
The directive that a text states, if it states one.  Places are counted in the text without blanks
at its ends, but the parts are taken from the text with them.
-/
def ofText? (cs : List Char) : Option LogDirective :=
  let trimmed := Text.trimmed cs
  match trimmed with
  | [] => none
  | '[' :: _ => ofBrackets? cs trimmed none 1
  | c :: _ =>
      if mayStart c then
        let width := (trimmed.takeWhile (fun c => c ≠ '=' ∧ c ≠ '[')).length
        let source := some (String.ofList (between cs 0 width))
        match trimmed.drop width with
        | '=' :: _ =>
            (levelOf? (cs.drop (width + 1))).map (fun level => { source := source, level := level })
        | '[' :: _ => ofBrackets? cs trimmed source (width + 1)
        | _ =>
            match LogLevel.ofText? cs with
            | some level => some { level := level }
            | none => some { source := some (String.ofList cs), level := .trace }
      else none

/-- Whether a directive can concern events outside of spans. -/
def concernsAll (directive : LogDirective) : Bool :=
  directive.span.isNone && directive.fields.all (fun field => !field.hasValue)

/-- Whether a directive concerns the events of a source, which have some fields. -/
def concerns (source : String) (fields : List String) (directive : LogDirective) : Bool :=
  directive.concernsAll &&
    (directive.source.getD "").toList.isPrefixOf source.toList &&
    directive.fields.all (fun field => fields.contains field.name)

/-- How special a directive is: the length of the beginning it asks for, and the fields. -/
def weight (directive : LogDirective) : Nat × Nat :=
  ((directive.source.map (fun source => source.length + 1)).getD 0, directive.fields.length)

/-- The one of two directives that decides where both are concerned. -/
def stronger (earlier : Option LogDirective) (later : LogDirective) : Option LogDirective :=
  match earlier with
  | some directive =>
      let (length, fields) := directive.weight
      let (newLength, newFields) := later.weight
      if newLength < length ∨ (newLength = length ∧ newFields < fields) then some directive
      else some later
  | none => some later

end LogDirective

namespace LogFilter

/-- The source of the operator's own events. -/
def ownSource : String := "nodenet"

/-- The fields of the operator's own events. -/
def ownFields : List String := ["message"]

/-- The parts of a text between some character. -/
def splitAt (mark : Char) : List Char → List (List Char)
  | [] => [[]]
  | c :: rest =>
      if c = mark then [] :: splitAt mark rest
      else
        match splitAt mark rest with
        | [] => [[c]]
        | part :: others => (c :: part) :: others

/-- The directives of a filter, unless one of them is none. -/
def directives? (setting : String) : Option (List LogDirective) :=
  ((splitAt ',' setting.toList).filter (fun part => !part.isEmpty)).mapM LogDirective.ofText?

/-- The level at which directives let the operator's own events through. -/
def levelFor (directives : List LogDirective) : LogLevel :=
  match (directives.filter (LogDirective.concerns ownSource ownFields)).foldl
      LogDirective.stronger none with
  | some directive => directive.level
  | none => .off

/--
The level at which the operator's own events are let through.  Without a setting, or with one that
cannot be made sense of, that is the level of information; an empty setting lets errors through.
-/
def ownLevel (setting : Option String) : LogLevel :=
  match setting.map directives? with
  | some (some []) => .error
  | some (some directives) => levelFor directives
  | some none | none => .info

end LogFilter

end NodeIdentity
