import NodeIdentity.Json.Writer

/-!
# Block style

The text of a document in the block style of YAML.  Members of an object stand one below the other,
the parts of a member two blanks further in; the items of an array stand below the name of the
member that holds them.  A text is written bare where it reads back as itself, in single quotes
where it does not, and line by line where it has several.
-/

namespace NodeIdentity.Yaml

/-- Characters with which a bare text must not begin. -/
def startMarks : List Char :=
  ['#', ',', '[', ']', '\x7b', '\x7d', '&', '*', '!', '|', '>', '\'', '"', '%', '@', '\x60']

/-- Whether a text has a mark in it that would end it where it is written bare. -/
def hasInnerMark : List Char → Bool
  | [] => false
  | [c] => c = ':' || c = ' '
  | a :: b :: rest => (a = ':' && b = ' ') || (a = ' ' && b = '#') || hasInnerMark (b :: rest)

/-- Whether a text begins with a mark where it is written bare. -/
def hasStartMark : List Char → Bool
  | [] => true
  | c :: rest =>
      c = ' ' || startMarks.contains c ||
        ((c = '-' || c = '?' || c = ':') && (rest.isEmpty || rest.head? = some ' '))

/-- Words that are read as something other than text. -/
def reservedWords : List String :=
  ["null", "Null", "NULL", "~", "true", "True", "TRUE", "false", "False", "FALSE", ".inf", ".Inf",
    ".INF", "+.inf", "+.Inf", "+.INF", "-.inf", "-.Inf", "-.INF", ".nan", ".NaN", ".NAN", "y", "Y",
    "yes", "Yes", "YES", "n", "N", "no", "No", "NO", "on", "On", "ON", "off", "Off", "OFF"]

/-- Whether a text could be read as a number. -/
def looksNumeric (cs : List Char) : Bool :=
  let body :=
    match cs with
    | '+' :: rest | '-' :: rest => rest
    | _ => cs
  match body with
  | '.' :: c :: _ => c.isDigit
  | c :: _ => c.isDigit && body.all (fun c => c.isAlphanum || c = '.' || c = '+' || c = '-' || c = '_')
  | [] => false

/-- Whether a text reads back as itself where it is written bare. -/
def isBare (text : String) : Bool :=
  let cs := text.toList
  !hasStartMark cs && !hasInnerMark cs && !reservedWords.contains text && !looksNumeric cs

/-- A text in single quotes, in which a single quote is written twice. -/
def singleQuoted (text : String) : String :=
  text.foldl (fun written c => written ++ if c = '\'' then "''" else c.toString) "'" ++ "'"

/-- A text of one line. -/
def scalarText (text : String) : String :=
  if isBare text then text else singleQuoted text

/-- The lines of a text. -/
def linesOf : List Char → List (List Char)
  | [] => [[]]
  | c :: rest =>
      if c = '\n' then [] :: linesOf rest
      else
        match linesOf rest with
        | [] => [[c]]
        | line :: others => (c :: line) :: others

/-- Lines two blanks further in; an empty line stays empty. -/
def inner (lines : List String) : List String :=
  lines.map (fun line => if line.isEmpty then line else "  " ++ line)

/-- Lines as an item of an array: a dash before the first, and the others below its text. -/
def asItem : List String → List String
  | [] => []
  | line :: rest => ("- " ++ line) :: inner rest

/-- A text behind a lead: on the same line, or line by line below it. -/
def textLines (lead text : String) : List String :=
  match linesOf text.toList with
  | [] | [_] => [lead ++ scalarText text]
  | lines => (lead ++ "|-") :: inner (lines.map String.ofList)

mutual

/-- The lines of the members of an object. -/
def memberLines : List (String × Json) → List String
  | [] => []
  | (name, value) :: rest => valueLines (scalarText name ++ ":") value ++ memberLines rest

/-- The lines of a value below a lead that ends in a colon. -/
def valueLines (lead : String) : Json → List String
  | .obj [] => [lead ++ " \x7b\x7d"]
  | .obj (member :: rest) => lead :: inner (memberLines (member :: rest))
  | .arr [] => [lead ++ " []"]
  | .arr (item :: rest) => lead :: itemLines (item :: rest)
  | .str text => textLines (lead ++ " ") text
  | .null => [lead ++ " null"]
  | .bool true => [lead ++ " true"]
  | .bool false => [lead ++ " false"]
  | .int value => [lead ++ " " ++ toString value]
  | .float value => [lead ++ " " ++ value.documentText]

/-- The lines of the items of an array. -/
def itemLines : List Json → List String
  | [] => []
  | item :: rest => asItem (documentLines item) ++ itemLines rest

/-- The lines of a document. -/
def documentLines : Json → List String
  | .obj [] => ["\x7b\x7d"]
  | .obj (member :: rest) => memberLines (member :: rest)
  | .arr [] => ["[]"]
  | .arr (item :: rest) => itemLines (item :: rest)
  | .str text => textLines "" text
  | .null => ["null"]
  | .bool true => ["true"]
  | .bool false => ["false"]
  | .int value => [toString value]
  | .float value => [value.documentText]

end

/-- The text of a document: its lines, each ended. -/
def render (document : Json) : String :=
  String.join ((documentLines document).map (· ++ "\n"))

end NodeIdentity.Yaml
