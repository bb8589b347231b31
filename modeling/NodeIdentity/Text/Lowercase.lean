import NodeIdentity.Text.CaseTable

/-!
# Lowercase text

The lowercase form of a text.  Every character takes its own lowercase form, with two exceptions:
the dotted capital I becomes an i and a combining dot, and a capital sigma that ends a word takes
the final form.
-/

namespace NodeIdentity.Text

/-- Whether the nearest character that is not passed over is a letter with a case. -/
def meetsCased (cs : List Char) : Bool :=
  match cs.dropWhile isCaseIgnorable with
  | [] => false
  | c :: _ => isCased c

/-- The lowercase form of a character between what stands before it, nearest first, and behind. -/
def lowerWithin (before : List Char) (c : Char) (behind : List Char) : List Char :=
  if c = 'Σ' then
    if meetsCased before && !meetsCased behind then ['ς'] else ['σ']
  else if c = 'İ' then ['i', '\u0307']
  else [lowerChar c]

/-- The lowercase form of the rest of a text behind `before`, which is listed nearest first. -/
def lowerFrom (before : List Char) : List Char → List Char
  | [] => []
  | c :: rest => lowerWithin before c rest ++ lowerFrom (c :: before) rest

/-- The lowercase form of a text. -/
def lowercase (text : String) : String :=
  String.ofList (lowerFrom [] text.toList)

end NodeIdentity.Text
