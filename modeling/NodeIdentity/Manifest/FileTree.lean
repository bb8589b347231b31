import NodeIdentity.Data.Dict

/-!
# File trees

The files and directories below a working directory, and how a path leads to them: step by step, each
from a directory that is there.  What a path reaches outside of the working directory is taken to be
there and not looked at.
-/

namespace NodeIdentity.Manifest

/-- What stands at a place. -/
inductive Entry
  | directory
  | file (text : String)
deriving DecidableEq, Repr

/-- The entries below a working directory, under the names that lead to them. -/
structure FileTree where
  entries : Dict Entry := ∅

/-- Where a path leads: to a place below the working directory, or outside of it. -/
inductive Place
  | inside (names : List String)
  | outside
deriving DecidableEq, Repr

/-- The longest name that an entry can have, in bytes. -/
def nameLimit : Nat := 255

/-- The steps of a path. -/
def stepsOf (path : String) : List String :=
  path.splitOn "/"

namespace FileTree

/-- The entry under some names; the working directory has none. -/
def entry? (tree : FileTree) (names : List String) : Option Entry :=
  if names.isEmpty then some .directory else tree.entries.get? ("/".intercalate names)

/-- The tree with an entry under some names. -/
def put (tree : FileTree) (names : List String) (entry : Entry) : FileTree :=
  { tree with entries := tree.entries.insert ("/".intercalate names) entry }

/-- Whether there is a directory at a place. -/
def isDirectory (tree : FileTree) : Place → Bool
  | .outside => true
  | .inside names => tree.entry? names = some .directory

/-- The place one step from a directory. -/
def step? (tree : FileTree) (place : Place) (step : String) : Option Place :=
  if !tree.isDirectory place then none
  else
    match place with
    | .outside => some .outside
    | .inside names =>
        if step = "" ∨ step = "." then some (.inside names)
        else if step = ".." then
          some (if names.isEmpty then .outside else .inside names.dropLast)
        else if nameLimit < step.utf8ByteSize then none
        else some (.inside (names ++ [step]))

/-- The place that some steps lead to; an empty first step leads outside. -/
def place? (tree : FileTree) (steps : List String) : Option Place :=
  let start : Place := if steps.head? = some "" then .outside else .inside []
  steps.foldlM tree.step? start

/-- Make a directory, unless it is there. -/
def makeDirectory (tree : FileTree) (steps : List String) : Option FileTree :=
  match tree.place? steps with
  | none => none
  | some .outside => some tree
  | some (.inside names) =>
      match tree.entry? names with
      | some .directory => some tree
      | some (.file _) => none
      | none => some (tree.put names .directory)

/-- The steps to each directory on a path, the last with all steps that follow it. -/
def leadingSteps (steps : List String) : List (List String) :=
  let leads := (List.range steps.length).filter (fun index =>
    (steps.getD index "") ≠ "" ∧ (steps.getD index "") ≠ ".")
  leads.dropLast.map (fun index => steps.take (index + 1)) ++ [steps]

/-- Make a directory and all that lead to it. -/
def makeDirectories (tree : FileTree) (path : String) : Option FileTree :=
  let steps := ((stepsOf path).reverse.dropWhile (· = "")).reverse
  (leadingSteps steps).foldlM makeDirectory tree

/-- Set the text of a file, which is made if it is not there. -/
def setText (tree : FileTree) (path text : String) : Option FileTree :=
  match tree.place? (stepsOf path) with
  | none => none
  | some .outside => some tree
  | some (.inside names) =>
      if tree.isDirectory (.inside names) then none else some (tree.put names (.file text))

/-- The text of the file that a path leads to. -/
def text? (tree : FileTree) (path : String) : Option String :=
  match tree.place? (stepsOf path) with
  | some (.inside names) =>
      match tree.entry? names with
      | some (.file text) => some text
      | _ => none
  | _ => none

/-- The paths of all files. -/
def files (tree : FileTree) : List String :=
  (tree.entries.toList.filter (fun entry => entry.2 ≠ .directory)).map (·.1)

/-- The path of an entry of a directory. -/
def pathIn (dir name : String) : String :=
  if dir.endsWith "/" then dir ++ name else dir ++ "/" ++ name

end FileTree

end NodeIdentity.Manifest
