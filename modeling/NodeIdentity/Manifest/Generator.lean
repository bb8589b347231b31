import NodeIdentity.Manifest.Definition
import NodeIdentity.Manifest.FileTree
import NodeIdentity.Manifest.Yaml
import NodeIdentity.Text.Lines

/-!
# Manifest generator

The command that writes the definitions of all kinds into a directory, one file a kind, as a function
on the files that are there: which arguments it takes, which files it leaves, and what it says.
-/

namespace NodeIdentity.Manifest

/-- What stands at the head of every generated file. -/
structure Notice where
  year : Nat
  holder : String
  license : String
  /-- What the file is made from. -/
  origin : String
  /-- The command that makes it. -/
  command : String

/-- The notice of the manifests. -/
def notice : Notice where
  year := 2025
  holder := "Erick Bourgeois, firestoned"
  license := "MIT"
  origin := "src/crd.rs"
  command := "cargo run --bin crdgen"

/-- The lines of a notice. -/
def Notice.lines (notice : Notice) : List String :=
  ["# Copyright (c) " ++ toString notice.year ++ " " ++ notice.holder,
    "# SPDX-License-Identifier: " ++ notice.license,
    "#",
    "# This file is AUTO-GENERATED from " ++ notice.origin,
    "# DO NOT EDIT MANUALLY - Run \x60" ++ notice.command ++ "\x60 to regenerate",
    "#"]

/-- The name of the file for a kind. -/
def fileName (kind : Kind) : String :=
  kind.plural ++ ".crd.yaml"

/-- The text of the file for a kind. -/
def fileText (kind : Kind) : String :=
  String.join (notice.lines.map (· ++ "\n")) ++ Yaml.render kind.definition

/-- What the arguments ask for. -/
inductive Request
  /-- Write the files into a directory. -/
  | generate (dir : String)
  | help
  /-- The arguments cannot be made sense of. -/
  | rejected
deriving DecidableEq, Repr

/-- The directory that is written to where the arguments name none. -/
def defaultDir : String := "deploy/crds"

/-- An argument. -/
inductive Argument
  /-- The option that names the directory, with its value if that is attached. -/
  | dir (value : Option String)
  | help
  /-- A text that can be the value of an option before it, and nothing else. -/
  | value (text : String)
  /-- The end of the options. -/
  | stop
  | unknown
deriving DecidableEq, Repr

/-- The option that an argument of single letters gives: a help letter shadows what follows it. -/
def shortOption : List Char → Argument
  | 'o' :: [] => .dir none
  | 'o' :: '=' :: rest => .dir (some (String.ofList rest))
  | 'o' :: rest => .dir (some (String.ofList rest))
  | 'h' :: _ => .help
  | _ => .unknown

/-- What an argument is. -/
def Argument.ofText (text : String) : Argument :=
  if text = "--" then .stop
  else if text = "--help" then .help
  else if text = "--output-dir" then .dir none
  else
    match text.toList with
    | '-' :: '-' :: rest =>
        let name := rest.takeWhile (· ≠ '=')
        let value := (rest.dropWhile (· ≠ '=')).drop 1
        if String.ofList name = "output-dir" then .dir (some (String.ofList value)) else .unknown
    | '-' :: c :: rest => shortOption (c :: rest)
    | _ => .value text

/-- Read arguments in order, with the directory that those before have named. -/
def readArguments (dir : Option String) : List Argument → Request
  | [] => .generate (dir.getD defaultDir)
  | .help :: _ => .help
  | .dir value :: rest =>
      if dir.isSome then .rejected
      else
        match value, rest with
        | some value, rest => if value.isEmpty then .rejected else readArguments (some value) rest
        | none, .value value :: rest =>
            if value.isEmpty then .rejected else readArguments (some value) rest
        | none, _ => .rejected
  | .stop :: rest => if rest.isEmpty then .generate (dir.getD defaultDir) else .rejected
  | .value _ :: _ | .unknown :: _ => .rejected

/-- What the arguments of the command ask for. -/
def Request.ofArguments (arguments : List String) : Request :=
  readArguments none (arguments.map Argument.ofText)

/-- How a run of the command ends. -/
structure Run where
  exit : Nat
  tree : FileTree
  /-- What is said, one thing after the other. -/
  said : List String := []
  /-- What the run fails with. -/
  failure : Option String := none

/-- The lines that are said. -/
def Run.stdout (run : Run) : List String :=
  Text.lines (String.join (run.said.map (· ++ "\n")))

/-- The first line of the report of a failure. -/
def Run.stderr? (run : Run) : Option String :=
  run.failure.bind (fun words => (Text.lines ("Error: " ++ words)).head?)

/-- What the help says. -/
def helpLines : List String :=
  ["Generate nodenet CRD manifests",
    "",
    "Usage: crdgen [OPTIONS]",
    "",
    "Options:",
    "  -o, --output-dir <OUTPUT_DIR>  Directory the manifests are written to [default: " ++
      defaultDir ++ "]",
    "  -h, --help                     Print help"]

/-- The kinds in the order in which their files are written. -/
def kinds : List Kind :=
  [.nodeSet, .ipReservation, .netConfig, .dnsService, .dnsRecordSet]

/-- What is said before the files are written. -/
def opening : String :=
  "Generating CRD YAML files from " ++ notice.origin ++ "..."

/-- What is said when the file for a kind is written. -/
def progress (kind : Kind) : String :=
  "  ✓ Generated " ++ fileName kind

/-- What is said when all files are written into a directory. -/
def closing (dir : String) : String :=
  "✓ Successfully generated CRD YAML files in " ++ dir

/-- Write the files of some kinds into a directory, after what was said before. -/
def writeFiles (dir : String) (tree : FileTree) (said : List String) : List Kind → Run
  | [] => { exit := 0, tree := tree, said := said ++ [closing dir] }
  | kind :: rest =>
      let path := FileTree.pathIn dir (fileName kind)
      match tree.setText path (fileText kind) with
      | some tree => writeFiles dir tree (said ++ [progress kind]) rest
      | none => { exit := 1, tree := tree, said := said, failure := some ("failed to write " ++ path) }

/-- Write the files of all kinds into a directory. -/
def generate (tree : FileTree) (dir : String) : Run :=
  match tree.makeDirectories dir with
  | some tree => writeFiles dir tree [opening] kinds
  | none => { exit := 1, tree := tree, failure := some ("failed to create " ++ dir) }

/-- Run the command on the files that are there. -/
def run (tree : FileTree) (arguments : List String) : Run :=
  match Request.ofArguments arguments with
  | .generate dir => generate tree dir
  | .help => { exit := 0, tree := tree, said := helpLines }
  | .rejected => { exit := 2, tree := tree }

end NodeIdentity.Manifest
