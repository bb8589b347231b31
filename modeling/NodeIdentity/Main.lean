import NodeIdentity.Manifest.Generator

/-!
# Command line

The command that writes the definitions of all kinds into a directory.
-/

namespace NodeIdentity.CommandLine

/-- Write the files of all kinds into a directory, and say so. -/
def writeManifests (dir : String) : IO UInt32 := do
  try
    IO.FS.createDirAll dir
  catch _ =>
    IO.eprintln ("Error: failed to create " ++ dir)
    return 1
  IO.println Manifest.opening
  for kind in Manifest.kinds do
    let path := Manifest.FileTree.pathIn dir (Manifest.fileName kind)
    try
      IO.FS.writeFile path (Manifest.fileText kind)
    catch _ =>
      IO.eprintln ("Error: failed to write " ++ path)
      return 1
    IO.println (Manifest.progress kind)
  IO.println (Manifest.closing dir)
  return 0

end NodeIdentity.CommandLine

/-- Run the command. -/
def main (arguments : List String) : IO UInt32 := do
  match NodeIdentity.Manifest.Request.ofArguments arguments with
  | .generate dir => NodeIdentity.CommandLine.writeManifests dir
  | .help =>
      for line in NodeIdentity.Manifest.helpLines do
        IO.println line
      return 0
  | .rejected =>
      IO.eprintln "error: invalid arguments"
      return 2
