import Stencil.Command.Run
import Stencil.Host.Console.Table
import Stencil.Host.Libraries

/-!
# The program

Runs the command line in the current directory.  The files below it, those an
argument names and the views are read before the command runs, and what the
command changes is written afterwards.
-/

namespace Stencil.Program

/-- The tree with what is at a place, if anything is.  A directory that is
reached through a link is left out, and so is a file that cannot be read. -/
partial def readBelow (location : Location) (tree : FileTree) : IO FileTree := do
  let path := (← IO.currentDir) / String.ofList (Location.text location)
  if ← path.isDir then
    let mut tree := { tree with directories := location :: tree.directories }
    for entry in ← path.readDir do
      let below := location ++ [entry.fileName.toList]
      if (← entry.path.symlinkMetadata).type == .symlink && (← entry.path.isDir) then continue
      tree ← readBelow below tree
    return tree
  else
    match ← (IO.FS.readBinFile path).toBaseIO with
    | .ok content => return { tree with files := (location, content.toList) :: tree.files }
    | .error _ => return tree

/-- The tree with what is at a place and the directories that lead there,
unless the tree has that already. -/
def readAt (location : Location) (tree : FileTree) : IO FileTree := do
  if tree.isDirectory location || (tree.content? location).isSome then return tree
  let path := (← IO.currentDir) / String.ofList (Location.text location)
  if ← path.pathExists then
    match tree.makeDirectory location.dropLast with
    | .ok tree => readBelow location tree
    | .error _ => return tree
  else return tree

/-- The tree with what a path leads to and the directories that it passes. -/
def readAlong (base : Location) (value : Text) (tree : FileTree) : IO FileTree := do
  let mut tree := tree
  let here ← IO.currentDir
  let path := Path.ofText value
  for count in List.range path.parts.length do
    let passed := Location.ofPath base { path with parts := path.parts.take count }
    if ← (here / String.ofList (Location.text passed)).isDir then
      if let .ok wider := tree.makeDirectory passed then tree := wider
  readAt (Location.ofPath base path) tree

/-- The values that an argument may hold. -/
def valuesOf (argument : Text) : List Text :=
  match Host.Arguments.splitOption argument with
  | (name, some value) => [name, value]
  | (name, none) => [name]

/-- The files that a command line can see. -/
def readTree (base : Location) (arguments : List Text) : IO FileTree := do
  let mut tree ← readAt base FileTree.empty
  for value in arguments.flatMap valuesOf do
    if value ≠ [] then tree ← readAlong base value tree
  match Command.viewsRoot? Host.command tree base arguments with
  | some root => readAt root tree
  | none => return tree

def writeChanges (before after : FileTree) : IO Unit := do
  let here ← IO.currentDir
  for location in after.directories do
    unless before.isDirectory location do
      IO.FS.createDirAll (here / String.ofList (Location.text location))
  for (location, content) in after.files do
    unless before.content? location = some content do
      IO.FS.writeBinFile (here / String.ofList (Location.text location))
        (ByteArray.mk content.toArray)

/-- Tells how a command ended, and gives its exit code. -/
def report : Command.Ending → IO UInt32
  | .misused => do
      IO.eprintln "Usage: stencil [--config FILE] [--views-path DIRECTORY] COMMAND"
      IO.eprintln "Commands:"
      IO.eprintln "  render VIEW [--data FILE] [--input KEY=VALUE]... [--output FILE]"
      IO.eprintln "    [--no-cache] [--drop-undefined]"
      IO.eprintln "  validate VIEW"
      IO.eprintln "  list-views"
      return 2
  | .finished code output errors => do
      IO.print (String.ofList output)
      IO.eprint (String.ofList errors)
      return UInt32.ofNat code
  | .listed table => do
      IO.print (String.ofList (Host.Console.Table.text table))
      return 0

end Stencil.Program

def main (arguments : List String) : IO UInt32 := do
  let arguments := arguments.map String.toList
  let here := (← IO.currentDir).toString.toList
  let base := Stencil.Location.ofPath [] (Stencil.Path.ofText here)
  let before ← Stencil.Program.readTree base arguments
  match Stencil.Command.run Stencil.Host.command before base arguments with
  | .ok (ending, after) =>
      Stencil.Program.writeChanges before after
      Stencil.Program.report ending
  | .error fault =>
      IO.eprintln (String.ofList fault.message)
      return 1
