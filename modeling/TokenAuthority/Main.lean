import Std.Time.DateTime.Timestamp
import TokenAuthority.CommandLine.Run

/-!
# The program

Gathers what a command line depends on, files, environment variables, the time and random bits, and
prints its outcome. Nothing is decided here.
-/

namespace TokenAuthority
namespace CommandLine

/-- What is at a path: nothing, a directory, given without its entries, or a file. A file that may not
be read counts as one that holds no text. -/
def nodeAt? (path : String) : IO (Option Files.Node) := do
  let place := (← IO.currentDir) / path
  if ← place.isDir then
    return some (.directory [])
  else if ← place.pathExists then
    try
      return some (.file (← IO.FS.readBinFile place).data.toList)
    catch _ =>
      return some (.file [0xff])
  else
    return none

/-- Adds what a path leads to, unless it is there. -/
def addNode (tree : Files.Tree) (path : String) : IO Files.Tree := do
  if path.isEmpty || tree.contains path then
    return tree
  match ← nodeAt? path with
  | some node => return tree.insert path node
  | none => return tree

/-- Adds what a path leads to, with the directories on the way. -/
def addPath (tree : Files.Tree) (path : String) : IO Files.Tree := do
  addNode (← (Files.pathsAbove path).foldlM addNode tree) path

/-- Adds the files of key pairs in the directory that a path leads to. -/
def addEntries (tree : Files.Tree) (path : String) : IO Files.Tree := do
  if !tree.isDirectory path then
    return tree
  let entries ← ((← IO.currentDir) / path).readDir
  let names := (entries.toList.map fun entry => entry.fileName).filter KeyStore.isEntry
  names.foldlM (fun tree name => addNode tree (Files.join path name)) tree

/-- A tree with nothing but the working directory. -/
def emptyTree : IO Files.Tree := do
  let path := (← IO.currentDir).toString
  let names := (Text.splitAll '/' path).filter fun name => !name.isEmpty
  let tree : Files.Tree := { root := .directory [], workingDirectory := names }
  return tree.insert path (.directory [])

/-- The files that a command line can depend on. -/
def readFiles (environment : Config.Environment) (arguments : List String) : IO Files.Tree := do
  let tree ← emptyTree
  match Invocation.ofArguments environment arguments with
  | .error _ => return tree
  | .ok invocation =>
    let tree ← (invocation.settingPaths environment).foldlM addPath tree
    match Config.load tree environment invocation.configPath with
    | .error _ => return tree
    | .ok settings =>
      let tree ← settings.keystore.locations.foldlM addPath tree
      let tree ← settings.keystore.locations.foldlM addEntries tree
      settings.keystore.keyPaths.foldlM addPath tree

/-- The environment variables that are set among those that matter. -/
def readEnvironment : IO Config.Environment :=
  variableNames.filterMapM fun name => return (← IO.getEnv name).map fun value => (name, value)

/-- The present time. -/
def readClock : IO Time.Instant := do
  let elapsed := (← Std.Time.Timestamp.now).toNanosecondsSinceUnixEpoch.val
  return { seconds := elapsed / 1000000000, nanoseconds := (elapsed % 1000000000).toNat }

/-- A new identifier. -/
def newId : IO Uuid := do
  let bytes ← IO.getRandomBytes 16
  return Uuid.random (bytes.data.foldl (fun bits byte => bits <<< 8 ||| BitVec.ofNat 128 byte.toNat) 0)

end CommandLine
end TokenAuthority

open TokenAuthority CommandLine in
/-- Carries out a command line. -/
def main (arguments : List String) : IO UInt32 := do
  let environment ← readEnvironment
  let surroundings : Surroundings :=
    { files := ← readFiles environment arguments
      environment
      now := ← readClock
      ids := { access := ← newId, refresh := ← newId, event := ← newId } }
  let outcome := CommandLine.outcome surroundings arguments
  IO.print outcome.output
  IO.eprint outcome.errors
  return UInt32.ofNat outcome.code
