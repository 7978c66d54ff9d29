import TypedVocabulary.Command.Usage

/-! # The program

The files that a command may read or write are taken into a tree, the command runs on it, and what
it has changed goes back to the file system. There is no access to a network, so no request is
answered.
-/
namespace TypedVocabulary.Program
open Command

def noNetwork : Reply := .notConnected "no network access"

def placeOf (p : Path) : Place :=
  p.names.foldl (fun place name => if name = ".." then place.up else place ++ [name])
    (if p.absolute then Place.root else [])

def textOf (place : Place) : String :=
  match place with
  | "/" :: names => "/" ++ String.intercalate "/" names
  | names => if names.isEmpty then "." else String.intercalate "/" names

def survey (t : FileTree) (place : Place) : IO FileTree := do
  let path := (← IO.currentDir) / textOf place
  if ← path.isDir then return t.addDirectory place
  else if ← path.pathExists then return t.addFile place (.bytes (← IO.FS.readBinFile path))
  else return t

def pathsOf (o : Options) : List Path :=
  let dirs := (o.language.bind fun l => (registry.find l).toOption).elim [] fun e => e.backend.dirs
  ((given o.file).toList ++ (given o.config).toList).map Path.ofText ++
    (given o.outputDir).toList.flatMap fun d =>
      dirs.map fun sub => (Path.ofText d).append (Path.ofText sub).names

def surveyPath (t : FileTree) (p : Path) : IO FileTree := do
  let place := placeOf p
  let places := (List.range (place.length + 1)).map place.take
  places.foldlM survey t

def surveyAll (args : List String) : IO FileTree :=
  match Options.read args with
  | .ok o => (pathsOf o).foldlM surveyPath .empty
  | .error _ => return .empty

/-- Brings the changes of a tree to the file system. Files from there are bytes, new ones texts. -/
def materialize (before after : FileTree) : IO Unit := do
  let here ← IO.currentDir
  for place in after.dirs do
    if !before.dirs.contains place then IO.FS.createDirAll (here / textOf place)
  for (place, content) in after.files do
    match content with
    | .text s => IO.FS.writeFile (here / textOf place) s
    | .bytes _ => pure ()

def finish (ending : Ending) : IO UInt32 := do
  let stderr ← IO.getStderr
  match ending with
  | .exit code => return code.toUInt32
  | .help => do
    helpLines.forM IO.println
    return 0
  | .version => return 0
  | .usage e => do
    [usageLine, faultText e].forM stderr.putStrLn
    return 2
  | .crash e => do
    stderr.putStrLn (e.message.toOption.getD "The input holds a value of a kind that does not fit.")
    return 1

end TypedVocabulary.Program

open TypedVocabulary in
def main (args : List String) : IO UInt32 := do
  let before ← Program.surveyAll args
  let outcome := Command.run args before Program.noNetwork
  outcome.output.forM IO.println
  Program.materialize before outcome.files
  Program.finish outcome.ending
