/-
The command line. It reads what a run may need from the files of the machine,
runs the program on that, and writes back what the run changed. There is no
way to a network here: every request fails before it is sent.
-/
import MetaGraph.Command.Paths
import MetaGraph.Command.Run
import MetaGraph.Decimal.Power

namespace MetaGraph.Command

/-- A network without a way to any host. -/
def noNetwork : Network Unit where
  send request s := (.failed s!"error sending request for url ({request.url.text})" false, s)
  wait _ s := s

/-! ## The files of the machine -/

/-- What stands at a place of the machine, if anything can be read there. -/
def look (p : Place) : IO (Option Entry × List String) := do
  try
    let content ← IO.FS.readBinFile (pathOfPlace p)
    return (some (.file content.toList), [])
  catch _ =>
    try
      let directory ← IO.FS.realPath (pathOfPlace p)
      let names ← directory.readDir
      return (some .directory, names.toList.map (·.fileName))
    catch _ => return (none, [])

/-- The store with what stands at a place, and with what lies below it if `depth` levels
are asked for. -/
def gather (s : FileStore) (p : Place) : Nat → IO FileStore
  | 0 => do
    match ← look p with
    | (some e, _) => return s.put p e
    | (none, _) => return s
  | depth + 1 => do
    match ← look p with
    | (some e, names) => names.foldlM (fun s name => gather s (p ++ [name]) depth) (s.put p e)
    | (none, _) => return s

/-- How far below the paths of a job the files are read. -/
def depthBelow : Nat := 64

/-- The store with what stands on the way along a path, and what lies below its end. -/
def gatherPath (s : FileStore) (path : String) (depth : Nat) : IO FileStore := do
  let places := placesOf s.home path
  let s ← places.foldlM (fun s p => gather s p 0) s
  match places.getLast? with
  | some p => gather s p depth
  | none => return s

/-- The store with the files of variables that a run from its working directory may read. -/
def gatherVariables (s : FileStore) : IO FileStore :=
  (EnvFile.upwards s.home).foldlM (fun s dir => gather s (dir ++ [EnvFile.fileName]) 0) s

/-- The files that a run may need. -/
def gatherFor (words : List String) (vars : EnvFile.Variables) (s : FileStore) :
    IO FileStore := do
  match Invocation.ofWords words with
  | .run file _ => do
    let s ← gatherPath (← gatherVariables s) file 0
    match JobConfig.load s (EnvFile.load s vars) file with
    | .ok config => (pathsOf config).foldlM (fun s path => gatherPath s path depthBelow) s
    | .error _ => return s
  | _ => return s

/-- Removes from the machine what is no longer in the store, and writes what is new. -/
def writeBack (before after : FileStore) : IO Unit := do
  let byDepth := fun (a b : Place × Entry) => decide (a.1.length ≤ b.1.length)
  let gone := (before.entries.filter fun x => (after.entry? x.1).isNone).mergeSort byDepth
  for (p, e) in gone.reverse do
    match e with
    | .file _ => IO.FS.removeFile (pathOfPlace p)
    | .directory => IO.FS.removeDir (pathOfPlace p)
  let new := (after.entries.filter fun x => before.entry? x.1 != some x.2).mergeSort byDepth
  for (p, e) in new do
    match e with
    | .directory => IO.FS.createDirAll (pathOfPlace p)
    | .file content => IO.FS.writeBinFile (pathOfPlace p) (ByteArray.mk content.toArray)

/-! ## The environment -/

/-- The variables of the process, in their order. -/
def environment : IO EnvFile.Variables := do
  try
    let content ← IO.FS.readBinFile "/proc/self/environ"
    match Utf8.decode content.toList with
    | .ok text => return (Text.splitOn '\x00' text).filterMap (Text.cutAt? '=')
    | .error _ => return []
  catch _ => return []

/-- A name for a run: random, in the form of a version 4 identifier. -/
def newRunId : IO String := do
  let bytes := (← IO.getRandomBytes 16).toList
  let hex (b : UInt8) : List Char := [Nat.digitChar (b.toNat / 16), Nat.digitChar (b.toNat % 16)]
  let set (i : Nat) (b : UInt8) : UInt8 :=
    if i = 6 then b % 16 + 0x40 else if i = 8 then b % 64 + 0x80 else b
  let groups := bytes.zipIdx.map fun (b, i) =>
    (if [4, 6, 8, 10].contains i then ['-'] else []) ++ hex (set i b)
  return String.ofList groups.flatten

/-- More steps than any job takes. -/
def stepLimit : Nat := tenTo 18

/-- Runs the program on the machine. -/
def runProgram (words : List String) : IO UInt32 := do
  let home := Path.components (← IO.currentDir).toString
  let vars ← environment
  let empty : FileStore := { home }
  let before ← gatherFor words vars empty
  let world : World Unit := { words, vars, network := noNetwork, runId := ← newRunId }
  let (outcome, state) := execute world stepLimit { files := before, network := () }
  writeBack before state.files
  let outcome := outcome.getD (.failure "The job did not come to an end" [])
  (← IO.getStdout).putStr outcome.output
  (← IO.getStderr).putStr outcome.complaint
  return outcome.exitCode.toUInt32

end MetaGraph.Command

/-- The program. -/
def main (words : List String) : IO UInt32 := MetaGraph.Command.runProgram words
