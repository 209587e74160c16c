import FontSubset.CommandLine.LogLine
import FontSubset.CommandLine.Program
import FontSubset.Host.Machine
/-! The program itself. What is below the working directory is read into a machine, the
command line is run there, and what it prints is printed. -/
namespace FontSubset

/-- All variables, as the system lists them for a process. -/
def readEnvironment : IO Environment := do
  let entries := (← IO.FS.readBinFile "/proc/self/environ").toList.splitOn 0
  return entries.filterMap fun entry =>
    let (name, value?) := CommandLine.Reader.atEquals entry
    value?.map fun value => (name, value)

/-- A limitation: a file with more bytes than this is read as an empty one, which tools that look
into it can tell. -/
def sizeLimit : UInt64 := 65536

/-- Limitations: neither modes nor the targets of links can be asked for. Every file counts as
executable, and a link as one to the path where it ends, or to `/nowhere` if it ends nowhere. -/
partial def readEntry (entry : IO.FS.DirEntry) : IO (Bytes × Files.Node) := do
  let metadata ← entry.path.symlinkMetadata
  let node ← match metadata.type with
    | .dir =>
      let entries ← (← entry.path.readDir).toList.mapM readEntry
      pure (.directory entries)
    | .file =>
      if sizeLimit < metadata.byteSize then pure (.file [] true)
      else pure (.file (← IO.FS.readBinFile entry.path).toList true)
    | .symlink =>
      let ending ← tryCatch (IO.FS.realPath entry.path) fun _ => pure "/nowhere"
      pure (.link (Text.encode ending.toString))
    | .other => pure (.device .null)
  return (Text.encode entry.fileName, node)

/-- A machine that works in the present directory. -/
def readMachine : IO Host.Machine := do
  let directory ← IO.currentDir
  let entries ← directory.readDir
  let node := Files.Node.directory (← entries.toList.mapM readEntry)
  let path := Path.ofString directory.toString
  let location := (Path.segmentsOf path.bytes).filter (· ≠ [])
  let files := (Host.baseFiles.makeDirectories path).toOption.getD Host.baseFiles
  let now := Int64.ofNat (← IO.monoMsNow)
  return ⟨{ files.put location node with here := location }, ← readEnvironment, ⟨now, 0⟩⟩

end FontSubset

open FontSubset in
def main (arguments : List String) : IO UInt32 := do
  let machine ← readMachine
  -- The account is not asked for a home, so the variable alone tells.
  let (transcript, _) := CommandLine.run Host.Machine.backend machine.environment none
    (arguments.map Text.encode) machine
  let stderr ← IO.getStderr
  for event in transcript.log do
    stderr.putStr (transcript.logFormat.line event)
  (← IO.getStdout).putStr transcript.stdout
  stderr.putStr transcript.stderr
  return UInt32.ofNat transcript.exitCode
