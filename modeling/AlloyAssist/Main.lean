import AlloyAssist.Catalog.File
import AlloyAssist.CommandLine.Paths
import AlloyAssist.Session.Frame
import AlloyAssist.Session.Server

/-!
# The program

Reads the command line, loads the catalog, and talks to the editor over the standard
streams. All decisions are made elsewhere: here bytes are read and written.
-/

namespace AlloyAssist.Main

open CommandLine

/-- What is found under a path. -/
def readFile (path : String) : IO FileContent := do
  try
    return .ofBytes (← IO.FS.readBinFile path)
  catch _ => return .unreadable

/-- The environment of the process. An empty path names no home directory. -/
def readEnvironment : IO Environment := do
  let home := (← IO.getEnv "HOME").filter fun path => !path.isEmpty
  return { home, configHome := ← IO.getEnv "XDG_CONFIG_HOME" }

/-- Read header lines up to the empty one, and return the length they tell. At the
end of the stream there is none. -/
partial def readHeader (stream : IO.FS.Stream) (length : Option Nat) : IO (Option Nat) := do
  let line ← stream.getLine
  if line.isEmpty then return none
  else if line == "\r\n" || line == "\n" then return length
  else readHeader stream ((Frame.length? line).or length)

/-- Read so many bytes, or fewer at the end of the stream. -/
partial def readBytes (stream : IO.FS.Stream) (count : Nat) (read : ByteArray) :
    IO ByteArray := do
  if count ≤ read.size then return read
  let chunk ← stream.read (count - read.size).toUSize
  if chunk.isEmpty then return read else readBytes stream count (read ++ chunk)

/-- Receive frames until the stream ends or the server stops reading. -/
partial def serve (catalog : Catalog) (server : Server) (input output : IO.FS.Stream) :
    IO Unit := do
  if server.isReading then
    match ← readHeader input none with
    | none => return
    | some length =>
        let body ← readBytes input length ByteArray.empty
        let (server, written) := server.receiveBytes catalog body
        for json in written do
          output.putStr (Frame.encode json)
        output.flush
        serve catalog server input output

end AlloyAssist.Main

open AlloyAssist AlloyAssist.Main in
/-- Run the server with the given arguments. -/
def main (arguments : List String) : IO UInt32 := do
  match CommandLine.Options.parse arguments with
  | .error refusal =>
      (← IO.getStdout).putStr refusal.output
      return refusal.exitCode.toUInt32
  | .ok options =>
      let files ← (options.catalogPaths (← readEnvironment)).mapM readFile
      serve (Catalog.load files) Server.start (← IO.getStdin) (← IO.getStdout)
      return 0
