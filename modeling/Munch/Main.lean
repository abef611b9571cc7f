import Munch.Command.Program

/-!
# The program

The outer layer of the command line: it hands the arguments to the library, reads files and the
standard input for it, and prints what comes out.
-/

namespace Munch.Command

/-- The cause that an error of the system stands for. -/
def ioCause : IO.Error → IoError
  | .noFileOrDirectory .. => .notFound
  | .inappropriateType .. => .isDirectory
  | e => .other (toString e)

/-- Reads bytes as text. -/
def readBytes (read : IO ByteArray) : IO (Except IoError String) := do
  try
    return textOfBytes (← read)
  catch e =>
    return .error (ioCause e)

/-- Reads a stream to its end. -/
partial def readToEnd (stream : IO.FS.Stream) (acc : ByteArray) : IO ByteArray := do
  let block ← stream.read 65536
  if block.isEmpty then return acc else readToEnd stream (acc ++ block)

/-- The files, the standard input and the clock of the system. -/
def systemHost : Host IO where
  file path := readBytes (IO.FS.readBinFile path)
  input := do readBytes (readToEnd (← IO.getStdin) .empty)
  now := IO.monoMsNow

/-- Runs the program on its arguments, without its name; the answer is its exit code. -/
def runProgram (args : List String) : IO UInt32 := do
  let chunkSize ← IO.getEnv "CHUNKLEX_CHUNK_SIZE"
  let stepSize ← IO.getEnv "CHUNKLEX_STEP_SIZE"
  let environment := fun name => if name = "CHUNKLEX_CHUNK_SIZE" then chunkSize else stepSize
  let exit ← program systemHost environment args
  IO.print exit.stdout
  IO.eprint exit.stderr
  return exit.code.toUInt32

end Munch.Command

def main (args : List String) : IO UInt32 := Munch.Command.runProgram args
