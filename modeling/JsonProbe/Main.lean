import JsonProbe.Cli
import JsonProbe.SyntaxGuide
/-!
# The command-line program

Reads the input from `--input`, else from the environment variable `JSONMATCH_INPUT`, else from
standard input when it is not a terminal; runs the check and prints its outcome, or the error on
standard error with exit code 1.
-/

open JsonProbe

/-- Reads the rest of a stream as bytes. -/
partial def readBytes (stream : IO.FS.Stream) (acc : ByteArray) : IO ByteArray := do
  let chunk ← stream.read 65536
  if chunk.isEmpty then return acc
  readBytes stream (acc ++ chunk)

/-- Reads all of standard input unless it is a terminal; the text must be UTF-8. -/
def readStdin : IO (Except String (Option String)) := do
  let stdin ← IO.getStdin
  if ← stdin.isTty then return .ok none
  match String.fromUTF8? (← readBytes stdin ByteArray.empty) with
  | some text => return .ok (some text)
  | none => return .error "IO error: stream did not contain valid UTF-8"

def main (args : List String) : IO UInt32 := do
  match Cli.parse args with
  | .error msg =>
    IO.eprintln msg
    return 2
  | .ok inv =>
    match inv.command with
    | .help =>
      IO.print Cli.usage
      return 0
    | .guide =>
      IO.print syntaxGuide
      return 0
    | .check assertion path =>
      let input ← match inv.input with
        | some s => pure (.ok (some s))
        | none =>
          match ← IO.getEnv "JSONMATCH_INPUT" with
          | some s => pure (.ok (some s))
          | none => readStdin
      match input with
      | .error msg =>
        IO.eprintln msg
        return 1
      | .ok input =>
        match Check.run assertion path input with
        | .ok out =>
          IO.println (out.render inv.pretty)
          return 0
        | .error e =>
          IO.eprintln e.message
          return 1
