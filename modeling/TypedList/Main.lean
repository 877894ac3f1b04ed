import TypedList.CommandLine.Answer

/-!
# The command line program

Reads the arguments and the source, asks for the answer, and writes it.
-/

namespace TypedList.Main

/-- The number of a system error; some system calls give it negated. -/
def errorNumber (code : UInt32) : UInt32 :=
  min code (0 - code)

/-- Why the system could not read a source. -/
def readFailure : IO.Error → ReadFailure
  | .noFileOrDirectory .. => .notFound
  | .inappropriateType _ code details =>
    if errorNumber code = 20 then .notDirectory
    else if errorNumber code = 21 then .isDirectory
    else .other details.toList
  | error => .other error.toString.toList

/-- The text that a source holds. -/
def readSource (source : Source) : IO (Except ReadFailure Text) := do
  let data : Except IO.Error ByteArray ← EIO.toIO' <|
    match source with
    | .standardInput => do (← IO.getStdin).readBinToEnd
    | .file name => IO.FS.readBinFile (String.ofList name)
  return match data with
    | .ok data => (Content.bytes data).text
    | .error error => .error (readFailure error)

/-- How the program is called. -/
def usage : String :=
  "Usage: listc [--format text|json] [--strings] [FILE] [tokens|check|analyze [FILE]]"

/-- Writes an answer and gives the exit status. -/
def write : Answer → IO UInt32
  | .usageError => do
    (← IO.getStderr).putStrLn usage
    return 2
  | .help => do
    (← IO.getStdout).putStrLn usage
    return 0
  | .finished exit stdout stderr => do
    (← IO.getStdout).putStr (String.ofList stdout)
    (← IO.getStderr).putStr (String.ofList stderr)
    return exit.toUInt32
  | .aborted failure => do
    (← IO.getStderr).putStrLn (String.ofList failure.message)
    return 101

/-- Answers one command line. -/
def run (arguments : List String) : IO UInt32 := do
  match readArguments (arguments.map String.toList) with
  | .error refusal => write refusal.answer
  | .ok request => write (request.answer (← readSource request.source))

end TypedList.Main

/-- The entry point. -/
def main (arguments : List String) : IO UInt32 :=
  TypedList.Main.run arguments
