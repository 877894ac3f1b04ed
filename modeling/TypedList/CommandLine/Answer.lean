import TypedList.CommandLine.Arguments
import TypedList.CommandLine.Files
import TypedList.Report.ErrorLog
import TypedList.Report.Json
import TypedList.Report.Table

/-!
# Answering a command line

What a command line gives: an exit status and two output texts.  The status says whether the text
is a list declaration, whatever of it is shown, unless what is asked for cannot be printed: then the
program breaks off.
-/

namespace TypedList

/-- What a command line gives. -/
inductive Answer
  /-- The arguments cannot be read. -/
  | usageError
  /-- Help was asked for.  The argument parser gives it, or knows none on what was named. -/
  | help
  /-- The program ran to its end. -/
  | finished (exit : Nat) (stdout stderr : Text)
  /-- The program broke off before it had written anything but the message of the failure. -/
  | aborted (failure : TableFailure)
deriving DecidableEq, Repr

/-- The answer to the question for the version. -/
def versionLine : Text :=
  "listc 0.1.0\n".toList

/-- A source as error messages call it. -/
def Source.display : Source → Text
  | standardInput => "standard input".toList
  | file name => name

/-- The text that a source holds. -/
def Source.read (files : Files) (stdin : Content) : Source → Except ReadFailure Text
  | standardInput => stdin.text
  | file name => do (← files.find name).text

/-- The parts of an analysis as text: the table, an empty line between the two, and the error
log. -/
def Analysis.textReport (a : Analysis) : Parts → Except TableFailure Text
  | .tokens => printTable a.tokens
  | .errors => .ok (errorLog a.errors ++ ['\n'])
  | .both => do
    let table ← printTable a.tokens
    return table ++ '\n' :: errorLog a.errors ++ ['\n']

namespace Request

/-- The output for an analysis. -/
def output (r : Request) (a : Analysis) : Except TableFailure Text :=
  match r.format with
  | .text => a.textReport r.parts
  | .json => .ok (a.jsonReport r.parts ++ ['\n'])

/-- The answer, once the source has been read or could not be. -/
def answer (r : Request) : Except ReadFailure Text → Answer
  | .ok t =>
    let a := analyze r.mode t
    match r.output a with
    | .ok output => .finished (if a.isValid then 0 else 1) output []
    | .error failure => .aborted failure
  | .error failure =>
    .finished 2 []
      ("Error: reading ".toList ++ r.source.display ++ ": ".toList ++ failure.reason ++ ['\n'])

end Request

/-- The answer to a refused command line. -/
def Refusal.answer : Refusal → Answer
  | usage => .usageError
  | help => .help
  | version => .finished 0 versionLine []

/-- The answer to a command line, given the files and what standard input holds. -/
def answer (arguments : List Text) (files : Files) (stdin : Content) : Answer :=
  match readArguments arguments with
  | .error refusal => refusal.answer
  | .ok request => request.answer (request.source.read files stdin)

end TypedList
