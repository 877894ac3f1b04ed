import TypedList.Text.Basic

/-!
# Failures

What can go wrong around an analysis.  The analysis itself never fails: whatever it finds in a
text is part of its result.
-/

namespace TypedList

/-- A failure outside the analysis, with the words of the system that reported it. -/
inductive Failure
  /-- A text could not be read or written. -/
  | io (reason : Text)
  /-- A report could not be written as JSON. -/
  | json (reason : Text)
deriving DecidableEq, Repr

namespace Failure

/-- Whether reading or writing failed. -/
def isIo : Failure → Bool
  | io _ => true
  | json _ => false

/-- A failure as shown to the user. -/
def display : Failure → Text
  | io reason => "IO error: ".toList ++ reason
  | json reason => "JSON error: ".toList ++ reason

end Failure

end TypedList
