import TypedList.Diagnostic

/-!
# The error log

One line per diagnostic, or a remark that there is none.
-/

namespace TypedList

/-- What stands in place of an empty error log. -/
def noErrors : Text :=
  "No errors found".toList

/-- The error log, without a line feed at its end. -/
def errorLog (errors : List Diagnostic) : Text :=
  if errors.isEmpty then noErrors
  else ['\n'].intercalate (errors.map Diagnostic.display)

end TypedList
