import TypedList.Unicode.Ranges

/-!
# White space

The `White_Space` property, the only characters that may stand between the symbols of a list
declaration and that separate tokens without being one.
-/

namespace TypedList.Unicode

/-- The code points with the property `White_Space`. -/
def whiteSpace : Ranges :=
  [(0x9, 0xD), (0x20, 0x20), (0x85, 0x85), (0xA0, 0xA0), (0x1680, 0x1680), (0x2000, 0x200A),
   (0x2028, 0x2029), (0x202F, 0x202F), (0x205F, 0x205F), (0x3000, 0x3000)]

end TypedList.Unicode

namespace TypedList

/-- Whether a character has the property `White_Space`. -/
def isWhiteSpace (c : Char) : Bool :=
  Unicode.whiteSpace.covers c

end TypedList
