import HotSchema.Text.Alphabetic
import HotSchema.Text.Mark
import HotSchema.Text.Numeric
/-!
# Character classes

The classes of characters that the library's rules speak of: blanks, which separate words and are
trimmed; word characters, which make up a name inside a message; and alphanumeric characters, the
narrower class without marks. All three are classes of Unicode, so a name may be written in any script.

Unicode's classes grow from version to version, and nothing that the library reads says which version it was
written in. All tables are those of version 17, of one version so that a letter is the same thing to a pattern
as it is to a list of names; what later versions add belongs to none of the classes.
-/

namespace HotSchema.Text

/-- The code points of the property White_Space. -/
def blank : Ranges :=
  [(0x9, 0xd), (0x20, 0x20), (0x85, 0x85), (0xa0, 0xa0), (0x1680, 0x1680), (0x2000, 0x200a),
    (0x2028, 0x2029), (0x202f, 0x202f), (0x205f, 0x205f), (0x3000, 0x3000)]

/-- The code points of general category Pc: the low line and its relatives. -/
def connector : Ranges :=
  [(0x5f, 0x5f), (0x203f, 0x2040), (0x2054, 0x2054), (0xfe33, 0xfe34), (0xfe4d, 0xfe4f),
    (0xff3f, 0xff3f)]

/-- The zero-width non-joiner and joiner. -/
def joinControl : Ranges := [(0x200c, 0x200d)]

def isBlank (c : Char) : Bool := blank.has c

def isWord (c : Char) : Bool :=
  alphabetic.has c || decimalDigit.has c || connector.has c || mark.has c || joinControl.has c

def isAlphanumeric (c : Char) : Bool := alphabetic.has c || numeric.has c

end HotSchema.Text
