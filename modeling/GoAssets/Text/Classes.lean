import GoAssets.Text.Alphabetic
import GoAssets.Text.IdentifierPart
import GoAssets.Text.IdentifierStart
import GoAssets.Text.Invisible
import GoAssets.Text.Numeric

/-!
# Character classes

The classes of characters that the library asks about. Each is decided on ASCII by comparison
and beyond it by a table, so that facts about ASCII text never look into a table.
-/

namespace GoAssets.Text

/-- Whether a character is beyond ASCII and in `table`. -/
def inTable (table : Array (Nat × Nat)) (c : Char) : Bool :=
  decide (0x80 ≤ c.toNat) && inRanges table c.toNat

/-- Letters, and characters that behave like letters, of any script. -/
def isAlphabetic (c : Char) : Bool :=
  c.isAlpha || inTable alphabetic c

def isAlphanumeric (c : Char) : Bool :=
  c.isDigit || isAlphabetic c || inTable numeric c

def startsIdentifier (c : Char) : Bool :=
  c == '_' || c.isAlpha || inTable identifierStart c

def continuesIdentifier (c : Char) : Bool :=
  startsIdentifier c || c.isDigit || inTable identifierPart c

/-- Characters that a quoted text cannot show as themselves. -/
def isInvisible (c : Char) : Bool :=
  decide (c.toNat < 0x20) || c.toNat == 0x7f || inTable invisible c

end GoAssets.Text
