/-
Blanks: the characters with the Unicode property White_Space. Cutting the
blanks off both ends of a text is what `trim` does everywhere in this
library.
-/
import MetaGraph.Text.Ranges

namespace MetaGraph.Text

/-- The blanks, as ranges of code points. -/
def blankRanges : List (Nat × Nat) := [
  (0x9, 0xD), (0x20, 0x20), (0x85, 0x85), (0xA0, 0xA0), (0x1680, 0x1680), (0x2000, 0x200A),
  (0x2028, 0x2029), (0x202F, 0x202F), (0x205F, 0x205F), (0x3000, 0x3000)]

/-- Whether `c` is white space. -/
def isBlank (c : Char) : Bool := inRanges blankRanges c.toNat

/-- The characters without the blanks at their front. -/
def trimFront (cs : List Char) : List Char := cs.dropWhile isBlank

/-- The characters without the blanks at either end. -/
def trimChars (cs : List Char) : List Char := (trimFront (trimFront cs).reverse).reverse

/-- The text without the blanks at either end. -/
def trim (s : String) : String := String.ofList (trimChars s.toList)

theorem trimFront_of_not_blank {c : Char} {cs : List Char} (h : isBlank c = false) :
    trimFront (c :: cs) = c :: cs := by
  simp [trimFront, h]

end MetaGraph.Text
