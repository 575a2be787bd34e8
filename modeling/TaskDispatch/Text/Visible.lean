import TaskDispatch.Text.Combining
import TaskDispatch.Text.Unassigned

/-!
# Characters that quoted text shows as they are

Quoted text shows a character as it is unless a reader could not see it standing alone: control and
format characters, separators other than the space, characters for private use, code points without
a character, characters that are not displayed at all, and characters that combine with the one
before them.
-/

namespace TaskDispatch.Text

/-- Control, format and private-use characters, surrogates, and separators other than the space
(categories Cc, Cf, Co, Cs, Zl, Zp, Zs). -/
def invisibleRanges : List (Nat × Nat) :=
  [ (0x0, 0x1f), (0x7f, 0xa0), (0xad, 0xad), (0x600, 0x605), (0x61c, 0x61c), (0x6dd, 0x6dd),
    (0x70f, 0x70f), (0x890, 0x891), (0x8e2, 0x8e2), (0x1680, 0x1680), (0x180e, 0x180e),
    (0x2000, 0x200f), (0x2028, 0x202f), (0x205f, 0x2064), (0x2066, 0x206f), (0x3000, 0x3000),
    (0xd800, 0xf8ff), (0xfeff, 0xfeff), (0xfff9, 0xfffb), (0x110bd, 0x110bd), (0x110cd, 0x110cd),
    (0x13430, 0x1343f), (0x1bca0, 0x1bca3), (0x1d173, 0x1d17a), (0xe0001, 0xe0001),
    (0xe0020, 0xe007f), (0xf0000, 0xffffd), (0x100000, 0x10fffd) ]

/-- Letters that stand for the absence of a letter (those with the property
Default_Ignorable_Code_Point). -/
def ignorableRanges : List (Nat × Nat) :=
  [ (0x115f, 0x1160), (0x3164, 0x3164), (0xffa0, 0xffa0) ]

/-- True if one of the ranges holds the code point. -/
def inRanges (ranges : List (Nat × Nat)) (codePoint : Nat) : Bool :=
  ranges.any fun range => decide (range.1 ≤ codePoint) && decide (codePoint ≤ range.2)

/-- True for a character that quoted text shows as it is. -/
def isVisible (character : Char) : Bool :=
  if character.toNat < 0x7f then decide (0x20 ≤ character.toNat)
  else
    !(inRanges invisibleRanges character.toNat || inRanges ignorableRanges character.toNat ||
      inRanges combiningRanges character.toNat || inRanges unassignedRanges character.toNat)

/-- Below U+007F exactly the control characters are hidden. -/
theorem isVisible_ascii (character : Char) (small : character.toNat < 0x7f) :
    isVisible character = decide (0x20 ≤ character.toNat) := by
  rw [isVisible, if_pos small]

end TaskDispatch.Text
