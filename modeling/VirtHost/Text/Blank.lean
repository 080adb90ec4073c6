import VirtHost.Text.CharacterClass

/-! # Blanks, trimming and words

* `isBlank`: the Unicode property White_Space.
* `trim`, `trimStart`, `trimEnd`: a text without the blanks at its ends.
* `words`: the maximal runs of non-blank characters, in order.
-/

namespace VirtHost.Text
set_option autoImplicit false

def blankRanges : List (Nat × Nat) :=
  [(0x09, 0x0d), (0x20, 0x20), (0x85, 0x85), (0xa0, 0xa0), (0x1680, 0x1680), (0x2000, 0x200a),
   (0x2028, 0x2029), (0x202f, 0x202f), (0x205f, 0x205f), (0x3000, 0x3000)]

def isBlank (c : Char) : Bool :=
  inRanges blankRanges c

/-! ## Trimming -/

def trimStart (s : List Char) : List Char :=
  s.dropWhile isBlank

def trimEnd (s : List Char) : List Char :=
  (s.reverse.dropWhile isBlank).reverse

def trim (s : List Char) : List Char :=
  trimEnd (trimStart s)

/-! ## Words -/

def words (s : List Char) : List (List Char) :=
  (s.splitOnP isBlank).filter fun w => !w.isEmpty

end VirtHost.Text
