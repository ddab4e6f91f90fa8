/-!
# Blank characters

The characters with the Unicode property White_Space: the ASCII blanks from tab to carriage
return and the space, the next line control, the no-break space, the Ogham space mark, the
spaces from en quad to hair space, the line and paragraph separators, the narrow no-break
space, the medium mathematical space and the ideographic space.
-/

namespace CpuBench.Text

/-- Whether `c` has the Unicode property White_Space. -/
def isBlank (c : Char) : Bool :=
  let n := c.toNat
  (9 ≤ n && n ≤ 13) || n == 0x20 || n == 0x85 || n == 0xA0 || n == 0x1680 ||
  (0x2000 ≤ n && n ≤ 0x200A) || n == 0x2028 || n == 0x2029 || n == 0x202F || n == 0x205F ||
  n == 0x3000

/-- The characters after any leading blanks. -/
def dropBlanks (cs : List Char) : List Char :=
  cs.dropWhile isBlank

/-- The number of bytes of the characters in UTF-8. -/
def byteLength (cs : List Char) : Nat :=
  (cs.map Char.utf8Size).foldl (· + ·) 0

end CpuBench.Text
