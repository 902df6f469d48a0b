/-!
Blank characters and trimming.  `isSpace` is the Unicode white-space property; `isBlank` adds the
four information separators, which text that people type is trimmed of as well.
-/

namespace EdgeProxy.Text

/-- The characters with the Unicode property White_Space. -/
def isSpace (c : Char) : Bool :=
  let n := c.toNat
  (9 ≤ n && n ≤ 13) || n == 0x20 || n == 0x85 || n == 0xA0 || n == 0x1680 ||
    (0x2000 ≤ n && n ≤ 0x200A) || n == 0x2028 || n == 0x2029 || n == 0x202F || n == 0x205F ||
    n == 0x3000

/-- White space and the separators U+001C to U+001F. -/
def isBlank (c : Char) : Bool :=
  isSpace c || (0x1C ≤ c.toNat && c.toNat ≤ 0x1F)

/-- Drop the characters satisfying `p` from both ends. -/
def trimWith (p : Char → Bool) (cs : List Char) : List Char :=
  ((cs.dropWhile p).reverse.dropWhile p).reverse

/-- Drop blank characters from both ends. -/
def trim (s : String) : String := String.ofList (trimWith isBlank s.toList)

/-- Drop every trailing occurrence of one character. -/
def dropTrailing (c : Char) (s : String) : String :=
  String.ofList ((s.toList.reverse.dropWhile (· == c)).reverse)

/-- The first `n` characters. -/
def clip (n : Nat) (s : String) : String := String.ofList (s.toList.take n)

theorem isBlank_of_isSpace {c : Char} (h : isSpace c = true) : isBlank c = true := by
  simp [isBlank, h]

end EdgeProxy.Text
