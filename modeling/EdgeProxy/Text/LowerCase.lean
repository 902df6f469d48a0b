import EdgeProxy.Text.CaseTable
/-!
Lower-casing of a text.  Every character is mapped by itself except two: a capital sigma becomes the
final form at the end of a word, and the dotted capital I becomes an i followed by a combining dot.
-/

namespace EdgeProxy.Text

/-- The capital sigma, whose lower-case form depends on its place in the word. -/
def capitalSigma : Char := 'Σ'

/-- The dotted capital I, whose lower-case form has two characters. -/
def dottedCapitalI : Char := 'İ'

/-- The offset by which a case run moves a code point, if it covers it. -/
def CaseRun.offset? (run : CaseRun) (n : Nat) : Option Int :=
  if run.first ≤ n && n ≤ run.last && (n - run.first) % run.stride == 0 then some run.offset
  else none

/-- The lower-case form of one character that has a form of one character. -/
def lowerChar (c : Char) : Char :=
  let n := c.toNat
  if n < 0x80 then
    if 0x41 ≤ n && n ≤ 0x5A then Char.ofNat (n + 0x20) else c
  else
    match caseRuns.findSome? (·.offset? n) with
    | some d => Char.ofNat ((n : Int) + d).toNat
    | none => c

/-- Whether a character is passed over when the end of a word is looked for. -/
def isIgnorable (c : Char) : Bool := inRanges ignorableRanges c.toNat

/-- Whether a character that is not passed over belongs to a word. -/
def isCased (c : Char) : Bool := inRanges casedRanges c.toNat

/-- Whether the first character that is not passed over belongs to a word. -/
def startsCased (cs : List Char) : Bool :=
  match cs.dropWhile isIgnorable with
  | [] => false
  | c :: _ => isCased c

/-- Lower-case a text; `inWord` tells whether the last character that is not passed over and stands
before it belongs to a word. -/
def lowerFrom (inWord : Bool) : List Char → List Char
  | [] => []
  | c :: rest =>
    let inWord' := if isIgnorable c then inWord else isCased c
    let here :=
      if c == capitalSigma then [if inWord && !startsCased rest then 'ς' else 'σ']
      else if c == dottedCapitalI then ['i', '\u0307']
      else [lowerChar c]
    here ++ lowerFrom inWord' rest

def lower (s : String) : String := String.ofList (lowerFrom false s.toList)

end EdgeProxy.Text
