/-!
Control sequences of terminals: an escape character, a bracket, digits with semicolons and question
marks, and a letter.
-/

namespace EdgeProxy.Text

/-- Whether a character stands between the bracket and the letter of a control sequence. -/
def isControlParameter (c : Char) : Bool := c == ';' || c == '?' || c.isDigit

/-- The length of the control sequence at the front, zero if there is none. -/
def controlLength : List Char → Nat
  | '\x1b' :: '[' :: rest =>
    let parameters := rest.takeWhile isControlParameter
    match rest.drop parameters.length with
    | c :: _ => if c.isAlpha then parameters.length + 3 else 0
    | [] => 0
  | _ => 0

/-- Drop control sequences, after `skip` more characters. -/
def dropControls (skip : Nat) : List Char → List Char
  | [] => []
  | c :: rest =>
    match skip with
    | n + 1 => dropControls n rest
    | 0 =>
      match controlLength (c :: rest) with
      | n + 1 => dropControls n rest
      | 0 => c :: dropControls 0 rest

def withoutControls (s : String) : String := String.ofList (dropControls 0 s.toList)

end EdgeProxy.Text
