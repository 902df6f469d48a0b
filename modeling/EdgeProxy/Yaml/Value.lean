import EdgeProxy.Number.Binary64
/-!
YAML documents: the nodes that their text spells and the values that nodes stand for.  The keys of a
map are values too, but neither lists nor maps.
-/

namespace EdgeProxy.Yaml

/-- A node: a scalar without quotes, which may stand for a number or the like, a text, a list or a
map. -/
inductive Node where
  | plain (s : String)
  | text (s : String)
  | list (items : List Node)
  | map (pairs : List (Node × Node))

def Node.nothing : Node := .plain ""

inductive Value where
  | null
  | bool (b : Bool)
  | int (n : Int)
  | float (x : Binary64)
  | text (s : String)
  /-- A date. -/
  | date
  /-- A date with a time of day. -/
  | dateTime
  | list (items : List Value)
  | map (pairs : List (Value × Value))

namespace Value

def kindName : Value → String
  | null => "NoneType"
  | bool _ => "bool"
  | int _ => "int"
  | float _ => "float"
  | text _ => "str"
  | date => "date"
  | dateTime => "datetime"
  | list _ => "list"
  | map _ => "dict"

def isKey : Value → Bool
  | list _ | map _ => false
  | _ => true

def number? : Value → Option Binary64
  | bool b => some (Binary64.ofInt (if b then 1 else 0))
  | int n => some (Binary64.ofInt n)
  | float x => some x
  | _ => none

/-- Whether two keys are the same key: numbers and flags by what they count as. -/
def sameKey (a b : Value) : Bool :=
  match a, b with
  | text s, text t => s == t
  | null, null => true
  | int m, int n => m == n
  | a, b =>
    match a.number?, b.number? with
    | some x, some y => x.sameNumber y && x != .nan
    | _, _ => false

end Value

def lookup (pairs : List (Value × Value)) (key : String) : Option Value :=
  (pairs.find? fun (k, _) => k.sameKey (.text key)).map (·.2)

/-- Give a key a value: in its place if it is present, at the end otherwise. -/
def setKey (pairs : List (Value × Value)) (key value : Value) : List (Value × Value) :=
  match pairs with
  | [] => [(key, value)]
  | (k, v) :: rest => if k.sameKey key then (k, value) :: rest else (k, v) :: setKey rest key value

/-- The pairs of a map in which later values replace earlier ones. -/
def ofPairs (pairs : List (Value × Value)) : List (Value × Value) :=
  pairs.foldl (fun m (k, v) => setKey m k v) []

end EdgeProxy.Yaml
