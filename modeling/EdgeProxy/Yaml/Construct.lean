import EdgeProxy.Yaml.Scalar
/-!
The values that nodes stand for.
-/

namespace EdgeProxy.Yaml

def asKey (v : Value) : Except ReadError Value := if v.isKey then .ok v else .error .malformed

mutual
def Node.value : Node → Except ReadError Value
  | .plain s => resolve s
  | .text s => .ok (.text s)
  | .list items => do
    let values ← valuesOf items
    .ok (.list values)
  | .map pairs => do
    let values ← valuePairs pairs
    .ok (.map (ofPairs values))

def valuesOf : List Node → Except ReadError (List Value)
  | [] => .ok []
  | node :: rest => do
    let v ← node.value
    let values ← valuesOf rest
    .ok (v :: values)

/-- The values of pairs of nodes; the first of a pair has to be a key. -/
def valuePairs : List (Node × Node) → Except ReadError (List (Value × Value))
  | [] => .ok []
  | (k, v) :: rest => do
    let key ← k.value >>= asKey
    let v ← v.value
    let values ← valuePairs rest
    .ok ((key, v) :: values)
end

end EdgeProxy.Yaml
