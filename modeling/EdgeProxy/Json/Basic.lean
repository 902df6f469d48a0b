import EdgeProxy.Number.Binary64
/-!
JSON values.  Integers and floating-point numbers are told apart, and an object is the list of its
fields in document order, each key once.
-/

namespace EdgeProxy

/-- A JSON value. -/
inductive Json where
  | null
  | bool (b : Bool)
  | int (n : Int)
  | float (x : Binary64)
  | str (s : String)
  | arr (items : List Json)
  | obj (fields : List (String × Json))

/-- The fields of an object in document order. -/
abbrev Fields := List (String × Json)

namespace Json

instance : Inhabited Json := ⟨.null⟩

mutual
/-- Whether two values are the same, fields compared in order. -/
def same : Json → Json → Bool
  | null, null => true
  | bool a, bool b => a == b
  | int a, int b => a == b
  | float a, float b => a == b
  | str a, str b => a == b
  | arr a, arr b => sameItems a b
  | obj a, obj b => sameFields a b
  | _, _ => false

/-- Whether two lists hold the same values. -/
def sameItems : List Json → List Json → Bool
  | [], [] => true
  | a :: as, b :: bs => same a b && sameItems as bs
  | _, _ => false

def sameFields : List (String × Json) → List (String × Json) → Bool
  | [], [] => true
  | (k, a) :: as, (l, b) :: bs => k == l && same a b && sameFields as bs
  | _, _ => false
end

mutual
theorem eq_of_same : ∀ (a b : Json), same a b = true → a = b
  | .null, .null, _ => rfl
  | .bool a, .bool b, h => by simp [same] at h; rw [h]
  | .int a, .int b, h => by simp [same] at h; rw [h]
  | .float a, .float b, h => by simp [same] at h; rw [h]
  | .str a, .str b, h => by simp [same] at h; rw [h]
  | .arr a, .arr b, h => by simp [same] at h; rw [eq_of_sameItems a b h]
  | .obj a, .obj b, h => by simp [same] at h; rw [eq_of_sameFields a b h]
  | .null, .bool _, h | .null, .int _, h | .null, .float _, h | .null, .str _, h
  | .null, .arr _, h | .null, .obj _, h => by simp [same] at h
  | .bool _, .null, h | .bool _, .int _, h | .bool _, .float _, h | .bool _, .str _, h
  | .bool _, .arr _, h | .bool _, .obj _, h => by simp [same] at h
  | .int _, .null, h | .int _, .bool _, h | .int _, .float _, h | .int _, .str _, h
  | .int _, .arr _, h | .int _, .obj _, h => by simp [same] at h
  | .float _, .null, h | .float _, .bool _, h | .float _, .int _, h | .float _, .str _, h
  | .float _, .arr _, h | .float _, .obj _, h => by simp [same] at h
  | .str _, .null, h | .str _, .bool _, h | .str _, .int _, h | .str _, .float _, h
  | .str _, .arr _, h | .str _, .obj _, h => by simp [same] at h
  | .arr _, .null, h | .arr _, .bool _, h | .arr _, .int _, h | .arr _, .float _, h
  | .arr _, .str _, h | .arr _, .obj _, h => by simp [same] at h
  | .obj _, .null, h | .obj _, .bool _, h | .obj _, .int _, h | .obj _, .float _, h
  | .obj _, .str _, h | .obj _, .arr _, h => by simp [same] at h

theorem eq_of_sameItems : ∀ (a b : List Json), sameItems a b = true → a = b
  | [], [], _ => rfl
  | a :: as, b :: bs, h => by
    simp [sameItems] at h
    rw [eq_of_same a b h.1, eq_of_sameItems as bs h.2]
  | [], _ :: _, h | _ :: _, [], h => by simp [sameItems] at h

theorem eq_of_sameFields : ∀ (a b : List (String × Json)), sameFields a b = true → a = b
  | [], [], _ => rfl
  | (k, a) :: as, (l, b) :: bs, h => by
    simp [sameFields] at h
    rw [h.1.1, eq_of_same a b h.1.2, eq_of_sameFields as bs h.2]
  | [], _ :: _, h | _ :: _, [], h => by simp [sameFields] at h
end

mutual
theorem same_refl : ∀ (a : Json), same a a = true
  | .null => rfl
  | .bool _ | .int _ | .float _ | .str _ => by simp [same]
  | .arr a => by simp [same, sameItems_refl a]
  | .obj a => by simp [same, sameFields_refl a]

theorem sameItems_refl : ∀ (a : List Json), sameItems a a = true
  | [] => rfl
  | a :: as => by simp [sameItems, same_refl a, sameItems_refl as]

theorem sameFields_refl : ∀ (a : List (String × Json)), sameFields a a = true
  | [] => rfl
  | (_, a) :: as => by simp [sameFields, same_refl a, sameFields_refl as]
end

instance : DecidableEq Json := fun a b =>
  if h : same a b = true then isTrue (eq_of_same a b h)
  else isFalse fun e => h (e ▸ same_refl a)

/-- Whether a value counts as present: null, false, zero, and empty texts, lists and objects do
not. -/
def truthy : Json → Bool
  | null => false
  | bool b => b
  | int n => n != 0
  | float x => !x.isZero
  | str s => !s.isEmpty
  | arr items => !items.isEmpty
  | obj fields => !fields.isEmpty

def kindName : Json → String
  | null => "NoneType"
  | bool _ => "bool"
  | int _ => "int"
  | float _ => "float"
  | str _ => "str"
  | arr _ => "list"
  | obj _ => "dict"

def ofText? : Option String → Json
  | none => null
  | some s => str s

def texts (l : List String) : Json := arr (l.map str)

end Json

namespace Fields

/-- The value of a key. -/
def get? (fields : Fields) (key : String) : Option Json :=
  match fields with
  | [] => none
  | (k, v) :: rest => if k == key then some v else get? rest key

/-- Whether a key is present. -/
def has (fields : Fields) (key : String) : Bool := (get? fields key).isSome

/-- Give a key a value: in its place if it is present, at the end otherwise. -/
def set (fields : Fields) (key : String) (value : Json) : Fields :=
  match fields with
  | [] => [(key, value)]
  | (k, v) :: rest => if k == key then (k, value) :: rest else (k, v) :: set rest key value

/-- Drop the given keys. -/
def drop (fields : Fields) (keys : List String) : Fields :=
  fields.filter fun (k, _) => !keys.contains k

/-- The fields of a list of pairs in which a later pair with the same key replaces the value. -/
def ofPairs (pairs : List (String × Json)) : Fields :=
  pairs.foldl (fun fields (k, v) => set fields k v) []

/-- The value of a key, null if it is absent. -/
def valueOf (fields : Fields) (key : String) : Json := (get? fields key).getD .null

end Fields

end EdgeProxy
