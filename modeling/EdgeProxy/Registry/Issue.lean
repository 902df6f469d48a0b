import EdgeProxy.Text.Digit
/-!
What is wrong with a document.  A check goes through a whole document and gathers every issue, each
with its place; `Checked` is the result of such a check.
-/

namespace EdgeProxy

/-- What is wrong with one value. -/
inductive IssueKind where
  | missing
  | notText
  | notList
  | notMap
  | notRecord
  | notInteger
  | integerText
  | integerFraction
  | integerSize
  | notFinite
  | tooSmall
  | tooLarge
  | notFlag
  | flagText
  | notNumber
  | numberText
  | notPath
deriving DecidableEq, Repr

def IssueKind.name : IssueKind → String
  | missing => "missing"
  | notText => "string_type"
  | notList => "list_type"
  | notMap => "dict_type"
  | notRecord => "model_type"
  | notInteger => "int_type"
  | integerText => "int_parsing"
  | integerFraction => "int_from_float"
  | integerSize => "int_parsing_size"
  | notFinite => "finite_number"
  | tooSmall => "greater_than_equal"
  | tooLarge => "less_than_equal"
  | notFlag => "bool_type"
  | flagText => "bool_parsing"
  | notNumber => "float_type"
  | numberText => "float_parsing"
  | notPath => "path_type"

/-- An issue and the keys and positions that lead to it. -/
structure Issue where
  place : List String
  kind : IssueKind
deriving DecidableEq, Repr

namespace Issue

/-- The issue one level further out. -/
def under (step : String) (issue : Issue) : Issue := { issue with place := step :: issue.place }

def text (issue : Issue) : String := ".".intercalate issue.place ++ "=" ++ issue.kind.name

/-- All issues of a record of the named type. -/
def report (type : String) (issues : List Issue) : String :=
  Text.decimal issues.length ++ " validation error" ++ (if issues.length == 1 then "" else "s") ++
    " for " ++ type ++ ": " ++ "; ".intercalate (issues.map text)

end Issue

/-- The result of a check: a value, or every issue in the order found. -/
inductive Checked (α : Type) where
  | valid (value : α)
  | invalid (issues : List Issue)

namespace Checked

def fail {α : Type} (kind : IssueKind) : Checked α := .invalid [⟨[], kind⟩]

/-- Change the value. -/
def map {α β : Type} (f : α → β) : Checked α → Checked β
  | valid a => valid (f a)
  | invalid issues => invalid issues

/-- Apply a checked function; the issues of both sides are kept. -/
def apply {α β : Type} : Checked (α → β) → Checked α → Checked β
  | valid f, valid a => valid (f a)
  | valid _, invalid issues => invalid issues
  | invalid issues, valid _ => invalid issues
  | invalid issues, invalid more => invalid (issues ++ more)

instance : Applicative Checked where
  pure := valid
  map := map
  seq f a := apply f (a ())

/-- The result with issues that were found before. -/
def after {α : Type} (issues : List Issue) : Checked α → Checked α
  | valid a => if issues.isEmpty then valid a else invalid issues
  | invalid more => invalid (issues ++ more)

/-- Go on with a value. -/
def andThen {α β : Type} (c : Checked α) (f : α → Checked β) : Checked β :=
  match c with
  | valid a => f a
  | invalid issues => invalid issues

/-- The same result one level further out. -/
def under {α : Type} (step : String) : Checked α → Checked α
  | valid a => valid a
  | invalid issues => invalid (issues.map (Issue.under step))

/-- Check every item of a list; an item's step is its position. -/
def items {α β : Type} (check : α → Checked β) (position : Nat) : List α → Checked (List β)
  | [] => valid []
  | a :: rest =>
    apply (map List.cons ((check a).under (Text.decimal position)))
      (items check (position + 1) rest)

/-- Check every value of a map; a value's step is its key. -/
def entries {α β : Type} (check : α → Checked β) :
    List (String × α) → Checked (List (String × β))
  | [] => valid []
  | (k, a) :: rest =>
    apply (map (fun b more => (k, b) :: more) ((check a).under k)) (entries check rest)

end Checked

end EdgeProxy
