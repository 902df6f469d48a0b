import EdgeProxy.Text.Blank
import EdgeProxy.Text.LowerCase
import EdgeProxy.Text.Search
/-!
Addresses of requests.  An address begins with a scheme and a colon; only two schemes lead to the
proxy, some others to what stands elsewhere.
-/

namespace EdgeProxy.Address

/-- The characters of an address that are sent: blanks around it, angle brackets and a leading mark
are dropped. -/
def unwrap (s : String) : String :=
  let cs := (Text.trim s).toList
  let cs :=
    if cs.head? == some '<' && cs.getLast? == some '>' then
      Text.trimWith Text.isBlank (cs.drop 1).dropLast
    else cs
  if "URL:".toList.isPrefixOf cs then String.ofList (Text.trimWith Text.isBlank (cs.drop 4))
  else String.ofList cs

/-- The part of an address before its last number sign. -/
def beforeFragment (cs : List Char) : List Char :=
  match cs.reverse.dropWhile (· != '#') with
  | '#' :: before => before.reverse
  | _ => cs

/-- The scheme of an address, in lower case: what stands before the first colon, if no slash comes
first and it is not empty. -/
def scheme? (address : String) : Option String :=
  let cs := beforeFragment address.toList
  let name := cs.takeWhile fun c => c != ':' && c != '/'
  if !name.isEmpty && (cs.drop name.length).head? == some ':' then
    some (Text.lower (String.ofList name))
  else none

def proxySchemes : List String := ["http", "https"]

/-- The schemes that lead to something without asking the proxy: to the address itself, to a file or
to a store of files. -/
def otherSources : List String := ["data", "file", "ftp"]

/-- How an address is dealt with. -/
inductive Reach where
  /-- It has no scheme. -/
  | noScheme
  /-- Its scheme leads nowhere. -/
  | otherScheme (scheme : String)
  | elsewhere
  | proxy
deriving DecidableEq, Repr

/-- How an address is dealt with. -/
def reach (address : String) : Reach :=
  match scheme? address with
  | none => .noScheme
  | some scheme =>
    if proxySchemes.contains scheme then .proxy
    else if otherSources.contains scheme then .elsewhere
    else .otherScheme scheme

end EdgeProxy.Address
