import EdgeProxy.Text.Percent
/-!
The address of the login portal, which carries the address to return to.
-/

namespace EdgeProxy.Route

/-- The portal's address up to the address to return to. -/
def loginStem (base : String) : String := "https://auth." ++ base ++ "/login?rd="

/-- The portal's address with an address to return to.  Braces are kept, so that the proxy can fill
in what they enclose. -/
def loginUrl (base returnTo : String) : String := loginStem base ++ Text.percentEncode returnTo

end EdgeProxy.Route
