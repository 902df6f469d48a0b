import EdgeProxy.Proofs.Edge.Handler
import EdgeProxy.Proofs.Hostname.Label
import EdgeProxy.Proofs.Text.Query
/-!
The way to the login portal and back.  An address to return to is encoded in the address of the portal, and is read
back from its query whatever it is.  Where the authentication service names no address, the proxy fills the host
and the path that were asked for into an address that has been encoded before; they come back exactly if nothing in
them has a meaning in a query.
-/

namespace EdgeProxy

namespace Edge

/-- Fill in the places of a text.  `place` holds what was read since an opening brace; a place that has no value
stays as it is. -/
def fillFrom (values : List (String × String)) (place : Option (List Char)) : List Char → List Char
  | [] => (place.map fun name => '\x7b' :: name).getD []
  | c :: rest =>
    match place with
    | none =>
      if c = '\x7b' then fillFrom values (some []) rest else c :: fillFrom values none rest
    | some name =>
      if c = '\x7d' then
        ((values.lookup (String.ofList name)).getD (placeholder (String.ofList name))).toList ++
          fillFrom values none rest
      else fillFrom values (some (name ++ [c])) rest

/-- A text with its places filled in. -/
def fill (values : List (String × String)) (template : String) : String :=
  String.ofList (fillFrom values none template.toList)

section Fill

variable {values : List (String × String)}

theorem fillFrom_none_append {front : List Char} (h : '\x7b' ∉ front) (rest : List Char) :
    fillFrom values none (front ++ rest) = front ++ fillFrom values none rest := by
  induction front with
  | nil => rfl
  | cons c front ih =>
      have hc : c ≠ '\x7b' := fun heq => h (heq ▸ List.mem_cons_self)
      rw [List.cons_append, fillFrom, if_neg hc, ih fun hmem => h (List.mem_cons_of_mem c hmem),
        List.cons_append]

theorem fillFrom_some_append {name : List Char} (h : '\x7d' ∉ name) (before rest : List Char) :
    fillFrom values (some before) (name ++ rest) = fillFrom values (some (before ++ name)) rest := by
  induction name generalizing before with
  | nil => rw [List.nil_append, List.append_nil]
  | cons c name ih =>
      have hc : c ≠ '\x7d' := fun heq => h (heq ▸ List.mem_cons_self)
      rw [List.cons_append, fillFrom, if_neg hc, ih fun hmem => h (List.mem_cons_of_mem c hmem),
        List.append_assoc, List.singleton_append]

/-- A place is filled with its value. -/
theorem fillFrom_placeholder {name value : String} (hname : '\x7d' ∉ name.toList)
    (hvalue : values.lookup name = some value) (rest : List Char) :
    fillFrom values none ((placeholder name).toList ++ rest) =
      value.toList ++ fillFrom values none rest := by
  have hplace : (placeholder name).toList ++ rest =
      '\x7b' :: (name.toList ++ '\x7d' :: rest) := by
    simp [placeholder]
  rw [hplace, fillFrom, if_pos rfl, fillFrom_some_append hname, List.nil_append, fillFrom,
    if_pos rfl, String.ofList_toList, hvalue, Option.getD_some]

end Fill

/-- The values of the places that a request fills. -/
def requested (host path : String) : List (String × String) :=
  [("http.request.host", host), ("http.request.uri.path", path)]

theorem lookup_requested_host (host path : String) :
    (requested host path).lookup "http.request.host" = some host := rfl

theorem lookup_requested_path (host path : String) :
    (requested host path).lookup "http.request.uri.path" = some path := rfl

end Edge

namespace Route

/-- No character of a base domain has a meaning in an address or to the proxy. -/
structure PlainBase (base : String) : Prop where
  query : '?' ∉ base.toList
  fragment : '#' ∉ base.toList
  place : '\x7b' ∉ base.toList

/-- The characters of names are plain. -/
theorem plainBase_of_isName {base : String} (h : Hostname.IsName base) : PlainBase base where
  query hmem := absurd (h _ hmem) (by decide)
  fragment hmem := absurd (h _ hmem) (by decide)
  place hmem := absurd (h _ hmem) (by decide)

/-- The query of an address of the portal. -/
theorem ofAddress_loginStem {base : String} (hquery : '?' ∉ base.toList) (hfragment : '#' ∉ base.toList)
    (cs : List Char) :
    Query.ofAddress (loginStem base ++ String.ofList cs) =
      "rd".toList ++ '=' :: cs.takeWhile (· != '#') := by
  have haddress : loginStem base ++ String.ofList cs =
      String.ofList (("https://auth.".toList ++ base.toList ++ "/login".toList) ++
        '?' :: ("rd=".toList ++ cs)) := by
    apply String.toList_injective
    simp [loginStem]
  rw [haddress, Query.ofAddress_append (by simp [hquery]) (by simp [hfragment]),
    Query.takeWhile_ne_append (by decide)]
  rfl

theorem reading_rd : Query.reading "rd".toList = "rd" := by decide

theorem loginUrl_eq (base returnTo : String) :
    loginUrl base returnTo = loginStem base ++ String.ofList (Text.percentEncode returnTo).toList := by
  rw [loginUrl, String.ofList_toList]

/-- The address of the portal carries an address to return to: what stands for it is unreserved characters, braces
and escapes and decodes to it, it is the one parameter of the query, and no two addresses are carried alike. -/
theorem portal_address_carries_return_address (base returnTo : String) :
    ∃ encoded : String,
      loginUrl base returnTo = "https://auth." ++ base ++ "/login?" ++ ("rd=" ++ encoded) ∧
      Text.PercentEncoded encoded.toList ∧
      Text.decode (Text.percentDecode encoded.toList) = .ok returnTo ∧
      Query.parameters ("rd=" ++ encoded).toList = [("rd", returnTo)] ∧
      ('?' ∉ base.toList → '#' ∉ base.toList →
        Query.ofAddress (loginUrl base returnTo) = ("rd=" ++ encoded).toList) ∧
      ∀ other, loginUrl base other = loginUrl base returnTo → other = returnTo := by
  have hencoded := Text.percentEncoded_percentEncode returnTo
  have hquery : ("rd=" ++ Text.percentEncode returnTo).toList =
      "rd".toList ++ '=' :: (Text.percentEncode returnTo).toList := by
    simp
  refine ⟨Text.percentEncode returnTo, ?_, hencoded, Text.decode_percentEncode returnTo, ?_, ?_, ?_⟩
  · apply String.toList_injective
    simp [loginUrl, loginStem]
  · rw [hquery, Query.parameters_percentEncode "rd".toList (by decide) (by decide), reading_rd]
  · intro hbase hfragment
    have hinside : '#' ∉ (Text.percentEncode returnTo).toList := hencoded.not_mem (by decide) (by decide)
    have hwhole := Query.takeWhile_ne_append hinside []
    rw [List.append_nil, List.takeWhile_nil, List.append_nil] at hwhole
    rw [loginUrl_eq, ofAddress_loginStem hbase hfragment, hquery, hwhole]
  · intro other h
    apply Text.percentEncode_injective
    simpa [loginUrl] using h

theorem portal_address_carries_return_address_at_cart :
    '?' ∉ "example.com".toList ∧ '#' ∉ "example.com".toList ∧
      ∃ encoded : String,
        Query.ofAddress (loginUrl "example.com" "https://shop.example.com/cart?item=1&qty=2") =
            ("rd=" ++ encoded).toList ∧
          Query.parameters ("rd=" ++ encoded).toList =
            [("rd", "https://shop.example.com/cart?item=1&qty=2")] := by
  have hquery : '?' ∉ "example.com".toList := by decide
  have hfragment : '#' ∉ "example.com".toList := by decide
  obtain ⟨encoded, -, -, -, hparameters, haddress, -⟩ :=
    portal_address_carries_return_address "example.com" "https://shop.example.com/cart?item=1&qty=2"
  exact ⟨hquery, hfragment, encoded, haddress hquery hfragment, hparameters⟩

/-- Of the address to return to, only what stands before the host is encoded. -/
theorem percentEncode_returnAddress :
    (Text.percentEncode returnAddress).toList = (Text.percentEncode "https://").toList ++
      ((placeholder "http.request.host").toList ++ (placeholder "http.request.uri.path").toList) := by
  decide

/-- The address of the portal with the host and the path of a request filled in. -/
theorem fill_loginUrl {base : String} (h : '\x7b' ∉ base.toList) (host path : String) :
    Edge.fill (Edge.requested host path) (loginUrl base returnAddress) =
      loginStem base ++ String.ofList ((Text.percentEncode "https://").toList ++ (host ++ path).toList) := by
  have hstem : '\x7b' ∉ (loginStem base).toList ++ (Text.percentEncode "https://").toList := by
    have hscheme : '\x7b' ∉ (Text.percentEncode "https://").toList := by decide
    simp [loginStem, h, hscheme]
  rw [Edge.fill, loginUrl, String.toList_append, percentEncode_returnAddress, ← List.append_assoc,
    Edge.fillFrom_none_append hstem,
    Edge.fillFrom_placeholder (by decide) (Edge.lookup_requested_host host path)]
  have hpath := Edge.fillFrom_placeholder (by decide) (Edge.lookup_requested_path host path) []
  rw [List.append_nil] at hpath
  rw [hpath]
  apply String.toList_injective
  simp [Edge.fillFrom]

end Route

namespace Edge

variable {settings : Settings} {base : String} {visit : Visit}

/-- A caller whom the authentication service turns away without an address is sent to the portal. -/
theorem handlers_sentToPortal (next : Option Outcome)
    (hdenied : (visit.reply (inquiry settings)).status = 401 ∨ (visit.reply (inquiry settings)).status = 403)
    (hlogin : ¬ (visit.reply (inquiry settings)).GivesLogin) :
    handlers visit next [(Route.authenticate settings base).toJson] =
      some ⟨[inquiry settings], .own 302 (some (Route.loginUrl base Route.returnAddress))⟩ := by
  have hclass : ¬ statusFits (visit.reply (inquiry settings)).status (.int 2) = true := by
    rw [statusFits_class _ (visit.reply (inquiry settings)).digits.1]
    omega
  rw [← statusFits_denied] at hdenied
  rw [← headersFit_login] at hlogin
  rw [Route.authenticate, handlers_authenticate, ← inquiry, replies_authenticationAnswers, if_neg hclass,
    if_pos hdenied, if_neg hlogin]
  rfl

/-- A caller whom the authentication service turns away without an address comes back from the portal to the host
and the path that were asked for, exactly if nothing in them has a meaning in a query. -/
theorem caller_returns_to_page_iff_literal (next : Option Outcome) (hbase : Route.PlainBase base)
    (hdenied : (visit.reply (inquiry settings)).status = 401 ∨ (visit.reply (inquiry settings)).status = 403)
    (hlogin : ¬ (visit.reply (inquiry settings)).GivesLogin) (path : String) :
    ∃ location,
      handlers visit next [(Route.authenticate settings base).toJson] =
        some ⟨[inquiry settings], .own 302 (some location)⟩ ∧
      (Query.parameters (Query.ofAddress (fill (requested visit.host path) location)) =
          [("rd", "https://" ++ visit.host ++ path)] ↔
        Query.Literal (visit.host ++ path).toList) := by
  refine ⟨_, handlers_sentToPortal next hdenied hlogin, ?_⟩
  have hscheme : '#' ∉ (Text.percentEncode "https://").toList := by decide
  rw [Route.fill_loginUrl hbase.place, Route.ofAddress_loginStem hbase.query hbase.fragment,
    Query.takeWhile_ne_append hscheme, ← Query.parameters_eq_iff_literal "rd".toList (by decide) (by decide)
      "https://", Route.reading_rd, String.ofList_toList, String.append_assoc]

/-- A request for a host of `example.org`, by a caller whom the authentication service turns away. -/
def turnedAwayAtShop : Visit :=
  ⟨"shop.example.org", .v4 10 0 0 2, [], fun _ => ⟨401, [], by decide⟩⟩

theorem not_givesLogin_turnedAwayAtShop (contact : Contact) :
    ¬ (turnedAwayAtShop.reply contact).GivesLogin := by
  rintro ⟨header, hmem, -⟩
  exact List.not_mem_nil hmem

theorem caller_returns_to_page_iff_literal_at_cart :
    Route.PlainBase "example.org" ∧
    ((turnedAwayAtShop.reply (inquiry .standard)).status = 401 ∨
      (turnedAwayAtShop.reply (inquiry .standard)).status = 403) ∧
    ¬ (turnedAwayAtShop.reply (inquiry .standard)).GivesLogin ∧
    ∃ location,
      handlers turnedAwayAtShop none [(Route.authenticate .standard "example.org").toJson] =
        some ⟨[inquiry .standard], .own 302 (some location)⟩ ∧
      Query.parameters (Query.ofAddress (fill (requested "shop.example.org" "/cart") location)) =
        [("rd", "https://shop.example.org/cart")] := by
  have hbase : Route.PlainBase "example.org" :=
    Route.plainBase_of_isName (Hostname.isName_of_isDomainText (by decide))
  have hlogin := not_givesLogin_turnedAwayAtShop (inquiry .standard)
  have hliteral : Query.Literal ("shop.example.org" ++ "/cart").toList :=
    ⟨by decide +kernel, by decide +kernel, by decide +kernel,
      Text.escapeFree_of_not_mem (by decide +kernel)⟩
  obtain ⟨location, hlocation, hiff⟩ :=
    caller_returns_to_page_iff_literal none hbase (.inl rfl) hlogin "/cart"
  exact ⟨hbase, .inl rfl, hlogin, location, hlocation, hiff.mpr hliteral⟩

/-- A caller who asked for the page `/a&b` is sent back to the page `/a`: an ampersand in a path ends the address to
return to. -/
theorem page_with_ampersand_is_lost :
    ∃ location,
      handlers turnedAwayAtShop none [(Route.authenticate .standard "example.org").toJson] =
        some ⟨[inquiry .standard], .own 302 (some location)⟩ ∧
      (Query.parameters (Query.ofAddress (fill (requested "shop.example.org" "/a&b") location))).lookup "rd" =
        some "https://shop.example.org/a" := by
  refine ⟨_, handlers_sentToPortal none (.inl rfl) (not_givesLogin_turnedAwayAtShop _), ?_⟩
  have hscheme : '#' ∉ (Text.percentEncode "https://").toList := by decide
  have hpiece : (("shop.example.org" ++ "/a&b").toList.takeWhile (· != '#')).takeWhile (· != '&') =
      "shop.example.org/a".toList := by
    decide
  have hreading : Query.reading "shop.example.org/a".toList = "shop.example.org/a" := by
    rw [(Query.reading_eq_iff _).mpr ⟨by decide, Text.escapeFree_of_not_mem (by decide)⟩, String.ofList_toList]
  obtain ⟨more, hparameters, -⟩ := Query.parameters_append "rd".toList (by decide) (by decide) "https://"
    (("shop.example.org" ++ "/a&b").toList.takeWhile (· != '#'))
  rw [Route.fill_loginUrl (by decide), Route.ofAddress_loginStem (by decide) (by decide),
    Query.takeWhile_ne_append hscheme, hparameters, hpiece, hreading, Route.reading_rd, List.lookup_cons_self]
  rfl

end Edge

end EdgeProxy
