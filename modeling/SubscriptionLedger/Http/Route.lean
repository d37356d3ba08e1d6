import SubscriptionLedger.Http.Message

namespace SubscriptionLedger.Http

-- Who may send what. A star among the entries of a list allows everything.
structure OriginPolicy where
  origins : List String
  methods : List String
  headers : List String
  credentials : Bool

namespace OriginPolicy

def ofSettings (s : Settings) : OriginPolicy :=
  ⟨s.corsOrigins, s.corsAllowMethods, s.corsAllowHeaders, s.corsAllowCredentials⟩

def star (entries : List String) : Bool := entries.contains "*"

def allMethods : List String := ["DELETE", "GET", "HEAD", "OPTIONS", "PATCH", "POST", "PUT", "QUERY"]

def allowedMethods (p : OriginPolicy) : List String := if star p.methods then allMethods else p.methods

def safeHeaders : List String := ["Accept", "Accept-Language", "Content-Language", "Content-Type"]

def allowedHeaders (p : OriginPolicy) : List String :=
  (safeHeaders ++ p.headers).eraseDups.mergeSort fun a b => a ≤ b

def allows (p : OriginPolicy) (origin : String) : Bool := star p.origins || p.origins.contains origin

-- Whether an answer names the origin itself; only where everybody may come without credentials it does not.
def isExplicit (p : OriginPolicy) : Bool := !star p.origins || p.credentials

def credentialHeaders (p : OriginPolicy) : Headers :=
  if p.credentials then [("access-control-allow-credentials", "true")] else []

def originHeaders (p : OriginPolicy) (origin : String) : Headers :=
  if !p.isExplicit then [("access-control-allow-origin", "*")]
  else if p.allows origin then [("access-control-allow-origin", origin)]
  else []

def simpleHeaders (p : OriginPolicy) (request : Headers) : Headers :=
  match request.get? "origin" with
  | none => [("vary", "Origin")]
  | some origin => ("vary", "Origin") :: (p.originHeaders origin ++ p.credentialHeaders)

def varyPreflight : String :=
  "Origin, Access-Control-Request-Method, Access-Control-Request-Headers, " ++
    "Access-Control-Request-Private-Network"

def allowsHeaders (p : OriginPolicy) (requested : String) : Bool :=
  star p.headers ||
    (Text.splitOn ',' requested.toList).all fun h =>
      (p.allowedHeaders.map Text.lower).contains (Text.strip (Text.lower (String.ofList h)))

structure Preflight where
  origin : String
  method : String
  headers : Option String
  privateNetwork : Bool

def preflight? (method : String) (request : Headers) : Option Preflight := do
  let origin ← request.get? "origin"
  let requested ← request.get? "access-control-request-method"
  if method = "OPTIONS" then
    some ⟨origin, requested, request.get? "access-control-request-headers",
      (request.get? "access-control-request-private-network").isSome⟩
  else none

def refusals (p : OriginPolicy) (f : Preflight) : List String :=
  (if p.allows f.origin then [] else ["origin"]) ++
    (if p.allowedMethods.contains f.method then [] else ["method"]) ++
    (if f.headers.all p.allowsHeaders then [] else ["headers"]) ++
    (if f.privateNetwork then ["private-network"] else [])

def headerHeaders (p : OriginPolicy) (f : Preflight) : Headers :=
  match star p.headers, f.headers with
  | true, some requested => [("access-control-allow-headers", requested)]
  | true, none => []
  | false, _ => [("access-control-allow-headers", String.intercalate ", " p.allowedHeaders)]

def answer (p : OriginPolicy) (f : Preflight) : Except Fault Response :=
  let headers := [("vary", varyPreflight),
      ("access-control-allow-methods", String.intercalate ", " p.allowedMethods),
      ("access-control-max-age", "600")] ++
    p.originHeaders f.origin ++ p.headerHeaders f ++ p.credentialHeaders
  Response.sendable <| match p.refusals f with
    | [] => .plain 200 "OK" headers
    | refused => .plain 400 ("Disallowed CORS " ++ String.intercalate ", " refused) headers

end OriginPolicy

inductive Endpoint where
  | health
  | readiness
  | products
  | product (id : String)
  | webhook
  | checkout
  | portal
  | summary
deriving DecidableEq, Repr

namespace Endpoint

def method : Endpoint → String
  | health | readiness | products | product _ | summary => "GET"
  | webhook | checkout | portal => "POST"

def isBilling : Endpoint → Bool
  | webhook | checkout | portal | summary => true
  | _ => false

def ofSegments? : List String → Option Endpoint
  | ["", "api", "health"] => some health
  | ["", "api", "ready"] => some readiness
  | ["", "api", "products"] => some products
  | ["", "api", "products", id] => if id = "" then none else some (product id)
  | ["", "api", "billing", "webhook"] => some webhook
  | ["", "api", "billing", "checkout-session"] => some checkout
  | ["", "api", "billing", "portal-session"] => some portal
  | ["", "api", "billing", "me"] => some summary
  | _ => none

def ofPath? (path : List Char) : Option Endpoint := ofSegments? ((Text.splitOn '/' path).map String.ofList)

-- A path may end with the end of a line.
def withoutLineEnd (path : List Char) : List Char :=
  if path.getLast? = some '\n' then path.dropLast else path

def at? (billing : Bool) (path : String) : Option Endpoint :=
  ((ofPath? path.toList).orElse fun _ => ofPath? (withoutLineEnd path.toList)).filter fun e =>
    billing || !e.isBilling

end Endpoint

inductive Route where
  | endpoint (e : Endpoint)
  -- there is an endpoint, but it understands another method
  | otherMethod (allowed : String)
  -- there is an endpoint without the slashes at the end
  | redirect (path : String)
  | nowhere
deriving DecidableEq, Repr

def withoutSlashes (path : String) : String :=
  String.ofList (path.toList.reverse.dropWhile (· = '/')).reverse

def Route.of (billing : Bool) (method path : String) : Route :=
  match Endpoint.at? billing path with
  | some e => if e.method = method then .endpoint e else .otherMethod e.method
  | none =>
    if path ≠ withoutSlashes path && (Endpoint.at? billing (withoutSlashes path)).isSome then
      .redirect (withoutSlashes path)
    else .nowhere

def addressSigns : List Char := ":/%#?=@[]!$&'()*+,;".toList

def maskedPath (path : String) : String :=
  String.ofList (path.toList.flatMap fun c =>
    if c = '?' then "%3F".toList else if c = '#' then "%23".toList else [c])

def location (host path query : String) : String :=
  Text.Percent.encode addressSigns
    ("http://" ++ host ++ maskedPath path ++ if query = "" then "" else "?" ++ query)

end SubscriptionLedger.Http
