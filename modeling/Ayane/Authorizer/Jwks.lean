import Ayane.Authorizer

/-!
# Remote key sets

`ayane/src/authorizer/jwks.rs`: where a `jwks` provisioner fetches its keys from, what it
makes of the answers, and which key of a set a token is verified with. The set that was
fetched last is kept with the time of the fetch and a lifetime taken from the response.
-/

namespace Ayane

open Effect

/-- The crates, with the decoding of a JWK Set. -/
structure JwksCrates extends ServerCrates where
  jwkSetFromSlice : Bytes → Except String (List Jwk)

inductive JwksLocation where
  | direct (url : String)
  /-- A discovery document, whose `jwks_uri` is followed. -/
  | oidc (discovery : String)
  deriving DecidableEq

/-- A key set, with the time of the fetch on the monotonic clock, in nanoseconds. -/
structure CachedKeyset where
  keys : List Jwk
  fetchedAt : ℕ
  ttl : Duration
  deriving DecidableEq

def CachedKeyset.elapsed (cached : CachedKeyset) (now : ℕ) : Duration := now - cached.fetchedAt

def CachedKeyset.fresh (cached : CachedKeyset) (now : ℕ) : Bool :=
  decide (cached.elapsed now < cached.ttl)

structure JwksConfig where
  jwksUrl : Option String
  openidConfigurationUrl : Option String
  issuer : Option String

/-- A source of keys, without what changes while it is used. -/
structure JwksSource where
  issuer : String
  location : JwksLocation
  /-- Lower bound between refetches. -/
  minRefetch : Duration
  deriving DecidableEq

structure OidcDiscovery where
  issuer : String
  jwksUri : String

def OidcDiscovery.ofJson (j : Json) : Except String OidcDiscovery := do
  let j := j.named ["issuer", "jwks_uri"]
  let issuer ← j.required "issuer" Json.decodeString
  let jwksUri ← j.required "jwks_uri" Json.decodeString
  .ok { issuer, jwksUri }

namespace Jwks

/-- The lifetime of a key set whose response says nothing usable. -/
def defaultTtl : Duration := fromSecs 3600
def minTtl : Duration := fromSecs 300
def maxTtl : Duration := fromSecs (24 * 3600)

/-- `https` anywhere, or `http` to a loopback host. -/
def isSecureUrl (url : String) : Bool :=
  Text.startsWith "https://" url ||
    ["http://127.0.0.1", "http://localhost", "http://[::1]"].any fun p =>
      match Text.stripPrefix p url with
      | some rest => rest.isEmpty || Text.startsWith ":" rest || Text.startsWith "/" rest
      | none => false

def requireSecureUrl (url name : String) : Result Unit :=
  if isSecureUrl url then .ok ()
  else .error (.config ("provisioner " ++ Text.debug name ++ ": " ++ Text.debug url ++
    " must be https (http is allowed only for loopback)"))

/-- By `kid` when the token has one, otherwise the sole key. -/
def selectKey (keys : List Jwk) : Option String → Option Jwk
  | some kid => keys.find? fun k => k.keyId = some kid
  | none =>
    match keys with
    | [only] => some only
    | _ => none

/-- The lifetime in a `max-age` directive whose value is a number, clamped. -/
def maxAge (directive : String) : Option Duration :=
  match Text.stripPrefix "max-age=" (Text.trim directive) with
  | none => none
  | some seconds =>
    match Text.parseUnsigned (2 ^ 64) seconds with
    | .ok n => some (max minTtl (min maxTtl (fromSecs n)))
    | .error _ => none

/-- The lifetime that a `Cache-Control` value gives. -/
def cacheControlTtl (value : Option String) : Duration :=
  match value with
  | some value => ((Text.split ',' value).findSome? maxAge).getD defaultTtl
  | none => defaultTtl

end Jwks

namespace JwksSource

open Jwks

/-- Exactly one of the two URLs says where the keys are. -/
def locate (jwks : JwksConfig) (name : String) : Result JwksLocation :=
  match jwks.jwksUrl, jwks.openidConfigurationUrl with
  | some url, none => do
    requireSecureUrl url name
    .ok (.direct url)
  | none, some url => do
    requireSecureUrl url name
    .ok (.oidc url)
  | some _, some _ => .error (.config ("provisioner " ++ Text.debug name ++
      ": set only one of `jwks_url` / `openid_configuration_url`"))
  | none, none => .error (.config ("provisioner " ++ Text.debug name ++
      ": `jwks` requires `jwks_url` or `openid_configuration_url`"))

def new (issuer : String) (jwks : JwksConfig) (name : String) : Result JwksSource := do
  let location ← locate jwks name
  .ok { issuer, location, minRefetch := fromSecs 60 }

theorem minRefetch_of_new {issuer name : String} {jwks : JwksConfig} {source : JwksSource}
    (h : new issuer jwks name = .ok source) : source.minRefetch = fromSecs 60 := by
  obtain ⟨location, -, h⟩ := except_bind_eq_ok.mp h
  cases h
  rfl

def toSigningKey (crates : ServerCrates) (source : JwksSource) (jwk : Jwk) : Result SigningKey :=
  mapErr (fun e => .unauthorized ("provisioner issuer " ++ Text.debug source.issuer ++ ": " ++ e))
    (signingKeyFromJwk crates jwk)

end JwksSource

/-! ## Fetching -/

/-- The answer to a request. -/
structure HttpResponse where
  status : ℕ
  /-- The status with its reason, as it is displayed. -/
  statusText : String
  /-- The `Cache-Control` header, when it is there and is text. -/
  cacheControl : Option String
  /-- The body, or why it could not be read. -/
  body : Except String Bytes

def HttpResponse.isSuccess (r : HttpResponse) : Bool := decide (200 ≤ r.status ∧ r.status < 300)

/-- What the two requests of a fetch are answered in the end, or why they failed. The client follows
redirects, which nothing but their number limits. -/
structure HttpAnswers where
  discovery : Except String HttpResponse
  /-- The URLs that the client was sent on to, one after the other. -/
  discoveryRedirects : List String := []
  keys : Except String HttpResponse
  keysRedirects : List String := []

namespace JwksSource

open Jwks

/-- The URL of the key set, after the discovery document where there is one. -/
def keysUrl (crates : JwksCrates) (source : JwksSource) (answers : HttpAnswers) : Result String :=
  match source.location with
  | .direct url => .ok url
  | .oidc discovery => do
    let resp ← mapErr (fun e => .internal ("fetch OIDC discovery " ++ discovery ++ ": " ++ e))
      answers.discovery
    if ¬resp.isSuccess then
      .error (.internal ("OIDC discovery " ++ discovery ++ " returned HTTP " ++ resp.statusText))
    else
      let doc ← mapErr (fun e => .internal ("parse OIDC discovery " ++ discovery ++ ": " ++ e))
        (resp.body.bind fun bytes => (crates.jsonText.valueFromSlice bytes).bind OidcDiscovery.ofJson)
      if doc.issuer ≠ source.issuer then
        .error (.internal ("OIDC issuer mismatch: discovery declares " ++ Text.debug doc.issuer ++
          ", configured " ++ Text.debug source.issuer))
      else if ¬isSecureUrl doc.jwksUri then
        .error (.internal ("OIDC jwks_uri " ++ Text.debug doc.jwksUri ++ " is not https"))
      else .ok doc.jwksUri

def fetch (crates : JwksCrates) (source : JwksSource) (answers : HttpAnswers) :
    Result (List Jwk × Duration) := do
  let url ← source.keysUrl crates answers
  let resp ← mapErr (fun e => .internal ("fetch JWKS " ++ url ++ ": " ++ e)) answers.keys
  if ¬resp.isSuccess then
    .error (.internal ("JWKS " ++ url ++ " returned HTTP " ++ resp.statusText))
  else
    let ttl := cacheControlTtl resp.cacheControl
    let bytes ← mapErr (fun e => .internal ("read JWKS " ++ url ++ ": " ++ e)) resp.body
    let keys ← mapErr (fun e => .internal ("parse JWKS " ++ url ++ ": " ++ e))
      (crates.jwkSetFromSlice bytes)
    .ok (keys, ttl)

/-! ## Resolving -/

/-- The fast path: a fresh set that contains the key. -/
def resolveCached (crates : ServerCrates) (source : JwksSource) (memo : Option CachedKeyset)
    (now : ℕ) (kid : Option String) : Option (Result SigningKey) :=
  match memo with
  | some cached =>
    if cached.fresh now then (selectKey cached.keys kid).map (source.toSigningKey crates) else none
  | none => none

/-- Whether `refresh` declines to fetch. -/
def rateLimited (source : JwksSource) (memo : Option CachedKeyset) (now : ℕ) : Bool :=
  match memo with
  | some cached => decide (cached.elapsed now < source.minRefetch)
  | none => false

/-- What is resolved after `refresh`, from whatever set there is. -/
def resolveRefreshed (crates : ServerCrates) (source : JwksSource) (memo : Option CachedKeyset)
    (kid : Option String) : Result SigningKey := do
  let cached ← okOr (.internal "JWKS cache empty after refresh") memo
  let jwk ← okOr (.unauthorized ("no verification key for kid " ++ Text.debugOption kid))
    (selectKey cached.keys kid)
  source.toSigningKey crates jwk

end JwksSource

/-! ## What a fetch and a choice can give -/

namespace Jwks

theorem mem_of_selectKey {keys : List Jwk} {kid : Option String} {jwk : Jwk}
    (h : selectKey keys kid = some jwk) : jwk ∈ keys := by
  cases kid with
  | some kid => exact List.mem_of_find?_eq_some h
  | none =>
    match keys, h with
    | [only], rfl => exact List.mem_singleton_self _

theorem ttl_of_maxAge {directive : String} {ttl : Duration} (h : maxAge directive = some ttl) :
    minTtl ≤ ttl ∧ ttl ≤ maxTtl := by
  unfold maxAge at h
  split at h
  · cases h
  · split at h
    · obtain rfl := Option.some.inj h
      exact ⟨le_max_left _ _, max_le (fromSecs_le (by decide)) (min_le_left _ _)⟩
    · cases h

/-- Every lifetime lies between five minutes and a day. -/
theorem cacheControlTtl_bounds (value : Option String) :
    minTtl ≤ cacheControlTtl value ∧ cacheControlTtl value ≤ maxTtl := by
  have hdefault : minTtl ≤ defaultTtl ∧ defaultTtl ≤ maxTtl :=
    ⟨fromSecs_le (by decide), fromSecs_le (by decide)⟩
  cases value with
  | none => exact hdefault
  | some value =>
    cases hfound : (Text.split ',' value).findSome? maxAge with
    | none =>
      simp only [cacheControlTtl, hfound]
      exact hdefault
    | some ttl =>
      simp only [cacheControlTtl, hfound]
      obtain ⟨directive, -, hdirective⟩ := List.exists_of_findSome?_eq_some hfound
      exact ttl_of_maxAge hdirective

theorem ttl_of_fetch {crates : JwksCrates} {source : JwksSource} {answers : HttpAnswers}
    {keys : List Jwk} {ttl : Duration} (h : source.fetch crates answers = .ok (keys, ttl)) :
    minTtl ≤ ttl ∧ ttl ≤ maxTtl := by
  unfold JwksSource.fetch at h
  obtain ⟨url, -, h⟩ := except_bind_eq_ok.mp h
  obtain ⟨resp, -, h⟩ := except_bind_eq_ok.mp h
  split at h
  · cases h
  · obtain ⟨bytes, -, h⟩ := except_bind_eq_ok.mp h
    obtain ⟨keys', -, h⟩ := except_bind_eq_ok.mp h
    cases h
    exact cacheControlTtl_bounds resp.cacheControl

end Jwks

end Ayane
