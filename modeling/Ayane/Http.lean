import Ayane.Service

/-!
# The HTTP layer

`ayane/src/http.rs`: the state the handlers share and the request URL they pass on, to
which token audiences and proofs of possession are bound.
-/

namespace Ayane

structure AppState where
  service : Service
  externalUrl : Option String

/-- `main.rs` gives the handlers the external URL that `builder.rs` gives the service. -/
def AppState.boot (service : Service) (externalUrl : Option String) : AppState where
  service := { service with externalUrl }
  externalUrl

/-- What the extractors read of a request; a header that is no text is not found. -/
structure RequestParts where
  path : String
  header : String → Option String

/-- `RequestUrl::from_request_parts`. -/
def requestUrl (parts : RequestParts) (state : AppState) : String :=
  match state.externalUrl with
  | some base => Text.trimEndMatches '/' base ++ parts.path
  | none =>
    let scheme := (parts.header "x-forwarded-proto").getD "https"
    let host := ((parts.header "x-forwarded-host").or (parts.header "host")).getD "localhost"
    scheme ++ "://" ++ host ++ parts.path

end Ayane
