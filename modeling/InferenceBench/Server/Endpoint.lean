import InferenceBench.Text.Blank
import InferenceBench.Text.Quoted
import InferenceBench.Url.Basic

/-! # Endpoints of a server

An endpoint is a path below the base URL of a server; what path the base URL has is kept. -/

namespace InferenceBench

/-- Why a base URL has no endpoint. -/
inductive EndpointError where
  | scheme (baseUrl : String)
  | invalid (joined : List Char)
  deriving Repr, DecidableEq

def EndpointError.message : EndpointError → String
  | .scheme baseUrl =>
    String.ofList ("base URL must start with http:// or https://, got ".toList ++
      Text.quoted baseUrl.toList)
  | .invalid joined => String.ofList ("invalid endpoint URL: ".toList ++ joined)

/-- A base URL without white space around it and without slashes at its end. -/
def bareBaseUrl (baseUrl : String) : List Char := Text.dropTrailing '/' (Text.trim baseUrl.toList)

/-- The URL of a path on a server. -/
def resolveEndpoint (baseUrl path : String) : Except EndpointError Url :=
  let base := bareBaseUrl baseUrl
  if (Url.Scheme.strip? base).isNone then .error (.scheme baseUrl)
  else
    let joined := base ++ '/' :: path.toList.dropWhile (· = '/')
    match Url.ofText? joined with
    | some url => .ok url
    | none => .error (.invalid joined)

/-- The path at which a server completes chats. -/
def chatPath : String := "/v1/chat/completions"

/-- The path at which a server tells that it is up. -/
def healthPath : String := "/health"

end InferenceBench
