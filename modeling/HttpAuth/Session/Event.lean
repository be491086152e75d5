import HttpAuth.Error
import HttpAuth.Http.Uri

namespace HttpAuth

inductive Level where
  | debug
  | warn
deriving DecidableEq, Repr

namespace Level

def text : Level → String
  | debug => "DEBUG"
  | warn => "WARN"

end Level

inductive Event where
  | unsupportedScheme (host scheme : String)
  | handlerCreated (host scheme : String)
  | schemeSkipped (host scheme : String) (error : AuthError)
  | valueNotSendable (host scheme : String)
  | tokenRequested (realm service : String) (scopes : Nat) (anonymous : Bool)
  | tokenReused (host : String)
  | notRetried (uri : Uri) (error : AuthError)
deriving DecidableEq, Repr

namespace Event

def level : Event → Level
  | unsupportedScheme .. => .warn
  | _ => .debug

def message : Event → String
  | unsupportedScheme .. => "unsupported auth scheme in challenge"
  | handlerCreated .. => "creating auth handler"
  | schemeSkipped .. => "skipping auth scheme"
  | valueNotSendable .. => "auth value is not a valid header"
  | tokenRequested .. => "requesting bearer token"
  | tokenReused .. => "reusing cached bearer token"
  | notRetried .. => "not retrying unauthorized request"

/-- The value of a field of a log line. -/
inductive Field where
  | text (s : String)
  | count (n : Nat)
  | flag (b : Bool)
deriving DecidableEq, Repr

def fields : Event → List (String × Field)
  | unsupportedScheme host scheme => [("host", .text host), ("scheme", .text scheme)]
  | handlerCreated host scheme => [("host", .text host), ("scheme", .text scheme)]
  | schemeSkipped host scheme error =>
    [("host", .text host), ("scheme", .text scheme), ("error", .text error.message)]
  | valueNotSendable host scheme => [("host", .text host), ("scheme", .text scheme)]
  | tokenRequested realm service scopes anonymous =>
    [("realm", .text realm), ("service", .text service), ("scopes", .count scopes),
      ("anonymous", .flag anonymous)]
  | tokenReused host => [("host", .text host)]
  | notRetried uri error => [("uri", .text uri.text), ("error", .text error.message)]

end Event

end HttpAuth
