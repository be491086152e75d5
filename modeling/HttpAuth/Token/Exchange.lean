import HttpAuth.Session.Basic
import HttpAuth.Token.Issued
import HttpAuth.Token.Options
import HttpAuth.Token.Reply
import HttpAuth.Token.Request

namespace HttpAuth

open Time (Instant Span)

namespace TokenReply

/-- The first of the two texts that is not empty. -/
def tokenText? (reply : TokenReply) : Option String :=
  (reply.token?.filter (!·.isEmpty)).or (reply.accessToken?.filter (!·.isEmpty))

/-- How long the token lives, if that is a span of time; a negative time is none at all. -/
def lifetime? (reply : TokenReply) (options : TokenOptions) : Option Span :=
  match reply.expiresIn? with
  | some seconds => Span.ofSeconds? (max seconds 0)
  | none => some options.defaultLifetime

end TokenReply

namespace TokenRequest

variable {W : Type}

/-- The clock is read only if the reply does not say when the token was issued. -/
def issuedAt (net : Network W) (reply : TokenReply) : SessionM W Instant :=
  match reply.issuedAt? with
  | some instant => return instant
  | none => Session.now net

/-- Reads the reply that has arrived. -/
def accept (net : Network W) (options : TokenOptions) (response : Response) :
    SessionM W (Except TokenFailure IssuedToken) := do
  if !response.status.isSuccess then return .error (.refused response.status)
  else match TokenReply.decode? response.body with
    | none => return .error .malformedReply
    | some reply =>
      match reply.tokenText? with
      | none => return .error .noToken
      | some token =>
        match reply.lifetime? options with
        | none => return .error .lifetimeOutOfRange
        | some lifetime =>
          let start ← issuedAt net reply
          match start.add? lifetime with
          | none => return .error .lifetimeOutOfRange
          | some expiresAt => return .ok ⟨token, expiresAt⟩

/-- Asks the endpoint for a token. -/
def exchange (net : Network W) (r : TokenRequest) (credentials : Credentials)
    (options : TokenOptions) : SessionM W (Except TokenFailure IssuedToken) := do
  Session.log (.tokenRequested r.realm r.service r.scopes.length credentials.isAnonymous)
  match r.toHttp credentials with
  | .error failure => return .error failure
  | .ok request =>
    match ← Session.send net .token request with
    | .error _ => return .error .requestFailed
    | .ok response => accept net options response

end TokenRequest

end HttpAuth
