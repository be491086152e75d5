import HttpAuth.Challenge.ParseError
import HttpAuth.Http.Status
import HttpAuth.Text.Quoted

namespace HttpAuth

/-- Why a handler does not accept a challenge. -/
inductive ChallengeFlaw where
  | basicWithoutRealm
  | bearerWithout (key : String)
  /-- A bearer handler is bound to the realm and service it saw first. -/
  | bearerChanged (what old new : String)
  /-- For handlers of other schemes. -/
  | custom (reason : String)
deriving DecidableEq, Repr

namespace ChallengeFlaw

def reason : ChallengeFlaw → String
  | basicWithoutRealm => "basic challenge without realm"
  | bearerWithout key => "bearer challenge without " ++ key
  | bearerChanged what old new =>
    "bearer " ++ what ++ " changed from " ++ Text.quoted old ++ " to " ++ Text.quoted new
  | custom reason => reason

end ChallengeFlaw

/-- Why no token was obtained. -/
inductive TokenFailure where
  | nothingLearned
  | invalidRealm
  | requestNotBuilt
  | requestFailed
  | refused (status : Status)
  | malformedReply
  | noToken
  | lifetimeOutOfRange
  /-- For handlers of other schemes. -/
  | custom (reason : String)
deriving DecidableEq, Repr

namespace TokenFailure

def reason : TokenFailure → String
  | nothingLearned => "no bearer challenge seen yet"
  | invalidRealm => "realm is not a valid URL"
  | requestNotBuilt => "could not build token request"
  | requestFailed => "token request failed"
  | refused status => "token endpoint returned " ++ status.describe
  | malformedReply => "malformed token response"
  | noToken => "token response carried no token"
  | lifetimeOutOfRange => "token lifetime out of range"
  | custom reason => reason

/-- Whether another failure lies beneath: of a reader, or of the transport. -/
def hasSource : TokenFailure → Bool
  | invalidRealm | requestNotBuilt | requestFailed | malformedReply => true
  | _ => false

end TokenFailure

inductive AuthError where
  /-- The response asks for nothing, or the request had no host. -/
  | unsupported
  | parse (e : ParseError)
  | invalidChallenge (flaw : ChallengeFlaw)
  /-- Nothing in the response was new. -/
  | noNewChallenge
  /-- The scheme needs credentials and has none. -/
  | notFound
  | authFailed (failure : TokenFailure)
deriving DecidableEq, Repr

namespace AuthError

def message : AuthError → String
  | unsupported => "response is not a 401 Unauthorized"
  | parse e => e.message
  | invalidChallenge flaw => "invalid challenge: " ++ flaw.reason
  | noNewChallenge => "no new challenge"
  | notFound => "credentials not found"
  | authFailed failure => "authentication failed: " ++ failure.reason

def code : AuthError → String
  | unsupported => "regauth::unsupported"
  | parse _ => ParseError.code
  | invalidChallenge _ => "regauth::invalid_challenge"
  | noNewChallenge => "regauth::no_new_challenge"
  | notFound => "regauth::not_found"
  | authFailed _ => "regauth::auth_failed"

def help? : AuthError → Option String
  | unsupported =>
    some "only 401 responses carry WWW-Authenticate challenges worth learning from"
  | notFound => some "configure a credentials provider that knows this host"
  | _ => none

end AuthError

end HttpAuth
