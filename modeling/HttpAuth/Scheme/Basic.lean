import HttpAuth.Challenge.Basic
import HttpAuth.Credentials
import HttpAuth.Error

namespace HttpAuth

/-- The realm is that of the challenge accepted last. -/
structure BasicAuth where
  realm? : Option String := none
  credentials : Credentials
deriving DecidableEq

namespace BasicAuth

/-- Accepts a challenge with another realm than the last. -/
def learn (h : BasicAuth) (c : Challenge) : Except AuthError BasicAuth :=
  match c.param? "realm" with
  | none => .error (.invalidChallenge .basicWithoutRealm)
  | some realm =>
    if h.realm? = some realm then .error .noNewChallenge
    else .ok { h with realm? := some realm }

def authorize (h : BasicAuth) : Except AuthError String :=
  if h.credentials.isAnonymous then .error .notFound else .ok h.credentials.basicValue

def describe (h : BasicAuth) : String :=
  "BasicHandler \x7b realm: " ++ Text.quotedOption h.realm? ++ ", credentials: " ++
    h.credentials.describe ++ " \x7d"

end BasicAuth

end HttpAuth
