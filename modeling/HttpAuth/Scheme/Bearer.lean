import HttpAuth.Challenge.Basic
import HttpAuth.Token.Exchange

namespace HttpAuth

/-- Scopes come in the order in which they were seen. The token, if there is one, was issued for all of
them. -/
structure BearerAuth where
  host : String
  credentials : Credentials
  options : TokenOptions := {}
  realm? : Option String := none
  service? : Option String := none
  scopes : List String := []
  token? : Option IssuedToken := none
deriving DecidableEq

namespace BearerAuth

/-- The value of a parameter that every bearer challenge has to carry. -/
def required (c : Challenge) (key : String) : Except AuthError String :=
  match c.param? key with
  | some value => .ok value
  | none => .error (.invalidChallenge (.bearerWithout key))

/-- A value that is bound stays as it is. -/
def bind (bound? : Option String) (value what : String) : Except AuthError Unit :=
  match bound? with
  | some bound =>
    if bound = value then .ok ()
    else .error (.invalidChallenge (.bearerChanged what bound value))
  | none => .ok ()

/-- Accepts a challenge with a new scope for the realm and service that were seen first. A token cannot
cover a scope that came after it, so a new scope drops it. -/
def learn (h : BearerAuth) (c : Challenge) : Except AuthError BearerAuth := do
  let realm ← required c "realm"
  let service ← required c "service"
  let scope ← required c "scope"
  if h.realm? = some realm ∧ h.service? = some service ∧ scope ∈ h.scopes then
    throw .noNewChallenge
  bind h.realm? realm "realm"
  bind h.service? service "service"
  let h := { h with realm? := some realm, service? := some service }
  return if scope ∈ h.scopes then h
    else { h with scopes := h.scopes ++ [scope], token? := none }

def value (token : String) : String := "Bearer " ++ token

variable {W : Type}

/-- Asks for a token and keeps it. A failure changes nothing. -/
def renew (net : Network W) (h : BearerAuth) (realm service : String) :
    SessionM W (Except AuthError String × BearerAuth) := do
  match ← TokenRequest.exchange net ⟨realm, service, h.scopes⟩ h.credentials h.options with
  | .error failure => return (.error (.authFailed failure), h)
  | .ok issued => return (.ok (value issued.token), { h with token? := some issued })

/-- Uses the cached token while it is fresh. -/
def authorize (net : Network W) (h : BearerAuth) :
    SessionM W (Except AuthError String × BearerAuth) := do
  match h.realm?, h.service? with
  | some realm, some service =>
    let now ← Session.now net
    match h.token?.filter (·.isFresh now h.options.leeway) with
    | some token =>
      Session.log (.tokenReused h.host)
      return (.ok (value token.token), h)
    | none => renew net h realm service
  | _, _ => return (.error (.authFailed .nothingLearned), h)

def describeToken : Option IssuedToken → String
  | none => "None"
  | some token => "Some(" ++ token.describe ++ ")"

/-- What a log may show: credentials and token are left out. -/
def describe (h : BearerAuth) : String :=
  "BearerHandler \x7b host: " ++ Text.quoted h.host ++ ", realm: " ++ Text.quotedOption h.realm? ++
    ", service: " ++ Text.quotedOption h.service? ++ ", scopes: " ++ Text.quotedList h.scopes ++
    ", token: " ++ describeToken h.token? ++ ", .. \x7d"

end BearerAuth

end HttpAuth
