import HttpAuth.Scheme.Basic
import HttpAuth.Scheme.Bearer

namespace HttpAuth

/-- How to drive handlers of type `H`. A handler may change whether or not it succeeds. -/
structure Handling (W H : Type) where
  /-- Takes in a challenge of the handler's scheme. -/
  learn : Challenge → H → Except AuthError Unit × H
  /-- Makes the value of an authorization field. -/
  authorize : H → SessionM W (Except AuthError String × H)

/-- Makes a handler for a host when its scheme is first asked for there. -/
abbrev Factory (H : Type) := (host : String) → Credentials → H

/-- A handler of the library. -/
inductive Handler where
  | basic (h : BasicAuth)
  | bearer (h : BearerAuth)
deriving DecidableEq

namespace Handler

/-- A challenge that is refused leaves the handler as it was. -/
def learn (c : Challenge) (h : Handler) : Except AuthError Unit × Handler :=
  let result := match h with
    | basic b => (b.learn c).map basic
    | bearer b => (b.learn c).map bearer
  match result with
  | .ok next => (.ok (), next)
  | .error e => (.error e, h)

variable {W : Type}

def authorize (net : Network W) : Handler → SessionM W (Except AuthError String × Handler)
  | basic b => return (b.authorize, basic b)
  | bearer b => do
    let (result, next) ← b.authorize net
    return (result, bearer next)

def handling (net : Network W) : Handling W Handler := ⟨learn, authorize net⟩

def basicFactory : Factory Handler := fun _ credentials => basic { credentials := credentials }

def bearerFactory (options : TokenOptions := {}) : Factory Handler := fun host credentials =>
  bearer { host := host, credentials := credentials, options := options }

end Handler

end HttpAuth
