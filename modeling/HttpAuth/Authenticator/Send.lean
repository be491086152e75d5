import HttpAuth.Authenticator.Basic

namespace HttpAuth.Authenticator

variable {W H : Type}

/-- Sends a request with the authorization that is known. If it is refused, and the refusal teaches something
new, the request is sent once more; the answer to the last message is returned. -/
def send (net : Network W) (hd : Handling W H) (a : Authenticator H) (request : Request) :
    SessionM W (Except String Response × Authenticator H) := do
  let (first?, a) ← a.authorize hd request
  match ← Session.send net .delivery (first?.getD request) with
  | .error e => return (.error e, a)
  | .ok response =>
    if response.status ≠ .unauthorized then return (.ok response, a)
    else
      let (result, a) ← a.learn hd request.uri response
      match result with
      | .error e =>
        Session.log (.notRetried request.uri e)
        return (.ok response, a)
      | .ok () =>
        let (second?, a) ← a.authorize hd request
        let reply ← Session.send net .delivery (second?.getD request)
        return (reply, a)

end HttpAuth.Authenticator
