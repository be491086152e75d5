namespace HttpAuth

inductive TransportError where
  | connect (reason : String)
  | timeout
  | invalidRequest (reason : String)
  | invalidResponse (reason : String)
  | other (reason : String)
deriving DecidableEq, Repr

namespace TransportError

def message : TransportError → String
  | connect reason => "connection error: " ++ reason
  | timeout => "request timeout"
  | invalidRequest reason => "invalid request: " ++ reason
  | invalidResponse reason => "invalid response: " ++ reason
  | other reason => "transport error: " ++ reason

def code : TransportError → String
  | connect _ => "regauth::transport::connect"
  | timeout => "regauth::transport::timeout"
  | invalidRequest _ => "regauth::transport::invalid_request"
  | invalidResponse _ => "regauth::transport::invalid_response"
  | other _ => "regauth::transport::other"

def help? : TransportError → Option String
  | timeout => some "timeouts are configured on the underlying HTTP client"
  | _ => none

end TransportError

end HttpAuth
