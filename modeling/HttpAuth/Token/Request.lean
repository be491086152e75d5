import HttpAuth.Credentials
import HttpAuth.Error
import HttpAuth.Http.Message
import HttpAuth.Url.Parser

namespace HttpAuth

/-- The realm is the URL of the endpoint. The token has to cover every scope. -/
structure TokenRequest where
  realm : String
  service : String
  scopes : List String
deriving DecidableEq, Repr

namespace TokenRequest

def pairs (r : TokenRequest) : List (String × String) :=
  ("service", r.service) :: r.scopes.map ("scope", ·)

def headers (credentials : Credentials) : Headers :=
  { name := Header.accept, value := Utf8.encode "application/json" } ::
    (if credentials.isAnonymous then []
     else [{ name := Header.authorization, value := Utf8.encode credentials.basicValue }])

/-- The request as it is sent. The endpoint learns who asks unless the credentials are anonymous. -/
def toHttp (r : TokenRequest) (credentials : Credentials) : Except TokenFailure Request :=
  match Url.parse? r.realm with
  | none => .error .invalidRealm
  | some url =>
    match Uri.parse? (url.appendPairs r.pairs).text with
    | none => .error .requestNotBuilt
    | some uri => .ok { uri := uri, headers := headers credentials }

end TokenRequest

end HttpAuth
