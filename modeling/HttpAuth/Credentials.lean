import HttpAuth.Text.Base64
import HttpAuth.Text.Quoted
import HttpAuth.Text.Utf8

namespace HttpAuth

/-- Without one of the two the pair is anonymous. -/
structure Credentials where
  username : String := ""
  password : String := ""
deriving DecidableEq

namespace Credentials

def anonymous : Credentials := {}

def isAnonymous (c : Credentials) : Bool := c.username.isEmpty || c.password.isEmpty

/-- The value of an authorization field for the Basic scheme. -/
def basicValue (c : Credentials) : String :=
  "Basic " ++ Base64.encode (Utf8.encode (c.username ++ ":" ++ c.password))

/-- What a log may show: the password is left out. -/
def describe (c : Credentials) : String :=
  "Credentials \x7b username: " ++ Text.quoted c.username ++ ", password: \"<redacted>\" \x7d"

end Credentials

/-- What a provider answers for each host key. Its answers may become others between two calls. -/
abbrev CredentialsProvider := String → Credentials

namespace CredentialsProvider

/-- Knows no host. -/
def none : CredentialsProvider := fun _ => .anonymous

/-- Looks the host up in a table; the last entry of a host counts. -/
def ofTable (table : List (String × Credentials)) : CredentialsProvider := fun host =>
  ((table.reverse.find? (·.1 = host)).map Prod.snd).getD .anonymous

end CredentialsProvider

end HttpAuth
