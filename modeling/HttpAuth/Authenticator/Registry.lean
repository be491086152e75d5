import HttpAuth.Assoc
import HttpAuth.Scheme.Handler

namespace HttpAuth

/-- Which schemes are handled, in the order in which they are tried, and whose credentials are used. -/
structure Registry (H : Type) where
  provider : CredentialsProvider := .none
  entries : List (Name × Factory H) := []

namespace Registry

variable {H : Type}

def schemes (r : Registry H) : List Name := r.entries.map Prod.fst

/-- The factory of a scheme, if the scheme is registered. -/
def factory? (r : Registry H) (scheme : Name) : Option (Factory H) := r.entries.lookup scheme

/-- Registers a scheme behind the others. A scheme that is registered keeps its place and gets the new
factory. -/
def register (r : Registry H) (scheme : String) (f : Factory H) : Registry H :=
  { r with entries := Assoc.replace r.entries (.ofText scheme) f }

def setProvider (r : Registry H) (provider : CredentialsProvider) : Registry H :=
  { r with provider := provider }

def basicScheme : String := "basic"

/-- Registers the Basic scheme unless it is registered. -/
def registerDefaults (r : Registry H) (basic : Factory H) : Registry H :=
  if (r.factory? (.ofText basicScheme)).isSome then r else r.register basicScheme basic

/-- The registry that is used: where nothing was registered, the defaults are. -/
def finish (r : Registry H) (basic : Factory H) : Registry H :=
  if r.entries.isEmpty then r.registerDefaults basic else r

end Registry

end HttpAuth
