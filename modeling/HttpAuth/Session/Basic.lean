import HttpAuth.Credentials
import HttpAuth.Http.Message
import HttpAuth.Session.Event
import HttpAuth.Time.Instant

namespace HttpAuth

open Time (Instant)

/-- How a world of type `W` answers and tells the time. It may be a list of prepared replies, or an adversary. A
request that cannot be delivered fails with a text. -/
structure Network (W : Type) where
  send : Request → W → Except String Response × W
  now : W → Instant × W

/-- On whose behalf a request is sent. -/
inductive Purpose where
  /-- It is the request of a caller. -/
  | delivery
  /-- It asks for a token. -/
  | token
deriving DecidableEq, Repr

inductive Entry where
  | sent (purpose : Purpose) (request : Request) (reply : Except String Response)
  /-- The credentials of a host were looked up. -/
  | lookedUp (host : String)
  | logged (event : Event)

/-- A world with a journal of what was done in it, in the order of time. -/
structure Session (W : Type) where
  world : W
  journal : List Entry := []

abbrev SessionM (W : Type) := StateM (Session W)

namespace Session

variable {W : Type}

def note (entry : Entry) : SessionM W Unit := fun s =>
  ((), { s with journal := s.journal ++ [entry] })

def log (event : Event) : SessionM W Unit := note (.logged event)

/-- Sends a request, which is noted whether or not it is answered. -/
def send (net : Network W) (purpose : Purpose) (request : Request) :
    SessionM W (Except String Response) := fun s =>
  let (reply, world) := net.send request s.world
  (reply, { world := world, journal := s.journal ++ [.sent purpose request reply] })

/-- Asks the provider for the credentials of a host, which is noted. -/
def lookUp (provider : CredentialsProvider) (host : String) : SessionM W Credentials := fun s =>
  (provider host, { s with journal := s.journal ++ [.lookedUp host] })

def now (net : Network W) : SessionM W Instant := fun s =>
  let (instant, world) := net.now s.world
  (instant, { s with world := world })

end Session

end HttpAuth
