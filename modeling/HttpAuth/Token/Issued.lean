import HttpAuth.Time.Instant

namespace HttpAuth

open Time (Instant Span)

structure IssuedToken where
  token : String
  expiresAt : Instant
deriving DecidableEq

namespace IssuedToken

/-- Whether the token can still be sent at `now` with `leeway` to spare. -/
def isFresh (t : IssuedToken) (now : Instant) (leeway : Span) : Bool :=
  match now.add? leeway with
  | none => false
  | some deadline => decide (deadline.Before t.expiresAt)

/-- What a log may show: the token is left out. -/
def describe (t : IssuedToken) : String :=
  "IssuedToken \x7b token: \"<redacted>\", expires_at: " ++ t.expiresAt.text ++ " \x7d"

end IssuedToken

end HttpAuth
