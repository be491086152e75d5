import HttpAuth.Time.Instant

namespace HttpAuth

open Time (Span)

/-- A token lives for `defaultLifetime` if the endpoint does not say how long. A cached token is not used in
the last part of its life, for `leeway`. -/
structure TokenOptions where
  defaultLifetime : Span := .ofSeconds 60
  leeway : Span := .ofSeconds 5
deriving DecidableEq, Repr

end HttpAuth
