import HttpAuth.Authenticator.Send
import HttpAuth.Proofs.BearerSteps

namespace HttpAuth

/-- The request without any authorization value. -/
def Request.bare (q : Request) : Request :=
  { q with headers := q.headers.filter (·.name ≠ Header.authorization) }

/-- All refusals name one realm and service; the scope depends on the request. `pages` are the responses a request
may get when it is admitted, and `refusals` when it is not; which of them it gets may depend on anything. All of
these look at a request without its authorization value. `granted` tells which tokens were issued so far, and for
which scopes. -/
structure BearerServer (W : Type) where
  net : Network W
  serves : Request → Prop
  realm : String
  service : String
  scope : Request → String
  pages : Request → Response → Prop
  refusals : Request → Response → Prop
  granted : W → String → List String → Prop

namespace BearerServer

variable {W : Type}

/-- The request carries a token that was issued for scopes of which the server demands one. -/
def Carries (v : BearerServer W) (w : W) (q : Request) : Prop :=
  ∃ token scopes, Headers.values q.headers Header.authorization =
      [Utf8.encode (BearerAuth.value token)] ∧
    v.granted w token scopes ∧ v.scope q.bare ∈ scopes

/-- The endpoint answers `q` with a token for `scopes` that can be sent, and whose end can be told. -/
def Grants (v : BearerServer W) (options : TokenOptions) (scopes : List String) (q : Request)
    (w : W) : Prop :=
  ∃ response reply token expiresAt, (v.net.send q w).1 = .ok response ∧
    response.status.isSuccess = true ∧ TokenReply.decode? response.body = some reply ∧
    reply.tokenText? = some token ∧
    (reply.issuedAt?.getD (v.net.now (v.net.send q w).2).1).add? (reply.lifetime options) =
      some expiresAt ∧
    Header.isValue (Utf8.encode (BearerAuth.value token)) = true ∧
    v.granted (v.net.send q w).2 token scopes

/-- Every token that was issued is still accepted. -/
def Later (v : BearerServer W) (w w' : W) : Prop :=
  ∀ token scopes, v.granted w token scopes → v.granted w' token scopes

/-- The server admits the requests that carry a token, and refuses the others. -/
structure Gated (v : BearerServer W) : Prop where
  success : ∀ q r, v.pages q r → r.status.isSuccess = true
  unauthorized : ∀ q r, v.refusals q r → r.status = .unauthorized
  admitted : ∀ q w, v.serves q.bare → v.Carries w q →
    ∃ r, (v.net.send q w).1 = .ok r ∧ v.pages q.bare r
  refused : ∀ q w, v.serves q.bare → ¬ v.Carries w q →
    ∃ r, (v.net.send q w).1 = .ok r ∧ v.refusals q.bare r

/-- It says what it demands, and takes back no token. -/
structure Fair (v : BearerServer W) : Prop extends v.Gated where
  refuses : ∀ q r, v.refusals q r → ∃ c,
    Challenge.parseAll (Headers.values r.headers Header.wwwAuthenticate) = .ok [c] ∧
      c.scheme = .ofText "bearer" ∧ c.demand? = some ⟨v.realm, v.service, v.scope q⟩
  keeps : ∀ q w, v.Later w (v.net.send q w).2
  remembers : ∀ w, v.Later w (v.net.now w).2

/-- The endpoint grants what callers with `credentials` ask for. -/
structure Honest (v : BearerServer W) (credentials : Credentials) (options : TokenOptions) : Prop extends
    v.Fair where
  grants : ∀ scopes q w,
    TokenRequest.toHttp ⟨v.realm, v.service, scopes⟩ credentials = .ok q →
      v.Grants options scopes q w

/-- A token that will be accepted wherever one of the scopes is demanded. -/
structure Usable (v : BearerServer W) (w : W) (token : String) (scopes : List String) : Prop where
  granted : v.granted w token scopes
  sendable : Header.isValue (Utf8.encode (BearerAuth.value token)) = true

end BearerServer

/-- A request as a caller hands it in: for a page of `host`, and without an authorization value. -/
structure BearerServer.Plain {W : Type} (v : BearerServer W) (host : String) (q : Request) : Prop where
  served : v.serves q
  hostKey : q.uri.hostKey? = some host
  noValue : Headers.values q.headers Header.authorization = []

theorem values_withAuthorization (q : Request) (value : List UInt8) :
    Headers.values (Authenticator.withAuthorization q value).headers Header.authorization =
      [value] := by
  simp [Headers.values, Authenticator.withAuthorization, Headers.put]

@[simp] theorem bare_withAuthorization (q : Request) (value : List UInt8) :
    (Authenticator.withAuthorization q value).bare = q.bare := by
  simp [Request.bare, Authenticator.withAuthorization, Headers.put]

/-- All other fields stay as they are. -/
theorem values_bare_of_ne {name : Name} (hne : name ≠ Header.authorization) (q : Request) :
    Headers.values q.bare.headers name = Headers.values q.headers name := by
  rw [Headers.values, Headers.values, Request.bare, List.filter_filter]
  congr 2
  funext d
  by_cases hd : d.name = name
  · simp [hd, hne]
  · simp [hd]

theorem bare_of_values_nil {q : Request}
    (h : Headers.values q.headers Header.authorization = []) : q.bare = q := by
  have hf : q.headers.filter (·.name ≠ Header.authorization) = q.headers := by
    apply List.filter_eq_self.mpr
    intro d hd
    have hn := List.filter_eq_nil_iff.mp (List.map_eq_nil_iff.mp h) d hd
    simpa using hn
  rw [Request.bare, hf]

namespace BearerServer

variable {W : Type} {v : BearerServer W} {credentials : Credentials} {options : TokenOptions}

theorem Later.refl (w : W) : v.Later w w := fun _ _ h => h

theorem Later.trans {w w' w'' : W} (h : v.Later w w') (h' : v.Later w' w'') : v.Later w w'' :=
  fun token scopes hg => h' token scopes (h token scopes hg)

theorem Usable.later {w w' : W} {token : String} {scopes : List String}
    (h : v.Usable w token scopes) (hl : v.Later w w') : v.Usable w' token scopes :=
  ⟨hl _ _ h.granted, h.sendable⟩

theorem Fair.page_ne (hv : v.Fair) {q : Request} {r : Response} (hr : v.pages q r) :
    r.status ≠ .unauthorized := by
  intro h
  have hs := hv.success q r hr
  rw [h] at hs
  cases hs

theorem Fair.send_plain (hv : v.Fair) {host : String} {q : Request}
    (hq : v.Plain host q) (w : W) : ∃ r, (v.net.send q w).1 = .ok r ∧ v.refusals q r := by
  have hb := bare_of_values_nil hq.noValue
  have hr := hv.refused q w (hb.symm ▸ hq.served)
  rw [hb] at hr
  apply hr
  rintro ⟨token, scopes, hvalue, -⟩
  rw [hq.noValue] at hvalue
  cases hvalue

theorem Fair.send_usable (hv : v.Fair) {host : String} {q : Request}
    (hq : v.Plain host q) {w : W} {token : String} {scopes : List String}
    (hu : v.Usable w token scopes) (hs : v.scope q ∈ scopes) :
    ∃ r, (v.net.send (Authenticator.withAuthorization q (Utf8.encode (BearerAuth.value token))) w).1 = .ok r ∧
      v.pages q r := by
  have hb : (Authenticator.withAuthorization q (Utf8.encode (BearerAuth.value token))).bare = q := by
    rw [bare_withAuthorization, bare_of_values_nil hq.noValue]
  have ha := hv.admitted (Authenticator.withAuthorization q (Utf8.encode (BearerAuth.value token))) w
  rw [hb] at ha
  apply ha hq.served
  exact ⟨token, scopes, values_withAuthorization _ _, hu.granted, by rwa [hb]⟩

theorem Fair.exchange (hv : v.Fair) {scopes : List String} {q : Request}
    (hq : TokenRequest.toHttp ⟨v.realm, v.service, scopes⟩ credentials = .ok q) (s : Session W)
    (hg : v.Grants options scopes q s.world) :
    ∃ issued s', TokenRequest.exchange v.net ⟨v.realm, v.service, scopes⟩ credentials options s =
        (.ok issued, s') ∧ v.Usable s'.world issued.token scopes ∧ v.Later s.world s'.world := by
  obtain ⟨response, reply, token, expiresAt, hsend, hstatus, hd, ht, he, hsendable, hgranted⟩ :=
    hg
  rw [TokenRequest.exchange_of_response hq hsend, TokenRequest.accept_of_reply hstatus hd ht he]
  refine ⟨_, _, rfl, ?_⟩
  have hkeeps := hv.keeps q s.world
  rcases TokenRequest.issuedAt_world v.net reply _ with hw | hw
  · rw [hw]
    exact ⟨⟨hgranted, hsendable⟩, hkeeps⟩
  · rw [hw]
    have hclock := hv.remembers (v.net.send q s.world).2
    exact ⟨⟨hclock _ _ hgranted, hsendable⟩, hkeeps.trans hclock⟩

/-- A handler that knows what to ask for always gets a value. -/
theorem Fair.outcome (hv : v.Fair) {scopes : List String}
    {h h' : BearerAuth} {q : Request} {s s' : Session W} {result : Except AuthError String}
    (hq : TokenRequest.toHttp ⟨v.realm, v.service, scopes⟩ credentials = .ok q)
    (hg : ∀ w, v.Grants options scopes q w)
    (hw : h.wanted? = some ⟨v.realm, v.service, scopes⟩) (hc : h.credentials = credentials)
    (ho : h.options = options)
    (ht : ∀ t, h.token? = some t → v.Usable s.world t.token scopes)
    (hout : BearerAuth.Outcome v.net h s result h' s') :
    ∃ t, result = .ok (BearerAuth.value t.token) ∧ h' = { h with token? := some t } ∧
      v.Usable s'.world t.token scopes ∧ v.Later s.world s'.world := by
  have hclock := hv.remembers s.world
  cases hout with
  | nothing hn =>
    rw [hw] at hn
    cases hn
  | reused r t _ hcached =>
    refine ⟨t, rfl, ?_, (ht t hcached).later hclock, hclock⟩
    rw [← hcached]
  | renewed r t s' hr _ hx =>
    rw [hw] at hr
    cases hr
    obtain ⟨issued, after, he, hu, hl⟩ :=
      hv.exchange hq { s with world := (v.net.now s.world).2 } (hg _)
    rw [hc, ho, he] at hx
    cases hx
    exact ⟨t, rfl, rfl, hu, hclock.trans hl⟩
  | failed r e s' hr _ hx =>
    rw [hw] at hr
    cases hr
    obtain ⟨issued, after, he, -, -⟩ := hv.exchange hq { s with world := (v.net.now s.world).2 } (hg _)
    rw [hc, ho, he] at hx
    cases hx

end BearerServer

namespace Authenticator

/-- An authenticator for the bearer scheme that has learned nothing. -/
def bearerOnly (provider : CredentialsProvider) (options : TokenOptions) : Authenticator Handler :=
  .ofRegistry ((({} : Registry Handler).register "bearer" (Handler.bearerFactory options)).setProvider
    provider) Handler.basicFactory

abbrev bearerSlot (host : String) : Slot := ⟨host, .ofText "bearer"⟩

/-- The authenticator with the handler of one host. -/
def withBearer (provider : CredentialsProvider) (options : TokenOptions) (host : String)
    (h : BearerAuth) : Authenticator Handler :=
  (bearerOnly provider options).store (bearerSlot host) (.bearer h)

/-- All that was learned are `scopes` of the server, and a cached token is one for them. -/
inductive Knows {W : Type} (v : BearerServer W) (provider : CredentialsProvider)
    (options : TokenOptions) (host : String) (w : W) : List String → Authenticator Handler → Prop where
  | nothing : Knows v provider options host w [] (bearerOnly provider options)
  | learned {scopes : List String} (h : BearerAuth) (hne : scopes ≠ [])
    (hw : h.wanted? = some ⟨v.realm, v.service, scopes⟩) (hc : h.credentials = provider host)
    (ho : h.options = options)
    (ht : ∀ t, h.token? = some t → v.Usable w t.token scopes) :
    Knows v provider options host w scopes (withBearer provider options host h)

section authenticators

variable {W : Type} {v : BearerServer W} {provider : CredentialsProvider} {options : TokenOptions}
  {host : String}

theorem Knows.later {w w' : W} {scopes : List String} {a : Authenticator Handler}
    (hk : Knows v provider options host w scopes a)
    (hl : v.Later w w') : Knows v provider options host w' scopes a := by
  cases hk with
  | nothing => exact .nothing
  | learned h hne hw hc ho ht =>
    exact .learned h hne hw hc ho fun t h' => (ht t h').later hl

theorem handler?_withBearer (h : BearerAuth) :
    (withBearer provider options host h).handler? (bearerSlot host) = some (.bearer h) :=
  Table.find?_put_self _ _ _

theorem store_withBearer (h h' : BearerAuth) :
    (withBearer provider options host h).store (bearerSlot host) (.bearer h') =
      withBearer provider options host h' := by
  simp only [withBearer, store, Table.put_put]

/-- One pass over the schemes: the bearer handler of the host is asked. -/
theorem authorize_withBearer {h h' : BearerAuth} {q : Request} {value : String} {s s' : Session W}
    (hq : q.uri.hostKey? = some host) (ha : h.authorize v.net s = ((.ok value, h'), s'))
    (hs : Header.isValue (Utf8.encode value) = true) :
    (withBearer provider options host h).authorize (Handler.handling v.net) q s =
      ((some (withAuthorization q (Utf8.encode value)), withBearer provider options host h'), s') := by
  have hschemes : (withBearer provider options host h).schemes = [.ofText "bearer"] := rfl
  rw [authorize, hq]
  simp only [hschemes, authorizeWith]
  rw [handler?_withBearer]
  simp only [Session.bind_apply, Handler.handling, Handler.authorize, ha, Session.pure_apply]
  rw [if_pos hs, store_withBearer]
  rfl

theorem Knows.authorize (hv : v.Fair) {s : Session W}
    {scopes : List String} {a : Authenticator Handler} {q request : Request}
    (hk : Knows v provider options host s.world scopes a) (hne : scopes ≠ [])
    (hq : TokenRequest.toHttp ⟨v.realm, v.service, scopes⟩ (provider host) = .ok q)
    (hg : ∀ w, v.Grants options scopes q w) (hr : request.uri.hostKey? = some host) :
    ∃ token a' s', a.authorize (Handler.handling v.net) request s =
        ((some (withAuthorization request (Utf8.encode (BearerAuth.value token))), a'), s') ∧
      v.Usable s'.world token scopes ∧ v.Later s.world s'.world ∧
        Knows v provider options host s'.world scopes a' := by
  cases hk with
  | nothing => exact absurd rfl hne
  | learned h _ hw hc ho ht =>
    obtain ⟨t, hresult, hh, hu, hl⟩ := hv.outcome hq hg hw hc ho ht (BearerAuth.outcome_authorize v.net h s)
    have hauthorize : h.authorize v.net s =
        ((.ok (BearerAuth.value t.token), { h with token? := some t }), (h.authorize v.net s).2) := by
      rw [← hresult, ← hh]
      rfl
    refine ⟨t.token, _, _, authorize_withBearer hr hauthorize hu.sendable, hu, hl, ?_⟩
    refine .learned _ hne hw hc ho ?_
    intro u hu'
    cases hu'
    exact hu

/-- The authenticator asks for nothing where it knows nothing. -/
theorem authorize_bearerOnly (net : Network W) (request : Request) (s : Session W) :
    (bearerOnly provider options).authorize (Handler.handling net) request s =
      ((none, bearerOnly provider options), s) := by
  unfold authorize
  cases request.uri.hostKey? with
  | none => rfl
  | some host => rfl

theorem factory?_bearerOnly :
    (bearerOnly provider options).registry.factory? (.ofText "bearer") =
      some (Handler.bearerFactory options) := by
  simp [bearerOnly, ofRegistry, Registry.finish, Registry.register,
    Registry.setProvider, Assoc.replace, Registry.factory?]

theorem factory?_withBearer (h : BearerAuth) :
    (withBearer provider options host h).registry.factory? (.ofText "bearer") =
      some (Handler.bearerFactory options) :=
  factory?_bearerOnly

theorem obtain_withBearer (factory : Factory Handler) (h : BearerAuth) (s : Session W) :
    (withBearer provider options host h).obtain factory (bearerSlot host) s = (.bearer h, s) := by
  rw [obtain, handler?_withBearer]
  rfl

theorem obtain_bearerOnly (s : Session W) :
    (bearerOnly provider options).obtain (Handler.bearerFactory options) (bearerSlot host) s =
      (.bearer { host := host, credentials := provider host, options := options },
        { s with journal := s.journal ++ [.logged (.handlerCreated host "bearer"), .lookedUp host] }) := by
  have hn : (bearerOnly provider options).handler? (bearerSlot host) = none := rfl
  rw [obtain, hn]
  simp only [Session.bind_apply, Session.log_apply, Session.lookUp_apply, List.append_assoc]
  rfl

theorem handler_learn (h : BearerAuth) (c : Challenge) :
    Handler.learn c (.bearer h) =
      ((h.learn c).map fun _ => (), .bearer ((h.learn c).toOption.getD h)) := by
  cases hl : h.learn c with
  | ok h' =>
    simp only [Handler.learn, hl]
    rfl
  | error e =>
    simp only [Handler.learn, hl]
    rfl

/-- One challenge, for the bearer handler of the host. -/
theorem learn_one {hd : Handling W Handler} {a : Authenticator Handler} {uri : Uri}
    {response : Response} {c : Challenge}
    (hstatus : response.status = .unauthorized) (hhost : uri.hostKey? = some host)
    (hparse : Challenge.parseAll (Headers.values response.headers Header.wwwAuthenticate) = .ok [c]) :
    a.learn hd uri response = learnAll hd host false a [c] := by
  rw [learn, if_neg (by simp [hstatus]), hhost]
  simp only [hparse]

theorem learnAll_withBearer (h : BearerAuth) {c : Challenge} (s : Session W)
    (hc : c.scheme = .ofText "bearer") :
    learnAll (Handler.handling v.net) host false (withBearer provider options host h) [c] s =
      (((h.learn c).map fun _ => (),
        withBearer provider options host ((h.learn c).toOption.getD h)), s) := by
  rw [learnAll, hc, factory?_withBearer]
  simp only [Session.bind_apply, obtain_withBearer, Handler.handling, handler_learn,
    store_withBearer]
  cases h.learn c with
  | ok h' => rfl
  | error e => cases e <;> rfl

theorem learnAll_bearerOnly {h' : BearerAuth} {c : Challenge} (s : Session W)
    (hc : c.scheme = .ofText "bearer")
    (hok : BearerAuth.learn { host := host, credentials := provider host, options := options } c =
      .ok h') :
    learnAll (Handler.handling v.net) host false (bearerOnly provider options) [c] s =
      ((.ok (), withBearer provider options host h'),
        { s with journal := s.journal ++ [.logged (.handlerCreated host "bearer"), .lookedUp host] }) := by
  rw [learnAll, hc, factory?_bearerOnly]
  simp only [Session.bind_apply, obtain_bearerOnly, Handler.handling, handler_learn, hok]
  rfl

/-- A refusal with a new scope teaches it. -/
theorem Knows.learn_new (hv : v.Fair) {s : Session W}
    {scopes : List String} {a : Authenticator Handler} {uri : Uri}
    (hk : Knows v provider options host s.world scopes a) (hu : uri.hostKey? = some host)
    {q : Request} {r : Response} (hr : v.refusals q r) (hq : v.scope q ∉ scopes) :
    ∃ a' s', a.learn (Handler.handling v.net) uri r s = ((.ok (), a'), s') ∧
      s'.world = s.world ∧ Knows v provider options host s'.world (scopes ++ [v.scope q]) a' := by
  obtain ⟨c, hparse, hc, hd⟩ := hv.refuses q r hr
  rw [learn_one (hv.unauthorized q r hr) hu hparse]
  cases hk with
  | nothing =>
    have hok := BearerAuth.learn_of_new
      (h := { host := host, credentials := provider host, options := options }) hd
      (fun _ => ⟨rfl, rfl, rfl, rfl⟩) (.inl rfl) hq
    refine ⟨_, _, learnAll_bearerOnly s hc hok, rfl, ?_⟩
    refine .learned _ (by simp) rfl rfl rfl ?_
    intro t ht
    cases ht
  | learned h hne hw hcred ho ht =>
    obtain ⟨hrealm, hservice, hscopes⟩ := BearerAuth.wanted?_eq_some hw
    have hok := BearerAuth.learn_of_new hd (BearerAuth.coherent_of_wanted hw) (.inr ⟨hrealm, hservice⟩)
      (by rwa [hscopes])
    rw [learnAll_withBearer h s hc, hok]
    refine ⟨_, _, rfl, rfl, .learned _ (by simp) ?_ hcred ho ?_⟩
    · change (h.taught _).wanted? = _
      rw [BearerAuth.wanted?_taught, hscopes]
    · intro t ht
      cases ht

/-- A refusal with a known scope is not new, and changes nothing. -/
theorem Knows.learn_known (hv : v.Fair) {s : Session W}
    {scopes : List String} {a : Authenticator Handler} {uri : Uri}
    (hk : Knows v provider options host s.world scopes a) (hu : uri.hostKey? = some host)
    {q : Request} {r : Response} (hr : v.refusals q r) (hq : v.scope q ∈ scopes) :
    a.learn (Handler.handling v.net) uri r s = ((.error .noNewChallenge, a), s) := by
  obtain ⟨c, hparse, hc, hd⟩ := hv.refuses q r hr
  rw [learn_one (hv.unauthorized q r hr) hu hparse]
  cases hk with
  | nothing => cases hq
  | learned h hne hw =>
    obtain ⟨hrealm, hservice, hscopes⟩ := BearerAuth.wanted?_eq_some hw
    rw [learnAll_withBearer h s hc, BearerAuth.learn_of_known hd hrealm hservice (by rwa [hscopes])]
    rfl

end authenticators

end Authenticator

end HttpAuth
