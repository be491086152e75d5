import HttpAuth.Proofs.BearerKnowledge
import HttpAuth.Proofs.Freshness
import HttpAuth.Proofs.TokenOutcome

namespace HttpAuth

open Time (Instant Span)

variable {W : Type} {net : Network W}

/-- What was sent, in the order of time. -/
def Session.messages (s : Session W) : List (Purpose × Request) := s.journal.filterMap fun entry =>
  match entry with
  | .sent purpose request _ => some (purpose, request)
  | _ => none

namespace TokenRequest

/-- What is sent when a token is asked for: one message, if the request can be built. -/
def messages (r : TokenRequest) (credentials : Credentials) : List (Purpose × Request) :=
  match r.toHttp credentials with
  | .error _ => []
  | .ok request => [(.token, request)]

theorem messages_exchange (net : Network W) (r : TokenRequest) (credentials : Credentials)
    (options : TokenOptions) (s : Session W) :
    (r.exchange net credentials options s).2.messages = s.messages ++ r.messages credentials := by
  rw [messages]
  cases hr : r.toHttp credentials with
  | error e =>
    rw [exchange_of_refusal hr]
    simp [Session.messages, List.filterMap_append]
  | ok request =>
    cases hn : (net.send request s.world).1 with
    | error text =>
      rw [exchange_of_silence hr hn]
      simp [Session.messages, List.filterMap_append]
    | ok response =>
      rw [exchange_of_response hr hn, Session.messages, journal_accept]
      simp [Session.messages, List.filterMap_append]

end TokenRequest

namespace BearerAuth

/-- What the clock shows to a call for a value. -/
def Moment.clock (net : Network W) (m : Moment W) : Instant := (net.now m.session.world).1

/-- The session once the clock has been read. -/
def Moment.timed (net : Network W) (m : Moment W) : Session W :=
  { m.session with world := (net.now m.session.world).2 }

/-- The token is cached, and by the clock it is fresh. -/
structure Moment.Serves (net : Network W) (m : Moment W) (t : IssuedToken) : Prop where
  cached : m.handler.token? = some t
  fresh : ∃ deadline, (m.clock net).IsSum m.handler.options.leeway deadline ∧ deadline.Before t.expiresAt

def Moment.fresh? (net : Network W) (m : Moment W) : Option IssuedToken :=
  m.handler.token?.filter (·.isFresh (m.clock net) m.handler.options.leeway)

/-- A call for a value tries an exchange of `r`, with one message at most. Nothing comes of it but the token
that is returned and from then on cached, or the failure. -/
structure Renewal (net : Network W) (credentials : Credentials) (options : TokenOptions) (m : Moment W)
    (r : TokenRequest) : Prop where
  messages : (m.handler.authorize net m.session).2.messages = m.session.messages ++ r.messages credentials
  issued : ∀ t s', r.exchange net credentials options (m.timed net) = (.ok t, s') →
    m.handler.authorize net m.session = ((.ok (value t.token), { m.handler with token? := some t }), s')
  failed : ∀ e s', r.exchange net credentials options (m.timed net) = (.error e, s') →
    m.handler.authorize net m.session = ((.error (.authFailed e), m.handler), s')

section moments

variable {m : Moment W} {t : IssuedToken} {r : TokenRequest}

theorem Moment.fresh?_eq_some : m.fresh? net = some t ↔ m.Serves net t := by
  rw [fresh?, Option.filter_eq_some_iff, IssuedToken.isFresh_iff]
  exact ⟨fun h => ⟨h.1, h.2⟩, fun h => ⟨h.cached, h.fresh⟩⟩

theorem Moment.fresh?_eq_none : m.fresh? net = none ↔ ∀ t, ¬ m.Serves net t := by
  simp only [Option.eq_none_iff_forall_ne_some, ne_eq, fresh?_eq_some]

theorem Moment.messages_timed (net : Network W) (m : Moment W) :
    (m.timed net).messages = m.session.messages := rfl

theorem authorize_of_blank (hw : m.handler.wanted? = none) :
    m.handler.authorize net m.session = ((.error (.authFailed .nothingLearned), m.handler), m.session) := by
  have ho := outcome_authorize net m.handler m.session
  generalize m.handler.authorize net m.session = x at ho
  obtain ⟨⟨result, h'⟩, s'⟩ := x
  cases ho with
  | nothing => rfl
  | reused r t hw' | renewed r t s' hw' | failed r e s' hw' =>
    rw [hw] at hw'
    cases hw'

theorem authorize_of_serves (hw : m.handler.wanted? = some r) (ht : m.Serves net t) :
    (m.handler.authorize net m.session).1 = (.ok (value t.token), m.handler) ∧
      (m.handler.authorize net m.session).2.messages = m.session.messages := by
  have hfresh := IssuedToken.isFresh_iff.mpr ht.fresh
  have ho := outcome_authorize net m.handler m.session
  generalize m.handler.authorize net m.session = x at ho
  obtain ⟨⟨result, h'⟩, s'⟩ := x
  cases ho with
  | nothing hw' =>
    rw [hw] at hw'
    cases hw'
  | reused r' t' hw' ht' =>
    cases ht.cached.symm.trans ht'
    exact ⟨rfl, by simp [Session.messages, List.filterMap_append]⟩
  | renewed r' t' s' hw' hs | failed r' e s' hw' hs =>
    have hstale := hs t ht.cached
    rw [Moment.clock] at hfresh
    rw [hfresh] at hstale
    cases hstale

theorem renewal_of_stale (hw : m.handler.wanted? = some r) (hn : ∀ t, ¬ m.Serves net t) :
    Renewal net m.handler.credentials m.handler.options m r := by
  obtain ⟨hrealm, hservice, hscopes⟩ := wanted?_eq_some hw
  have hr : (⟨r.realm, r.service, m.handler.scopes⟩ : TokenRequest) = r := by rw [hscopes]
  have hauthorize : m.handler.authorize net m.session =
      renew net m.handler r.realm r.service (m.timed net) := by
    have hfresh := Moment.fresh?_eq_none.mpr hn
    rw [Moment.fresh?, Moment.clock] at hfresh
    rw [authorize, hrealm, hservice]
    simp only [Session.bind_apply, Session.now_apply, hfresh]
    rfl
  rw [renew, hr, Session.bind_apply] at hauthorize
  refine ⟨?_, ?_, ?_⟩
  · rw [← Moment.messages_timed, ← TokenRequest.messages_exchange net r _ m.handler.options, hauthorize]
    cases (r.exchange net m.handler.credentials m.handler.options (m.timed net)).1 <;> rfl
  · intro t s' hx
    rw [hauthorize, hx]
    rfl
  · intro e s' hx
    rw [hauthorize, hx]
    rfl

end moments

/-- What makes a difference to the cached token. -/
inductive Mark where
  | accepted (d : Demand)
  | issued (t : IssuedToken)
deriving DecidableEq

def Mark.token? : Mark → Option IssuedToken
  | accepted _ => none
  | issued t => some t

/-- The token that a call for a value gets by an exchange. -/
def Moment.issued? (net : Network W) (m : Moment W) : Option IssuedToken :=
  match m.handler.wanted?, m.fresh? net with
  | some r, none => (r.exchange net m.handler.credentials m.handler.options (m.timed net)).1.toOption
  | _, _ => none

def mark? (net : Network W) (m : Moment W) : Call → Option Mark
  | .learn c => (lesson m.handler (.learn c)).map .accepted
  | .authorize => (m.issued? net).map .issued

/-- The challenges that were accepted and the tokens that were issued in a run, in the order of time. -/
def marks (net : Network W) (m : Moment W) : List Call → List Mark
  | [] => []
  | c :: calls => (mark? net m c).toList ++ marks net (call net m c) calls

theorem marks_append {start : Moment W} {calls : List Call} (c : Call) :
    marks net start (calls ++ [c]) =
      marks net start calls ++ (mark? net (run net start calls) c).toList := by
  induction calls generalizing start with
  | nil => exact List.append_nil _
  | cons d calls ih =>
    rw [List.cons_append, marks, marks, ih, List.append_assoc]
    rfl

theorem issued?_of_exchange {m : Moment W} {r : TokenRequest} (hw : m.handler.wanted? = some r)
    (hn : ∀ t, ¬ m.Serves net t) : m.issued? net =
      (r.exchange net m.handler.credentials m.handler.options (m.timed net)).1.toOption := by
  rw [Moment.issued?, hw, Moment.fresh?_eq_none.mpr hn]

/-- A call leaves the token as it was, or as its mark says. -/
theorem token?_call {m : Moment W} (hh : m.handler.Coherent) (c : Call) :
    (call net m c).handler.token? = (mark? net m c).elim m.handler.token? Mark.token? := by
  cases c with
  | learn c =>
    rw [call, mark?, lesson]
    cases hl : m.handler.learn c with
    | error e => rfl
    | ok h' =>
      obtain ⟨d, hd, -, -, rfl⟩ := learn_eq_ok hh hl
      simp only [hd]
      rfl
  | authorize =>
    rw [call, mark?]
    cases hw : m.handler.wanted? with
    | none =>
      rw [authorize_of_blank hw, Moment.issued?, hw]
      rfl
    | some r =>
      cases hf : m.fresh? net with
      | some t =>
        rw [(authorize_of_serves hw (Moment.fresh?_eq_some.mp hf)).1, Moment.issued?, hw, hf]
        rfl
      | none =>
        have hn := Moment.fresh?_eq_none.mp hf
        have hr := renewal_of_stale hw hn
        rw [issued?_of_exchange hw hn]
        cases hx : r.exchange net m.handler.credentials m.handler.options (m.timed net) with
        | mk result s' =>
          cases result with
          | ok t =>
            rw [hr.issued t s' hx]
            rfl
          | error e =>
            rw [hr.failed e s' hx]
            rfl

/-- The cached token is the one that was issued last, if nothing was accepted since. -/
theorem token?_run {start : Moment W} (h : start.handler.Blank) (calls : List Call) :
    (run net start calls).handler.token? = (marks net start calls).getLast?.bind Mark.token? := by
  induction calls using List.reverseRecOn with
  | nil => exact h.token
  | append_singleton calls c ih =>
    rw [run_append, token?_call (sound_run h calls).coherent, marks_append]
    cases mark? net (run net start calls) c with
    | none => simpa using ih
    | some mark => simp

theorem Outcome.options {h h' : BearerAuth} {s s' : Session W} {result : Except AuthError String}
    (ho : Outcome net h s result h' s') : h'.options = h.options := by
  cases ho with
  | nothing | reused | renewed | failed => rfl

theorem options_call (net : Network W) (m : Moment W) (c : Call) :
    (call net m c).handler.options = m.handler.options := by
  cases c with
  | learn c =>
    rw [call]
    rcases learn_cases m.handler c with ⟨flaw, hl⟩ | ⟨d, -, ⟨-, hl⟩ | ⟨-, -, -, hl⟩⟩
    · rw [hl]
    · rw [hl]
    · rw [hl]
      simp only [takeIn]
      split <;> rfl
  | authorize => exact (outcome_authorize net m.handler m.session).options

theorem options_run (net : Network W) (start : Moment W) (calls : List Call) :
    (run net start calls).handler.options = start.handler.options := by
  induction calls generalizing start with
  | nil => rfl
  | cons c calls ih => exact (ih (call net start c)).trans (options_call net start c)

section lessons

variable {start : Moment W} {calls : List Call}

theorem wanted?_of_nothing (h : start.handler.Blank) (hn : lessons net start calls = []) :
    (run net start calls).handler.wanted? = none := by
  have hs : Sound net start calls := sound_run h calls
  have hscopes := hs.scopes
  rw [hn] at hscopes
  rcases (knowing_run net h calls).together with ⟨hr, -, -⟩ | ⟨_, _, -, -, hne⟩
  · simp only [wanted?, hr]
  · exact absurd hscopes hne

/-- Of any demand that was accepted, the realm is asked for its service and for all scopes. -/
theorem wanted?_of_mem (h : start.handler.Blank) {d : Demand} (hd : d ∈ lessons net start calls) :
    (run net start calls).handler.wanted? =
      some ⟨d.realm, d.service, (lessons net start calls).map Demand.scope⟩ := by
  have hs : Sound net start calls := sound_run h calls
  obtain ⟨hrealm, hservice⟩ := hs.bound d hd
  simp only [wanted?, hrealm, hservice, hs.scopes]

/-- If no token is fresh then an exchange is tried with the settings the handler was made with. -/
theorem renewal_run (h : start.handler.Blank) {d : Demand} (hd : d ∈ lessons net start calls)
    (hn : ∀ t, ¬ (run net start calls).Serves net t) :
    Renewal net start.handler.credentials start.handler.options (run net start calls)
      ⟨d.realm, d.service, (lessons net start calls).map Demand.scope⟩ := by
  have hs : Sound net start calls := sound_run h calls
  have hr := renewal_of_stale (wanted?_of_mem h hd) hn
  rwa [hs.credentials, options_run] at hr

end lessons

/-- Whatever is called in whatever order, with whatever replies and at whatever times: the cached token is the
one that was issued last, if nothing has been accepted since. Before a challenge is accepted a call for a
value fails and does nothing. A fresh token is returned without a message or a change, and it has not expired
unless the leeway is negative. Otherwise an exchange is tried, and it is for the same request until another
challenge is accepted. -/
theorem cache_of_run (net : Network W) (host : String) (credentials : Credentials)
    (options : TokenOptions) (s : Session W) (calls : List Call) :
    let start : Moment W := ⟨{ host := host, credentials := credentials, options := options }, s⟩
    let m := run net start calls
    let answer := m.handler.authorize net m.session
    let ds := lessons net start calls
    (m.handler.credentials = credentials ∧ m.handler.options = options) ∧
    (∀ t, m.handler.token? = some t ↔ (marks net start calls).getLast? = some (.issued t)) ∧
    (ds = [] → answer = ((.error (.authFailed .nothingLearned), m.handler), m.session)) ∧
    (∀ t, m.Serves net t →
      answer.1 = (.ok (value t.token), m.handler) ∧ answer.2.messages = m.session.messages ∧
        (0 ≤ options.leeway.nanos → (m.clock net).Before t.expiresAt)) ∧
    (ds ≠ [] → ∃ r, r.scopes = ds.map Demand.scope ∧
      (∀ d ∈ ds, r.realm = d.realm ∧ r.service = d.service) ∧
      ((∀ t, ¬ m.Serves net t) → Renewal net credentials options m r) ∧
      ∀ more, let later := run net start (calls ++ more)
        lessons net start (calls ++ more) = ds → (∀ t, ¬ later.Serves net t) →
          Renewal net credentials options later r) := by
  intro start m answer ds
  have hblank : start.handler.Blank := ⟨rfl, rfl, rfl, rfl⟩
  have hsound : Sound net start calls := sound_run hblank calls
  have hoptions : m.handler.options = options := options_run net start calls
  refine ⟨⟨hsound.credentials, hoptions⟩, ?_, ?_, ?_, ?_⟩
  · intro t
    rw [token?_run hblank calls, Option.bind_eq_some_iff]
    constructor
    · rintro ⟨mark, hlast, hmark⟩
      cases mark with
      | accepted d => cases hmark
      | issued u =>
        cases hmark
        exact hlast
    · intro hlast
      exact ⟨_, hlast, rfl⟩
  · intro hn
    exact authorize_of_blank (wanted?_of_nothing hblank hn)
  · intro t ht
    cases hw : m.handler.wanted? with
    | none =>
      have hnone := (hsound.coherent hw).token
      rw [ht.cached] at hnone
      cases hnone
    | some r =>
      obtain ⟨hvalue, hmessages⟩ := authorize_of_serves hw ht
      refine ⟨hvalue, hmessages, ?_⟩
      intro hleeway
      obtain ⟨deadline, hsum, hbefore⟩ := ht.fresh
      rw [hoptions] at hsum
      exact hsum.before hleeway hbefore
  · intro hne
    obtain ⟨d, hd⟩ := List.exists_mem_of_ne_nil ds hne
    refine ⟨⟨d.realm, d.service, ds.map Demand.scope⟩, rfl, ?_, renewal_run hblank hd, ?_⟩
    · intro e he
      have hsame := (wanted?_of_mem hblank hd).symm.trans (wanted?_of_mem hblank he)
      simpa using hsame
    · intro more later hlessons hn
      have hr := renewal_run hblank (hlessons ▸ hd) hn
      rwa [hlessons] at hr

/-- Half a minute passes at every look at the clock. The token lives for one, and the endpoint answers only
once. -/
theorem cache_of_run_stale :
    let epoch : Instant := ⟨0, 0, by decide, by decide, by decide⟩
    let body := Utf8.encode "\x7b\"token\":\"abc\"\x7d"
    let net : Network Nat :=
      ⟨fun _ w => (if w < 3 then .ok { status := ⟨200⟩, body := body } else .error "offline", w + 1),
        fun w => ((Instant.ofUnix? (30 * w) 0).getD epoch, w + 1)⟩
    let c := (((Challenge.ofScheme "bearer").set "realm" "http://auth.example/token").set
      "service" "registry").set "scope" "pull"
    let start : Moment Nat := ⟨{ host := "registry.example", credentials := .anonymous }, ⟨0, []⟩⟩
    let cached := run net start [.learn c, .authorize]
    let stale := run net start [.learn c, .authorize, .authorize]
    let failed := run net start [.learn c, .authorize, .authorize, .authorize]
    let r : TokenRequest := ⟨"http://auth.example/token", "registry", ["pull"]⟩
    cached.session.messages.length = 1 ∧
      (cached.handler.authorize net cached.session).1 = (.ok "Bearer abc", cached.handler) ∧
      (cached.handler.authorize net cached.session).2.messages = cached.session.messages ∧
      (stale.handler.authorize net stale.session).1 = (.error (.authFailed .requestFailed), stale.handler) ∧
      stale.handler.token?.isSome ∧ Renewal net .anonymous {} stale r ∧
      Renewal net .anonymous {} failed r := by
  intro epoch body net c start cached stale failed r
  let d : Demand := ⟨"http://auth.example/token", "registry", "pull"⟩
  have hserves : ∃ t, cached.Serves net t ∧ t.token = "abc" := by
    have hfresh : (cached.fresh? net).map IssuedToken.token = some "abc" := by decide +kernel
    obtain ⟨t, ht, habc⟩ := Option.map_eq_some_iff.mp hfresh
    exact ⟨t, Moment.fresh?_eq_some.mp ht, habc⟩
  obtain ⟨t, ht, habc⟩ := hserves
  obtain ⟨-, -, -, hcached, -⟩ := cache_of_run net "registry.example" .anonymous {} ⟨0, []⟩
    [.learn c, .authorize]
  obtain ⟨hvalue, hmessages, -⟩ := hcached t ht
  rw [habc] at hvalue
  have hds : lessons net start [.learn c, .authorize, .authorize] = [d] := by decide +kernel
  have hds' : lessons net start ([.learn c, .authorize, .authorize] ++ [.authorize]) = [d] := by
    decide +kernel
  have hn : ∀ t, ¬ stale.Serves net t := Moment.fresh?_eq_none.mp (by decide +kernel)
  have hn' : ∀ t, ¬ failed.Serves net t := Moment.fresh?_eq_none.mp (by decide +kernel)
  obtain ⟨-, -, -, -, hstale⟩ := cache_of_run net "registry.example" .anonymous {} ⟨0, []⟩
    [.learn c, .authorize, .authorize]
  obtain ⟨⟨realm, service, scopes⟩, hscopes, hbound, hrenewal, hlater⟩ :=
    hstale (hds ▸ List.cons_ne_nil d [])
  rw [hds] at hscopes hbound
  obtain ⟨rfl, rfl⟩ := hbound d List.mem_cons_self
  obtain rfl := hscopes
  exact ⟨by decide +kernel, hvalue, hmessages, by decide +kernel, by decide +kernel, hrenewal hn,
    hlater [.authorize] (hds'.trans hds.symm) hn'⟩

end BearerAuth

end HttpAuth
