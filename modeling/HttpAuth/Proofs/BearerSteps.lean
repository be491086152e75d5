import HttpAuth.Proofs.Exchange
import HttpAuth.Scheme.Bearer

namespace HttpAuth

/-- What a bearer challenge has to name. -/
structure Demand where
  realm : String
  service : String
  scope : String
deriving DecidableEq, Repr

def Challenge.demand? (c : Challenge) : Option Demand :=
  match c.param? "realm", c.param? "service", c.param? "scope" with
  | some realm, some service, some scope => some ⟨realm, service, scope⟩
  | _, _, _ => none

theorem Challenge.demand?_eq_some {c : Challenge} {d : Demand} (h : c.demand? = some d) :
    c.param? "realm" = some d.realm ∧ c.param? "service" = some d.service ∧
      c.param? "scope" = some d.scope := by
  unfold demand? at h
  split at h
  · next hr hs hc =>
    cases h
    exact ⟨hr, hs, hc⟩
  · cases h

theorem Challenge.demand?_of_params {c : Challenge} {realm service scope : String}
    (hr : c.param? "realm" = some realm) (hs : c.param? "service" = some service)
    (hc : c.param? "scope" = some scope) : c.demand? = some ⟨realm, service, scope⟩ := by
  simp only [demand?, hr, hs, hc]

namespace BearerAuth

/-- What a token is asked for with. -/
def wanted? (h : BearerAuth) : Option TokenRequest :=
  match h.realm?, h.service? with
  | some realm, some service => some ⟨realm, service, h.scopes⟩
  | _, _ => none

/-- As long as there is nothing to ask for, nothing is known. -/
structure Blank (h : BearerAuth) : Prop where
  realm : h.realm? = none
  service : h.service? = none
  scopes : h.scopes = []
  token : h.token? = none

def Coherent (h : BearerAuth) : Prop := h.wanted? = none → h.Blank

/-- The handler after a challenge that was accepted. -/
def taught (h : BearerAuth) (d : Demand) : BearerAuth :=
  { h with
    realm? := some d.realm
    service? := some d.service
    scopes := h.scopes ++ [d.scope]
    token? := none }

/-- Whether the handler is bound to the realm and service of a demand, or still to none. -/
def Admits (h : BearerAuth) (d : Demand) : Prop :=
  h.wanted? = none ∨ h.realm? = some d.realm ∧ h.service? = some d.service

/-- The handler has taken in a demand, so the same one would not be new. -/
structure Remembers (h : BearerAuth) (d : Demand) : Prop where
  realm : h.realm? = some d.realm
  service : h.service? = some d.service
  scope : d.scope ∈ h.scopes

theorem wanted?_eq_some {h : BearerAuth} {r : TokenRequest} (hw : h.wanted? = some r) :
    h.realm? = some r.realm ∧ h.service? = some r.service ∧ h.scopes = r.scopes := by
  unfold wanted? at hw
  split at hw
  · next hr hs =>
    cases hw
    exact ⟨hr, hs, rfl⟩
  · cases hw

theorem wanted?_taught (h : BearerAuth) (d : Demand) :
    (h.taught d).wanted? = some ⟨d.realm, d.service, h.scopes ++ [d.scope]⟩ := rfl

theorem coherent_of_wanted {h : BearerAuth} {r : TokenRequest} (hw : h.wanted? = some r) :
    h.Coherent := by
  intro hn
  rw [hw] at hn
  cases hn

theorem coherent_taught (h : BearerAuth) (d : Demand) : (h.taught d).Coherent :=
  coherent_of_wanted (wanted?_taught h d)

theorem learn_of_demand (h : BearerAuth) {c : Challenge} {d : Demand} (hd : c.demand? = some d) :
    h.learn c =
      if h.realm? = some d.realm ∧ h.service? = some d.service ∧ d.scope ∈ h.scopes then
        .error .noNewChallenge
      else do
        bind h.realm? d.realm "realm"
        bind h.service? d.service "service"
        return if d.scope ∈ h.scopes then
          { h with realm? := some d.realm, service? := some d.service } else h.taught d := by
  obtain ⟨hr, hs, hc⟩ := Challenge.demand?_eq_some hd
  simp only [learn, required, hr, hs, hc]
  rfl

theorem learn_of_flawed (h : BearerAuth) {c : Challenge} (hd : c.demand? = none) :
    ∃ flaw, h.learn c = .error (.invalidChallenge flaw) := by
  unfold Challenge.demand? at hd
  simp only [learn, required]
  cases hr : c.param? "realm" with
  | none => exact ⟨_, rfl⟩
  | some realm =>
    cases hs : c.param? "service" with
    | none => exact ⟨_, rfl⟩
    | some service =>
      cases hc : c.param? "scope" with
      | none => exact ⟨_, rfl⟩
      | some scope =>
        rw [hr, hs, hc] at hd
        cases hd

theorem learn_of_incomplete {h h' : BearerAuth} {c : Challenge} (hd : c.demand? = none) :
    h.learn c ≠ .ok h' := by
  obtain ⟨flaw, hl⟩ := learn_of_flawed h hd
  rw [hl]
  simp

theorem bind_cases (bound? : Option String) (value what : String) :
    bind bound? value what = .ok () ∧ (bound? = none ∨ bound? = some value) ∨
      ∃ flaw, bind bound? value what = .error (.invalidChallenge flaw) := by
  cases bound? with
  | none => exact .inl ⟨rfl, .inl rfl⟩
  | some bound =>
    by_cases he : bound = value
    · exact .inl ⟨if_pos he, .inr (congrArg some he)⟩
    · exact .inr ⟨_, if_neg he⟩

theorem learn_of_known {h : BearerAuth} {c : Challenge} {d : Demand} (hd : c.demand? = some d)
    (hr : h.realm? = some d.realm) (hs : h.service? = some d.service) (hc : d.scope ∈ h.scopes) :
    h.learn c = .error .noNewChallenge := by
  rw [learn_of_demand h hd, if_pos ⟨hr, hs, hc⟩]

theorem learn_of_new {h : BearerAuth} {c : Challenge} {d : Demand} (hd : c.demand? = some d)
    (hh : h.Coherent) (ha : h.Admits d) (hc : d.scope ∉ h.scopes) :
    h.learn c = .ok (h.taught d) := by
  rw [learn_of_demand h hd, if_neg fun hk => hc hk.2.2, if_neg hc]
  rcases ha with hn | ⟨hr, hs⟩
  · rw [(hh hn).realm, (hh hn).service]
    rfl
  · rw [hr, hs]
    simp only [bind, if_pos]
    rfl

/-- What a demand does to a handler that is not bound to others. -/
def takeIn (h : BearerAuth) (d : Demand) : BearerAuth :=
  if d.scope ∈ h.scopes then { h with realm? := some d.realm, service? := some d.service }
  else h.taught d

/-- What comes of a challenge: it is invalid, known or accepted. -/
theorem learn_cases (h : BearerAuth) (c : Challenge) :
    (∃ flaw, h.learn c = .error (.invalidChallenge flaw)) ∨
      ∃ d, c.demand? = some d ∧
        (h.Remembers d ∧ h.learn c = .error .noNewChallenge ∨
          ¬ h.Remembers d ∧ (h.realm? = none ∨ h.realm? = some d.realm) ∧
            (h.service? = none ∨ h.service? = some d.service) ∧ h.learn c = .ok (h.takeIn d)) := by
  cases hd : c.demand? with
  | none => exact .inl (learn_of_flawed h hd)
  | some d =>
    by_cases hk : h.Remembers d
    · exact .inr ⟨d, rfl, .inl ⟨hk, learn_of_known hd hk.realm hk.service hk.scope⟩⟩
    · have hlearn := learn_of_demand h hd
      rw [if_neg fun hn => hk ⟨hn.1, hn.2.1, hn.2.2⟩] at hlearn
      rcases bind_cases h.realm? d.realm "realm" with ⟨hr, hrealm⟩ | ⟨flaw, hr⟩
      · rcases bind_cases h.service? d.service "service" with ⟨hs, hservice⟩ | ⟨flaw, hs⟩
        · rw [hr, hs] at hlearn
          exact .inr ⟨d, rfl, .inr ⟨hk, hrealm, hservice, hlearn⟩⟩
        · rw [hr, hs] at hlearn
          exact .inl ⟨flaw, hlearn⟩
      · rw [hr] at hlearn
        exact .inl ⟨flaw, hlearn⟩

/-- A challenge that is accepted brings a new scope for the realm and service the handler is bound to. -/
theorem learn_eq_ok {h h' : BearerAuth} {c : Challenge} (hh : h.Coherent)
    (hok : h.learn c = .ok h') :
    ∃ d, c.demand? = some d ∧ h.Admits d ∧ d.scope ∉ h.scopes ∧ h' = h.taught d := by
  rcases learn_cases h c with ⟨flaw, hl⟩ | ⟨d, hd, ⟨-, hl⟩ | ⟨hk, hr, hs, hl⟩⟩
  · rw [hl] at hok
    cases hok
  · rw [hl] at hok
    cases hok
  · rw [hl] at hok
    cases hok
    have ha : h.Admits d := by
      cases hw : h.wanted? with
      | none => exact .inl hw
      | some r =>
        obtain ⟨hwr, hws, -⟩ := wanted?_eq_some hw
        refine .inr ⟨?_, ?_⟩
        · simpa [hwr] using hr
        · simpa [hws] using hs
    have hc : d.scope ∉ h.scopes := by
      intro hc
      rcases ha with hn | ⟨hwr, hws⟩
      · rw [(hh hn).scopes] at hc
        cases hc
      · exact hk ⟨hwr, hws, hc⟩
    exact ⟨d, hd, ha, hc, if_neg hc⟩

/-- What was taken in stays. -/
theorem Remembers.learned {h h' : BearerAuth} {c : Challenge} {d : Demand} (hd : h.Remembers d)
    (hok : h.learn c = .ok h') : h'.Remembers d := by
  rcases learn_cases h c with ⟨flaw, hl⟩ | ⟨e, -, ⟨-, hl⟩ | ⟨-, hr, hs, hl⟩⟩
  · rw [hl] at hok
    cases hok
  · rw [hl] at hok
    cases hok
  · rw [hl] at hok
    cases hok
    rw [hd.realm] at hr
    rw [hd.service] at hs
    have hrealm : some e.realm = some d.realm := by simpa [eq_comm] using hr
    have hservice : some e.service = some d.service := by simpa [eq_comm] using hs
    unfold takeIn
    split
    · exact ⟨hrealm, hservice, hd.scope⟩
    · exact ⟨hrealm, hservice, List.mem_append_left _ hd.scope⟩

/-- What has just been accepted has been taken in. -/
theorem remembers_takeIn (h : BearerAuth) (d : Demand) : (h.takeIn d).Remembers d := by
  unfold takeIn
  split
  · next hc => exact ⟨rfl, rfl, hc⟩
  · exact ⟨rfl, rfl, by simp [taught]⟩

variable {W : Type}

/-- What happens when a value is asked for. `clock` is the session once the clock has been read. -/
inductive Outcome (net : Network W) (h : BearerAuth) (s : Session W) :
    Except AuthError String → BearerAuth → Session W → Prop where
  | nothing (hw : h.wanted? = none) :
    Outcome net h s (.error (.authFailed .nothingLearned)) h s
  | reused (r : TokenRequest) (t : IssuedToken) (hw : h.wanted? = some r)
    (ht : h.token? = some t) (hf : t.isFresh (net.now s.world).1 h.options.leeway = true) :
    Outcome net h s (.ok (value t.token)) h
      { world := (net.now s.world).2, journal := s.journal ++ [.logged (.tokenReused h.host)] }
  | renewed (r : TokenRequest) (t : IssuedToken) (s' : Session W) (hw : h.wanted? = some r)
    (hs : ∀ old, h.token? = some old → old.isFresh (net.now s.world).1 h.options.leeway = false)
    (hx : r.exchange net h.credentials h.options { s with world := (net.now s.world).2 } =
      (.ok t, s')) :
    Outcome net h s (.ok (value t.token)) { h with token? := some t } s'
  | failed (r : TokenRequest) (e : TokenFailure) (s' : Session W) (hw : h.wanted? = some r)
    (hs : ∀ old, h.token? = some old → old.isFresh (net.now s.world).1 h.options.leeway = false)
    (hx : r.exchange net h.credentials h.options { s with world := (net.now s.world).2 } =
      (.error e, s')) :
    Outcome net h s (.error (.authFailed e)) h s'

section outcomes

variable {net : Network W} {h h' : BearerAuth} {s s' : Session W} {result : Except AuthError String}

theorem Outcome.wanted (ho : Outcome net h s result h' s') : h'.wanted? = h.wanted? := by
  cases ho with
  | nothing | reused | renewed | failed => rfl

/-- A value that is returned shows the token that is kept. -/
theorem Outcome.token {v : String} (ho : Outcome net h s (.ok v) h' s') :
    ∃ t, h'.token? = some t ∧ v = value t.token := by
  cases ho with
  | reused r t hw ht => exact ⟨t, ht, rfl⟩
  | renewed r t => exact ⟨t, rfl, rfl⟩

end outcomes

theorem outcome_renew (net : Network W) {h : BearerAuth} {r : TokenRequest} (s : Session W)
    (hw : h.wanted? = some r)
    (hs : ∀ old, h.token? = some old → old.isFresh (net.now s.world).1 h.options.leeway = false) :
    let x := renew net h r.realm r.service { s with world := (net.now s.world).2 }
    Outcome net h s x.1.1 x.1.2 x.2 := by
  have hr : (⟨r.realm, r.service, h.scopes⟩ : TokenRequest) = r := by
    rw [(wanted?_eq_some hw).2.2]
  rw [renew, hr, Session.bind_apply]
  cases hx : r.exchange net h.credentials h.options { s with world := (net.now s.world).2 } with
  | mk result s' =>
    cases result with
    | error e => exact .failed r e s' hw hs hx
    | ok t => exact .renewed r t s' hw hs hx

theorem outcome_authorize (net : Network W) (h : BearerAuth) (s : Session W) :
    Outcome net h s (h.authorize net s).1.1 (h.authorize net s).1.2 (h.authorize net s).2 := by
  cases hw : h.wanted? with
  | none =>
    have ha : h.authorize net s = ((.error (.authFailed .nothingLearned), h), s) := by
      unfold wanted? at hw
      unfold authorize
      cases hr : h.realm? with
      | none => rfl
      | some realm =>
        cases hs : h.service? with
        | none => rfl
        | some service =>
          rw [hr, hs] at hw
          cases hw
    rw [ha]
    exact .nothing hw
  | some r =>
    obtain ⟨hr, hs, -⟩ := wanted?_eq_some hw
    rw [authorize, hr, hs]
    simp only [Session.bind_apply, Session.now_apply]
    cases hf : h.token?.filter (·.isFresh (net.now s.world).1 h.options.leeway) with
    | some t =>
      obtain ⟨ht, hfresh⟩ := Option.filter_eq_some_iff.mp hf
      exact .reused r t hw ht hfresh
    | none =>
      apply outcome_renew net s hw
      intro old hold
      rw [hold] at hf
      simpa using hf

theorem discreet_authorize (net : Network W) (h : BearerAuth) : Session.Discreet (h.authorize net) := by
  have hrenew : ∀ realm service, Session.Discreet (renew net h realm service) := by
    intro realm service
    apply (TokenRequest.discreet_exchange net _ _ _).bind
    intro result
    cases result with
    | error failure => exact Session.discreet_pure _
    | ok issued => exact Session.discreet_pure _
  unfold authorize
  cases h.realm? with
  | none => exact Session.discreet_pure _
  | some realm =>
    cases h.service? with
    | none => exact Session.discreet_pure _
    | some service =>
      apply (Session.discreet_now net).bind
      intro now
      cases h.token?.filter (·.isFresh now h.options.leeway) with
      | none => exact hrenew realm service
      | some token => exact (Session.discreet_log _).bind fun _ => Session.discreet_pure _

end BearerAuth

end HttpAuth
