import HttpAuth.Authenticator.Send
import HttpAuth.Proofs.Unaccepted

namespace HttpAuth

namespace Session

variable {W α β : Type}

/-- Adds entries to the journal that fit what it returns. -/
def Writes (x : SessionM W α) (Q : α → List Entry → Prop) : Prop :=
  ∀ s : Session W, ∃ entries, (x s).2.journal = s.journal ++ entries ∧ Q (x s).1 entries

theorem writes_pure {Q : α → List Entry → Prop} {a : α} (h : Q a []) :
    Writes (pure a : SessionM W α) Q :=
  fun _ => ⟨[], (List.append_nil _).symm, h⟩

theorem Writes.imp {x : SessionM W α} {P Q : α → List Entry → Prop} (hx : Writes x P)
    (h : ∀ a entries, P a entries → Q a entries) : Writes x Q := by
  intro s
  obtain ⟨entries, hj, hp⟩ := hx s
  exact ⟨entries, hj, h _ _ hp⟩

theorem Writes.bind {x : SessionM W α} {f : α → SessionM W β} {P : α → List Entry → Prop}
    {Q : β → List Entry → Prop} (hx : Writes x P)
    (hf : ∀ a entries, P a entries → Writes (f a) fun b more => Q b (entries ++ more)) :
    Writes (x >>= f) Q := by
  intro s
  obtain ⟨entries, hj, hp⟩ := hx s
  obtain ⟨more, hk, hq⟩ := hf _ _ hp (x s).2
  refine ⟨entries ++ more, ?_, hq⟩
  rw [bind_apply, hk, hj, List.append_assoc]

theorem writes_after_note {entry : Entry} {f : Unit → SessionM W β} {Q : β → List Entry → Prop}
    (h : Writes (f ()) fun b more => Q b ([entry] ++ more)) : Writes (note entry >>= f) Q := by
  have hnote : Writes (note entry : SessionM W Unit) fun _ entries => entries = [entry] :=
    fun _ => ⟨[entry], rfl, rfl⟩
  apply hnote.bind
  rintro - _ rfl
  exact h

theorem writes_after_lookUp {provider : CredentialsProvider} {host : String}
    {f : Credentials → SessionM W β} {Q : β → List Entry → Prop}
    (h : Writes (f (provider host)) fun b more => Q b ([.lookedUp host] ++ more)) :
    Writes (lookUp provider host >>= f) Q := by
  have hlookUp : Writes (lookUp provider host : SessionM W Credentials) fun c entries =>
      c = provider host ∧ entries = [.lookedUp host] := fun _ => ⟨_, rfl, rfl, rfl⟩
  apply hlookUp.bind
  rintro _ _ ⟨rfl, rfl⟩
  exact h

theorem writes_after_send (net : Network W) {purpose : Purpose} {request : Request}
    {f : Except String Response → SessionM W β} {Q : β → List Entry → Prop}
    (h : ∀ reply, Writes (f reply) fun b more => Q b ([.sent purpose request reply] ++ more)) :
    Writes (send net purpose request >>= f) Q := by
  have hsend : Writes (send net purpose request) fun reply entries =>
      entries = [.sent purpose request reply] := fun _ => ⟨_, rfl, rfl⟩
  apply hsend.bind
  rintro reply _ rfl
  exact h reply

end Session

open Session (Writes)

/-- The token that an endpoint sent. -/
def Entry.token? : Entry → Option String
  | .sent .token _ (.ok response) =>
    if response.status.isSuccess then (TokenReply.decode? response.body).bind TokenReply.tokenText?
    else none
  | _ => none

/-- The tokens that were received. -/
def tokensOf (entries : List Entry) : List String := entries.filterMap Entry.token?

theorem tokensOf_append (entries more : List Entry) :
    tokensOf (entries ++ more) = tokensOf entries ++ tokensOf more :=
  List.filterMap_append

/-- Made of these credentials, or of one of these tokens. -/
inductive Derived (credentials : Credentials) (tokens : List String) : String → Prop where
  | basic : Derived credentials tokens credentials.basicValue
  | bearer {token : String} (h : token ∈ tokens) :
    Derived credentials tokens (BearerAuth.value token)

/-- Done in the service of a host. Its credentials are the ones looked up, and the ones a token is asked for with.
If a message of a caller is sent then it is unchanged, or has a value that is derived. -/
def Entry.Proper (host : String) (credentials : Credentials) (message? : Option Request)
    (tokens : List String) : Entry → Prop
  | .lookedUp other => other = host
  | .logged _ => True
  | .sent .token request _ => request.headers = TokenRequest.headers credentials
  | .sent .delivery request _ => ∃ message, message? = some message ∧
    (request = message ∨ ∃ value, Derived credentials tokens value ∧
      request = Authenticator.withAuthorization message (Utf8.encode value))

/-- Each entry is proper with the tokens received before it. -/
def Justified (host : String) (credentials : Credentials) (message? : Option Request)
    (tokens : List String) (entries : List Entry) : Prop :=
  ∀ before entry after, entries = before ++ entry :: after →
    entry.Proper host credentials message? (tokens ++ tokensOf before)

section justified

variable {host : String} {credentials : Credentials} {message? : Option Request}
  {tokens : List String} {entries more : List Entry} {entry : Entry}

theorem justified_nil : Justified host credentials message? tokens [] := by
  intro before entry after h
  simp at h

theorem justified_singleton (h : entry.Proper host credentials message? tokens) :
    Justified host credentials message? tokens [entry] := by
  intro before other after hsplit
  cases before with
  | nil =>
    cases hsplit
    rwa [tokensOf, List.filterMap_nil, List.append_nil]
  | cons d before => simp at hsplit

theorem justified_logged (event : Event) :
    Justified host credentials message? tokens [.logged event] :=
  justified_singleton trivial

theorem Justified.append (h : Justified host credentials message? tokens entries)
    (hmore : Justified host credentials message? (tokens ++ tokensOf entries) more) :
    Justified host credentials message? tokens (entries ++ more) := by
  intro before entry after hsplit
  obtain ⟨rest, rfl, hrest⟩ | ⟨rest, rfl, hrest⟩ := List.append_eq_append_iff.mp hsplit
  · rw [tokensOf_append, ← List.append_assoc]
    exact hmore rest entry after hrest
  · cases rest with
    | nil =>
      have hfirst := hmore [] entry after hrest.symm
      simpa [tokensOf] using hfirst
    | cons d rest =>
      cases hrest
      exact h before entry rest rfl

/-- A request that may be sent for a caller need not be. -/
theorem Justified.message (h : Justified host credentials none tokens entries) :
    Justified host credentials message? tokens entries := by
  intro before entry after hsplit
  have hproper := h before entry after hsplit
  rcases entry with ⟨_ | _, request, reply⟩ | other | event
  · obtain ⟨message, hnone, -⟩ := hproper
    cases hnone
  · exact hproper
  · exact hproper
  · trivial

end justified

namespace TokenRequest

variable {W : Type}

theorem headers_toHttp {r : TokenRequest} {credentials : Credentials} {request : Request}
    (h : r.toHttp credentials = .ok request) : request.headers = headers credentials := by
  obtain ⟨url, uri, -, -, rfl⟩ := toHttp_eq_ok h
  rfl

/-- Reading the reply writes nothing. A token that is accepted stands in it. -/
theorem writes_accept (net : Network W) (options : TokenOptions) (request : Request)
    (response : Response) : Writes (accept net options response) fun result entries =>
      entries = [] ∧ ∀ issued, result = .ok issued →
        issued.token ∈ tokensOf [.sent .token request (.ok response)] := by
  intro s
  refine ⟨[], ?_, rfl, ?_⟩
  · rw [journal_accept, List.append_nil]
  · intro issued hok
    obtain ⟨hs, ⟨reply, hd, ht⟩, -⟩ := accept_eq_ok (Prod.ext hok rfl)
    simp [tokensOf, Entry.token?, hs, hd, ht]

/-- The endpoint is asked with the credentials of the host, and the token that is accepted was received. -/
theorem writes_exchange (net : Network W) (r : TokenRequest) (credentials : Credentials)
    (options : TokenOptions) (host : String) (tokens : List String) :
    Writes (exchange net r credentials options) fun result entries =>
      Justified host credentials none tokens entries ∧
        ∀ issued, result = .ok issued → issued.token ∈ tokensOf entries := by
  apply Session.writes_after_note
  cases hr : r.toHttp credentials with
  | error failure =>
    apply Session.writes_pure
    refine ⟨justified_logged _, ?_⟩
    rintro issued ⟨⟩
  | ok request =>
    have hsent : ∀ reply, Justified host credentials none
        (tokens ++ tokensOf [.logged (.tokenRequested r.realm r.service r.scopes.length credentials.isAnonymous)])
        [.sent .token request reply] := fun _ => justified_singleton (headers_toHttp hr)
    apply Session.writes_after_send net
    intro reply
    cases reply with
    | error e =>
      apply Session.writes_pure
      refine ⟨(justified_logged _).append (hsent _), ?_⟩
      rintro issued ⟨⟩
    | ok response =>
      apply (writes_accept net options request response).imp
      rintro result _ ⟨rfl, htoken⟩
      refine ⟨(justified_logged _).append (hsent _), ?_⟩
      intro issued hok
      rw [tokensOf_append]
      exact List.mem_append_right _ (htoken issued hok)

end TokenRequest

/-- Works with these credentials. A token that is kept is one of these. -/
def Handler.Holds (credentials : Credentials) (tokens : List String) : Handler → Prop
  | .basic b => b.credentials = credentials
  | .bearer b => b.credentials = credentials ∧ ∀ t, b.token? = some t → t.token ∈ tokens

/-- What comes of asking a handler for a value. -/
structure Handler.Answered (host : String) (credentials : Credentials) (tokens : List String)
    (result : Except AuthError String) (h : Handler) (entries : List Entry) : Prop where
  justified : Justified host credentials none tokens entries
  holds : h.Holds credentials (tokens ++ tokensOf entries)
  value : ∀ value, result = .ok value → Derived credentials (tokens ++ tokensOf entries) value

namespace Handler

variable {W : Type} {host : String} {credentials : Credentials} {tokens : List String} {h : Handler}

theorem Holds.more (hh : h.Holds credentials tokens) (received : List String) :
    h.Holds credentials (tokens ++ received) := by
  cases h with
  | basic b => exact hh
  | bearer b => exact ⟨hh.1, fun t ht => List.mem_append_left _ (hh.2 t ht)⟩

theorem Fresh.holds (hf : h.Fresh credentials) : h.Holds credentials tokens := by
  cases hf with
  | basic => rfl
  | bearer host options =>
    refine ⟨rfl, ?_⟩
    rintro t ⟨⟩

theorem credentials_learn {b next : BasicAuth} {c : Challenge} (h : b.learn c = .ok next) :
    next.credentials = b.credentials := by
  unfold BasicAuth.learn at h
  split at h
  · cases h
  · split at h
    · cases h
    · cases h
      rfl

/-- A token is kept or dropped. -/
theorem holds_takeIn {b : BearerAuth} (hh : (bearer b).Holds credentials tokens) (d : Demand) :
    (bearer (b.takeIn d)).Holds credentials tokens := by
  unfold BearerAuth.takeIn
  split
  · exact hh
  · refine ⟨hh.1, ?_⟩
    rintro t ⟨⟩

theorem Holds.learn (hh : h.Holds credentials tokens) (c : Challenge) :
    (Handler.learn c h).2.Holds credentials tokens := by
  cases hl : (Handler.learn c h).1 with
  | error e => rwa [snd_of_error hl]
  | ok u =>
    cases h with
    | basic b =>
      cases hb : b.learn c with
      | error e =>
        simp only [Handler.learn, hb] at hl
        cases hl
      | ok next =>
        simp only [Handler.learn, hb]
        exact (credentials_learn hb).trans hh
    | bearer b =>
      rcases BearerAuth.learn_cases b c with ⟨flaw, hb⟩ | ⟨d, -, ⟨-, hb⟩ | ⟨-, -, -, hb⟩⟩
      · simp only [Handler.learn, hb] at hl
        cases hl
      · simp only [Handler.learn, hb] at hl
        cases hl
      · simp only [Handler.learn, hb]
        exact holds_takeIn hh d

theorem writes_bearer (net : Network W) {b : BearerAuth} (hh : (bearer b).Holds credentials tokens)
    (host : String) : Writes (b.authorize net) fun r entries =>
      Answered host credentials tokens r.1 (.bearer r.2) entries := by
  have hcredentials : b.credentials = credentials := hh.1
  intro s
  have hcourse := BearerAuth.outcome_authorize net b s
  rcases hresult : b.authorize net s with ⟨⟨result, b'⟩, s'⟩
  rw [hresult] at hcourse
  dsimp only at hcourse
  cases hcourse with
  | nothing hw =>
    refine ⟨[], (List.append_nil _).symm, justified_nil, ?_, ?_⟩
    · exact hh.more _
    · rintro value ⟨⟩
  | reused r t hw ht hf =>
    refine ⟨_, rfl, justified_logged _, hh.more _, ?_⟩
    rintro value ⟨⟩
    exact .bearer (List.mem_append_left _ (hh.2 t ht))
  | renewed r t _ hw hs hx =>
    obtain ⟨entries, hj, hjustified, hreceived⟩ := TokenRequest.writes_exchange net r b.credentials
      b.options host tokens { s with world := (net.now s.world).2 }
    rw [hx] at hj hreceived
    rw [hcredentials] at hjustified
    have ht : t.token ∈ tokens ++ tokensOf entries := List.mem_append_right _ (hreceived t rfl)
    refine ⟨entries, hj, hjustified, ⟨hcredentials, ?_⟩, ?_⟩
    · rintro _ ⟨⟩
      exact ht
    · rintro value ⟨⟩
      exact .bearer ht
  | failed r e _ hw hs hx =>
    obtain ⟨entries, hj, hjustified, -⟩ := TokenRequest.writes_exchange net r b.credentials
      b.options host tokens { s with world := (net.now s.world).2 }
    rw [hx] at hj
    rw [hcredentials] at hjustified
    refine ⟨entries, hj, hjustified, hh.more _, ?_⟩
    rintro value ⟨⟩

theorem Holds.authorize (hh : h.Holds credentials tokens) (net : Network W) (host : String) :
    Writes (h.authorize net) fun r entries => Answered host credentials tokens r.1 r.2 entries := by
  cases h with
  | basic b =>
    apply Session.writes_pure
    refine ⟨justified_nil, hh.more _, ?_⟩
    intro value hv
    have hvalue : value = b.credentials.basicValue := by
      unfold BasicAuth.authorize at hv
      split at hv
      · cases hv
      · cases hv
        rfl
    rw [hvalue, show b.credentials = credentials from hh]
    exact .basic
  | bearer b =>
    apply Session.Writes.bind (writes_bearer net hh host)
    rintro ⟨result, next⟩ entries hanswered
    apply Session.writes_pure
    rwa [List.append_nil]

end Handler

namespace Authenticator

variable {W : Type} {host : String} {credentials : Credentials} {message? : Option Request}
  {tokens : List String} {entries later : List Entry} {a b : Authenticator Handler}

/-- What an authenticator has for a host is made of the credentials of the host and of these tokens. -/
structure Keeps (a : Authenticator Handler) (host : String) (credentials : Credentials)
    (tokens : List String) : Prop where
  library : a.registry.OfLibrary
  provider : a.registry.provider host = credentials
  holds : ∀ scheme h, a.handler? ⟨host, scheme⟩ = some h → h.Holds credentials tokens

theorem Keeps.more (hk : a.Keeps host credentials tokens) (received : List String) :
    a.Keeps host credentials (tokens ++ received) :=
  ⟨hk.library, hk.provider, fun scheme h hh => (hk.holds scheme h hh).more received⟩

theorem Keeps.store (hk : a.Keeps host credentials tokens) {h : Handler}
    (hh : h.Holds credentials tokens) (scheme : Name) :
    (a.store ⟨host, scheme⟩ h).Keeps host credentials tokens := by
  refine ⟨hk.library, hk.provider, ?_⟩
  intro other k hother
  by_cases hne : (⟨host, scheme⟩ : Slot) = ⟨host, other⟩
  · rw [hne, handler?_store_self] at hother
    cases hother
    exact hh
  · rw [handler?_store_of_ne h hne] at hother
    exact hk.holds other k hother

/-- What comes of an operation in the service of a host. -/
structure Served (host : String) (credentials : Credentials) (message? : Option Request)
    (tokens : List String) (a : Authenticator Handler) (entries : List Entry) : Prop where
  justified : Justified host credentials message? tokens entries
  keeps : a.Keeps host credentials (tokens ++ tokensOf entries)

theorem Keeps.served (hk : a.Keeps host credentials tokens) :
    Served host credentials message? tokens a [] :=
  ⟨justified_nil, hk.more _⟩

/-- One thing after the other. -/
theorem Served.append (h : Served host credentials message? tokens a entries)
    (hlater : Served host credentials message? (tokens ++ tokensOf entries) b later) :
    Served host credentials message? tokens b (entries ++ later) := by
  refine ⟨h.justified.append hlater.justified, ?_⟩
  rw [tokensOf_append, ← List.append_assoc]
  exact hlater.keeps

theorem Served.message (h : Served host credentials none tokens a entries) :
    Served host credentials message? tokens a entries :=
  ⟨h.justified.message, h.keeps⟩

theorem Keeps.logged (hk : a.Keeps host credentials tokens) (event : Event) :
    Served host credentials message? tokens a [.logged event] :=
  ⟨justified_logged event, hk.more _⟩

theorem Keeps.obtain (hk : a.Keeps host credentials tokens) {scheme : Name} {factory : Factory Handler}
    (hf : a.registry.factory? scheme = some factory) :
    Writes (a.obtain factory ⟨host, scheme⟩ : SessionM W Handler) fun h entries =>
      Served host credentials none tokens a entries ∧ h.Holds credentials tokens := by
  unfold Authenticator.obtain
  cases hh : a.handler? ⟨host, scheme⟩ with
  | some h => exact Session.writes_pure ⟨hk.served, hk.holds scheme h hh⟩
  | none =>
    apply Session.writes_after_note
    apply Session.writes_after_lookUp
    apply Session.writes_pure
    refine ⟨(hk.logged _).append ⟨justified_singleton rfl, (hk.more _).more _⟩, ?_⟩
    rw [hk.provider]
    rcases hk.library _ (Assoc.mem_of_lookup hf) with rfl | ⟨options, rfl⟩
    · exact Handler.Fresh.basic.holds
    · exact (Handler.Fresh.bearer host options).holds

theorem Keeps.learnAll (hk : a.Keeps host credentials tokens) (net : Network W) (learned : Bool)
    (cs : List Challenge) :
    Writes (Authenticator.learnAll (Handler.handling net) host learned a cs) fun r entries =>
      Served host credentials none tokens r.2 entries := by
  induction cs generalizing a learned tokens with
  | nil => exact Session.writes_pure hk.served
  | cons c rest ih =>
    rw [Authenticator.learnAll]
    cases hf : a.registry.factory? c.scheme with
    | none =>
      apply Session.writes_after_note
      exact (ih (hk.more _) learned).imp fun _ _ => (hk.logged _).append
    | some factory =>
      apply Session.Writes.bind (hk.obtain hf)
      rintro before entries ⟨hserved, hholds⟩
      have hnext : (a.store ⟨host, c.scheme⟩ (Handler.learn c before).2).Keeps host credentials
          (tokens ++ tokensOf entries) :=
        hserved.keeps.store ((hholds.more _).learn c) c.scheme
      have hgo : ∀ learned, Writes (Authenticator.learnAll (Handler.handling net) host learned
          (a.store ⟨host, c.scheme⟩ (Handler.learn c before).2) rest) fun r later =>
            Served host credentials none tokens r.2 (entries ++ later) :=
        fun learned => (ih hnext learned).imp fun _ _ => hserved.append
      simp only [Handler.handling]
      rcases hresult : Handler.learn c before with ⟨_ | _, after⟩
      · next e =>
        rw [hresult] at hnext hgo
        cases e with
        | noNewChallenge => exact hgo learned
        | unsupported | parse | invalidChallenge | notFound | authFailed =>
          exact Session.writes_pure (hserved.append hnext.served)
      · rw [hresult] at hgo
        exact hgo true

theorem Keeps.learn (hk : a.Keeps host credentials tokens) (net : Network W) {uri : Uri}
    (hhost : uri.hostKey? = some host) (response : Response) :
    Writes (a.learn (Handler.handling net) uri response) fun r entries =>
      Served host credentials none tokens r.2 entries := by
  unfold Authenticator.learn
  split
  · exact Session.writes_pure hk.served
  · rw [hhost]
    cases Challenge.parseAll (Headers.values response.headers Header.wwwAuthenticate) with
    | error e => exact Session.writes_pure hk.served
    | ok cs => exact hk.learnAll net false cs

/-- A request that is answered has a value that is derived. -/
def Valued (credentials : Credentials) (tokens : List String) (request : Request)
    (answer? : Option Request) : Prop :=
  ∀ q, answer? = some q → ∃ value, Derived credentials tokens value ∧
    q = withAuthorization request (Utf8.encode value)

theorem valued_none {request : Request} : Valued credentials tokens request none := by
  rintro q ⟨⟩

theorem Keeps.authorizeWith (hk : a.Keeps host credentials tokens) (net : Network W) (request : Request)
    (schemes : List Name) :
    Writes (Authenticator.authorizeWith (Handler.handling net) host request a schemes)
      fun r entries => Served host credentials none tokens r.2 entries ∧
        Valued credentials (tokens ++ tokensOf entries) request r.1 := by
  induction schemes generalizing a tokens with
  | nil => exact Session.writes_pure ⟨hk.served, valued_none⟩
  | cons scheme rest ih =>
    cases hh : a.handler? ⟨host, scheme⟩ with
    | none =>
      rw [authorizeWith_of_absent _ request rest hh]
      exact ih hk
    | some h =>
      simp only [Authenticator.authorizeWith]
      rw [hh]
      apply Session.Writes.bind ((hk.holds scheme h hh).authorize net host)
      rintro ⟨result, after⟩ entries ⟨hjustified, hholds, hvalue⟩
      have hserved : Served host credentials none tokens (a.store ⟨host, scheme⟩ after) entries :=
        ⟨hjustified, (hk.more _).store hholds scheme⟩
      have hskip : ∀ event, Writes (do
          Session.log event
          Authenticator.authorizeWith (Handler.handling net) host request
            (a.store ⟨host, scheme⟩ after) rest : SessionM W _) fun r later =>
          Served host credentials none tokens r.2 (entries ++ later) ∧
            Valued credentials (tokens ++ tokensOf (entries ++ later)) request r.1 := by
        intro event
        apply Session.writes_after_note
        apply (ih (hserved.keeps.more _)).imp
        rintro r later ⟨hrest, hvalued⟩
        refine ⟨hserved.append ((hserved.keeps.logged event).append hrest), ?_⟩
        simpa only [tokensOf_append, List.append_assoc] using hvalued
      cases result with
      | error e => exact hskip _
      | ok value =>
        simp only
        split
        · apply Session.writes_pure
          rw [List.append_nil]
          refine ⟨hserved, ?_⟩
          rintro q ⟨⟩
          exact ⟨value, hvalue value rfl, rfl⟩
        · exact hskip _

theorem Keeps.authorize (hk : a.Keeps host credentials tokens) (net : Network W) {request : Request}
    (hhost : request.uri.hostKey? = some host) :
    Writes (a.authorize (Handler.handling net) request) fun r entries =>
      Served host credentials none tokens r.2 entries ∧
        Valued credentials (tokens ++ tokensOf entries) request r.1 := by
  unfold Authenticator.authorize
  rw [hhost]
  exact hk.authorizeWith net request a.schemes

/-- A message goes out with the answer for its value, or without one. -/
theorem Served.sent {request : Request} {answer? : Option Request}
    (h : Served host credentials none tokens a entries)
    (hv : Valued credentials (tokens ++ tokensOf entries) request answer?)
    (reply : Except String Response) :
    Served host credentials (some request) tokens a
      (entries ++ [.sent .delivery (answer?.getD request) reply]) := by
  refine h.message.append ⟨justified_singleton ⟨request, rfl, ?_⟩, h.keeps.more _⟩
  cases answer? with
  | none => exact .inl rfl
  | some q =>
    obtain ⟨value, hderived, hq⟩ := hv q rfl
    exact .inr ⟨value, hderived, hq⟩

theorem Keeps.send (hk : a.Keeps host credentials tokens) (net : Network W) {request : Request}
    (hhost : request.uri.hostKey? = some host) :
    Writes (a.send net (Handler.handling net) request) fun r entries =>
      Served host credentials (some request) tokens r.2 entries := by
  rw [Authenticator.send]
  apply Session.Writes.bind (hk.authorize net hhost)
  rintro ⟨first?, a₁⟩ entries ⟨hfirst, hvalued⟩
  apply Session.writes_after_send net
  intro reply
  have hsent := hfirst.sent hvalued reply
  cases reply with
  | error e => exact Session.writes_pure (by rwa [List.append_nil])
  | ok response =>
    dsimp only
    split
    · exact Session.writes_pure (by rwa [List.append_nil])
    · apply Session.Writes.bind (hsent.keeps.learn net hhost response)
      rintro ⟨result, a₂⟩ lesson hlesson
      have hlearned := hsent.append hlesson.message
      cases result with
      | error e =>
        apply Session.writes_after_note
        apply Session.writes_pure
        simpa only [List.append_assoc, List.append_nil] using
          hlearned.append (hlearned.keeps.logged _)
      | ok u =>
        apply Session.Writes.bind (hlearned.keeps.authorize net hhost)
        rintro ⟨second?, a₃⟩ more ⟨hsecond, hvalued₂⟩
        apply Session.writes_after_send net
        intro reply
        apply Session.writes_pure
        simpa only [List.append_assoc, List.append_nil] using
          hlearned.append (hsecond.sent hvalued₂ reply)

end Authenticator

end HttpAuth
