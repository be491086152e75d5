import HttpAuth.Proofs.Provenance

namespace HttpAuth.Authenticator

/-- What an authenticator can be asked to do. -/
inductive Operation where
  | learn (uri : Uri) (response : Response)
  | authorize (request : Request)
  | send (request : Request)

namespace Operation

def uri : Operation → Uri
  | learn uri _ => uri
  | authorize request => request.uri
  | send request => request.uri

/-- Whether this is the host key of the operation. -/
def concerns (host : String) (o : Operation) : Bool := o.uri.hostKey? = some host

/-- The request that goes out for a caller. -/
def message? : Operation → Option Request
  | send request => some request
  | learn .. | authorize .. => none

end Operation

inductive Outcome where
  | learned (result : Except AuthError Unit)
  | authorized (answer? : Option Request)
  | replied (reply : Except String Response)
deriving DecidableEq

/-- An operation, and the world it meets: every one has replies and a clock of its own. -/
structure Turn (W : Type) where
  operation : Operation
  world : W

/-- What came of a turn, and all that was done in it. -/
structure Record where
  operation : Operation
  outcome : Outcome
  journal : List Entry

variable {W H : Type}

def perform (net : Network W) (hd : Handling W H) (a : Authenticator H) :
    Operation → SessionM W (Outcome × Authenticator H)
  | .learn uri response => do
    let (result, a) ← a.learn hd uri response
    return (.learned result, a)
  | .authorize request => do
    let (answer?, a) ← a.authorize hd request
    return (.authorized answer?, a)
  | .send request => do
    let (reply, a) ← a.send net hd request
    return (.replied reply, a)

def take (net : Network W) (hd : Handling W H) (a : Authenticator H) (t : Turn W) :
    Record × Authenticator H :=
  let r := a.perform net hd t.operation { world := t.world }
  (⟨t.operation, r.1.1, r.2.journal⟩, r.1.2)

/-- Takes turns, one after the other. -/
def run (net : Network W) (hd : Handling W H) (a : Authenticator H) :
    List (Turn W) → List Record × Authenticator H
  | [] => ([], a)
  | t :: rest =>
    let first := a.take net hd t
    let more := run net hd first.2 rest
    (first.1 :: more.1, more.2)

/-- All that matters for one host is the same. -/
structure Alike (host : String) (a b : Authenticator H) : Prop where
  entries : a.registry.entries = b.registry.entries
  provider : a.registry.provider host = b.registry.provider host
  handler : ∀ scheme, a.handler? ⟨host, scheme⟩ = b.handler? ⟨host, scheme⟩

section alike

variable {host other : String} {a b : Authenticator H}

theorem Alike.refl (host : String) (a : Authenticator H) : Alike host a a :=
  ⟨rfl, rfl, fun _ => rfl⟩

theorem Alike.symm (h : Alike host a b) : Alike host b a :=
  ⟨h.entries.symm, h.provider.symm, fun scheme => (h.handler scheme).symm⟩

theorem Alike.trans {c : Authenticator H} (h : Alike host a b) (h' : Alike host b c) :
    Alike host a c :=
  ⟨h.entries.trans h'.entries, h.provider.trans h'.provider,
    fun scheme => (h.handler scheme).trans (h'.handler scheme)⟩

theorem Alike.factory? (h : Alike host a b) (scheme : Name) :
    a.registry.factory? scheme = b.registry.factory? scheme := by
  rw [Registry.factory?, Registry.factory?, h.entries]

theorem Alike.schemes (h : Alike host a b) : a.schemes = b.schemes := by
  rw [Authenticator.schemes, Authenticator.schemes, Registry.schemes, Registry.schemes, h.entries]

theorem Alike.obtain (h : Alike host a b) (factory : Factory H) (scheme : Name) :
    (a.obtain factory ⟨host, scheme⟩ : SessionM W H) = b.obtain factory ⟨host, scheme⟩ := by
  unfold Authenticator.obtain
  rw [h.handler, Session.lookUp_congr h.provider]

theorem Alike.store (h : Alike host a b) (scheme : Name) (k : H) :
    Alike host (a.store ⟨host, scheme⟩ k) (b.store ⟨host, scheme⟩ k) := by
  refine ⟨h.entries, h.provider, fun scheme' => ?_⟩
  by_cases hne : (⟨host, scheme⟩ : Slot) = ⟨host, scheme'⟩
  · rw [hne, handler?_store_self, handler?_store_self]
  · rw [handler?_store_of_ne k hne, handler?_store_of_ne k hne, h.handler]

/-- A handler of another host is none of this one's. -/
theorem Alike.store_other (h : Alike host a b) (hne : other ≠ host) (scheme : Name) (k : H) :
    Alike host a (b.store ⟨other, scheme⟩ k) := by
  refine ⟨h.entries, h.provider, fun scheme' => ?_⟩
  have hslot : (⟨other, scheme⟩ : Slot) ≠ ⟨host, scheme'⟩ := fun he => hne (congrArg Slot.host he)
  rw [handler?_store_of_ne k hslot, h.handler]

end alike

section agree

variable {α β γ : Type} {R : Authenticator H → Authenticator H → Prop} {host : String}
  {a b : Authenticator H}

/-- Authenticators that are related look alike to operations for this host, and stay related. -/
structure Respected (host : String) (R : Authenticator H → Authenticator H → Prop) : Prop where
  alike : ∀ {a b}, R a b → Alike host a b
  store : ∀ {a b}, R a b → ∀ scheme k, R (a.store ⟨host, scheme⟩ k) (b.store ⟨host, scheme⟩ k)

theorem respected_alike (host : String) : Respected host (Alike (H := H) host) :=
  ⟨fun h => h, fun h => h.store⟩

/-- Operations for another host keep what matters for this one. -/
theorem respected_other {other : String} (hne : other ≠ host) (a : Authenticator H) :
    Respected other fun b b' => Alike host a b ∧ b = b' := by
  refine ⟨?_, ?_⟩
  · rintro b _ ⟨-, rfl⟩
    exact .refl other b
  · rintro b _ ⟨h, rfl⟩ scheme k
    exact ⟨h.store_other hne scheme k, rfl⟩

/-- Both do and return the same, and leave authenticators that are related. -/
def Agree (R : Authenticator H → Authenticator H → Prop)
    (x y : SessionM W (α × Authenticator H)) : Prop :=
  ∀ s : Session W, (x s).1.1 = (y s).1.1 ∧ (x s).2 = (y s).2 ∧ R (x s).1.2 (y s).1.2

theorem agree_pure (r : α) (h : R a b) :
    Agree R (pure (r, a) : SessionM W (α × Authenticator H)) (pure (r, b)) :=
  fun _ => ⟨rfl, rfl, h⟩

theorem agree_after {x y : SessionM W γ} (hxy : x = y) {f g : γ → SessionM W (α × Authenticator H)}
    (h : ∀ c, Agree R (f c) (g c)) : Agree R (x >>= f) (y >>= g) := by
  subst hxy
  exact fun s => h (x s).1 (x s).2

theorem Agree.bind {x y : SessionM W (α × Authenticator H)}
    {f g : α × Authenticator H → SessionM W (β × Authenticator H)} (hx : Agree R x y)
    (hf : ∀ r a b, R a b → Agree R (f (r, a)) (g (r, b))) : Agree R (x >>= f) (y >>= g) := by
  intro s
  have hs := hx s
  rw [Session.bind_apply, Session.bind_apply]
  generalize x s = first at hs ⊢
  generalize y s = second at hs ⊢
  obtain ⟨⟨r, a⟩, s'⟩ := first
  obtain ⟨⟨r', b⟩, s''⟩ := second
  obtain ⟨hresult, hsession, hnext⟩ := hs
  cases hresult
  cases hsession
  exact hf r a b hnext s'

theorem Respected.learnAll (hR : Respected host R) (hd : Handling W H) (learned : Bool)
    (cs : List Challenge) (h : R a b) :
    Agree R (Authenticator.learnAll hd host learned a cs)
      (Authenticator.learnAll hd host learned b cs) := by
  induction cs generalizing a b learned with
  | nil => exact agree_pure _ h
  | cons c rest ih =>
    rw [Authenticator.learnAll, Authenticator.learnAll, (hR.alike h).factory?]
    cases b.registry.factory? c.scheme with
    | none => exact agree_after rfl fun _ => ih learned h
    | some factory =>
      apply agree_after ((hR.alike h).obtain factory c.scheme)
      intro before
      generalize hd.learn c before = outcome
      obtain ⟨result, after⟩ := outcome
      have hnext := hR.store h c.scheme after
      cases result with
      | ok u => exact ih true hnext
      | error e =>
        cases e with
        | noNewChallenge => exact ih learned hnext
        | unsupported | parse | invalidChallenge | notFound | authFailed => exact agree_pure _ hnext

theorem Respected.learn {uri : Uri} (hR : ∀ host, uri.hostKey? = some host → Respected host R)
    (hd : Handling W H) (response : Response) (h : R a b) :
    Agree R (a.learn hd uri response) (b.learn hd uri response) := by
  unfold Authenticator.learn
  split
  · exact agree_pure _ h
  · cases hhost : uri.hostKey? with
    | none => exact agree_pure _ h
    | some host =>
      cases Challenge.parseAll (Headers.values response.headers Header.wwwAuthenticate) with
      | error e => exact agree_pure _ h
      | ok cs => exact (hR host hhost).learnAll hd false cs h

theorem Respected.authorizeWith (hR : Respected host R) (hd : Handling W H) (request : Request)
    (schemes : List Name) (h : R a b) :
    Agree R (Authenticator.authorizeWith hd host request a schemes)
      (Authenticator.authorizeWith hd host request b schemes) := by
  induction schemes generalizing a b with
  | nil => exact agree_pure _ h
  | cons scheme rest ih =>
    simp only [Authenticator.authorizeWith]
    rw [(hR.alike h).handler]
    cases b.handler? ⟨host, scheme⟩ with
    | none => exact ih h
    | some before =>
      apply agree_after rfl
      rintro ⟨result, after⟩
      have hnext := hR.store h scheme after
      cases result with
      | error e => exact agree_after rfl fun _ => ih hnext
      | ok value =>
        dsimp only
        split
        · exact agree_pure _ hnext
        · exact agree_after rfl fun _ => ih hnext

theorem Respected.authorize {request : Request}
    (hR : ∀ host, request.uri.hostKey? = some host → Respected host R) (hd : Handling W H)
    (h : R a b) : Agree R (a.authorize hd request) (b.authorize hd request) := by
  unfold Authenticator.authorize
  cases hhost : request.uri.hostKey? with
  | none => exact agree_pure _ h
  | some host =>
    rw [((hR host hhost).alike h).schemes]
    exact (hR host hhost).authorizeWith hd request b.schemes h

theorem Respected.send {request : Request}
    (hR : ∀ host, request.uri.hostKey? = some host → Respected host R) (net : Network W)
    (hd : Handling W H) (h : R a b) : Agree R (a.send net hd request) (b.send net hd request) := by
  unfold Authenticator.send
  apply (Respected.authorize hR hd h).bind
  intro first? a₁ b₁ h₁
  apply agree_after rfl
  intro reply
  cases reply with
  | error e => exact agree_pure _ h₁
  | ok response =>
    dsimp only
    split
    · exact agree_pure _ h₁
    · apply (Respected.learn hR hd response h₁).bind
      intro result a₂ b₂ h₂
      cases result with
      | error e => exact agree_after rfl fun _ => agree_pure _ h₂
      | ok u =>
        apply (Respected.authorize hR hd h₂).bind
        intro second? a₃ b₃ h₃
        exact agree_after rfl fun reply => agree_pure _ h₃

theorem Respected.perform {o : Operation}
    (hR : ∀ host, o.uri.hostKey? = some host → Respected host R) (net : Network W)
    (hd : Handling W H) (h : R a b) : Agree R (a.perform net hd o) (b.perform net hd o) := by
  cases o with
  | learn uri response =>
    exact (Respected.learn hR hd response h).bind fun _ _ _ h' => agree_pure _ h'
  | authorize request => exact (Respected.authorize hR hd h).bind fun _ _ _ h' => agree_pure _ h'
  | send request => exact (Respected.send hR net hd h).bind fun _ _ _ h' => agree_pure _ h'

end agree

section turns

variable {host : String} {a b : Authenticator H} {net : Network W} {hd : Handling W H}

/-- A turn for the host is the same for authenticators that are alike to it. -/
theorem Alike.take (h : Alike host a b) (net : Network W) (hd : Handling W H) {t : Turn W}
    (ht : t.operation.concerns host = true) :
    (a.take net hd t).1 = (b.take net hd t).1 ∧
      Alike host (a.take net hd t).2 (b.take net hd t).2 := by
  have hR : ∀ other, t.operation.uri.hostKey? = some other → Respected other (Alike (H := H) host) := by
    intro other hother
    have hhost : t.operation.uri.hostKey? = some host := of_decide_eq_true ht
    rw [hhost] at hother
    cases hother
    exact respected_alike host
  obtain ⟨hresult, hsession, hnext⟩ := Respected.perform hR net hd h { world := t.world }
  refine ⟨?_, hnext⟩
  rw [Authenticator.take, Authenticator.take, hresult, hsession]

/-- A turn for others does not matter to the host. -/
theorem alike_take (a : Authenticator H) {t : Turn W} (ht : t.operation.concerns host = false) :
    Alike host a (a.take net hd t).2 := by
  have hR : ∀ other, t.operation.uri.hostKey? = some other →
      Respected other fun b b' => Alike host a b ∧ b = b' := by
    intro other hother
    apply respected_other
    rintro rfl
    exact of_decide_eq_false ht hother
  exact (Respected.perform hR net hd ⟨.refl host a, rfl⟩ { world := t.world }).2.2.1

/-- Turns for others may be left out. -/
theorem Alike.run (h : Alike host a b) {kept : Turn W → Bool}
    (hk : ∀ t, t.operation.concerns host = true → kept t = true) (turns : List (Turn W)) :
    (a.run net hd turns).1.filter (·.operation.concerns host) =
        (b.run net hd (turns.filter kept)).1.filter (·.operation.concerns host) ∧
      Alike host (a.run net hd turns).2 (b.run net hd (turns.filter kept)).2 := by
  induction turns generalizing a b with
  | nil => exact ⟨rfl, h⟩
  | cons t rest ih =>
    cases ht : t.operation.concerns host with
    | true =>
      obtain ⟨hrecord, hnext⟩ := h.take net hd ht
      obtain ⟨hrecords, hlast⟩ := ih hnext
      rw [List.filter_cons_of_pos (hk t ht)]
      refine ⟨?_, hlast⟩
      simp only [Authenticator.run]
      rw [← hrecord, List.filter_cons, List.filter_cons, hrecords]
    | false =>
      have hdrop : ∀ (c : Authenticator H) (more : List Record),
          ((c.take net hd t).1 :: more).filter (·.operation.concerns host) =
            more.filter (·.operation.concerns host) := by
        intro c more
        exact List.filter_cons_of_neg (by simp [Authenticator.take, ht])
      have ha : Alike host (a.take net hd t).2 b := (alike_take a ht).symm.trans h
      simp only [Authenticator.run]
      rw [hdrop]
      cases hkept : kept t with
      | true =>
        rw [List.filter_cons_of_pos hkept]
        simp only [Authenticator.run]
        rw [hdrop]
        exact ih (ha.trans (alike_take b ht))
      | false =>
        rw [List.filter_cons_of_neg (by simp [hkept])]
        exact ih ha

end turns

/-- What was done in a turn is proper, and a request that was answered has a value that is derived. -/
structure Record.Sound (host : String) (credentials : Credentials) (tokens : List String)
    (d : Record) : Prop where
  justified : Justified host credentials d.operation.message? tokens d.journal
  valued : ∀ request answer?, d.operation = .authorize request → d.outcome = .authorized answer? →
    Valued credentials (tokens ++ tokensOf d.journal) request answer?

section values

variable {host : String} {credentials : Credentials} {tokens : List String}
  {a b : Authenticator Handler} {net : Network W}

theorem Keeps.alike (hk : a.Keeps host credentials tokens) (h : Alike host a b) :
    b.Keeps host credentials tokens := by
  refine ⟨?_, h.provider.symm.trans hk.provider, ?_⟩
  · intro entry hentry
    rw [← h.entries] at hentry
    exact hk.library entry hentry
  · intro scheme k hh
    exact hk.holds scheme k ((h.handler scheme).trans hh)

theorem Keeps.perform (hk : a.Keeps host credentials tokens) (net : Network W) {o : Operation}
    (ho : o.concerns host = true) :
    Session.Writes (a.perform net (Handler.handling net) o) fun r entries =>
      Served host credentials o.message? tokens r.2 entries ∧
        ∀ request answer?, o = .authorize request → r.1 = .authorized answer? →
          Valued credentials (tokens ++ tokensOf entries) request answer? := by
  have hhost : o.uri.hostKey? = some host := of_decide_eq_true ho
  cases o with
  | learn uri response =>
    apply Session.Writes.bind (hk.learn net hhost response)
    rintro ⟨result, next⟩ entries hserved
    apply Session.writes_pure
    rw [List.append_nil]
    exact ⟨hserved, fun _ _ ho => by cases ho⟩
  | authorize request =>
    apply Session.Writes.bind (hk.authorize net hhost)
    rintro ⟨answer?, next⟩ entries ⟨hserved, hvalued⟩
    apply Session.writes_pure
    rw [List.append_nil]
    refine ⟨hserved, ?_⟩
    rintro _ _ ⟨⟩ ⟨⟩
    exact hvalued
  | send request =>
    apply Session.Writes.bind (hk.send net hhost)
    rintro ⟨reply, next⟩ entries hserved
    apply Session.writes_pure
    rw [List.append_nil]
    exact ⟨hserved, fun _ _ ho => by cases ho⟩

theorem Keeps.take (hk : a.Keeps host credentials tokens) (net : Network W) {t : Turn W}
    (ht : t.operation.concerns host = true) :
    let r := a.take net (Handler.handling net) t
    r.1.Sound host credentials tokens ∧
      r.2.Keeps host credentials (tokens ++ tokensOf r.1.journal) := by
  intro r
  obtain ⟨entries, hj, hserved, hvalued⟩ := hk.perform net ht { world := t.world }
  rw [List.nil_append] at hj
  have hjournal : r.1.journal = entries := hj
  refine ⟨⟨?_, ?_⟩, ?_⟩
  · rw [hjournal]
    exact hserved.justified
  · rw [hjournal]
    exact hvalued
  · rw [hjournal]
    exact hserved.keeps

/-- In every run all that is done for the host is sound, with the tokens received for it before. -/
theorem Keeps.run (hk : a.Keeps host credentials tokens) (net : Network W) (turns : List (Turn W))
    {earlier later : List Record} {d : Record}
    (hd : (a.run net (Handler.handling net) turns).1.filter (·.operation.concerns host) =
      earlier ++ d :: later) :
    d.Sound host credentials (tokens ++ tokensOf (earlier.flatMap Record.journal)) := by
  induction turns generalizing a tokens earlier with
  | nil => simp [Authenticator.run] at hd
  | cons t rest ih =>
    simp only [Authenticator.run] at hd
    cases ht : t.operation.concerns host with
    | true =>
      obtain ⟨hsound, hnext⟩ := hk.take net ht
      rw [List.filter_cons_of_pos (by exact ht)] at hd
      cases earlier with
      | nil =>
        cases hd
        simpa [tokensOf] using hsound
      | cons e earlier =>
        simp only [List.cons_append, List.cons.injEq] at hd
        obtain ⟨rfl, hd⟩ := hd
        have hrest := ih hnext hd
        rwa [List.append_assoc, ← tokensOf_append] at hrest
    | false =>
      rw [List.filter_cons_of_neg (by simp [Authenticator.take, ht])] at hd
      exact ih (hk.alike (alike_take a ht)) hd

end values

section beginning

variable {r : Registry Handler} {host : String}

theorem finish_eq (r : Registry Handler) (basic : Factory Handler) : r.finish basic =
    if r.entries = [] then { r with entries := [(.ofText Registry.basicScheme, basic)] } else r := by
  obtain ⟨provider, entries⟩ := r
  cases entries <;> rfl

theorem ofLibrary_finish (hl : r.OfLibrary) : (r.finish Handler.basicFactory).OfLibrary := by
  rw [finish_eq]
  split
  · intro entry hentry
    rw [List.mem_singleton.mp hentry]
    exact .inl rfl
  · exact hl

theorem keeps_ofRegistry (hl : r.OfLibrary) (host : String) :
    (ofRegistry r Handler.basicFactory).Keeps host (r.provider host) [] := by
  refine ⟨ofLibrary_finish hl, ?_, ?_⟩
  · rw [ofRegistry, finish_eq]
    split <;> rfl
  · rintro scheme h ⟨⟩

theorem alike_ofRegistry {provider : CredentialsProvider} (hp : provider host = r.provider host) :
    Alike host (ofRegistry r Handler.basicFactory)
      (ofRegistry (r.setProvider provider) Handler.basicFactory) := by
  obtain ⟨first, entries⟩ := r
  cases entries with
  | nil => exact ⟨rfl, hp.symm, fun _ => rfl⟩
  | cons e entries => exact ⟨rfl, hp.symm, fun _ => rfl⟩

end beginning

/-- What is done for a host, what comes of it and what is kept for it is the same whatever is done for others, and
whatever credentials others have. The values on its requests are made of its own credentials, or of tokens that were
received before in its service, where tokens are asked for with its credentials only. -/
theorem hosts_apart (net : Network W) (r : Registry Handler) (host : String)
    (provider : CredentialsProvider) (kept : Turn W → Bool) (turns : List (Turn W))
    (hl : r.OfLibrary) (hp : provider host = r.provider host)
    (hk : ∀ t, t.operation.concerns host = true → kept t = true) :
    let all := (ofRegistry r Handler.basicFactory).run net (Handler.handling net) turns
    let own := (ofRegistry (r.setProvider provider) Handler.basicFactory).run net
      (Handler.handling net) (turns.filter kept)
    let served := all.1.filter (·.operation.concerns host)
    served = own.1.filter (·.operation.concerns host) ∧
      (∀ scheme, all.2.handler? ⟨host, scheme⟩ = own.2.handler? ⟨host, scheme⟩) ∧
      ∀ earlier d later, served = earlier ++ d :: later →
        d.Sound host (r.provider host) (tokensOf (earlier.flatMap Record.journal)) := by
  intro all own served
  obtain ⟨hrecords, hlast⟩ := (alike_ofRegistry hp).run hk turns
  refine ⟨hrecords, hlast.handler, ?_⟩
  intro earlier d later hd
  have hsound := (keeps_ofRegistry hl host).run net turns hd
  rwa [List.nil_append] at hsound

def addressOn (host : String) : Uri :=
  { scheme? := some "https", authority? := some host, path := "/v2/" }

/-- Two hosts learn the same realm. The requests to the first have the same value as if there were only the first,
and nobody had credentials for the second. -/
theorem hosts_apart_two :
    let alice : Credentials := ⟨"alice", "wonderland"⟩
    let bob : Credentials := ⟨"bob", "builder"⟩
    let r : Registry Handler := { provider := .ofTable [("one.example", alice), ("two.example", bob)] }
    let q : Request := { uri := addressOn "one.example" }
    let turns : List (Turn Unit) :=
      [⟨.learn (addressOn "two.example") (refusalOf ["Basic realm=\"r\""]), ()⟩,
        ⟨.learn (addressOn "one.example") (refusalOf ["Basic realm=\"r\""]), ()⟩,
        ⟨.authorize { uri := addressOn "two.example" }, ()⟩, ⟨.authorize q, ()⟩]
    let all := (ofRegistry r Handler.basicFactory).run offline (Handler.handling offline) turns
    r.OfLibrary ∧ CredentialsProvider.ofTable [("one.example", alice)] "one.example" =
      r.provider "one.example" ∧
      (∀ t : Turn Unit, t.operation.concerns "one.example" = true →
        t.operation.concerns "one.example" = true) ∧
      (all.1.filter (·.operation.concerns "one.example")).map Record.outcome =
        [.learned (.ok ()), .authorized (some (withAuthorization q (Utf8.encode alice.basicValue)))] := by
  intro alice bob r q turns all
  have hl : r.OfLibrary := by
    rintro entry ⟨⟩
  have hp : CredentialsProvider.ofTable [("one.example", alice)] "one.example" =
      r.provider "one.example" := by decide +kernel
  have hk : ∀ t : Turn Unit, t.operation.concerns "one.example" = true →
      t.operation.concerns "one.example" = true := fun _ h => h
  refine ⟨hl, hp, hk, ?_⟩
  rw [(hosts_apart offline r "one.example" (.ofTable [("one.example", alice)])
    (·.operation.concerns "one.example") turns hl hp hk).1]
  decide +kernel

end HttpAuth.Authenticator
