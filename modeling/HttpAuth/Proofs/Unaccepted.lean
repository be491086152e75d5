import HttpAuth.Proofs.Discreet
import HttpAuth.Proofs.Lessons

namespace HttpAuth

/-- Every scheme has one of the library's handlers. -/
def Registry.OfLibrary (r : Registry Handler) : Prop :=
  ∀ entry ∈ r.entries, entry.2 = Handler.basicFactory ∨
    ∃ options, entry.2 = Handler.bearerFactory options

namespace Handler

/-- A handler of the library as its factory makes it. -/
inductive Fresh (credentials : Credentials) : Handler → Prop where
  | basic : Fresh credentials (.basic { credentials := credentials })
  | bearer (host : String) (options : TokenOptions) :
    Fresh credentials (.bearer { host := host, credentials := credentials, options := options })

theorem snd_of_error {c : Challenge} {h : Handler} {e : AuthError} (he : (learn c h).1 = .error e) :
    (learn c h).2 = h := by
  unfold learn at he ⊢
  cases h with
  | basic b =>
    cases hl : b.learn c with
    | ok next =>
      simp only [hl] at he
      cases he
    | error e =>
      simp only [hl]
      rfl
  | bearer b =>
    cases hl : b.learn c with
    | ok next =>
      simp only [hl] at he
      cases he
    | error e =>
      simp only [hl]
      rfl

/-- To a handler that knows nothing, every challenge is either new or wrong. -/
theorem Fresh.learn {credentials : Credentials} {h : Handler} (hf : Fresh credentials h)
    (c : Challenge) : (learn c h).1 = .ok () ∨
      ∃ flaw, (Handler.learn c h).1 = .error (.invalidChallenge flaw) := by
  cases hf with
  | basic =>
    cases hc : c.param? "realm" with
    | none =>
      refine .inr ⟨.basicWithoutRealm, ?_⟩
      simp only [Handler.learn, BasicAuth.learn, hc]
      rfl
    | some realm =>
      left
      simp only [Handler.learn, BasicAuth.learn, hc]
      rfl
  | bearer host options =>
    rcases BearerAuth.learn_cases { host, credentials, options } c with
      ⟨flaw, hl⟩ | ⟨d, -, ⟨hr, -⟩ | ⟨-, -, -, hl⟩⟩
    · refine .inr ⟨flaw, ?_⟩
      simp only [Handler.learn, hl]
      rfl
    · cases hr.realm
    · left
      simp only [Handler.learn, hl]
      rfl

variable {W : Type}

/-- A handler that knows nothing has nothing to say, unless it is a Basic handler with credentials. -/
theorem Fresh.authorize {credentials : Credentials} {h : Handler} (hf : Fresh credentials h)
    (net : Network W) (s : Session W) : h.authorize net s = (((h.authorize net s).1.1, h), s) ∧
      ∀ value, (h.authorize net s).1.1 = .ok value →
        h = .basic { credentials } ∧ credentials.isAnonymous = false ∧
          value = credentials.basicValue := by
  cases hf with
  | basic =>
    refine ⟨rfl, ?_⟩
    intro value hv
    cases ha : credentials.isAnonymous with
    | true =>
      simp only [Handler.authorize, BasicAuth.authorize, ha, Session.pure_apply] at hv
      cases hv
    | false =>
      simp only [Handler.authorize, BasicAuth.authorize, ha, Session.pure_apply] at hv
      cases hv
      exact ⟨rfl, rfl, rfl⟩
  | bearer host options =>
    refine ⟨rfl, ?_⟩
    intro value hv
    cases hv

end Handler

namespace Authenticator

variable {W : Type} {net : Network W}

theorem fresh_of_absent {a : Authenticator Handler} {slot : Slot} {h : Handler}
    (hl : a.registry.OfLibrary) (hn : a.handler? slot = none) (hp : a.pupil? slot = some h) :
    h.Fresh (a.registry.provider slot.host) := by
  obtain ⟨factory, hf, hmade⟩ := Option.map_eq_some_iff.mp hp
  rw [hn, Option.getD_none] at hmade
  subst hmade
  rcases hl _ (Assoc.mem_of_lookup hf) with rfl | ⟨options, rfl⟩
  · exact .basic
  · exact .bearer _ _

/-- The handler of `c` has just been made. It finds `c` wrong, and stays as it was made. -/
structure FirstFlawed (a a' : Authenticator Handler) (host : String) (c : Challenge) (e : AuthError)
    (h : Handler) : Prop where
  flaw : ∃ flaw, e = .invalidChallenge flaw
  absent : a.handler? ⟨host, c.scheme⟩ = none
  made : a.pupil? ⟨host, c.scheme⟩ = some h
  left : a' = a.store ⟨host, c.scheme⟩ h

/-- A challenge that is not accepted changes nothing that was there. -/
theorem teach_cases (net : Network W) (host : String) {a : Authenticator Handler}
    (hl : a.registry.OfLibrary) (c : Challenge) :
    (teach (Handler.handling net) host c a).1 = .ok () ∨
      ∃ e a', teach (Handler.handling net) host c a = (.error e, a') ∧
        (a' = a ∨ ∃ h, FirstFlawed a a' host c e h) := by
  cases hp : a.pupil? ⟨host, c.scheme⟩ with
  | none => exact .inr ⟨_, a, teach_unregistered hp, .inl rfl⟩
  | some h =>
    rw [teach_registered hp]
    cases hresult : (Handler.learn c h).1 with
    | ok u => exact .inl hresult
    | error e =>
      refine .inr ⟨e, a.store ⟨host, c.scheme⟩ h, ?_, ?_⟩
      · rw [Handler.handling, hresult, Handler.snd_of_error hresult]
      · cases hh : a.handler? ⟨host, c.scheme⟩ with
        | some known =>
          obtain ⟨factory, hf, -⟩ := Option.map_eq_some_iff.mp hp
          rw [pupil?_of_handler? hf hh] at hp
          cases hp
          exact .inl (store_of_handler? hh)
        | none =>
          rcases (fresh_of_absent hl hh hp).learn c with hok | ⟨flaw, hflaw⟩
          · rw [hresult] at hok
            cases hok
          · rw [hresult] at hflaw
            cases hflaw
            exact .inr ⟨h, ⟨flaw, rfl⟩, hh, hp, rfl⟩

/-- If no challenge is accepted then no handler changes, and at most one is made: for the challenge that is found
wrong. -/
theorem lesson_unaccepted {host : String} {a a' : Authenticator Handler} {cs : List Challenge}
    {e : AuthError} (hl : a.registry.OfLibrary)
    (hn : (teach (Handler.handling net) host).accepted a cs = [])
    (he : (teach (Handler.handling net) host).lesson false a cs = (.error e, a')) :
    a' = a ∨ ∃ c ∈ cs, ∃ h, FirstFlawed a a' host c e h := by
  induction cs with
  | nil =>
    cases he
    exact .inl rfl
  | cons c rest ih =>
    rw [Learner.accepted] at hn
    rw [Learner.lesson] at he
    rcases teach_cases net host hl c with hok | ⟨e', a₁, hteach, hcase⟩
    · generalize teach (Handler.handling net) host c a = outcome at hok hn
      obtain ⟨result, a₁⟩ := outcome
      cases hok
      cases hn
    · simp only [hteach] at hn he
      by_cases hnew : e' = .noNewChallenge
      · rw [if_pos hnew] at hn he
        rcases hcase with rfl | ⟨h, ⟨flaw, hflaw⟩, -⟩
        · rcases ih hn he with hsame | ⟨d, hd, hfirst⟩
          · exact .inl hsame
          · exact .inr ⟨d, List.mem_cons_of_mem _ hd, hfirst⟩
        · rw [hflaw] at hnew
          cases hnew
      · rw [if_neg hnew] at he
        cases he
        exact hcase.imp id fun hfirst => ⟨c, List.mem_cons_self, hfirst⟩

/-- Two authenticators are alike but for a handler that the first has already and the second would make, from the
credentials of this provider. -/
structure Ahead (spare? : Option (Slot × Handler)) (provider : CredentialsProvider)
    (a b : Authenticator Handler) : Prop where
  registry : a.registry = b.registry
  provider : ∀ slot h, spare? = some (slot, h) → b.registry.provider slot.host = provider slot.host
  pupil : ∀ slot, a.pupil? slot = b.pupil? slot
  handler : ∀ slot, a.handler? slot = b.handler? slot ∨
    ∃ h, spare? = some (slot, h) ∧ a.handler? slot = some h ∧ b.handler? slot = none

section ahead

variable {spare? : Option (Slot × Handler)} {provider : CredentialsProvider}
  {a b : Authenticator Handler}

theorem Ahead.refl (a : Authenticator Handler) : Ahead none provider a a := by
  refine ⟨rfl, ?_, fun _ => rfl, fun _ => .inl rfl⟩
  rintro slot h ⟨⟩

theorem Ahead.of_store {slot : Slot} {h : Handler} (hn : a.handler? slot = none)
    (hp : a.pupil? slot = some h) : Ahead (some (slot, h)) a.registry.provider (a.store slot h) a := by
  refine ⟨rfl, fun _ _ _ => rfl, ?_, ?_⟩
  · intro other
    by_cases hne : slot = other
    · rw [← hne, pupil?_store_self h hp, hp]
    · exact pupil?_store_of_ne h hne
  · intro other
    by_cases hne : slot = other
    · subst hne
      exact .inr ⟨h, rfl, handler?_store_self h, hn⟩
    · exact .inl (handler?_store_of_ne h hne)

theorem Ahead.store (hr : Ahead spare? provider a b) (slot : Slot) (h : Handler) :
    Ahead spare? provider (a.store slot h) (b.store slot h) := by
  refine ⟨hr.registry, hr.provider, ?_, ?_⟩
  · intro other
    by_cases hne : slot = other
    · subst hne
      simp [pupil?, hr.registry]
    · rw [pupil?_store_of_ne h hne, pupil?_store_of_ne h hne, hr.pupil]
  · intro other
    by_cases hne : slot = other
    · subst hne
      exact .inl (by rw [handler?_store_self, handler?_store_self])
    · rw [handler?_store_of_ne h hne, handler?_store_of_ne h hne]
      exact hr.handler other

/-- The provider comes to answer otherwise, but not for the host of the handler that the second would make. -/
theorem Ahead.provide (hr : Ahead spare? provider a b) {provider' : CredentialsProvider}
    (hp : ∀ slot h, spare? = some (slot, h) → provider' slot.host = provider slot.host) :
    Ahead spare? provider (a.provide provider') (b.provide provider') := by
  refine ⟨congrArg (Registry.setProvider · provider') hr.registry, hp, ?_, hr.handler⟩
  intro slot
  rcases hr.handler slot with hsame | ⟨h, hspare, hah, hbh⟩
  · rw [pupil?_provide, pupil?_provide, hsame, hr.registry]
  · have hkept : provider' slot.host = b.registry.provider slot.host :=
      (hp slot h hspare).trans (hr.provider slot h hspare).symm
    have hb : (b.provide provider').pupil? slot = b.pupil? slot := by
      rw [pupil?_provide, hkept, pupil?]
    rw [hb, ← hr.pupil, pupil?_provide, pupil?, hah]
    rfl

theorem Ahead.teach (hr : Ahead spare? provider a b) (hd : Handling W Handler) (host : String)
    (c : Challenge) : (Authenticator.teach hd host c a).1 = (Authenticator.teach hd host c b).1 ∧
      Ahead spare? provider (Authenticator.teach hd host c a).2 (Authenticator.teach hd host c b).2 := by
  unfold Authenticator.teach
  rw [hr.pupil]
  cases b.pupil? ⟨host, c.scheme⟩ with
  | none => exact ⟨rfl, hr⟩
  | some h => exact ⟨rfl, hr.store _ _⟩

/-- Both learn alike, and the handler may be made on the way. -/
theorem Ahead.learn (hr : Ahead spare? provider a b) (net : Network W) {s t : Session W} (hw : s.world = t.world)
    (uri : Uri) (response : Response) :
    let x := a.learn (Handler.handling net) uri response s
    let y := b.learn (Handler.handling net) uri response t
    x.1.1 = y.1.1 ∧ Ahead spare? provider x.1.2 y.1.2 ∧ x.2.world = y.2.world := by
  intro x y
  by_cases hasks : ∃ host cs, Asks uri response host cs
  · obtain ⟨host, cs, hasks⟩ := hasks
    obtain ⟨hx, hxw⟩ := hasks.learn (Handler.handling net) a s
    obtain ⟨hy, hyw⟩ := hasks.learn (Handler.handling net) b t
    obtain ⟨hresult, hnext⟩ := Learner.lesson_related (R := Ahead spare? provider)
      (fun c _ _ h => h.teach (Handler.handling net) host c) false hr cs
    rw [← hx, ← hy] at hresult hnext
    exact ⟨hresult, hnext, hxw.trans (hw.trans hyw.symm)⟩
  · obtain ⟨e, he⟩ := learn_of_not_asks (fun host cs hn => hasks ⟨host, cs, hn⟩)
      (Handler.handling net)
    have hx : x = ((.error e, a), s) := he a s
    have hy : y = ((.error e, b), t) := he b t
    rw [hx, hy]
    exact ⟨rfl, hr, hw⟩

end ahead

/-- A handler's answer is a value that can be sent. -/
def Sendable (result : Except AuthError String) (value : String) : Prop :=
  result = .ok value ∧ Header.isValue (Utf8.encode value) = true

/-- One scheme is tried: its handler has a value that can be sent, or the next scheme has its turn. -/
theorem authorizeWith_cases {H : Type} (hd : Handling W H) {host : String} (request : Request)
    {a : Authenticator H} {scheme : Name} {h : H} (rest : List Name) (s : Session W)
    (hh : a.handler? ⟨host, scheme⟩ = some h) :
    let r := hd.authorize h s
    let after := a.store ⟨host, scheme⟩ r.1.2
    (∃ value, Sendable r.1.1 value ∧ authorizeWith hd host request a (scheme :: rest) s =
        ((some (withAuthorization request (Utf8.encode value)), after), r.2)) ∨
      (∀ value, ¬ Sendable r.1.1 value) ∧ ∃ s', s'.world = r.2.world ∧
        authorizeWith hd host request a (scheme :: rest) s =
          authorizeWith hd host request after rest s' := by
  intro r after
  simp only [authorizeWith]
  rw [hh]
  simp only [Session.bind_apply]
  have hr : (hd.authorize h s).1.1 = r.1.1 := rfl
  rw [hr]
  cases r.1.1 with
  | error e =>
    refine .inr ⟨?_, (Session.log (.schemeSkipped host scheme.text e) r.2).2, rfl, rfl⟩
    rintro value ⟨hv, -⟩
    cases hv
  | ok value =>
    cases hv : Header.isValue (Utf8.encode value) with
    | true =>
      refine .inl ⟨value, ⟨rfl, hv⟩, ?_⟩
      simp only [hv, ↓reduceIte]
      rfl
    | false =>
      refine .inr ⟨?_, (Session.log (.valueNotSendable host scheme.text) r.2).2, rfl, ?_⟩
      · rintro other ⟨ho, hs⟩
        cases ho
        rw [hv] at hs
        cases hs
      · simp only [hv, Bool.false_eq_true, ↓reduceIte]
        rfl

/-- A scheme without a handler is passed over. -/
theorem authorizeWith_of_absent {H : Type} (hd : Handling W H) {host : String} (request : Request)
    {a : Authenticator H} {scheme : Name} (rest : List Name)
    (hh : a.handler? ⟨host, scheme⟩ = none) :
    authorizeWith hd host request a (scheme :: rest) = authorizeWith hd host request a rest := by
  simp only [authorizeWith]
  rw [hh]

section values

variable {spare? : Option (Slot × Handler)} {provider : CredentialsProvider}
  {a b : Authenticator Handler}

/-- The value comes from the handler that only one of two authenticators has. -/
def FromSpare (spare? : Option (Slot × Handler)) (provider : CredentialsProvider)
    (request : Request) (answer? : Option Request) : Prop :=
  ∃ slot, spare? = some (slot, .basic { credentials := provider slot.host }) ∧
    (provider slot.host).isAnonymous = false ∧ request.uri.hostKey? = some slot.host ∧
      answer? = some (withAuthorization request (Utf8.encode (provider slot.host).basicValue))

/-- Both find the same value, unless the first finds that of the handler the second has not. -/
theorem Ahead.authorizeWith {host : String} {request : Request} (hr : Ahead spare? provider a b)
    (net : Network W)
    (hf : ∀ slot h, spare? = some (slot, h) → h.Fresh (provider slot.host))
    (hhost : request.uri.hostKey? = some host) {s t : Session W} (hw : s.world = t.world)
    (schemes : List Name) :
    let x := Authenticator.authorizeWith (Handler.handling net) host request a schemes s
    let y := Authenticator.authorizeWith (Handler.handling net) host request b schemes t
    x.1.1 = y.1.1 ∧ Ahead spare? provider x.1.2 y.1.2 ∧ x.2.world = y.2.world ∨
      FromSpare spare? provider request x.1.1 := by
  induction schemes generalizing a b s t with
  | nil => exact .inl ⟨rfl, hr, hw⟩
  | cons scheme rest ih =>
    intro x y
    rcases hr.handler ⟨host, scheme⟩ with hsame | ⟨h, hspare, hah, hbh⟩
    · cases hbh : b.handler? ⟨host, scheme⟩ with
      | none =>
        have hx : x = _ := congrFun (authorizeWith_of_absent _ request rest (hsame.trans hbh)) s
        have hy : y = _ := congrFun (authorizeWith_of_absent _ request rest hbh) t
        rw [hx, hy]
        exact ih hr hw
      | some h =>
        obtain ⟨hanswer, hworld⟩ := (Handler.discreet_authorize net h).blind s t hw
        have hcx := authorizeWith_cases (Handler.handling net) request rest s (hsame.trans hbh)
        have hcy := authorizeWith_cases (Handler.handling net) request rest t hbh
        simp only [Handler.handling] at hcx hcy
        rw [hanswer] at hcx
        rcases hcx with ⟨value, hs, hx⟩ | ⟨hn, s', hs', hx⟩
        · rcases hcy with ⟨value', hs', hy⟩ | ⟨hn, -⟩
          · have hvalue := hs.1.symm.trans hs'.1
            cases hvalue
            rw [show x = _ from hx, show y = _ from hy]
            exact .inl ⟨rfl, hr.store _ _, hworld⟩
          · exact absurd hs (hn value)
        · rcases hcy with ⟨value', hs, -⟩ | ⟨-, t', ht', hy⟩
          · exact absurd hs (hn value')
          · rw [show x = _ from hx, show y = _ from hy]
            exact ih (hr.store _ _) (hs'.trans (hworld.trans ht'.symm))
    · obtain ⟨hidle, hvalue⟩ := (hf _ _ hspare).authorize net s
      have hy : y = _ := congrFun (authorizeWith_of_absent _ request rest hbh) t
      have hcx := authorizeWith_cases (Handler.handling net) request rest s hah
      simp only [Handler.handling] at hcx
      rw [hidle, store_of_handler? hah] at hcx
      rcases hcx with ⟨value, hs, hx⟩ | ⟨-, s', hs', hx⟩
      · obtain ⟨hbasic, hcredentials, hv⟩ := hvalue value hs.1
        subst hbasic hv
        refine .inr ⟨_, hspare, hcredentials, hhost, ?_⟩
        rw [show x = _ from hx]
      · rw [show x = _ from hx, hy]
        exact ih hr (hs'.trans hw)

theorem Ahead.authorize (hr : Ahead spare? provider a b) (net : Network W)
    (hf : ∀ slot h, spare? = some (slot, h) → h.Fresh (provider slot.host)) {s t : Session W}
    (hw : s.world = t.world) (request : Request) :
    let x := a.authorize (Handler.handling net) request s
    let y := b.authorize (Handler.handling net) request t
    x.1.1 = y.1.1 ∧ Ahead spare? provider x.1.2 y.1.2 ∧ x.2.world = y.2.world ∨
      FromSpare spare? provider request x.1.1 := by
  unfold Authenticator.authorize
  cases hhost : request.uri.hostKey? with
  | none => exact .inl ⟨rfl, hr, hw⟩
  | some host =>
    have hschemes : a.schemes = b.schemes := congrArg Registry.schemes hr.registry
    rw [hschemes]
    exact hr.authorizeWith net hf hhost hw b.schemes

end values

/-- What may be done with an authenticator. In the meantime the provider may come to answer otherwise, and anything
may happen to the world. -/
inductive Use (W : Type) where
  | learn (uri : Uri) (response : Response)
  | authorize (request : Request)
  | provide (provider : CredentialsProvider)
  | meanwhile (change : W → W)

/-- What is seen of a use from outside. -/
inductive Answer where
  | learned (result : Except AuthError Unit)
  | authorized (request? : Option Request)
  | nothing
deriving DecidableEq

def use (net : Network W) (a : Authenticator Handler) (s : Session W) :
    Use W → (Answer × Authenticator Handler) × Session W
  | .learn uri response =>
    let r := a.learn (Handler.handling net) uri response s
    ((.learned r.1.1, r.1.2), r.2)
  | .authorize request =>
    let r := a.authorize (Handler.handling net) request s
    ((.authorized r.1.1, r.1.2), r.2)
  | .provide provider => ((.nothing, a.provide provider), s)
  | .meanwhile change => ((.nothing, a), { s with world := change s.world })

def answers (net : Network W) (a : Authenticator Handler) (s : Session W) : List (Use W) → List Answer
  | [] => []
  | u :: rest =>
    let r := use net a s u
    r.1.1 :: answers net r.1.2 r.2 rest

/-- The answers are the same up to a request that gets the value of a Basic handler for `slot` with these
credentials. -/
def SameUntil (slot : Slot) (credentials : Credentials) (uses : List (Use W))
    (xs ys : List Answer) : Prop :=
  ∃ n request, uses[n]? = some (.authorize request) ∧ request.uri.hostKey? = some slot.host ∧
    xs.take n = ys.take n ∧
      xs[n]? = some (.authorized (some (withAuthorization request (Utf8.encode credentials.basicValue))))

section uses

variable {spare? : Option (Slot × Handler)} {provider : CredentialsProvider}
  {a b : Authenticator Handler}

theorem Ahead.use (hr : Ahead spare? provider a b) (net : Network W)
    (hf : ∀ slot h, spare? = some (slot, h) → h.Fresh (provider slot.host)) {s t : Session W}
    (hw : s.world = t.world) (u : Use W)
    (hp : ∀ p, u = .provide p → ∀ slot h, spare? = some (slot, h) → p slot.host = provider slot.host) :
    let x := Authenticator.use net a s u
    let y := Authenticator.use net b t u
    x.1.1 = y.1.1 ∧ Ahead spare? provider x.1.2 y.1.2 ∧ x.2.world = y.2.world ∨
      ∃ request answer?, u = .authorize request ∧ x.1.1 = .authorized answer? ∧
        FromSpare spare? provider request answer? := by
  cases u with
  | learn uri response =>
    obtain ⟨hresult, hnext, hworld⟩ := hr.learn net hw uri response
    exact .inl ⟨congrArg Answer.learned hresult, hnext, hworld⟩
  | authorize request =>
    rcases hr.authorize net hf hw request with ⟨hresult, hnext, hworld⟩ | hspare
    · exact .inl ⟨congrArg Answer.authorized hresult, hnext, hworld⟩
    · exact .inr ⟨request, _, rfl, rfl, hspare⟩
  | provide p => exact .inl ⟨rfl, hr.provide (hp p rfl), hw⟩
  | meanwhile change => exact .inl ⟨rfl, hr, congrArg change hw⟩

theorem Ahead.answers (hr : Ahead spare? provider a b) (net : Network W)
    (hf : ∀ slot h, spare? = some (slot, h) → h.Fresh (provider slot.host)) {s t : Session W}
    (hw : s.world = t.world) (uses : List (Use W))
    (hp : ∀ p, .provide p ∈ uses → ∀ slot h, spare? = some (slot, h) → p slot.host = provider slot.host) :
    let xs := Authenticator.answers net a s uses
    let ys := Authenticator.answers net b t uses
    xs = ys ∨ ∃ slot, spare? = some (slot, .basic { credentials := provider slot.host }) ∧
      (provider slot.host).isAnonymous = false ∧ SameUntil slot (provider slot.host) uses xs ys := by
  induction uses generalizing a b s t with
  | nil => exact .inl rfl
  | cons u rest ih =>
    intro xs ys
    have hfirst := fun p (hu : u = .provide p) => hp p (hu ▸ List.mem_cons_self)
    have hrest := fun p hm => hp p (List.mem_cons_of_mem u hm)
    rcases hr.use net hf hw u hfirst with ⟨hresult, hnext, hworld⟩ |
      ⟨request, answer?, rfl, hanswer, slot, hspare, hcredentials, hhost, hvalue⟩
    · rcases ih hnext hworld hrest with hrest | ⟨slot, hspare, hcredentials, n, request, hu, hhost, hsame, hn⟩
      · left
        change _ :: _ = _ :: _
        rw [hresult, hrest]
      · refine .inr ⟨slot, hspare, hcredentials, n + 1, request, hu, hhost, ?_, hn⟩
        change List.take (n + 1) (_ :: _) = List.take (n + 1) (_ :: _)
        rw [List.take_succ_cons, List.take_succ_cons, hresult, hsame]
    · refine .inr ⟨slot, hspare, hcredentials, 0, request, rfl, hhost, rfl, ?_⟩
      rw [← hvalue, ← hanswer]
      rfl

end uses

/-- The response has the first challenge for a slot whose handler is then made: `h`. -/
structure Newcomer (a : Authenticator Handler) (uri : Uri) (response : Response) (slot : Slot)
    (h : Handler) : Prop where
  asked : ∃ cs, Asks uri response slot.host cs ∧ ∃ c ∈ cs, c.scheme = slot.scheme
  absent : a.handler? slot = none
  made : a.pupil? slot = some h

/-- A failure without any accepted challenge leaves every handler and the world as they were. At most a handler
that was made for an invalid challenge is left. Unless the provider comes to answer otherwise for its host, later
answers are what they would have been, at least up to a request that gets the value of that handler, and it has one
only if it is a Basic handler with credentials. -/
theorem learn_unaccepted (net : Network W) (a : Authenticator Handler) (uri : Uri)
    (response : Response) (s : Session W) (e : AuthError) (hl : a.registry.OfLibrary)
    (he : (a.learn (Handler.handling net) uri response s).1.1 = .error e)
    (hn : ∀ host cs, Asks uri response host cs →
      (teach (Handler.handling net) host).accepted a cs = []) :
    let a' := (a.learn (Handler.handling net) uri response s).1.2
    let s' := (a.learn (Handler.handling net) uri response s).2
    s'.world = s.world ∧
      (a' = a ∧ (∀ uses, answers net a' s' uses = answers net a s uses) ∨
        ∃ slot h, Newcomer a uri response slot h ∧ (∃ flaw, e = .invalidChallenge flaw) ∧
          a' = a.store slot h ∧
          (∀ host scheme, (⟨host, .ofText scheme⟩ : Slot) ≠ slot →
            a'.hasHandler host scheme = a.hasHandler host scheme) ∧
          ∀ uses, (∀ p, .provide p ∈ uses → p slot.host = a.registry.provider slot.host) →
            answers net a' s' uses = answers net a s uses ∨
            h = .basic { credentials := a.registry.provider slot.host } ∧
              (a.registry.provider slot.host).isAnonymous = false ∧
              SameUntil slot (a.registry.provider slot.host) uses (answers net a' s' uses)
                (answers net a s uses)) := by
  intro a' s'
  have hsame : a' = a → s'.world = s.world → ∀ uses, answers net a' s' uses = answers net a s uses := by
    intro ha hw uses
    have hf : ∀ (slot : Slot) (h : Handler), none = some (slot, h) → h.Fresh (a.registry.provider slot.host) := by
      intro slot h hnone
      cases hnone
    rw [ha]
    rcases (Ahead.refl a).answers net hf hw uses (by rintro p - slot h ⟨⟩) with hrun | ⟨slot, hnone, -⟩
    · exact hrun
    · cases hnone
  by_cases hasks : ∃ host cs, Asks uri response host cs
  · obtain ⟨host, cs, hasks⟩ := hasks
    obtain ⟨hlesson, hw⟩ := hasks.learn (Handler.handling net) a s
    refine ⟨hw, ?_⟩
    rcases lesson_unaccepted hl (hn host cs hasks) (hlesson.symm.trans (Prod.ext he rfl)) with
      ha | ⟨c, hc, h, hflaw, habsent, hmade, ha⟩
    · exact .inl ⟨ha, hsame ha hw⟩
    · change a' = _ at ha
      refine .inr ⟨⟨host, c.scheme⟩, h, ⟨⟨cs, hasks, c, hc, rfl⟩, habsent, hmade⟩, hflaw, ha, ?_, ?_⟩
      · intro other scheme hne
        rw [hasHandler, hasHandler, ha, handler?_store_of_ne h (Ne.symm hne)]
      · intro uses hsteady
        have hahead : Ahead (some (⟨host, c.scheme⟩, h)) a.registry.provider a' a := by
          rw [ha]
          exact .of_store habsent hmade
        have hf : ∀ slot k, some ((⟨host, c.scheme⟩ : Slot), h) = some (slot, k) →
            k.Fresh (a.registry.provider slot.host) := by
          rintro slot k hk
          cases hk
          exact fresh_of_absent hl habsent hmade
        have hp : ∀ p, .provide p ∈ uses →
            ∀ slot k, some ((⟨host, c.scheme⟩ : Slot), h) = some (slot, k) →
            p slot.host = a.registry.provider slot.host := by
          rintro p hm slot k hk
          cases hk
          exact hsteady p hm
        rcases hahead.answers net hf hw uses hp with hrun | ⟨slot, hspare, hrun⟩
        · exact .inl hrun
        · cases hspare
          exact .inr ⟨rfl, hrun⟩
  · obtain ⟨failure, hlearn⟩ := learn_of_not_asks (fun host cs hn => hasks ⟨host, cs, hn⟩)
      (Handler.handling net)
    have ha : a' = a := congrArg (·.1.2) (hlearn a s)
    have hw : s'.world = s.world := congrArg (·.2.world) (hlearn a s)
    exact ⟨hw, .inl ⟨ha, hsame ha hw⟩⟩

/-- Basic challenges have to name a realm. -/
def flawedRefusal : Response := refusalOf ["Basic charset=\"UTF-8\""]

theorem asks_flawedRefusal {host : String} {cs : List Challenge}
    (h : Asks registryUri flawedRefusal host cs) :
    host = "registry.example" ∧ cs = [(Challenge.ofScheme "basic").set "charset" "UTF-8"] := by
  have hhost : registryUri.hostKey? = some "registry.example" := by decide +kernel
  have hparsed : Challenge.parseAll (Headers.values flawedRefusal.headers Header.wwwAuthenticate) =
      .ok [(Challenge.ofScheme "basic").set "charset" "UTF-8"] := by decide +kernel
  have hcs := h.parsed
  rw [hparsed] at hcs
  exact ⟨Option.some.inj (h.hostKey.symm.trans hhost), (Except.ok.inj hcs).symm⟩

/-- Without credentials nothing is ever seen of the handler. -/
theorem learn_unaccepted_anonymous :
    let a := basicOnly .none
    let r := a.learn (Handler.handling offline) registryUri flawedRefusal ⟨(), []⟩
    r.1.1 = .error (.invalidChallenge .basicWithoutRealm) ∧
      ∀ uses, (∀ p, .provide p ∈ uses → p "registry.example" = .anonymous) →
        answers offline r.1.2 r.2 uses = answers offline a ⟨(), []⟩ uses := by
  intro a r
  have he : r.1.1 = .error (.invalidChallenge .basicWithoutRealm) := by decide +kernel
  have hl : a.registry.OfLibrary := by
    intro entry hentry
    rw [List.mem_singleton.mp hentry]
    exact .inl rfl
  have hn : ∀ host cs, Asks registryUri flawedRefusal host cs →
      (teach (Handler.handling offline) host).accepted a cs = [] := by
    intro host cs hasks
    obtain ⟨rfl, rfl⟩ := asks_flawedRefusal hasks
    decide +kernel
  refine ⟨he, ?_⟩
  intro uses hsteady
  rcases (learn_unaccepted offline a registryUri flawedRefusal ⟨(), []⟩ _ hl he hn).2 with
    ⟨-, hall⟩ | ⟨slot, h, ⟨⟨cs, hasks, -⟩, -, -⟩, -, -, -, hall⟩
  · exact hall uses
  · obtain ⟨hhost, -⟩ := asks_flawedRefusal hasks
    rcases hall uses (hhost ▸ hsteady) with hsame | ⟨-, hcredentials, -⟩
    · exact hsame
    · cases hcredentials

/-- With credentials a challenge that was refused has the next request carry them. If the user logs in only after
it then requests go without a value, for the handler that was made knows nobody. -/
theorem learn_unaccepted_credentials :
    let alice : CredentialsProvider := fun _ => { username := "alice", password := "wonderland" }
    let learn := fun a : Authenticator Handler =>
      a.learn (Handler.handling offline) registryUri flawedRefusal ⟨(), []⟩
    let request : Request := { uri := registryUri }
    let authorized := Answer.authorized (some (withAuthorization request
      (Utf8.encode "Basic YWxpY2U6d29uZGVybGFuZA==")))
    let logIn : List (Use Unit) :=
      [.provide alice, .learn registryUri (refusalOf ["Basic realm=\"r\""]), .authorize request]
    (∀ provider ∈ [alice, .none],
        (learn (basicOnly provider)).1.1 = .error (.invalidChallenge .basicWithoutRealm) ∧
          ∀ host cs, Asks registryUri flawedRefusal host cs →
            (teach (Handler.handling offline) host).accepted (basicOnly provider) cs = []) ∧
      (basicOnly alice).hasHandler "registry.example" "basic" = false ∧
      (learn (basicOnly alice)).1.2.hasHandler "registry.example" "basic" = true ∧
      answers offline (basicOnly alice) ⟨(), []⟩ [.authorize request] = [.authorized none] ∧
      answers offline (learn (basicOnly alice)).1.2 (learn (basicOnly alice)).2 [.authorize request] =
        [authorized] ∧
      answers offline (basicOnly .none) ⟨(), []⟩ logIn = [.nothing, .learned (.ok ()), authorized] ∧
      answers offline (learn (basicOnly .none)).1.2 (learn (basicOnly .none)).2 logIn =
        [.nothing, .learned (.ok ()), .authorized none] := by
  intro alice learn request authorized logIn
  refine ⟨?_, rfl, by decide +kernel, rfl, by decide +kernel, by decide +kernel, by decide +kernel⟩
  intro provider hm
  rcases List.mem_cons.mp hm with rfl | hm
  · refine ⟨by decide +kernel, fun host cs hasks => ?_⟩
    obtain ⟨rfl, rfl⟩ := asks_flawedRefusal hasks
    decide +kernel
  · obtain rfl := List.mem_singleton.mp hm
    refine ⟨by decide +kernel, fun host cs hasks => ?_⟩
    obtain ⟨rfl, rfl⟩ := asks_flawedRefusal hasks
    decide +kernel

end Authenticator

end HttpAuth
