import HttpAuth.Proofs.Hosts
import HttpAuth.Proofs.Overtaking
import HttpAuth.Proofs.SecretInputs

namespace HttpAuth

namespace Authenticator

/-- Authenticators that differ in passwords and tokens. -/
structure Akin (passwords : Prop) (a a' : Authenticator Handler) : Prop where
  library : a.registry.OfLibrary
  entries : a.registry.entries = a'.registry.entries
  provider : ∀ host, (a.registry.provider host).Akin passwords (a'.registry.provider host)
  handler : ∀ slot, Option.Rel (Handler.Akin passwords) (a.handler? slot) (a'.handler? slot)

/-- What comes of an operation: related results, and authenticators that are still akin. -/
def Along {α β : Type} (p : Pair) (R : α → β → Prop) (r : α × Authenticator Handler)
    (r' : β × Authenticator Handler) : Prop :=
  R r.1 r'.1 ∧ r.2.Akin p.passwords r'.2

/-- Requests that differ in the values of authorization fields. -/
def SameButValues (q q' : Request) : Prop := q.veil = q'.veil

section akin

variable {p : Pair} {passwords : Prop} {a a' : Authenticator Handler}

theorem Akin.factory? (h : a.Akin passwords a') (scheme : Name) :
    a.registry.factory? scheme = a'.registry.factory? scheme := by
  rw [Registry.factory?, Registry.factory?, h.entries]

theorem Akin.schemes (h : a.Akin passwords a') : a.schemes = a'.schemes := by
  rw [Authenticator.schemes, Authenticator.schemes, Registry.schemes, Registry.schemes, h.entries]

theorem Akin.store (h : a.Akin passwords a') {k k' : Handler} (hk : k.Akin passwords k') (slot : Slot) :
    (a.store slot k).Akin passwords (a'.store slot k') := by
  refine ⟨h.library, h.entries, h.provider, ?_⟩
  intro other
  by_cases hne : slot = other
  · subst hne
    rw [handler?_store_self, handler?_store_self]
    exact .some hk
  · rw [handler?_store_of_ne k hne, handler?_store_of_ne k' hne]
    exact h.handler other

theorem Akin.made (h : a.Akin passwords a') {scheme : Name} {factory : Factory Handler}
    (hf : a.registry.factory? scheme = some factory) (host : String) {c c' : Credentials}
    (hc : c.Akin passwords c') : (factory host c).Akin passwords (factory host c') := by
  rcases h.library _ (Assoc.mem_of_lookup hf) with rfl | ⟨options, rfl⟩
  · exact .basic ⟨rfl, hc⟩
  · exact .bearer ⟨rfl, hc, rfl, rfl, rfl, rfl, .none⟩

theorem Akin.obtain (h : a.Akin p.passwords a') {factory : Factory Handler} (slot : Slot)
    (hf : a.registry.factory? slot.scheme = some factory) :
    Lockstep p (Handler.Akin p.passwords) (a.obtain factory slot) (a'.obtain factory slot) := by
  have hhandler := h.handler slot
  unfold Authenticator.obtain
  generalize a.handler? slot = k? at hhandler
  generalize a'.handler? slot = k'? at hhandler
  cases hhandler with
  | some hk => exact lockstep_pure hk
  | none =>
    apply lockstep_after_log
    apply (lockstep_lookUp (h.provider slot.host)).bind
    exact fun _ _ hc => lockstep_pure (h.made hf slot.host hc)

theorem Akin.learnAll (h : a.Akin p.passwords a') (host : String) (learned : Bool) (cs : List Challenge) :
    Lockstep p (Along p Eq) (learnAll (Handler.handling p.first.network) host learned a cs)
      (learnAll (Handler.handling p.second.network) host learned a' cs) := by
  induction cs generalizing a a' learned with
  | nil => exact lockstep_pure ⟨rfl, h⟩
  | cons c rest ih =>
    rw [Authenticator.learnAll, Authenticator.learnAll, ← h.factory?]
    cases hf : a.registry.factory? c.scheme with
    | none =>
      apply lockstep_after_log
      exact ih h learned
    | some factory =>
      apply (h.obtain ⟨host, c.scheme⟩ hf).bind
      intro k k' hk
      obtain ⟨hresult, hnext⟩ := hk.learn c
      have hstored := h.store hnext ⟨host, c.scheme⟩
      simp only [Handler.handling]
      generalize Handler.learn c k = outcome at hresult hstored
      generalize Handler.learn c k' = outcome' at hresult hstored
      obtain ⟨result, after⟩ := outcome
      obtain ⟨result', after'⟩ := outcome'
      cases hresult
      cases result with
      | ok u => exact ih hstored true
      | error e =>
        cases e with
        | noNewChallenge => exact ih hstored learned
        | unsupported | parse | invalidChallenge | notFound | authFailed =>
          exact lockstep_pure ⟨rfl, hstored⟩

theorem Akin.learn (h : a.Akin p.passwords a') (uri : Uri) (response : Response) :
    Lockstep p (Along p Eq) (a.learn (Handler.handling p.first.network) uri response)
      (a'.learn (Handler.handling p.second.network) uri response) := by
  unfold Authenticator.learn
  split
  · exact lockstep_pure ⟨rfl, h⟩
  · cases uri.hostKey? with
    | none => exact lockstep_pure ⟨rfl, h⟩
    | some host =>
      cases Challenge.parseAll (Headers.values response.headers Header.wwwAuthenticate) with
      | error e => exact lockstep_pure ⟨rfl, h⟩
      | ok cs => exact h.learnAll host false cs

theorem Akin.authorizeWith (h : a.Akin p.passwords a') (host : String) (request : Request)
    (schemes : List Name) :
    Lockstep p (Along p (Option.Rel SameButValues))
      (authorizeWith (Handler.handling p.first.network) host request a schemes)
      (authorizeWith (Handler.handling p.second.network) host request a' schemes) := by
  induction schemes generalizing a a' with
  | nil => exact lockstep_pure ⟨.none, h⟩
  | cons scheme rest ih =>
    have hhandler := h.handler ⟨host, scheme⟩
    simp only [Authenticator.authorizeWith]
    generalize a.handler? ⟨host, scheme⟩ = k? at hhandler
    generalize a'.handler? ⟨host, scheme⟩ = k'? at hhandler
    cases hhandler with
    | none => exact ih h
    | some hk =>
      simp only [Handler.handling]
      apply hk.authorize.bind
      rintro ⟨result, after⟩ ⟨result', after'⟩ ⟨hresult, hnext⟩
      have hstored := h.store hnext ⟨host, scheme⟩
      cases hresult with
      | error e =>
        apply lockstep_after_log
        exact ih hstored
      | ok hvalue =>
        simp only [hvalue.isValue]
        split
        · exact lockstep_pure ⟨.some (veil_withAuthorization request _ _), hstored⟩
        · apply lockstep_after_log
          exact ih hstored

theorem Akin.authorize (h : a.Akin p.passwords a') (request : Request) :
    Lockstep p (Along p (Option.Rel SameButValues))
      (a.authorize (Handler.handling p.first.network) request)
      (a'.authorize (Handler.handling p.second.network) request) := by
  unfold Authenticator.authorize
  cases request.uri.hostKey? with
  | none => exact lockstep_pure ⟨.none, h⟩
  | some host =>
    rw [h.schemes]
    exact h.authorizeWith host request a'.schemes

/-- A message is sent for a caller, with other values or without any. -/
theorem lockstep_deliver {request : Request} {answer? answer'? : Option Request}
    (h : Option.Rel SameButValues answer? answer'?) :
    Lockstep p Eq (Session.send p.first.network .delivery (answer?.getD request))
      (Session.send p.second.network .delivery (answer'?.getD request)) := by
  have hveil : (answer?.getD request).veil = (answer'?.getD request).veil := by
    cases h with
    | none => rfl
    | some h => exact h
  apply (lockstep_send hveil fun _ hpurpose => by cases hpurpose).imp
  rintro reply reply' ⟨⟩
  rfl

theorem Akin.send (h : a.Akin p.passwords a') (request : Request) :
    Lockstep p (Along p Eq) (a.send p.first.network (Handler.handling p.first.network) request)
      (a'.send p.second.network (Handler.handling p.second.network) request) := by
  unfold Authenticator.send
  apply (h.authorize request).bind
  rintro ⟨first?, a₁⟩ ⟨first'?, a₁'⟩ ⟨hfirst, h₁⟩
  apply (lockstep_deliver hfirst).bind
  rintro reply _ rfl
  cases reply with
  | error e => exact lockstep_pure ⟨rfl, h₁⟩
  | ok response =>
    dsimp only
    split
    · exact lockstep_pure ⟨rfl, h₁⟩
    · apply (Akin.learn h₁ request.uri response).bind
      rintro ⟨result, a₂⟩ ⟨_, a₂'⟩ ⟨⟨⟩, h₂⟩
      cases result with
      | error e =>
        apply lockstep_after_log
        exact lockstep_pure ⟨rfl, h₂⟩
      | ok u =>
        apply (Akin.authorize h₂ request).bind
        rintro ⟨second?, a₃⟩ ⟨second'?, a₃'⟩ ⟨hsecond, h₃⟩
        apply (lockstep_deliver hsecond).bind
        rintro reply _ rfl
        exact lockstep_pure ⟨rfl, h₃⟩

/-- What two runs see of an operation. -/
inductive Outcome.Alike : Outcome → Outcome → Prop where
  | learned (result : Except AuthError Unit) : Alike (.learned result) (.learned result)
  | authorized {answer? answer'? : Option Request} (h : Option.Rel SameButValues answer? answer'?) :
    Alike (.authorized answer?) (.authorized answer'?)
  | replied (reply : Except String Response) : Alike (.replied reply) (.replied reply)

theorem Akin.perform (h : a.Akin p.passwords a') (o : Operation) :
    Lockstep p (Along p Outcome.Alike) (a.perform p.first.network (Handler.handling p.first.network) o)
      (a'.perform p.second.network (Handler.handling p.second.network) o) := by
  cases o with
  | learn uri response =>
    apply (h.learn uri response).bind
    rintro ⟨result, b⟩ ⟨_, b'⟩ ⟨⟨⟩, hnext⟩
    exact lockstep_pure ⟨.learned result, hnext⟩
  | authorize request =>
    apply (h.authorize request).bind
    rintro ⟨answer?, b⟩ ⟨answer'?, b'⟩ ⟨hanswer, hnext⟩
    exact lockstep_pure ⟨.authorized hanswer, hnext⟩
  | send request =>
    apply (h.send request).bind
    rintro ⟨reply, b⟩ ⟨_, b'⟩ ⟨⟨⟩, hnext⟩
    exact lockstep_pure ⟨.replied reply, hnext⟩

end akin

/-- Operations, one after the other. -/
def performAll {W H : Type} (net : Network W) (hd : Handling W H) (a : Authenticator H) :
    List Operation → SessionM W (List Outcome × Authenticator H)
  | [] => return ([], a)
  | o :: rest => do
    let (outcome, a) ← a.perform net hd o
    let (outcomes, a) ← performAll net hd a rest
    return (outcome :: outcomes, a)

theorem Akin.performAll {p : Pair} {a a' : Authenticator Handler} (h : a.Akin p.passwords a')
    (operations : List Operation) :
    Lockstep p (Along p (List.Forall₂ Outcome.Alike))
      (performAll p.first.network (Handler.handling p.first.network) a operations)
      (performAll p.second.network (Handler.handling p.second.network) a' operations) := by
  induction operations generalizing a a' with
  | nil => exact lockstep_pure ⟨.nil, h⟩
  | cons o rest ih =>
    rw [Authenticator.performAll, Authenticator.performAll]
    apply (h.perform o).bind
    rintro ⟨outcome, b⟩ ⟨outcome', b'⟩ ⟨houtcome, hnext⟩
    apply (ih hnext).bind
    rintro ⟨outcomes, c⟩ ⟨outcomes', c'⟩ ⟨houtcomes, hlast⟩
    exact lockstep_pure ⟨.cons houtcome houtcomes, hlast⟩

theorem akin_ofRegistry {passwords : Prop} {r : Registry Handler} {provider' : CredentialsProvider}
    (hl : r.OfLibrary) (hp : ∀ host, (r.provider host).Akin passwords (provider' host)) :
    (ofRegistry r Handler.basicFactory).Akin passwords
      (ofRegistry (r.setProvider provider') Handler.basicFactory) := by
  have hlibrary := ofLibrary_finish hl
  obtain ⟨provider, entries⟩ := r
  cases entries with
  | nil => exact ⟨hlibrary, rfl, hp, fun _ => .none⟩
  | cons e entries => exact ⟨hlibrary, rfl, hp, fun _ => .none⟩

/-- What does not tell two handlers from each other does not tell two authenticators from each other. -/
theorem Akin.map_handler? {β : Type} {passwords : Prop} {a a' : Authenticator Handler}
    (h : a.Akin passwords a') {f : Handler → β} (hf : ∀ k k' : Handler, k.Akin passwords k' → f k = f k')
    (slot : Slot) : (a.handler? slot).map f = (a'.handler? slot).map f := by
  have hhandler := h.handler slot
  generalize a.handler? slot = k? at hhandler
  generalize a'.handler? slot = k'? at hhandler
  cases hhandler with
  | none => rfl
  | some hk => exact congrArg some (hf _ _ hk)

/-- What comes of operations that are met by prepared replies, with an authenticator that has learned nothing. -/
def Script.run (script : Script) (r : Registry Handler) (operations : List Operation) :
    (List Outcome × Authenticator Handler) × Session (Nat × Nat) :=
  performAll script.network (Handler.handling script.network) (ofRegistry r Handler.basicFactory)
    operations ⟨(0, 0), []⟩

/-- The same operations are carried out in two runs, in which passwords and tokens may differ: every user is the
same and has a password in both runs or in none, and the same comes back to every message except for the tokens
that endpoints send. Then all operations have the same results, the same is logged, handlers and credentials look
the same to a reader, and the same messages are sent, but for the values of authorization fields. With the same
passwords the token requests are the same altogether, and with the same replies these are too. -/
theorem secrets_in_authorization_only (script script' : Script) (r : Registry Handler)
    (provider' : CredentialsProvider) (operations : List Operation) (hl : r.OfLibrary)
    (hp : ∀ host, (r.provider host).username = (provider' host).username ∧
      ((r.provider host).password = "" ↔ (provider' host).password = ""))
    (hclock : script'.clock = script.clock)
    (hreplies : ∀ (k : Nat) (purpose : Purpose),
      (purposes (Script.run script r operations).2.journal)[k]? = some purpose →
        RepliesAlike purpose (script.reply k) (script'.reply k)) :
    let run := Script.run script r operations
    let run' := Script.run script' (r.setProvider provider') operations
    List.Forall₂ Outcome.Alike run.1.1 run'.1.1 ∧
    List.Forall₂ (Entry.Alike (r.provider = provider') (script'.reply = script.reply))
      run.2.journal run'.2.journal ∧
    (∀ slot, (run.1.2.handler? slot).map Handler.describe = (run'.1.2.handler? slot).map Handler.describe) ∧
    (∀ host, (r.provider host).describe = (provider' host).describe) ∧
    ∀ host scheme, run.1.2.hasHandler host scheme = run'.1.2.hasHandler host scheme := by
  intro run run'
  let p : Pair := ⟨script, script', hclock, r.provider = provider'⟩
  have hcredentials : ∀ host, (r.provider host).Akin p.passwords (provider' host) :=
    fun host => ⟨(hp host).1, (hp host).2, fun h => congrFun h host⟩
  have hmatched : p.Matched ⟨(0, 0), []⟩ ⟨(0, 0), []⟩ := ⟨rfl, rfl, .nil⟩
  have hstart := akin_ofRegistry hl hcredentials
  obtain ⟨⟨houtcomes, hakin⟩, hrun⟩ :=
    (Akin.performAll hstart operations).related ⟨(0, 0), []⟩ ⟨(0, 0), []⟩ hmatched hreplies
  refine ⟨houtcomes, hrun.journal, hakin.map_handler? fun _ _ hk => hk.describe,
    fun host => (hcredentials host).describe, ?_⟩
  intro host scheme
  have hthere : (run.1.2.handler? ⟨host, .ofText scheme⟩).map (fun _ => ()) =
      (run'.1.2.handler? ⟨host, .ofText scheme⟩).map (fun _ => ()) :=
    hakin.map_handler? (fun _ _ _ => rfl) _
  simpa [hasHandler] using congrArg Option.isSome hthere

/-- A refusal, a token, and pages from then on. -/
def scriptWith (token : String) : Script where
  reply k :=
    match k with
    | 0 => .ok pullRefusal
    | 1 => .ok { status := ⟨200⟩, body := Utf8.encode ("\x7b\"token\":\"" ++ token ++ "\"\x7d") }
    | _ => .ok { status := ⟨200⟩ }
  clock _ := (Session.stoppedClock ()).1

theorem alike_scriptWith {token token' : String} {k : Nat} (hk : k ≠ 1) (purpose : Purpose) :
    RepliesAlike purpose ((scriptWith token).reply k) ((scriptWith token').reply k) := by
  match k with
  | 0 => exact .same purpose (.ok pullRefusal)
  | 1 => exact absurd rfl hk
  | k + 2 => exact .same purpose (.ok { status := ⟨200⟩ })

theorem clock_scriptWith (token token' : String) : (scriptWith token).clock = (scriptWith token').clock :=
  rfl

/-- Neither the password nor the token shows, though both differ. -/
theorem secrets_in_authorization_only_send :
    let r : Registry Handler :=
      (({} : Registry Handler).register "bearer" (Handler.bearerFactory {})).setProvider
        fun _ => ⟨"alice", "wonderland"⟩
    let provider' : CredentialsProvider := fun _ => ⟨"alice", "lookingglass"⟩
    let run := Script.run (scriptWith "abc") r [.send pageRequest]
    let run' := Script.run (scriptWith "xyz") (r.setProvider provider') [.send pageRequest]
    let slot : Slot := ⟨"registry.example", .ofText "bearer"⟩
    List.Forall₂ (Entry.Alike (r.provider = provider') ((scriptWith "xyz").reply = (scriptWith "abc").reply))
      run.2.journal run'.2.journal ∧
    (run.1.2.handler? slot).map Handler.describe = (run'.1.2.handler? slot).map Handler.describe ∧
    run.1.2.handler? slot ≠ run'.1.2.handler? slot := by
  intro r provider' run run' slot
  have hl : r.OfLibrary := by
    intro entry hm
    rw [List.mem_singleton.mp hm]
    exact .inr ⟨{}, rfl⟩
  have hp : ∀ host, (r.provider host).username = (provider' host).username ∧
      ((r.provider host).password = "" ↔ (provider' host).password = "") := by
    intro host
    refine ⟨rfl, ?_⟩
    simp [r, provider', Registry.setProvider]
  have hpurposes : purposes run.2.journal = [.delivery, .token, .delivery] := by decide +kernel
  have htoken : RepliesAlike .token ((scriptWith "abc").reply 1) ((scriptWith "xyz").reply 1) := by
    have htexts : TextsAlike (some "abc") (some "xyz") :=
      .present (by decide) (show Header.isValue _ = true by decide) (show Header.isValue _ = true by decide)
    exact .tokens (by decide) (by decide +kernel : _ = some { token? := some "abc" })
      (by decide +kernel : _ = some { token? := some "xyz" }) ⟨htexts, .absent, rfl, rfl⟩
  have hreplies : ∀ (k : Nat) (purpose : Purpose), (purposes run.2.journal)[k]? = some purpose →
      RepliesAlike purpose ((scriptWith "abc").reply k) ((scriptWith "xyz").reply k) := by
    intro k purpose hk
    by_cases hone : k = 1
    · subst hone
      rw [hpurposes] at hk
      cases hk
      exact htoken
    · exact alike_scriptWith hone purpose
  obtain ⟨-, hjournal, hdescribe, -⟩ := secrets_in_authorization_only (scriptWith "abc") (scriptWith "xyz")
    r provider' [.send pageRequest] hl hp (clock_scriptWith "xyz" "abc") hreplies
  exact ⟨hjournal, hdescribe slot, by decide +kernel⟩

end Authenticator

end HttpAuth
