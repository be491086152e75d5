import HttpAuth.Proofs.Lessons
import HttpAuth.Proofs.Scopes

namespace HttpAuth

/-- Steps that change a handler. What was changed before a failure stays changed. -/
abbrev InPlace (H : Type) := ExceptT AuthError (StateM H)

namespace InPlace

variable {H α β : Type}

def exec (x : InPlace H α) (h : H) : Except AuthError α × H := StateT.run (ExceptT.run x) h

def check (result : Except AuthError α) : InPlace H α := MonadExcept.ofExcept result

@[simp] theorem exec_pure (a : α) (h : H) : exec (pure a) h = (.ok a, h) := rfl

@[simp] theorem exec_throw (e : AuthError) (h : H) :
    exec (throw e : InPlace H α) h = (.error e, h) := rfl

@[simp] theorem exec_get (h : H) : exec get h = (.ok h, h) := rfl

@[simp] theorem exec_modify (f : H → H) (h : H) : exec (modify f) h = (.ok (), f h) := rfl

@[simp] theorem exec_check (result : Except AuthError α) (h : H) :
    exec (check result) h = (result, h) := by
  cases result with
  | error e => rfl
  | ok a => rfl

theorem exec_bind (x : InPlace H α) (f : α → InPlace H β) (h : H) :
    exec (x >>= f) h = match exec x h with
      | (.ok a, h') => exec (f a) h'
      | (.error e, h') => (.error e, h') := by
  change StateT.run (ExceptT.run x >>= ExceptT.bindCont f) h = _
  rw [StateT.run_bind]
  unfold exec
  rcases StateT.run (ExceptT.run x) h with ⟨_ | a, h'⟩
  · rfl
  · rfl

end InPlace

/-- Accepts a challenge with another realm than the last. -/
def BasicAuth.process (c : Challenge) : InPlace BasicAuth Unit := do
  match c.param? "realm" with
  | none => throw (.invalidChallenge .basicWithoutRealm)
  | some realm =>
    let h ← get
    if h.realm? = some realm then throw .noNewChallenge
    else modify fun h => { h with realm? := some realm }

namespace BearerAuth

def setRealm (realm : String) (h : BearerAuth) : BearerAuth :=
  { h with realm? := h.realm?.or (some realm) }

def setService (service : String) (h : BearerAuth) : BearerAuth :=
  { h with service? := h.service?.or (some service) }

/-- Each field is set on its own, and only after the last check. -/
def process (c : Challenge) : InPlace BearerAuth Unit := do
  let realm ← InPlace.check (required c "realm")
  let service ← InPlace.check (required c "service")
  let scope ← InPlace.check (required c "scope")
  let h ← get
  if h.realm? = some realm ∧ h.service? = some service ∧ scope ∈ h.scopes then
    throw .noNewChallenge
  else
    InPlace.check (bind h.realm? realm "realm")
    InPlace.check (bind h.service? service "service")
    modify (setRealm realm)
    modify (setService service)
    if scope ∈ h.scopes then pure ()
    else
      modify fun h => { h with scopes := h.scopes ++ [scope] }
      modify fun h => { h with token? := none }

end BearerAuth

/-- What becomes of a handler, with the handler it was for a refusal. -/
def keeping {H : Type} (h : H) : Except AuthError H → Except AuthError Unit × H
  | .ok next => (.ok (), next)
  | .error e => (.error e, h)

theorem BasicAuth.exec_process (h : BasicAuth) (c : Challenge) :
    (process c).exec h = keeping h (h.learn c) := by
  unfold process learn
  cases c.param? "realm" with
  | none => rfl
  | some realm =>
    simp only [InPlace.exec_bind, InPlace.exec_get]
    split
    · rfl
    · rfl

theorem BearerAuth.or_of_bind {bound? : Option String} {value what : String}
    (hb : bind bound? value what = .ok ()) : bound?.or (some value) = some value := by
  rcases bind_cases bound? value what with ⟨-, rfl | rfl⟩ | ⟨flaw, he⟩
  · rfl
  · rfl
  · rw [he] at hb
    cases hb

/-- Field by field or at once, a challenge does the same. -/
theorem BearerAuth.exec_process (h : BearerAuth) (c : Challenge) :
    (process c).exec h = keeping h (h.learn c) := by
  unfold process
  simp only [InPlace.exec_bind, InPlace.exec_check, InPlace.exec_get]
  cases hr : c.param? "realm" with
  | none =>
    simp only [learn, required, hr]
    rfl
  | some realm =>
    cases hs : c.param? "service" with
    | none =>
      simp only [learn, required, hr, hs]
      rfl
    | some service =>
      cases hc : c.param? "scope" with
      | none =>
        simp only [learn, required, hr, hs, hc]
        rfl
      | some scope =>
        rw [learn_of_demand h (Challenge.demand?_of_params hr hs hc)]
        simp only [required, hr, hs, hc]
        split
        · rfl
        · simp only [InPlace.exec_bind, InPlace.exec_check]
          cases hrealm : bind h.realm? realm "realm" with
          | error e => rfl
          | ok u =>
            cases hservice : bind h.service? service "service" with
            | error e => rfl
            | ok u =>
              have hset : setService service (setRealm realm h) =
                  { h with realm? := some realm, service? := some service } := by
                simp only [setService, setRealm, or_of_bind hrealm, or_of_bind hservice]
              simp only [InPlace.exec_modify, hset]
              split
              · rfl
              · rfl

/-- Both are there, and they are not the same. -/
def Differ (bound? given? : Option String) : Prop :=
  ∃ bound given, bound? = some bound ∧ given? = some given ∧ bound ≠ given

namespace Handler

/-- A challenge, taken in field by field. -/
def process (c : Challenge) : Handler → Except AuthError Unit × Handler
  | basic b => Prod.map id basic ((BasicAuth.process c).exec b)
  | bearer b => Prod.map id bearer ((BearerAuth.process c).exec b)

theorem process_eq_learn (c : Challenge) (h : Handler) : process c h = learn c h := by
  cases h with
  | basic b =>
    simp only [process, learn, BasicAuth.exec_process]
    cases b.learn c with
    | error e => rfl
    | ok next => rfl
  | bearer b =>
    simp only [process, learn, BearerAuth.exec_process]
    cases b.learn c with
    | error e => rfl
    | ok next => rfl

/-- The challenge names all that it has to, and it is what the handler has learned already. -/
def Knows : Handler → Challenge → Prop
  | basic b, c => ∃ realm, c.param? "realm" = some realm ∧ b.realm? = some realm
  | bearer b, c =>
    ∃ realm service scope, c.param? "realm" = some realm ∧ c.param? "service" = some service ∧
      c.param? "scope" = some scope ∧ b.realm? = some realm ∧ b.service? = some service ∧
      scope ∈ b.scopes

/-- The challenge lacks something, or names another realm or service than the one the handler is bound to. -/
def Objects : Handler → Challenge → Prop
  | basic _, c => c.param? "realm" = none
  | bearer b, c =>
    c.param? "realm" = none ∨ c.param? "service" = none ∨ c.param? "scope" = none ∨
      Differ b.realm? (c.param? "realm") ∨ Differ b.service? (c.param? "service")

/-- The second handler is the first after it has taken in what was new in the challenge. -/
inductive Learns (c : Challenge) : Handler → Handler → Prop where
  | basic {b : BasicAuth} {realm : String} (hr : c.param? "realm" = some realm)
    (hnew : b.realm? ≠ some realm) : Learns c (basic b) (basic { b with realm? := some realm })
  | bearer {b : BearerAuth} {realm service scope : String} (hr : c.param? "realm" = some realm)
    (hs : c.param? "service" = some service) (hc : c.param? "scope" = some scope)
    (hrealm : b.realm? = none ∨ b.realm? = some realm)
    (hservice : b.service? = none ∨ b.service? = some service) (hnew : scope ∉ b.scopes) :
    Learns c (bearer b) (bearer { b with
      realm? := some realm
      service? := some service
      scopes := b.scopes ++ [scope]
      token? := none })

/-- What comes of a challenge, with its reason. -/
inductive Verdict (c : Challenge) (h : Handler) : Except AuthError Unit × Handler → Prop where
  | flawed (flaw : ChallengeFlaw) (ho : h.Objects c) :
    Verdict c h (.error (.invalidChallenge flaw), h)
  | known (hk : h.Knows c) : Verdict c h (.error .noNewChallenge, h)
  | learned {k : Handler} (hl : Learns c h k) : Verdict c h (.ok (), k)

section verdicts

variable {c : Challenge} {h k : Handler}

/-- A lesson makes a difference. -/
theorem Learns.ne (hl : Learns c h k) : k ≠ h := by
  intro he
  cases hl with
  | basic hr hnew => exact hnew (congrArg BasicAuth.realm? (Handler.basic.inj he)).symm
  | bearer hr hs hc hrealm hservice hnew =>
    have hscopes := congrArg BearerAuth.scopes (Handler.bearer.inj he)
    exact absurd hscopes (by simp)

/-- What was learned is known. -/
theorem Learns.knows (hl : Learns c h k) : k.Knows c := by
  cases hl with
  | basic hr hnew => exact ⟨_, hr, rfl⟩
  | bearer hr hs hc hrealm hservice hnew => exact ⟨_, _, _, hr, hs, hc, rfl, rfl, by simp⟩

theorem Learns.not_knows (hl : Learns c h k) : ¬ h.Knows c := by
  cases hl with
  | basic hr hnew =>
    rintro ⟨realm, hr', hknown⟩
    rw [hr] at hr'
    cases hr'
    exact hnew hknown
  | bearer hr hs hc hrealm hservice hnew =>
    rintro ⟨realm, service, scope, -, -, hc', -, -, hold⟩
    rw [hc] at hc'
    cases hc'
    exact hnew hold

theorem not_differ {bound? : Option String} {given : String}
    (h : bound? = none ∨ bound? = some given) : ¬ Differ bound? (some given) := by
  rintro ⟨bound, given', hb, hg, hne⟩
  cases hg
  rcases h with hn | hs
  · rw [hb] at hn
    cases hn
  · rw [hb] at hs
    exact hne (Option.some.inj hs)

theorem Learns.not_objects (hl : Learns c h k) : ¬ h.Objects c := by
  cases hl with
  | basic hr hnew =>
    intro ho
    rw [Objects, hr] at ho
    cases ho
  | bearer hr hs hc hrealm hservice hnew =>
    simp only [Objects, hr, hs, hc, reduceCtorEq, false_or, not_or]
    exact ⟨not_differ hrealm, not_differ hservice⟩

theorem Knows.not_objects (hk : h.Knows c) : ¬ h.Objects c := by
  cases h with
  | basic b =>
    obtain ⟨realm, hr, -⟩ := hk
    intro ho
    rw [Objects, hr] at ho
    cases ho
  | bearer b =>
    obtain ⟨realm, service, scope, hr, hs, hc, hrealm, hservice, -⟩ := hk
    simp only [Objects, hr, hs, hc, reduceCtorEq, false_or, not_or]
    exact ⟨not_differ (.inr hrealm), not_differ (.inr hservice)⟩

theorem verdict_basic (b : BasicAuth) (c : Challenge) : Verdict c (basic b) (learn c (basic b)) := by
  simp only [learn, BasicAuth.learn]
  cases hr : c.param? "realm" with
  | none => exact .flawed _ hr
  | some realm =>
    by_cases hk : b.realm? = some realm
    · simp only [if_pos hk]
      exact .known ⟨realm, hr, hk⟩
    · simp only [if_neg hk]
      exact .learned (.basic hr hk)

theorem bind_of_not_differ {bound? : Option String} {value : String} (what : String)
    (h : ¬ Differ bound? (some value)) : BearerAuth.bind bound? value what = .ok () := by
  cases bound? with
  | none => rfl
  | some bound => exact if_pos (by_contra fun hne => h ⟨bound, value, rfl, rfl, hne⟩)

theorem objects_of_flawed {b : BearerAuth} {flaw : ChallengeFlaw}
    (hl : b.learn c = .error (.invalidChallenge flaw)) : (bearer b).Objects c := by
  by_contra ho
  simp only [Objects, not_or] at ho
  obtain ⟨hr, hs, hc, hrealm, hservice⟩ := ho
  obtain ⟨realm, hr⟩ := Option.ne_none_iff_exists'.mp hr
  obtain ⟨service, hs⟩ := Option.ne_none_iff_exists'.mp hs
  obtain ⟨scope, hc⟩ := Option.ne_none_iff_exists'.mp hc
  rw [hr] at hrealm
  rw [hs] at hservice
  rw [BearerAuth.learn_of_demand b (Challenge.demand?_of_params hr hs hc)] at hl
  simp only [bind_of_not_differ _ hrealm, bind_of_not_differ _ hservice] at hl
  split at hl
  · cases hl
  · cases hl

/-- While nothing is known there are no scopes, so a scope that is known belongs to the realm and service that are
known. Without that a challenge could be accepted that brings nothing but one of these. -/
theorem verdict_bearer {b : BearerAuth} (hb : b.Coherent) (c : Challenge) :
    Verdict c (bearer b) (learn c (bearer b)) := by
  rcases BearerAuth.learn_cases b c with
    ⟨flaw, hl⟩ | ⟨d, hd, ⟨hk, hl⟩ | ⟨-, hrealm, hservice, hl⟩⟩
  · simp only [learn, hl]
    exact .flawed flaw (objects_of_flawed hl)
  · obtain ⟨hr, hs, hc⟩ := Challenge.demand?_eq_some hd
    simp only [learn, hl]
    exact .known ⟨_, _, _, hr, hs, hc, hk.realm, hk.service, hk.scope⟩
  · obtain ⟨e, he, -, hnew, htaught⟩ := BearerAuth.learn_eq_ok hb hl
    rw [hd] at he
    cases he
    obtain ⟨hr, hs, hc⟩ := Challenge.demand?_eq_some hd
    simp only [learn, hl, htaught]
    exact .learned (.bearer hr hs hc hrealm hservice hnew)

theorem Verdict.of_knows {r : Except AuthError Unit × Handler} (hv : Verdict c h r)
    (hk : h.Knows c) : r = (.error .noNewChallenge, h) := by
  cases hv with
  | flawed flaw ho => exact absurd ho hk.not_objects
  | known => rfl
  | learned hl => exact absurd hk hl.not_knows

end verdicts

variable {W : Type} {net : Network W} {credentials : Credentials} {h k : Handler}

theorem basic_of_descends {b : BasicAuth}
    (hk : Authenticator.Descends (handling net) (basic b) k) : ∃ b', k = basic b' := by
  induction hk with
  | refl => exact ⟨b, rfl⟩
  | learned c _ ih =>
    obtain ⟨b', rfl⟩ := ih
    have hv := verdict_basic b' c
    change ∃ b'', (learn c (basic b')).2 = basic b''
    generalize learn c (basic b') = r at hv ⊢
    cases hv with
    | flawed | known => exact ⟨b', rfl⟩
    | learned hl =>
      cases hl with
      | basic hr hnew => exact ⟨_, rfl⟩
  | asked s _ ih =>
    obtain ⟨b', rfl⟩ := ih
    exact ⟨b', rfl⟩

theorem verdict_of_descends (hf : Fresh credentials h)
    (hk : Authenticator.Descends (handling net) h k) (c : Challenge) : Verdict c k (learn c k) := by
  cases hf with
  | basic =>
    obtain ⟨b, rfl⟩ := basic_of_descends hk
    exact verdict_basic b c
  | bearer host options =>
    obtain ⟨hb, -⟩ := (orderly_bearerFactory options host credentials).descends hk
    exact verdict_bearer hb c

/-- Whatever a handler was told and asked before: it accepts a challenge exactly when that teaches it something,
and has then heard enough of it; and a challenge that it refuses, as known or as wrong, changes nothing. -/
theorem accepts_what_is_new (hf : Fresh credentials h)
    (hk : Authenticator.Descends (handling net) h k) (c : Challenge) :
    let r := learn c k
    process c k = r ∧
    (∀ e, r.1 = .error e → r.2 = k) ∧
    (r.1 = .ok () → Learns c k r.2 ∧ learn c r.2 = (.error .noNewChallenge, r.2)) ∧
    (r.1 = .ok () ↔ r.2 ≠ k) ∧
    (r.1 = .error .noNewChallenge ↔ k.Knows c) ∧
    ((∃ flaw, r.1 = .error (.invalidChallenge flaw)) ↔ k.Objects c) ∧
    (r.1 = .ok () ∨ r.1 = .error .noNewChallenge ∨
      ∃ flaw, r.1 = .error (.invalidChallenge flaw)) := by
  intro r
  have hv : Verdict c k r := verdict_of_descends hf hk c
  have hagain : Verdict c r.2 (learn c r.2) := verdict_of_descends hf (hk.learned c) c
  refine ⟨process_eq_learn c k, ?_⟩
  generalize r = r at hv hagain
  cases hv with
  | flawed flaw ho =>
    have hno : ¬ k.Knows c := fun hknown => hknown.not_objects ho
    exact ⟨by simp, by simp, by simp, by simpa using hno, by simpa using ho, .inr (.inr ⟨flaw, rfl⟩)⟩
  | known hknown =>
    exact ⟨by simp, by simp, by simp, by simpa using hknown, by simpa using hknown.not_objects,
      .inr (.inl rfl)⟩
  | learned hl =>
    refine ⟨by simp, fun _ => ⟨hl, hagain.of_knows hl.knows⟩, by simpa using hl.ne, ?_, ?_, .inl rfl⟩
    · simpa using hl.not_knows
    · simpa using hl.not_objects

/-- A bearer handler that is bound to one service is told of another, and then of a new scope. -/
theorem accepts_what_is_new_rebound :
    let c := fun service scope => (((Challenge.ofScheme "bearer").set "realm" "http://auth.example/token").set
      "service" service).set "scope" scope
    let h := bearerFactory {} "registry.example" .anonymous
    let k := (learn (c "registry" "pull") h).2
    learn (c "other" "push") k = (.error (.invalidChallenge (.bearerChanged "service" "registry" "other")), k) ∧
      k.Objects (c "other" "push") ∧
      Learns (c "registry" "push") k (learn (c "registry" "push") k).2 ∧
      (learn (c "registry" "push") (learn (c "registry" "push") k).2).1 = .error .noNewChallenge := by
  intro c h k
  have hf : Fresh .anonymous h := .bearer "registry.example" {}
  have hk : Authenticator.Descends (handling Authenticator.offline) h k :=
    .learned (c "registry" "pull") .refl
  have hother := accepts_what_is_new hf hk (c "other" "push")
  have hpush := accepts_what_is_new hf hk (c "registry" "push")
  have hrefused : (learn (c "other" "push") k).1 =
      .error (.invalidChallenge (.bearerChanged "service" "registry" "other")) := by decide
  have hok : (learn (c "registry" "push") k).1 = .ok () := by decide
  obtain ⟨-, hkept, -, -, -, hobjects, -⟩ := hother
  obtain ⟨-, -, hlearned, -⟩ := hpush
  obtain ⟨hlearns, hagain⟩ := hlearned hok
  exact ⟨Prod.ext hrefused (hkept _ hrefused), hobjects.mp ⟨_, hrefused⟩, hlearns,
    congrArg Prod.fst hagain⟩

end Handler

end HttpAuth
