import HttpAuth.Authenticator.Basic
import HttpAuth.Proofs.Effects
import Mathlib.Data.List.Basic

namespace HttpAuth

/-- Something that learns from challenges: a handler, or an authenticator with all its handlers. -/
abbrev Learner (σ : Type) := Challenge → σ → Except AuthError Unit × σ

namespace Learner

variable {σ τ : Type} (f : Learner σ)

/-- Gives challenges in order, up to the first that is found wrong. -/
def lesson (learned : Bool) (x : σ) : List Challenge → Except AuthError Unit × σ
  | [] => (if learned then .ok () else .error .noNewChallenge, x)
  | c :: rest =>
    match f c x with
    | (.ok (), y) => lesson true y rest
    | (.error e, y) => if e = .noNewChallenge then lesson learned y rest else (.error e, y)

def after (x : σ) (cs : List Challenge) : σ := cs.foldl (fun x c => (f c x).2) x

/-- All answers are of one kind. -/
def Each (P : Except AuthError Unit → Prop) (x : σ) : List Challenge → Prop
  | [] => True
  | c :: rest => P (f c x).1 ∧ Each P (f c x).2 rest

/-- No challenge is found wrong. -/
abbrev Fits : σ → List Challenge → Prop :=
  f.Each fun result => result = .ok () ∨ result = .error .noNewChallenge

/-- No challenge is new. -/
abbrev Repeats : σ → List Challenge → Prop := f.Each (· = .error .noNewChallenge)

/-- The challenges that teach something, up to the first that is found wrong. -/
def accepted (x : σ) : List Challenge → List Challenge
  | [] => []
  | c :: rest =>
    match f c x with
    | (.ok (), y) => c :: accepted y rest
    | (.error e, y) => if e = .noNewChallenge then accepted y rest else []

variable {f}

theorem after_append (x : σ) (cs ds : List Challenge) :
    f.after x (cs ++ ds) = f.after (f.after x cs) ds :=
  List.foldl_append

theorem lesson_of_repeats {x : σ} {cs : List Challenge} (h : f.Repeats x cs) (learned : Bool) :
    f.lesson learned x cs = (if learned then .ok () else .error .noNewChallenge, f.after x cs) := by
  induction cs generalizing x with
  | nil => rfl
  | cons c rest ih =>
    obtain ⟨hc, hrest⟩ := h
    cases hf : f c x with
    | mk result y =>
      rw [hf] at hc hrest
      subst hc
      simp only [lesson, hf, ↓reduceIte, ih hrest, after, List.foldl_cons]

theorem lesson_of_fits {x : σ} {cs : List Challenge} (h : f.Fits x cs) {learned : Bool}
    (hl : learned = true ∨ ¬ f.Repeats x cs) : f.lesson learned x cs = (.ok (), f.after x cs) := by
  induction cs generalizing x learned with
  | nil =>
    rcases hl with rfl | hn
    · rfl
    · exact absurd trivial hn
  | cons c rest ih =>
    obtain ⟨hc, hrest⟩ := h
    cases hf : f c x with
    | mk result y =>
      rw [hf] at hc hrest
      rcases hc with rfl | rfl
      · simp only [lesson, hf, ih hrest (.inl rfl), after, List.foldl_cons]
      · have hl' : learned = true ∨ ¬ f.Repeats y rest := by
          refine hl.imp id fun hn hy => hn ?_
          exact ⟨congrArg Prod.fst hf, by rwa [hf]⟩
        simp only [lesson, hf, ↓reduceIte, ih hrest hl', after, List.foldl_cons]

theorem fits_of_lesson {learned : Bool} {x y : σ} {cs : List Challenge}
    (h : f.lesson learned x cs = (.ok (), y)) : f.Fits x cs := by
  induction cs generalizing x learned with
  | nil => trivial
  | cons c rest ih =>
    cases hf : f c x with
    | mk result z =>
      simp only [lesson, hf] at h
      rw [Fits, Each, hf]
      cases result with
      | ok u => exact ⟨.inl rfl, ih h⟩
      | error e =>
        by_cases he : e = .noNewChallenge
        · simp only [if_pos he] at h
          exact ⟨.inr (congrArg _ he), ih h⟩
        · simp only [if_neg he] at h
          cases h

/-- Two learners that answer alike from related states give the same lesson. -/
theorem lesson_related {g : Learner τ} {R : σ → τ → Prop}
    (hstep : ∀ c x y, R x y → (f c x).1 = (g c y).1 ∧ R (f c x).2 (g c y).2)
    (learned : Bool) {x : σ} {y : τ} (h : R x y) (cs : List Challenge) :
    (f.lesson learned x cs).1 = (g.lesson learned y cs).1 ∧
      R (f.lesson learned x cs).2 (g.lesson learned y cs).2 := by
  induction cs generalizing x y learned with
  | nil => exact ⟨rfl, h⟩
  | cons c rest ih =>
    obtain ⟨hresult, hnext⟩ := hstep c x y h
    cases hf : f c x with
    | mk result x' =>
      cases hg : g c y with
      | mk result' y' =>
        rw [hf, hg] at hresult hnext
        cases hresult
        simp only [lesson, hf, hg]
        cases result with
        | ok u => exact ih true hnext
        | error e =>
          by_cases he : e = .noNewChallenge
          · simp only [if_pos he]
            exact ih learned hnext
          · simp only [if_neg he]
            exact ⟨trivial, hnext⟩

end Learner

namespace Challenge

/-- The challenges of one scheme, in their order. -/
def forScheme (scheme : Name) (cs : List Challenge) : List Challenge :=
  cs.filter fun c => c.scheme = scheme

theorem forScheme_self (c : Challenge) (rest : List Challenge) :
    forScheme c.scheme (c :: rest) = c :: forScheme c.scheme rest := by
  simp [forScheme]

theorem forScheme_of_ne {scheme : Name} {c : Challenge} (h : c.scheme ≠ scheme)
    (rest : List Challenge) : forScheme scheme (c :: rest) = forScheme scheme rest := by
  simp [forScheme, h]

theorem forScheme_append (scheme : Name) (cs ds : List Challenge) :
    forScheme scheme (cs ++ ds) = forScheme scheme cs ++ forScheme scheme ds :=
  List.filter_append ..

theorem mem_forScheme {scheme : Name} {c : Challenge} {cs : List Challenge} :
    c ∈ forScheme scheme cs ↔ c ∈ cs ∧ c.scheme = scheme := by
  simp [forScheme]

end Challenge

namespace Authenticator

variable {W H : Type}

/-- The handler that takes the challenges for a slot, if their scheme is registered. It may have to be made. -/
def pupil? (a : Authenticator H) (slot : Slot) : Option H :=
  (a.registry.factory? slot.scheme).map fun factory =>
    (a.handler? slot).getD (factory slot.host (a.registry.provider slot.host))

/-- From now on the provider answers like this one. -/
def provide (a : Authenticator H) (provider : CredentialsProvider) : Authenticator H :=
  { a with registry := a.registry.setProvider provider }

/-- Gives a challenge to its handler. One whose scheme is not registered teaches nothing. -/
def teach (hd : Handling W H) (host : String) : Learner (Authenticator H) := fun c a =>
  match a.pupil? ⟨host, c.scheme⟩ with
  | none => (.error .noNewChallenge, a)
  | some h => ((hd.learn c h).1, a.store ⟨host, c.scheme⟩ (hd.learn c h).2)

section slots

variable {a : Authenticator H} {slot other : Slot}

@[simp] theorem registry_store (h : H) : (a.store slot h).registry = a.registry := rfl

@[simp] theorem handler?_store_self (h : H) : (a.store slot h).handler? slot = some h :=
  Table.find?_put_self _ _ _

theorem handler?_store_of_ne (h : H) (hne : slot ≠ other) :
    (a.store slot h).handler? other = a.handler? other :=
  Table.find?_put_of_ne _ _ hne

theorem isSome_handler?_store {h : H} (ho : (a.handler? other).isSome) :
    ((a.store slot h).handler? other).isSome := by
  by_cases hne : slot = other
  · rw [← hne, handler?_store_self]
    rfl
  · rwa [handler?_store_of_ne h hne]

theorem store_of_handler? {h : H} (hh : a.handler? slot = some h) : a.store slot h = a := by
  rw [store, Table.put_of_find? hh]

theorem pupil?_of_handler? {h : H} {factory : Factory H}
    (hf : a.registry.factory? slot.scheme = some factory) (hh : a.handler? slot = some h) :
    a.pupil? slot = some h := by
  simp [pupil?, hf, hh]

theorem pupil?_provide (provider : CredentialsProvider) :
    (a.provide provider).pupil? slot = (a.registry.factory? slot.scheme).map fun factory =>
      (a.handler? slot).getD (factory slot.host (provider slot.host)) := rfl

theorem pupil?_store_of_ne (h : H) (hne : slot ≠ other) :
    (a.store slot h).pupil? other = a.pupil? other := by
  rw [pupil?, pupil?, registry_store, handler?_store_of_ne h hne]

theorem pupil?_store_self {h : H} (h' : H) (hp : a.pupil? slot = some h) :
    (a.store slot h').pupil? slot = some h' := by
  cases hf : a.registry.factory? slot.scheme with
  | none =>
    rw [pupil?, hf] at hp
    cases hp
  | some factory => exact pupil?_of_handler? hf (handler?_store_self h')

end slots

theorem obtain_fst (a : Authenticator H) (factory : Factory H) (slot : Slot) (s : Session W) :
    (a.obtain factory slot s).1 =
      (a.handler? slot).getD (factory slot.host (a.registry.provider slot.host)) := by
  unfold obtain
  cases a.handler? slot with
  | none => rfl
  | some h => rfl

theorem obtain_world (a : Authenticator H) (factory : Factory H) (slot : Slot) (s : Session W) :
    (a.obtain factory slot s).2.world = s.world := by
  unfold obtain
  cases a.handler? slot with
  | none => rfl
  | some h => rfl

/-- Learning does not depend on the session, and leaves the world alone. -/
theorem learnAll_eq (hd : Handling W H) (host : String) (learned : Bool) (a : Authenticator H)
    (cs : List Challenge) (s : Session W) :
    (learnAll hd host learned a cs s).1 = (teach hd host).lesson learned a cs ∧
      (learnAll hd host learned a cs s).2.world = s.world := by
  induction cs generalizing learned a s with
  | nil => exact ⟨rfl, rfl⟩
  | cons c rest ih =>
    obtain ⟨learn, authorize⟩ := hd
    rw [learnAll, Learner.lesson, teach, pupil?]
    cases hf : a.registry.factory? c.scheme with
    | none => exact ih learned a _
    | some factory =>
      have hw := obtain_world a factory ⟨host, c.scheme⟩ s
      simp only [Session.bind_apply, Option.map_some, obtain_fst]
      generalize (a.handler? ⟨host, c.scheme⟩).getD _ = h
      generalize (a.obtain factory ⟨host, c.scheme⟩ s).2 = s' at hw ⊢
      rw [← hw]
      cases learn c h with
      | mk result after =>
        cases result with
        | ok u => exact ih true _ s'
        | error e =>
          by_cases he : e = .noNewChallenge
          · subst he
            exact ih learned _ s'
          · simp only [if_neg he]
            cases e with
            | noNewChallenge => exact absurd rfl he
            | unsupported | parse | invalidChallenge | notFound | authFailed => exact ⟨rfl, rfl⟩

section schemes

open Challenge (forScheme forScheme_self forScheme_of_ne)

variable {hd : Handling W H} {host : String} {a : Authenticator H} {c : Challenge} {h : H}

theorem teach_unregistered (hp : a.pupil? ⟨host, c.scheme⟩ = none) :
    teach hd host c a = (.error .noNewChallenge, a) := by
  rw [teach, hp]

theorem teach_registered (hp : a.pupil? ⟨host, c.scheme⟩ = some h) :
    teach hd host c a = ((hd.learn c h).1, a.store ⟨host, c.scheme⟩ (hd.learn c h).2) := by
  rw [teach, hp]

theorem pupil?_teach_of_ne {slot : Slot} (hne : (⟨host, c.scheme⟩ : Slot) ≠ slot) :
    (teach hd host c a).2.pupil? slot = a.pupil? slot := by
  cases hp : a.pupil? ⟨host, c.scheme⟩ with
  | none => rw [teach_unregistered hp]
  | some h =>
    rw [teach_registered hp]
    exact pupil?_store_of_ne _ hne

theorem pupil?_teach_self (hd : Handling W H) (hp : a.pupil? ⟨host, c.scheme⟩ = some h) :
    (teach hd host c a).2.pupil? ⟨host, c.scheme⟩ = some (hd.learn c h).2 := by
  rw [teach_registered hp]
  exact pupil?_store_self _ hp

theorem handler?_teach_of_ne {slot : Slot} (hne : (⟨host, c.scheme⟩ : Slot) ≠ slot) :
    (teach hd host c a).2.handler? slot = a.handler? slot := by
  cases hp : a.pupil? ⟨host, c.scheme⟩ with
  | none => rw [teach_unregistered hp]
  | some h =>
    rw [teach_registered hp]
    exact handler?_store_of_ne _ hne

theorem slot_ne_of_scheme {scheme : Name} (hne : c.scheme ≠ scheme) :
    (⟨host, c.scheme⟩ : Slot) ≠ ⟨host, scheme⟩ :=
  fun he => hne (congrArg Slot.scheme he)

/-- A handler ends where the challenges of its own scheme have brought it. -/
theorem pupil?_after (hd : Handling W H) (host : String) (a : Authenticator H) (cs : List Challenge)
    (scheme : Name) :
    ((teach hd host).after a cs).pupil? ⟨host, scheme⟩ =
      (a.pupil? ⟨host, scheme⟩).map fun h => Learner.after hd.learn h (forScheme scheme cs) := by
  induction cs generalizing a with
  | nil => exact Option.map_id'.symm
  | cons c rest ih =>
    have hafter : (teach hd host).after a (c :: rest) =
        (teach hd host).after (teach hd host c a).2 rest := rfl
    rw [hafter, ih]
    by_cases hc : c.scheme = scheme
    · subst hc
      rw [forScheme_self]
      cases hp : a.pupil? ⟨host, c.scheme⟩ with
      | none =>
        rw [teach_unregistered hp, hp]
        rfl
      | some h =>
        rw [pupil?_teach_self hd hp]
        rfl
    · rw [forScheme_of_ne hc, pupil?_teach_of_ne (slot_ne_of_scheme hc)]

/-- All answers are of one kind if they are so scheme by scheme. -/
theorem each_teach_iff {P : Except AuthError Unit → Prop} (hP : P (.error .noNewChallenge))
    (hd : Handling W H) (host : String) (a : Authenticator H) (cs : List Challenge) :
    (teach hd host).Each P a cs ↔ ∀ scheme h, a.pupil? ⟨host, scheme⟩ = some h →
      Learner.Each hd.learn P h (forScheme scheme cs) := by
  induction cs generalizing a with
  | nil => exact ⟨fun _ _ _ _ => trivial, fun _ => trivial⟩
  | cons c rest ih =>
    rw [Learner.Each, ih]
    constructor
    · rintro ⟨hresult, hrest⟩ scheme h hp
      by_cases hc : c.scheme = scheme
      · subst hc
        rw [teach_registered hp] at hresult
        rw [forScheme_self]
        exact ⟨hresult, hrest c.scheme _ (pupil?_teach_self hd hp)⟩
      · rw [forScheme_of_ne hc]
        exact hrest scheme h ((pupil?_teach_of_ne (slot_ne_of_scheme hc)).trans hp)
    · intro hall
      constructor
      · cases hp : a.pupil? ⟨host, c.scheme⟩ with
        | none =>
          rw [teach_unregistered hp]
          exact hP
        | some h =>
          have heach := hall c.scheme h hp
          rw [forScheme_self] at heach
          rw [teach_registered hp]
          exact heach.1
      · intro scheme h hp
        by_cases hc : c.scheme = scheme
        · subst hc
          cases hp' : a.pupil? ⟨host, c.scheme⟩ with
          | none =>
            rw [teach_unregistered hp', hp'] at hp
            cases hp
          | some h' =>
            have heach := hall c.scheme h' hp'
            rw [forScheme_self] at heach
            rw [pupil?_teach_self hd hp'] at hp
            cases hp
            exact heach.2
        · rw [pupil?_teach_of_ne (slot_ne_of_scheme hc)] at hp
          have heach := hall scheme h hp
          rwa [forScheme_of_ne hc] at heach

/-- A handler that no challenge is for stays as it is. -/
theorem handler?_after_of_absent (hd : Handling W H) {cs : List Challenge} {slot : Slot}
    (hn : ∀ c ∈ cs, (⟨host, c.scheme⟩ : Slot) = slot → a.pupil? slot = none) :
    ((teach hd host).after a cs).handler? slot = a.handler? slot := by
  induction cs generalizing a with
  | nil => rfl
  | cons c rest ih =>
    have hstep : (teach hd host c a).2.handler? slot = a.handler? slot ∧
        (teach hd host c a).2.pupil? slot = a.pupil? slot := by
      by_cases hc : (⟨host, c.scheme⟩ : Slot) = slot
      · have hp : a.pupil? ⟨host, c.scheme⟩ = none := by
          rw [hc]
          exact hn c List.mem_cons_self hc
        rw [teach_unregistered hp]
        exact ⟨rfl, rfl⟩
      · exact ⟨handler?_teach_of_ne hc, pupil?_teach_of_ne hc⟩
    refine (ih ?_).trans hstep.1
    intro d hd' hslot
    exact hstep.2.trans (hn d (List.mem_cons_of_mem _ hd') hslot)

theorem isSome_handler?_teach (hd : Handling W H) (host : String) (c : Challenge) {slot : Slot}
    (hs : (a.handler? slot).isSome) : ((teach hd host c a).2.handler? slot).isSome := by
  cases hp : a.pupil? ⟨host, c.scheme⟩ with
  | none => rwa [teach_unregistered hp]
  | some h =>
    rw [teach_registered hp]
    exact isSome_handler?_store hs

theorem isSome_handler?_after (hd : Handling W H) (host : String) (cs : List Challenge) {slot : Slot}
    (hs : (a.handler? slot).isSome) : (((teach hd host).after a cs).handler? slot).isSome := by
  induction cs generalizing a with
  | nil => exact hs
  | cons c rest ih => exact ih (isSome_handler?_teach hd host c hs)

/-- A handler that a challenge is for is there from then on. -/
theorem handler?_after_of_mem (hd : Handling W H) {cs : List Challenge} (hm : c ∈ cs)
    (hp : a.pupil? ⟨host, c.scheme⟩ = some h) :
    ((teach hd host).after a cs).handler? ⟨host, c.scheme⟩ =
      ((teach hd host).after a cs).pupil? ⟨host, c.scheme⟩ := by
  have hthere : (((teach hd host).after a cs).handler? ⟨host, c.scheme⟩).isSome := by
    obtain ⟨before, rest, rfl⟩ := List.append_of_mem hm
    have hbefore := pupil?_after hd host a before c.scheme
    rw [hp, Option.map_some] at hbefore
    rw [Learner.after_append]
    apply isSome_handler?_after hd host rest
    change ((teach hd host c _).2.handler? _).isSome = true
    rw [teach_registered hbefore, handler?_store_self]
    rfl
  obtain ⟨h', hh⟩ := Option.isSome_iff_exists.mp hthere
  have hpupil := pupil?_after hd host a cs c.scheme
  rw [hp, Option.map_some] at hpupil
  obtain ⟨factory, hf, -⟩ := Option.map_eq_some_iff.mp hpupil
  rw [hh, pupil?_of_handler? hf hh]

end schemes

/-- The response to a request for `uri` asks for authorization at `host` with these challenges. -/
structure Asks (uri : Uri) (response : Response) (host : String) (cs : List Challenge) : Prop where
  status : response.status = .unauthorized
  hostKey : uri.hostKey? = some host
  parsed : Challenge.parseAll (Headers.values response.headers Header.wwwAuthenticate) = .ok cs

theorem Asks.learn {uri : Uri} {response : Response} {host : String} {cs : List Challenge}
    (h : Asks uri response host cs) (hd : Handling W H) (a : Authenticator H) (s : Session W) :
    (a.learn hd uri response s).1 = (teach hd host).lesson false a cs ∧
      (a.learn hd uri response s).2.world = s.world := by
  unfold Authenticator.learn
  rw [if_neg (fun hn => hn h.status), h.hostKey]
  simp only [h.parsed]
  exact learnAll_eq hd host false a cs s

/-- A response that asks for nothing is refused and leaves everything as it was. -/
theorem learn_of_not_asks {uri : Uri} {response : Response}
    (h : ∀ host cs, ¬ Asks uri response host cs) (hd : Handling W H) :
    ∃ e, ∀ (a : Authenticator H) (s : Session W), a.learn hd uri response s = ((.error e, a), s) := by
  by_cases hstatus : response.status = .unauthorized
  · simp only [learn, hstatus, ne_eq, not_true_eq_false, ↓reduceIte]
    cases hhost : uri.hostKey? with
    | none => exact ⟨_, fun _ _ => rfl⟩
    | some host =>
      cases hparsed : Challenge.parseAll (Headers.values response.headers Header.wwwAuthenticate) with
      | error e => exact ⟨_, fun _ _ => rfl⟩
      | ok cs => exact absurd ⟨hstatus, hhost, hparsed⟩ (h host cs)
  · simp only [learn, ne_eq, hstatus, not_false_eq_true, ↓reduceIte]
    exact ⟨_, fun _ _ => rfl⟩

/-- A refusal with these lines of challenges. -/
def refusalOf (lines : List String) : Response :=
  { status := .unauthorized
    headers := lines.map fun line => ⟨Header.wwwAuthenticate, Utf8.encode line, false⟩ }

/-- An authenticator for the Basic scheme that has learned nothing. -/
def basicOnly (provider : CredentialsProvider) : Authenticator Handler :=
  .ofRegistry ((({} : Registry Handler).register "basic" Handler.basicFactory).setProvider provider)
    Handler.basicFactory

def registryUri : Uri :=
  { scheme? := some "https", authority? := some "registry.example", path := "/v2/" }

/-- Nothing is delivered, and the clock stands still. -/
def offline : Network Unit where
  send _ w := (.error "offline", w)
  now := Session.stoppedClock

end Authenticator

end HttpAuth
