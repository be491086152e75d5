import HttpAuth.Proofs.HandlerTable
import HttpAuth.Proofs.Overtaking
import HttpAuth.Proofs.Retrying
import HttpAuth.Proofs.Scopes

namespace HttpAuth.Authenticator

variable {W : Type}

namespace Stage

/-- The first message of the call has been sent. -/
def begun : Stage → Bool
  | fresh _ | ready .. => false
  | refused .. | taught _ | again _ | done _ => true

/-- What goes out in the next step, if it is the second message of the call. -/
def resends : Stage → List Request
  | again message => [message]
  | fresh _ | ready .. | refused .. | taught _ | done _ => []

/-- The refusal has taught something, and the second message has not been sent. Only calls to some hosts count. -/
def due (on : Option String → Bool) : Stage → Bool
  | taught request => on request.uri.hostKey?
  | again message => on message.uri.hostKey?
  | fresh _ | ready .. | refused .. | done _ => false

/-- Where the messages of a call go that is not at its end. -/
def target? : Stage → Option Uri
  | fresh request | ready request _ | refused request _ | taught request => some request.uri
  | again message => some message.uri
  | done _ => none

/-- What is known of a call between two steps. -/
def Fits (net : Network W) : Stage → Prop
  | ready request message => message.uri = request.uri
  | refused request response =>
    ∃ message w, message.uri = request.uri ∧ (net.send message w).1 = .ok response
  | fresh _ | taught _ | again _ | done _ => True

end Stage

/-- Whether the host of a message counts. -/
def toHost (on : Option String → Bool) (message : Request) : Bool := on message.uri.hostKey?

/-- The servers of the hosts that count ask only for scopes that count. -/
def Expects (net : Network W) (on : Option String → Bool) (counts : String → String → Bool) : Prop :=
  ∀ q w response host cs, (net.send q w).1 = .ok response → on (some host) = true →
    Asks q.uri response host cs → ∀ c ∈ cs, ∀ d, c.demand? = some d → counts host d.scope = true

/-- What a step does. A call for which a second message falls due has learned a scope, and what is sent is no
longer due. -/
structure Advanced (net : Network W) (on : Option String → Bool) (counts : String → String → Bool)
    (a : Authenticator Handler) (s : Session W) (stage : Stage) (a' : Authenticator Handler)
    (s' : Session W) (stage' : Stage) : Prop where
  grown : ∃ entries, Grown (Handler.handling net) a a' entries
  fits : stage'.Fits net
  target : stage'.target? = stage.target? ∨ stage'.target? = none
  sent : s'.deliveries + stage.begun.toNat = s.deliveries + stage'.begun.toNat + stage.resends.length
  paid : stage.resends.countP (toHost on) + (stage'.due on).toNat + a.held counts ≤
    a'.held counts + (stage.due on).toNat

section step

variable {net : Network W} {on : Option String → Bool} {counts : String → String → Bool}
  {a : Authenticator Handler} {stage : Stage}

theorem uri_authorize (net : Network W) (request : Request) (a : Authenticator Handler) (s : Session W) :
    ((a.authorize (Handler.handling net) request s).1.1.getD request).uri = request.uri := by
  cases h : (a.authorize (Handler.handling net) request s).1.1 with
  | none => rfl
  | some q =>
    obtain ⟨value, rfl⟩ := authorize_eq_some h
    rfl

theorem deliveries_authorize (net : Network W) (request : Request) (a : Authenticator Handler)
    (s : Session W) : (a.authorize (Handler.handling net) request s).2.deliveries = s.deliveries :=
  (discreet_authorize (Handler.handling net) (Handler.discreet_authorize net) a request).quiet s

/-- A lesson that succeeds is worth a scope that counts. -/
theorem held_learn (he : Expects net on counts) (ha : a.Orderly) {request message : Request}
    {response : Response} {w : W} (huri : message.uri = request.uri)
    (hreply : (net.send message w).1 = .ok response) (hon : on request.uri.hostKey? = true) (s : Session W)
    (hok : (a.learn (Handler.handling net) request.uri response s).1.1 = .ok ()) :
    a.held counts < (a.learn (Handler.handling net) request.uri response s).1.2.held counts := by
  have hasks : ∃ host cs, Asks request.uri response host cs := by
    by_contra hn
    obtain ⟨e, hlearn⟩ := learn_of_not_asks (fun host cs h => hn ⟨host, cs, h⟩) (Handler.handling net)
    rw [hlearn] at hok
    cases hok
  obtain ⟨host, cs, hasks⟩ := hasks
  obtain ⟨entries, -, hgrown⟩ := grown_learn (Handler.handling net) a request.uri response s
  obtain ⟨c, hc, d, hd, hnew, hlearned⟩ := ha.learn_ok hasks s hok
  apply hgrown.held_lt hnew hlearned
  exact he message w response host cs hreply (hasks.hostKey ▸ hon) (huri ▸ hasks) c hc d hd

theorem advanced_ready {request message : Request} (hf : message.uri = request.uri) (s : Session W) :
    let r := advance net (Handler.handling net) a (.ready request message) s
    Advanced net on counts a s (.ready request message) r.1.2 r.2 r.1.1 := by
  have hidle : ∃ entries, Grown (Handler.handling net) a a entries := ⟨[], grown_idle (by simp)⟩
  have hsent := Session.deliveries_send net message s
  have hdone : ∀ reply, Advanced net on counts a s (.ready request message) a
      (Session.send net .delivery message s).2 (.done reply) :=
    fun reply => ⟨hidle, trivial, .inr rfl, hsent, by simp [Stage.due, Stage.resends]⟩
  simp only [advance, Session.bind_apply]
  cases hreply : (Session.send net .delivery message s).1 with
  | error e => exact hdone (.error e)
  | ok response =>
    simp only
    split
    · exact hdone (.ok response)
    · simp only [Session.pure_apply]
      exact ⟨hidle, ⟨message, s.world, hf, hreply⟩, .inl rfl, hsent, by simp [Stage.due, Stage.resends]⟩

theorem advanced_refused (he : Expects net on counts) (ha : a.Orderly) {request message : Request}
    {response : Response} {w : W} (huri : message.uri = request.uri)
    (hreply : (net.send message w).1 = .ok response) (s : Session W) :
    let r := advance net (Handler.handling net) a (.refused request response) s
    Advanced net on counts a s (.refused request response) r.1.2 r.2 r.1.1 := by
  obtain ⟨entries, -, hgrown⟩ := grown_learn (Handler.handling net) a request.uri response s
  have hquiet := (discreet_learn (Handler.handling net) a request.uri response).quiet s
  have hheld := held_learn he ha huri hreply
  simp only [advance, Session.bind_apply]
  rcases hl : a.learn (Handler.handling net) request.uri response s with ⟨⟨result, a'⟩, s'⟩
  rw [hl] at hgrown hquiet
  cases result with
  | error e =>
    change Advanced net on counts a s _ a' (Session.log (.notRetried request.uri e) s').2 (.done (.ok response))
    refine ⟨⟨entries, hgrown⟩, trivial, .inr rfl, ?_, ?_⟩
    · rw [(Session.discreet_log _).quiet]
      simpa [Stage.begun, Stage.resends] using hquiet
    · simpa [Stage.due, Stage.resends] using hgrown.held_le
  | ok u =>
    change Advanced net on counts a s _ a' s' (.taught request)
    refine ⟨⟨entries, hgrown⟩, trivial, .inl rfl, ?_, ?_⟩
    · simpa [Stage.begun, Stage.resends] using hquiet
    · cases hon : on request.uri.hostKey? with
      | false => simpa [Stage.due, Stage.resends, hon] using hgrown.held_le
      | true =>
        have hmore := hheld hon s
        rw [hl] at hmore
        simpa [Stage.due, Stage.resends, hon, Nat.add_comm] using Nat.succ_le_of_lt (hmore rfl)

theorem advanced (he : Expects net on counts) (ha : a.Orderly) (hf : stage.Fits net) (s : Session W) :
    let r := advance net (Handler.handling net) a stage s
    Advanced net on counts a s stage r.1.2 r.2 r.1.1 := by
  have hidle : ∃ entries, Grown (Handler.handling net) a a entries := ⟨[], grown_idle (by simp)⟩
  cases stage with
  | fresh request =>
    obtain ⟨entries, -, hgrown⟩ := grown_authorize (Handler.handling net) a request s
    have hquiet := deliveries_authorize net request a s
    simp only [advance, Session.bind_apply, Session.pure_apply]
    exact ⟨⟨entries, hgrown⟩, uri_authorize net request a s, .inl rfl,
      by simpa [Stage.begun, Stage.resends] using hquiet,
      by simpa [Stage.due, Stage.resends] using hgrown.held_le⟩
  | ready request message => exact advanced_ready hf s
  | refused request response =>
    obtain ⟨message, w, huri, hreply⟩ := hf
    exact advanced_refused he ha huri hreply s
  | taught request =>
    obtain ⟨entries, -, hgrown⟩ := grown_authorize (Handler.handling net) a request s
    have hquiet := deliveries_authorize net request a s
    have huri := uri_authorize net request a s
    simp only [advance, Session.bind_apply, Session.pure_apply]
    exact ⟨⟨entries, hgrown⟩, trivial, .inl (congrArg some huri),
      by simpa [Stage.begun, Stage.resends] using hquiet,
      by simpa [Stage.due, Stage.resends, huri, Nat.add_comm] using hgrown.held_le⟩
  | again message =>
    have hsent := Session.deliveries_send net message s
    simp only [advance, Session.bind_apply, Session.pure_apply]
    refine ⟨hidle, trivial, .inr rfl, by simpa [Stage.begun, Stage.resends] using hsent, ?_⟩
    cases hon : on message.uri.hostKey? <;> simp [Stage.due, Stage.resends, toHost, hon, Nat.add_comm]
  | done reply =>
    simp only [advance, Session.pure_apply]
    exact ⟨hidle, trivial, .inl rfl, rfl, by simp [Stage.due, Stage.resends]⟩

end step

/-- An authenticator that any number of calls share. -/
structure Pool (W : Type) where
  auth : Authenticator Handler
  session : Session W
  stages : List Stage

namespace Pool

/-- The next step of one call. The others stay where they are. -/
def step (net : Network W) (p : Pool W) (i : Nat) : Pool W :=
  match p.stages[i]? with
  | none => p
  | some stage =>
    let r := advance net (Handler.handling net) p.auth stage p.session
    { auth := r.1.2, session := r.2, stages := p.stages.set i r.1.1 }

def run (net : Network W) (p : Pool W) (schedule : List Nat) : Pool W := schedule.foldl (step net) p

/-- The messages that are second ones of their calls. -/
def resent (net : Network W) (p : Pool W) : List Nat → List Request
  | [] => []
  | i :: rest => (p.stages[i]?.elim [] Stage.resends) ++ resent net (p.step net i) rest

/-- What is known of the calls between two steps. `goal` holds of the requests. -/
structure Sound (net : Network W) (goal : Uri → Prop) (p : Pool W) : Prop where
  auth : p.auth.Orderly
  stages : ∀ stage ∈ p.stages, stage.Fits net
  targets : ∀ stage ∈ p.stages, ∀ uri, stage.target? = some uri → goal uri

/-- What some steps do, in which these messages are repeated. -/
structure Paid (net : Network W) (goal : Uri → Prop) (on : Option String → Bool)
    (counts : String → String → Bool) (p : Pool W) (repeated : List Request) (p' : Pool W) : Prop where
  grown : ∃ entries, Grown (Handler.handling net) p.auth p'.auth entries
  sound : p'.Sound net goal
  targets : ∀ q ∈ repeated, goal q.uri
  sent : p'.session.deliveries + p.stages.countP Stage.begun =
    p.session.deliveries + p'.stages.countP Stage.begun + repeated.length
  paid : repeated.countP (toHost on) + p'.stages.countP (Stage.due on) + p.auth.held counts ≤
    p'.auth.held counts + p.stages.countP (Stage.due on)

section pool

variable {net : Network W} {goal : Uri → Prop} {on : Option String → Bool}
  {counts : String → String → Bool} {p p' p'' : Pool W} {first second : List Request}

theorem paid_nothing (hp : p.Sound net goal) : Paid net goal on counts p [] p :=
  ⟨⟨[], grown_idle (by simp)⟩, hp, by simp, rfl, by simp [Nat.add_comm]⟩

theorem Paid.trans (h : Paid net goal on counts p first p') (h' : Paid net goal on counts p' second p'') :
    Paid net goal on counts p (first ++ second) p'' := by
  obtain ⟨entries, hgrown⟩ := h.grown
  obtain ⟨more, hgrown'⟩ := h'.grown
  have hsent := h.sent
  have hsent' := h'.sent
  have hpaid := h.paid
  have hpaid' := h'.paid
  refine ⟨⟨_, hgrown.trans hgrown'⟩, h'.sound, ?_, ?_, ?_⟩
  · intro q hq
    exact (List.mem_append.mp hq).elim (h.targets q) (h'.targets q)
  · rw [List.length_append]
    omega
  · rw [List.countP_append]
    omega

/-- Where no second message was due before, those that were sent are worth a scope each. -/
theorem Paid.learned (h : Paid net goal on counts p first p')
    (hdue : p.stages.countP (Stage.due on) = 0) :
    p.auth.held counts + first.countP (toHost on) ≤ p'.auth.held counts := by
  have hpaid := h.paid
  omega

theorem countP_set_add {α : Type} (f : α → Bool) {l : List α} {i : Nat} {x : α} (hx : l[i]? = some x)
    (y : α) : (l.set i y).countP f + (f x).toNat = l.countP f + (f y).toNat := by
  obtain ⟨hi, rfl⟩ := List.getElem?_eq_some_iff.mp hx
  have hone : f l[i] = true → 0 < l.countP f :=
    fun hf => List.countP_pos_iff.mpr ⟨l[i], List.getElem_mem hi, hf⟩
  rw [List.countP_set hi]
  cases hf : f l[i] with
  | false => cases f y <;> simp
  | true =>
    have hcount := hone hf
    cases f y <;> simp <;> omega

theorem paid_step (he : Expects net on counts) (hp : p.Sound net goal) (i : Nat) :
    Paid net goal on counts p (p.stages[i]?.elim [] Stage.resends) (p.step net i) := by
  cases hi : p.stages[i]? with
  | none =>
    rw [step, hi]
    exact paid_nothing hp
  | some stage =>
    have hm := List.mem_of_getElem? hi
    have hstep := advanced he hp.auth (hp.stages stage hm) p.session
    rw [step, hi]
    simp only [Option.elim_some]
    generalize advance net (Handler.handling net) p.auth stage p.session = r at hstep
    obtain ⟨entries, hgrown⟩ := hstep.grown
    have hsent := hstep.sent
    have hpaid := hstep.paid
    have hbegun := countP_set_add Stage.begun hi r.1.1
    have hdue := countP_set_add (Stage.due on) hi r.1.1
    refine ⟨⟨entries, hgrown⟩, ⟨hp.auth.grown hgrown, ?_, ?_⟩, ?_, ?_, ?_⟩
    · intro other hother
      rcases List.mem_or_eq_of_mem_set hother with hother | rfl
      · exact hp.stages other hother
      · exact hstep.fits
    · intro other hother uri huri
      rcases List.mem_or_eq_of_mem_set hother with hother | rfl
      · exact hp.targets other hother uri huri
      · rcases hstep.target with hsame | hnone
        · exact hp.targets stage hm uri (hsame ▸ huri)
        · rw [hnone] at huri
          cases huri
    · intro q hq
      cases stage with
      | again message =>
        rw [List.mem_singleton.mp hq]
        exact hp.targets _ hm _ rfl
      | fresh | ready | refused | taught | done => cases hq
    · simp only
      omega
    · simp only
      omega

theorem paid_run (he : Expects net on counts) (hp : p.Sound net goal) (schedule : List Nat) :
    Paid net goal on counts p (p.resent net schedule) (p.run net schedule) := by
  induction schedule generalizing p with
  | nil => exact paid_nothing hp
  | cons i rest ih =>
    have hfirst := paid_step he hp i
    exact hfirst.trans (ih hfirst.sound)

end pool

end Pool

/-- How many scopes all handlers have learned together. -/
def scopeCount (a : Authenticator Handler) : Nat :=
  (a.table.slots.map fun slot => (a.scopesAt slot).length).sum

theorem held_all (a : Authenticator Handler) : a.held (fun _ _ => true) = a.scopeCount := by
  simp only [held, scopeCount, List.countP_true]

theorem Orderly.call {a : Authenticator Handler} (ha : a.Orderly) (net : Network W) (c : Call) (s : Session W) :
    (a.call (Handler.handling net) c s).1.2.Orderly := by
  cases c with
  | learn uri response =>
    obtain ⟨_, -, hgrown⟩ := grown_learn (Handler.handling net) a uri response s
    exact ha.grown hgrown
  | authorize request =>
    obtain ⟨_, -, hgrown⟩ := grown_authorize (Handler.handling net) a request s
    exact ha.grown hgrown
  | has host scheme => exact ha
  | provide provider => exact ⟨ha.bearer, ha.handlers, ha.registered⟩

theorem Orderly.callAll {a : Authenticator Handler} (ha : a.Orderly) (net : Network W) (calls : List Call)
    (s : Session W) : (Authenticator.callAll (Handler.handling net) a calls s).1.2.Orderly := by
  induction calls generalizing a s with
  | nil => exact ha
  | cons c rest ih => exact ih (ha.call net c s) _

/-- Any number of calls share an authenticator that has only bearer handlers, and their steps come in any order;
it may have been used before. No more messages are repeated than scopes are learned meanwhile. So if the servers
of some hosts ask for finitely many scopes then only so many messages to these hosts are ever repeated. -/
theorem repeats_within_scopes (net : Network W) (r : Registry Handler) (basic : Factory Handler)
    (earlier : List Call) (requests : List Request) (s : Session W) (schedule : List Nat)
    (hb : (ofRegistry r basic).registry.OnlyBearer) :
    let before := callAll (Handler.handling net) (ofRegistry r basic) earlier s
    let start : Pool W := ⟨before.1.2, before.2, requests.map .fresh⟩
    let p := start.run net schedule
    let repeated := start.resent net schedule
    p.session.deliveries = start.session.deliveries + p.stages.countP Stage.begun + repeated.length ∧
    start.auth.scopeCount + repeated.length ≤ p.auth.scopeCount ∧
    (∀ q ∈ repeated, ∃ request ∈ requests, request.uri = q.uri) ∧
    ∀ (hosts : List String) (demands : String → List Demand),
      (∀ q w response host cs, host ∈ hosts → (net.send q w).1 = .ok response →
        Asks q.uri response host cs → ∀ c ∈ cs, ∀ d, c.demand? = some d → d ∈ demands host) →
      repeated.countP (fun q => q.uri.hostKey?.any (· ∈ hosts)) ≤
        (hosts.map fun host => start.auth.schemes.length * (demands host).length).sum := by
  intro before start p repeated
  have hsound : start.Sound net fun uri => ∃ request ∈ requests, request.uri = uri := by
    refine ⟨(orderly_ofRegistry hb).callAll net earlier s, ?_, ?_⟩
    · intro stage hm
      obtain ⟨request, -, rfl⟩ := List.mem_map.mp hm
      trivial
    · intro stage hm uri huri
      obtain ⟨request, hrequest, rfl⟩ := List.mem_map.mp hm
      exact ⟨request, hrequest, Option.some.inj huri⟩
  have hbegun : start.stages.countP Stage.begun = 0 := by
    simp [start, List.countP_map, Function.comp_def, Stage.begun]
  have hdue : ∀ on, start.stages.countP (Stage.due on) = 0 := by
    intro on
    simp [start, List.countP_map, Function.comp_def, Stage.due]
  have hexpects : Expects net (fun _ => true) fun _ _ => true := by
    intro q w response host cs _ _ _ c _ d _
    rfl
  have hrun := Pool.paid_run hexpects hsound schedule
  refine ⟨?_, ?_, hrun.targets, ?_⟩
  · have hsent := hrun.sent
    rwa [hbegun, Nat.add_zero] at hsent
  · have hlength : repeated.countP (toHost fun _ => true) = repeated.length := by simp [toHost]
    have hlearned := hrun.learned (hdue _)
    rwa [held_all, held_all, hlength] at hlearned
  · intro hosts demands hdemands
    let counts := fun host scope => decide (host ∈ hosts ∧ scope ∈ (demands host).map Demand.scope)
    have hexpects : Expects net (fun key? => key?.any (· ∈ hosts)) counts := by
      intro q w response host cs hreply hhost hasks c hc d hd
      have hhost : host ∈ hosts := by simpa using hhost
      have hm := hdemands q w response host cs hhost hreply hasks c hc d hd
      exact decide_eq_true ⟨hhost, List.mem_map_of_mem hm⟩
    have hrun := Pool.paid_run hexpects hsound schedule
    obtain ⟨entries, hgrown⟩ := hrun.grown
    have hschemes : p.auth.schemes = start.auth.schemes := hgrown.schemes
    have hlearned := hrun.learned (hdue _)
    have hheld : p.auth.held counts ≤
        (hosts.map fun host => p.auth.schemes.length * ((demands host).map Demand.scope).length).sum :=
      hrun.sound.auth.held_le hosts _ fun host scope h => of_decide_eq_true h
    simp only [hschemes, List.length_map] at hheld
    exact (Nat.le_add_left _ _).trans (hlearned.trans hheld)

/-- Refuses everything, with one and the same challenge. -/
def refusing : Network Unit where
  send _ w := (.ok pullRefusal, w)
  now := Session.stoppedClock

/-- Two calls in step with each other. Only one of them repeats its message, for both have learned the same. -/
theorem repeats_within_scopes_refusing :
    let r := ({} : Registry Handler).register "bearer" (Handler.bearerFactory {})
    let a := ofRegistry r Handler.basicFactory
    let start : Pool Unit := ⟨a, ⟨(), []⟩, [.fresh pageRequest, .fresh pageRequest]⟩
    let schedule := [0, 1, 0, 1, 0, 1, 0, 1, 0, 1]
    let demands : List Demand := [⟨"http://auth.example/token", "registry", "pull"⟩]
    a.registry.OnlyBearer ∧
      (∀ q w response host cs, host ∈ ["registry.example"] → (refusing.send q w).1 = .ok response →
        Asks q.uri response host cs → ∀ c ∈ cs, ∀ d, c.demand? = some d → d ∈ demands) ∧
      (start.run refusing schedule).session.deliveries = 3 ∧
      (start.resent refusing schedule).countP (fun q => q.uri.hostKey?.any (· ∈ ["registry.example"])) ≤ 1 := by
  intro r a start schedule demands
  have hb : a.registry.OnlyBearer := by
    intro entry hm
    rw [List.mem_singleton.mp hm]
    exact ⟨{}, rfl⟩
  have hdemands : ∀ q w response host cs, host ∈ ["registry.example"] →
      (refusing.send q w).1 = .ok response → Asks q.uri response host cs →
        ∀ c ∈ cs, ∀ d, c.demand? = some d → d ∈ demands := by
    rintro q w response host cs - ⟨⟩ hasks c hc d hd
    have hparse : Challenge.parseAll (Headers.values pullRefusal.headers Header.wwwAuthenticate) =
        .ok [pullChallenge] := by decide +kernel
    have hdemand : pullChallenge.demand? =
        some ⟨"http://auth.example/token", "registry", "pull"⟩ := by decide
    obtain rfl := Except.ok.inj (hparse.symm.trans hasks.parsed)
    rw [List.mem_singleton.mp hc, hdemand] at hd
    exact List.mem_singleton.mpr (Option.some.inj hd).symm
  have hrun := repeats_within_scopes refusing r Handler.basicFactory [] [pageRequest, pageRequest]
    ⟨(), []⟩ schedule hb
  obtain ⟨hsent, -, -, hfinite⟩ := hrun
  refine ⟨hb, hdemands, ?_, ?_⟩
  · refine hsent.trans ?_
    decide +kernel
  · exact hfinite ["registry.example"] (fun _ => demands) hdemands

end HttpAuth.Authenticator
