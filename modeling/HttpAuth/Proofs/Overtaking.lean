import HttpAuth.Challenge.Render
import HttpAuth.Proofs.BearerServer
import HttpAuth.Proofs.Stages

namespace HttpAuth.Authenticator

/-- What the calls have learned once a schedule has been followed. -/
def known (scope : String) (schedule : List Side) : List String :=
  if 3 ≤ schedule.count .left ∨ 3 ≤ schedule.count .right then [scope] else []

/-- Where the call of `x` stands once a schedule has been followed. -/
inductive Standing {W : Type} (v : BearerServer W) (scope : String) (w : W) (request : Request)
    (x : Side) (schedule : List Side) : Stage → Prop where
  | fresh (hc : schedule.count x = 0) : Standing v scope w request x schedule (.fresh request)
  | ready (hc : schedule.count x = 1) (hn : ¬ ThirdAfter x.other 0 schedule) :
    Standing v scope w request x schedule (.ready request request)
  | armed (hc : schedule.count x = 1) (hu : Unhindered x schedule) (token : String)
    (ht : v.Usable w token [scope]) :
    Standing v scope w request x schedule
      (.ready request (withAuthorization request (Utf8.encode (BearerAuth.value token))))
  | refused (hc : schedule.count x = 2) (hn : ¬ ThirdAfter x.other 0 schedule) (r : Response)
    (hr : v.refusals request r) : Standing v scope w request x schedule (.refused request r)
  | taught (hc : schedule.count x = 3) (hu : Unhindered x schedule) :
    Standing v scope w request x schedule (.taught request)
  | again (hc : schedule.count x = 4) (hu : Unhindered x schedule) (token : String)
    (ht : v.Usable w token [scope]) :
    Standing v scope w request x schedule
      (.again (withAuthorization request (Utf8.encode (BearerAuth.value token))))
  | page (hc : 2 ≤ schedule.count x) (hu : Unhindered x schedule) (r : Response)
    (hr : v.pages request r) : Standing v scope w request x schedule (.done (.ok r))
  | overtaken (hc : 3 ≤ schedule.count x) (ho : Overtakes x.other schedule) (r : Response)
    (hr : v.refusals request r) : Standing v scope w request x schedule (.done (.ok r))

/-- What a step of `x` leads to. -/
structure Stepped {W : Type} (v : BearerServer W) (provider : CredentialsProvider)
    (options : TokenOptions) (host scope : String) (request : Request) (x : Side)
    (schedule : List Side) (w : W) (r : (Stage × Authenticator Handler) × Session W) : Prop where
  standing : Standing v scope r.2.world request x (schedule ++ [x]) r.1.1
  knows : Knows v provider options host r.2.world (known scope (schedule ++ [x])) r.1.2
  later : v.Later w r.2.world

section schedules

variable {scope : String} {x : Side} {schedule : List Side}

theorem known_eq (scope : String) (x : Side) (schedule : List Side) : known scope schedule =
    if 3 ≤ schedule.count x ∨ 3 ≤ schedule.count x.other then [scope] else [] := by
  cases x with
  | left => rfl
  | right => simp only [known, Side.other, or_comm]

theorem known_of_taught (h : 3 ≤ schedule.count x ∨ 3 ≤ schedule.count x.other) :
    known scope schedule = [scope] := by
  rw [known_eq scope x, if_pos h]

theorem known_of_untaught (hx : schedule.count x < 3) (ho : schedule.count x.other < 3) :
    known scope schedule = [] := by
  rw [known_eq scope x, if_neg (by omega)]

/-- Only a third step teaches. -/
theorem known_append (hc : schedule.count x ≠ 2) :
    known scope (schedule ++ [x]) = known scope schedule := by
  have hx : (schedule ++ [x]).count x = schedule.count x + 1 := count_append_self
  rw [known_eq scope x, known_eq scope x, hx, count_other_append]
  congr 1
  apply propext
  omega

theorem thirdAfter_other_append {k : Nat} :
    ThirdAfter x.other k (schedule ++ [x]) ↔ ThirdAfter x.other k schedule := by
  rw [thirdAfter_append]
  constructor
  · rintro (h | ⟨h, -⟩)
    · exact h
    · exact absurd h.symm x.other_ne
  · exact .inl

theorem not_overtakes_of_count (h : schedule.count x.other < 3) : ¬ Overtakes x.other schedule := by
  rintro (ho | ho)
  · have := ho.counts.1
    omega
  · have := ho.counts.1
    omega

/-- The other call learns before the first step of `x`. -/
theorem unhindered_of_early (hc : schedule.count x = 0) (ho : 3 ≤ schedule.count x.other) :
    Unhindered x schedule := by
  refine ⟨?_, .inr ho⟩
  rintro (h | h)
  · have := h.counts.2
    rw [x.other_other] at this
    omega
  · have := h.counts.2
    rw [x.other_other] at this
    omega

theorem overtakes_of_known (hc : schedule.count x = 2) (hn : ¬ ThirdAfter x.other 0 schedule)
    (ho : 3 ≤ schedule.count x.other) : Overtakes x.other schedule := by
  obtain ⟨k, hk⟩ := thirdAfter_exists ho
  have hle := hk.counts.2
  rw [x.other_other, hc] at hle
  match k, hle with
  | 0, _ => exact absurd hk hn
  | 1, _ => exact .inl hk
  | 2, _ => exact .inr hk

end schedules

section steps

variable {W : Type} {v : BearerServer W} {provider : CredentialsProvider} {options : TokenOptions}
  {host scope : String} {request tokenRequest : Request} {x : Side} {schedule : List Side}
  {a : Authenticator Handler} {s : Session W}

theorem step_fresh (hv : v.Honest (provider host) options) (hp : v.Plain host request)
    (ht : TokenRequest.toHttp ⟨v.realm, v.service, [scope]⟩ (provider host) = .ok tokenRequest)
    (hk : Knows v provider options host s.world (known scope schedule) a)
    (hc : schedule.count x = 0) :
    Stepped v provider options host scope request x schedule s.world
      (advance v.net (Handler.handling v.net) a (.fresh request) s) := by
  have hc' : (schedule ++ [x]).count x = 1 := by rw [count_append_self, hc]
  have hkn : known scope (schedule ++ [x]) = known scope schedule := known_append (by omega)
  simp only [advance, Session.bind_apply, Session.pure_apply]
  by_cases ho : 3 ≤ schedule.count x.other
  · have hs : known scope schedule = [scope] := known_of_taught (.inr ho)
    rw [hs] at hk hkn
    obtain ⟨token, a', s', ha, hu, hl, hk'⟩ := hk.authorize hv.toFair (List.cons_ne_nil _ _) ht
      (hv.grants _ _ · ht) hp.hostKey
    rw [ha]
    refine ⟨.armed hc' ((unhindered_of_early hc ho).append x) token hu, ?_, hl⟩
    rw [hkn]
    exact hk'
  · have hs : known scope schedule = [] := known_of_untaught (x := x) (by omega) (by omega)
    rw [hs] at hk hkn
    have hn : ¬ ThirdAfter x.other 0 (schedule ++ [x]) := by
      intro h
      exact ho (thirdAfter_other_append.mp h).counts.1
    cases hk with
    | nothing =>
      rw [authorize_bearerOnly]
      refine ⟨.ready hc' hn, ?_, .refl _⟩
      rw [hkn]
      exact .nothing
    | learned h hne => exact absurd rfl hne

theorem step_ready (hv : v.Honest (provider host) options) (hp : v.Plain host request)
    (hk : Knows v provider options host s.world (known scope schedule) a)
    (hc : schedule.count x = 1) (hn : ¬ ThirdAfter x.other 0 schedule) :
    Stepped v provider options host scope request x schedule s.world
      (advance v.net (Handler.handling v.net) a (.ready request request) s) := by
  have hc' : (schedule ++ [x]).count x = 2 := by rw [count_append_self, hc]
  have hl := hv.keeps request s.world
  obtain ⟨r, hsend, hr⟩ := hv.toFair.send_plain hp s.world
  simp only [advance, Session.bind_apply, Session.send_apply, hsend, hv.unauthorized request r hr]
  refine ⟨.refused hc' ?_ r hr, ?_, hl⟩
  · rwa [thirdAfter_other_append]
  · rw [known_append (by omega)]
    exact hk.later hl

theorem step_armed (hv : v.Honest (provider host) options) (hp : v.Plain host request)
    (hs : v.scope request = scope)
    (hk : Knows v provider options host s.world (known scope schedule) a)
    (hc : schedule.count x = 1) (hu : Unhindered x schedule) {token : String}
    (ht : v.Usable s.world token [scope]) :
    Stepped v provider options host scope request x schedule s.world
      (advance v.net (Handler.handling v.net) a (.ready request
        (withAuthorization request (Utf8.encode (BearerAuth.value token)))) s) := by
  have hc' : (schedule ++ [x]).count x = 2 := by rw [count_append_self, hc]
  have hl := hv.keeps (withAuthorization request (Utf8.encode (BearerAuth.value token))) s.world
  obtain ⟨r, hsend, hr⟩ := hv.toFair.send_usable hp ht (List.mem_singleton.mpr hs)
  simp only [advance, Session.bind_apply, Session.send_apply, hsend, if_pos (hv.toFair.page_ne hr)]
  refine ⟨.page (by omega) (hu.append x) r hr, ?_, hl⟩
  rw [known_append (by omega)]
  exact hk.later hl

/-- The step that teaches, unless the other call was faster. -/
theorem step_refused (hv : v.Honest (provider host) options) (hp : v.Plain host request)
    (hs : v.scope request = scope)
    (hk : Knows v provider options host s.world (known scope schedule) a)
    (hc : schedule.count x = 2) (hn : ¬ ThirdAfter x.other 0 schedule) {r : Response}
    (hr : v.refusals request r) :
    Stepped v provider options host scope request x schedule s.world
      (advance v.net (Handler.handling v.net) a (.refused request r) s) := by
  have hc' : (schedule ++ [x]).count x = 3 := by rw [count_append_self, hc]
  have hkn : known scope (schedule ++ [x]) = [scope] := known_of_taught (.inl (Nat.le_of_eq hc'.symm))
  simp only [advance, Session.bind_apply]
  by_cases ho : 3 ≤ schedule.count x.other
  · rw [known_of_taught (.inr ho)] at hk
    rw [hk.learn_known hv.toFair hp.hostKey hr (List.mem_singleton.mpr hs)]
    refine ⟨.overtaken (by omega) ((overtakes_of_known hc hn ho).append x) r hr, ?_, .refl _⟩
    rw [hkn]
    exact hk
  · have hun : known scope schedule = [] := known_of_untaught (x := x) (by omega) (by omega)
    rw [hun] at hk
    obtain ⟨a', s', ha, hw, hk'⟩ := hk.learn_new hv.toFair hp.hostKey hr List.not_mem_nil
    rw [ha]
    refine ⟨.taught hc' ⟨?_, .inl (Nat.le_of_eq hc'.symm)⟩, ?_, ?_⟩
    · apply not_overtakes_of_count
      rw [count_other_append]
      omega
    · rw [hkn, ← hs]
      exact hk'
    · change v.Later s.world s'.world
      rw [hw]
      exact .refl _

theorem step_taught (hv : v.Honest (provider host) options) (hp : v.Plain host request)
    (ht : TokenRequest.toHttp ⟨v.realm, v.service, [scope]⟩ (provider host) = .ok tokenRequest)
    (hk : Knows v provider options host s.world (known scope schedule) a)
    (hc : schedule.count x = 3) (hu : Unhindered x schedule) :
    Stepped v provider options host scope request x schedule s.world
      (advance v.net (Handler.handling v.net) a (.taught request) s) := by
  have hc' : (schedule ++ [x]).count x = 4 := by rw [count_append_self, hc]
  rw [known_of_taught (.inl (Nat.le_of_eq hc.symm))] at hk
  obtain ⟨token, a', s', ha, hut, hl, hk'⟩ := hk.authorize hv.toFair (List.cons_ne_nil _ _) ht
    (hv.grants _ _ · ht) hp.hostKey
  simp only [advance, Session.bind_apply, Session.pure_apply, ha]
  refine ⟨.again hc' (hu.append x) token hut, ?_, hl⟩
  rw [known_of_taught (.inl (Nat.le_trans (by decide) (Nat.le_of_eq hc'.symm)))]
  exact hk'

theorem step_again (hv : v.Honest (provider host) options) (hp : v.Plain host request)
    (hs : v.scope request = scope)
    (hk : Knows v provider options host s.world (known scope schedule) a)
    (hc : schedule.count x = 4) (hu : Unhindered x schedule) {token : String}
    (ht : v.Usable s.world token [scope]) :
    Stepped v provider options host scope request x schedule s.world
      (advance v.net (Handler.handling v.net) a
        (.again (withAuthorization request (Utf8.encode (BearerAuth.value token)))) s) := by
  have hc' : (schedule ++ [x]).count x = 5 := by rw [count_append_self, hc]
  have hl := hv.keeps (withAuthorization request (Utf8.encode (BearerAuth.value token))) s.world
  obtain ⟨r, hsend, hr⟩ := hv.toFair.send_usable hp ht (List.mem_singleton.mpr hs)
  simp only [advance, Session.bind_apply, Session.pure_apply, Session.send_apply, hsend]
  refine ⟨.page (by omega) (hu.append x) r hr, ?_, hl⟩
  rw [known_append (by omega)]
  exact hk.later hl

theorem step_done {reply : Except String Response}
    (hk : Knows v provider options host s.world (known scope schedule) a)
    (hst : Standing v scope s.world request x (schedule ++ [x]) (.done reply))
    (ht : 3 ≤ schedule.count x ∨ 3 ≤ schedule.count x.other) :
    Stepped v provider options host scope request x schedule s.world
      (advance v.net (Handler.handling v.net) a (.done reply) s) := by
  have ht' : 3 ≤ (schedule ++ [x]).count x ∨ 3 ≤ (schedule ++ [x]).count x.other := by
    rw [count_append_self, count_other_append]
    omega
  refine ⟨hst, ?_, .refl _⟩
  rw [known_of_taught ht']
  rwa [known_of_taught ht] at hk

theorem Standing.step (hv : v.Honest (provider host) options) (hp : v.Plain host request)
    (hs : v.scope request = scope)
    (ht : TokenRequest.toHttp ⟨v.realm, v.service, [scope]⟩ (provider host) = .ok tokenRequest)
    (hk : Knows v provider options host s.world (known scope schedule) a) {stage : Stage}
    (hst : Standing v scope s.world request x schedule stage) :
    Stepped v provider options host scope request x schedule s.world
      (advance v.net (Handler.handling v.net) a stage s) := by
  cases hst with
  | fresh hc => exact step_fresh hv hp ht hk hc
  | ready hc hn => exact step_ready hv hp hk hc hn
  | armed hc hu token htoken => exact step_armed hv hp hs hk hc hu htoken
  | refused hc hn r hr => exact step_refused hv hp hs hk hc hn hr
  | taught hc hu => exact step_taught hv hp ht hk hc hu
  | again hc hu token htoken => exact step_again hv hp hs hk hc hu htoken
  | page hc hu r hr =>
    refine step_done hk (.page ?_ (hu.append x) r hr) hu.settled
    rw [count_append_self]
    omega
  | overtaken hc ho r hr =>
    refine step_done hk (.overtaken ?_ (ho.append x) r hr) (.inl hc)
    rw [count_append_self]
    omega

/-- A call that is not at its turn stands where it stood. -/
theorem Standing.wait {w w' : W} {stage : Stage}
    (hst : Standing v scope w request x schedule stage) (hl : v.Later w w') :
    Standing v scope w' request x (schedule ++ [x.other]) stage := by
  have hcount : (schedule ++ [x.other]).count x = schedule.count x := count_append_other
  have hthird : 1 ≤ schedule.count x → ¬ ThirdAfter x.other 0 schedule →
      ¬ ThirdAfter x.other 0 (schedule ++ [x.other]) := by
    intro hpos hn h
    rcases thirdAfter_append.mp h with h | ⟨-, -, h⟩
    · exact hn h
    · rw [x.other_other] at h
      omega
  cases hst with
  | fresh hc => exact .fresh (hcount.trans hc)
  | ready hc hn => exact .ready (hcount.trans hc) (hthird (by omega) hn)
  | armed hc hu token ht => exact .armed (hcount.trans hc) (hu.append _) token (ht.later hl)
  | refused hc hn r hr => exact .refused (hcount.trans hc) (hthird (by omega) hn) r hr
  | taught hc hu => exact .taught (hcount.trans hc) (hu.append _)
  | again hc hu token ht => exact .again (hcount.trans hc) (hu.append _) token (ht.later hl)
  | page hc hu r hr => exact .page (by omega) (hu.append _) r hr
  | overtaken hc ho r hr => exact .overtaken (by omega) (ho.append _) r hr

end steps

structure Standings {W : Type} (v : BearerServer W) (provider : CredentialsProvider)
    (options : TokenOptions) (host scope : String) (q : Side → Request) (schedule : List Side)
    (m : Shared W Handler) : Prop where
  standing : ∀ x, Standing v scope m.session.world (q x) x schedule (m.stages x)
  knows : Knows v provider options host m.session.world (known scope schedule) m.auth

section runs

variable {W : Type} {v : BearerServer W} {provider : CredentialsProvider} {options : TokenOptions}
  {host scope : String} {q : Side → Request} {tokenRequest : Request}

theorem Standings.move (hv : v.Honest (provider host) options) (hp : ∀ x, v.Plain host (q x))
    (hs : ∀ x, v.scope (q x) = scope)
    (ht : TokenRequest.toHttp ⟨v.realm, v.service, [scope]⟩ (provider host) = .ok tokenRequest)
    {schedule : List Side} {m : Shared W Handler}
    (h : Standings v provider options host scope q schedule m) (x : Side) :
    Standings v provider options host scope q (schedule ++ [x])
      (move v.net (Handler.handling v.net) m x) := by
  obtain ⟨hstanding, hknows, hlater⟩ := (h.standing x).step hv (hp x) (hs x) ht h.knows
  refine ⟨?_, hknows⟩
  intro y
  by_cases hy : y = x
  · subst hy
    simpa [Authenticator.move] using hstanding
  · have hx : x = y.other := Side.eq_other (Ne.symm hy)
    have hw := (h.standing y).wait hlater
    rw [← hx] at hw
    simpa [Authenticator.move, hy] using hw

theorem standings_interleave (hv : v.Honest (provider host) options)
    (hp : ∀ x, v.Plain host (q x)) (hs : ∀ x, v.scope (q x) = scope)
    (ht : TokenRequest.toHttp ⟨v.realm, v.service, [scope]⟩ (provider host) = .ok tokenRequest)
    (s : Session W) (schedule : List Side) :
    Standings v provider options host scope q schedule
      (interleave v.net (Handler.handling v.net)
        ⟨bearerOnly provider options, s, fun x => .fresh (q x)⟩ schedule) := by
  induction schedule using List.reverseRecOn with
  | nil => exact ⟨fun x => .fresh rfl, .nothing⟩
  | append_singleton schedule x ih =>
    rw [interleave, List.foldl_append]
    exact ih.move hv hp hs ht x

/-- A call that has made its five steps has its reply. -/
theorem Standings.reply {schedule : List Side} {m : Shared W Handler} {x : Side}
    (h : Standings v provider options host scope q schedule m) (hc : 5 ≤ schedule.count x) :
    ∃ r, m.stages x = .done (.ok r) ∧ (Overtakes x.other schedule → v.refusals (q x) r) ∧
      (¬ Overtakes x.other schedule → v.pages (q x) r) := by
  have hstanding := h.standing x
  generalize m.stages x = stage at hstanding ⊢
  cases hstanding with
  | page _ hu r hr => exact ⟨r, rfl, fun ho => absurd ho hu.ahead, fun _ => hr⟩
  | overtaken _ ho r hr => exact ⟨r, rfl, fun _ => hr, fun hn => absurd ho hn⟩
  | fresh | ready | armed | refused | taught | again => omega

end runs

def sequential (x : Side) : List Side := List.replicate 5 x ++ List.replicate 5 x.other

theorem not_overtakes_sequential (x y : Side) : ¬ Overtakes y (sequential x) := by
  have hx : ThirdAfter x 0 (sequential x) :=
    ⟨[x, x], [x, x] ++ List.replicate 5 x.other, rfl, by simp, by cases x <;> rfl⟩
  have ho : ThirdAfter x.other 5 (sequential x) :=
    ⟨List.replicate 5 x ++ [x.other, x.other], [x.other, x.other], rfl, by cases x <;> rfl,
      by cases x <;> rfl⟩
  by_cases hy : y = x
  · subst hy
    rintro (h | h)
    · cases hx.unique h
    · cases hx.unique h
  · rw [Side.eq_other hy]
    rintro (h | h)
    · cases ho.unique h
    · cases ho.unique h

theorem interleave_sequential {W H : Type} (net : Network W) (hd : Handling W H)
    (a : Authenticator H) (q : Side → Request) (s : Session W) (x : Side) :
    let first := a.send net hd (q x) s
    let m := interleave net hd ⟨a, s, fun y => .fresh (q y)⟩ (sequential x)
    m.stages x = .done first.1.1 ∧
      m.stages x.other = .done (first.1.2.send net hd (q x.other) first.2).1.1 := by
  intro first m
  let start : Shared W H := ⟨a, s, fun y => .fresh (q y)⟩
  let middle : Shared W H :=
    ⟨first.1.2, first.2, fun y => if y = x then .done first.1.1 else .fresh (q y)⟩
  have hone : interleave net hd start (List.replicate 5 x) = middle :=
    interleave_call net hd start x (q x) rfl
  have hfresh : middle.stages x.other = .fresh (q x.other) := if_neg x.other_ne
  have hm : m = interleave net hd middle (List.replicate 5 x.other) := by
    rw [← hone]
    exact List.foldl_append
  rw [hm, interleave_call net hd middle x.other (q x.other) hfresh]
  exact ⟨(if_neg x.other_ne.symm).trans (if_pos rfl), if_pos rfl⟩

/-- However the steps of two calls are shuffled, a call has its page at the end unless it was overtaken, and
then it has the refusal. At most one call is overtaken, and none if one call is made after the other. Every request
has one page and one refusal here, or else runs could not be compared. -/
theorem shared_calls_reply {W : Type} (v : BearerServer W) (page refusal : Request → Response)
    (provider : CredentialsProvider) (options : TokenOptions) (host scope : String) (q : Side → Request)
    (s : Session W) (hv : v.Honest (provider host) options) (hpage : ∀ q r, v.pages q r → r = page q)
    (hrefusal : ∀ q r, v.refusals q r → r = refusal q) (hp : ∀ x, v.Plain host (q x))
    (hs : ∀ x, v.scope (q x) = scope)
    (ht : ∃ r, TokenRequest.toHttp ⟨v.realm, v.service, [scope]⟩ (provider host) = .ok r) :
    let hd := Handler.handling v.net
    let a := bearerOnly provider options
    (∀ schedule x, 5 ≤ schedule.count x →
      let m := interleave v.net hd ⟨a, s, fun y => .fresh (q y)⟩ schedule
      (Overtakes x.other schedule → m.stages x = .done (.ok (refusal (q x)))) ∧
        (¬ Overtakes x.other schedule → m.stages x = .done (.ok (page (q x))))) ∧
    (∀ schedule x, ¬ (Overtakes x schedule ∧ Overtakes x.other schedule)) ∧
    ∀ x, let first := a.send v.net hd (q x) s
      first.1.1 = .ok (page (q x)) ∧
        (first.1.2.send v.net hd (q x.other) first.2).1.1 = .ok (page (q x.other)) := by
  intro hd a
  obtain ⟨r, hr⟩ := ht
  have hrun : ∀ schedule x, 5 ≤ schedule.count x →
      let m := interleave v.net hd ⟨a, s, fun y => .fresh (q y)⟩ schedule
      (Overtakes x.other schedule → m.stages x = .done (.ok (refusal (q x)))) ∧
        (¬ Overtakes x.other schedule → m.stages x = .done (.ok (page (q x)))) := by
    intro schedule x hc m
    obtain ⟨reply, hdone, hovertaken, hahead⟩ := (standings_interleave hv hp hs hr s schedule).reply hc
    exact ⟨fun ho => hrefusal _ _ (hovertaken ho) ▸ hdone, fun hn => hpage _ _ (hahead hn) ▸ hdone⟩
  refine ⟨hrun, fun _ _ => not_overtakes_both, ?_⟩
  intro x first
  obtain ⟨hfirst, hsecond⟩ := interleave_sequential v.net hd a q s x
  have hx := (hrun (sequential x) x (by cases x <;> decide)).2 (not_overtakes_sequential x _)
  have ho := (hrun (sequential x) x.other (by cases x <;> decide)).2 (not_overtakes_sequential x _)
  exact ⟨Stage.done.inj (hfirst.symm.trans hx), Stage.done.inj (hsecond.symm.trans ho)⟩

def pullChallenge : Challenge :=
  (((Challenge.ofScheme "bearer").set "realm" "http://auth.example/token").set
    "service" "registry").set "scope" "pull"

def pullRefusal : Response :=
  { status := .unauthorized
    headers := [⟨Header.wwwAuthenticate, Utf8.encode (Challenge.renderAll [pullChallenge]), false⟩] }

def grantReply : Response :=
  { status := ⟨200⟩, body := Utf8.encode "\x7b\"token\":\"abc\"\x7d" }

/-- Knows a token request by what it accepts, and issues the same token for all scopes. -/
def oneToken : BearerServer Unit where
  net :=
    { send := fun q w =>
        (.ok (if Headers.values q.headers Header.accept ≠ [] then grantReply
          else if Headers.values q.headers Header.authorization = [Utf8.encode "Bearer abc"] then
            { status := ⟨200⟩ }
          else pullRefusal), w)
      now := fun w => (⟨0, 0, by decide, by decide, by decide⟩, w) }
  serves q := Headers.values q.headers Header.accept = []
  realm := "http://auth.example/token"
  service := "registry"
  scope _ := "pull"
  pages _ r := r = { status := ⟨200⟩ }
  refusals _ r := r = pullRefusal
  granted _ token _ := token = "abc"

theorem accept_of_toHttp {r : TokenRequest} {credentials : Credentials} {q : Request}
    (h : r.toHttp credentials = .ok q) : Headers.values q.headers Header.accept ≠ [] := by
  unfold TokenRequest.toHttp at h
  split at h
  · cases h
  · split at h
    · cases h
    · cases h
      simp [TokenRequest.headers, Headers.values]

theorem oneToken_honest (credentials : Credentials) : oneToken.Honest credentials {} where
  success := by
    rintro q r rfl
    rfl
  unauthorized := by
    rintro q r rfl
    rfl
  refuses := by
    rintro q r rfl
    have hparse : Challenge.parseAll (Headers.values pullRefusal.headers Header.wwwAuthenticate) =
        .ok [pullChallenge] := by decide +kernel
    have hdemand : pullChallenge.demand? =
        some ⟨"http://auth.example/token", "registry", "pull"⟩ := by decide
    exact ⟨pullChallenge, hparse, by decide, hdemand⟩
  admitted q w hs hc := by
    obtain ⟨token, scopes, hvalue, hgranted, -⟩ := hc
    cases hgranted
    have ha : Headers.values q.headers Header.accept = [] := (values_bare_of_ne (by decide) q).symm.trans hs
    simp only [oneToken, ha, hvalue]
    exact ⟨_, rfl, rfl⟩
  refused q w hs hc := by
    have ha : Headers.values q.headers Header.accept = [] := (values_bare_of_ne (by decide) q).symm.trans hs
    have hvalue : Headers.values q.headers Header.authorization ≠ [Utf8.encode "Bearer abc"] :=
      fun h => hc ⟨"abc", ["pull"], h, rfl, List.mem_cons_self⟩
    simp only [oneToken, ha, if_neg hvalue]
    exact ⟨_, rfl, rfl⟩
  grants scopes q w hq := by
    refine ⟨grantReply, { token? := some "abc" }, "abc", ⟨60, 0, by decide, by decide, by decide⟩,
      ?_, rfl, by decide +kernel, by decide, ?_, by decide +kernel, rfl⟩
    · simp only [oneToken, if_pos (accept_of_toHttp hq)]
    · have hminute : Time.Instant.add? ⟨0, 0, by decide, by decide, by decide⟩ (.ofSeconds 60) =
          some ⟨60, 0, by decide, by decide, by decide⟩ := by decide
      exact hminute
  keeps _ _ _ _ h := h
  remembers _ _ _ h := h

def pageRequest : Request :=
  { uri := { scheme? := some "https", authority? := some "registry.example", path := "/v2/" } }

theorem pageRequest_plain : oneToken.Plain "registry.example" pageRequest :=
  ⟨rfl, by decide +kernel, rfl⟩

theorem oneToken_reachable : ∃ r, TokenRequest.toHttp
    ⟨oneToken.realm, oneToken.service, ["pull"]⟩ .anonymous = .ok r := by
  have hok : (TokenRequest.toHttp ⟨"http://auth.example/token", "registry", ["pull"]⟩
      .anonymous).toOption.isSome = true := by decide +kernel
  cases hr : TokenRequest.toHttp ⟨oneToken.realm, oneToken.service, ["pull"]⟩ .anonymous with
  | ok r => exact ⟨r, rfl⟩
  | error e =>
    rw [show TokenRequest.toHttp ⟨"http://auth.example/token", "registry", ["pull"]⟩
      .anonymous = .error e from hr] at hok
    cases hok

/-- The right call is made between the sending of the left one and its learning. -/
def overtaking : List Side :=
  [.left, .left] ++ List.replicate 5 .right ++ List.replicate 3 .left

theorem overtakes_overtaking : Overtakes .right overtaking :=
  .inr ⟨[.left, .left, .right, .right], [.right, .right, .left, .left, .left], rfl, rfl, rfl⟩

theorem shared_calls_reply_oneToken :
    let start : Shared Unit Handler :=
      ⟨bearerOnly .none {}, ⟨(), []⟩, fun _ => .fresh pageRequest⟩
    let m := interleave oneToken.net (Handler.handling oneToken.net) start overtaking
    m.stages .left = .done (.ok pullRefusal) ∧ m.stages .right = .done (.ok { status := ⟨200⟩ }) := by
  have h := shared_calls_reply oneToken (fun _ => { status := ⟨200⟩ }) (fun _ => pullRefusal) .none {}
    "registry.example" "pull" (fun _ => pageRequest) ⟨(), []⟩ (oneToken_honest .anonymous)
    (fun _ _ hr => hr) (fun _ _ hr => hr) (fun _ => pageRequest_plain) (fun _ => rfl) oneToken_reachable
  refine ⟨(h.1 overtaking .left (by decide)).1 overtakes_overtaking, ?_⟩
  apply (h.1 overtaking .right (by decide)).2
  exact fun hn => h.2.1 overtaking .right ⟨overtakes_overtaking, hn⟩

/-- A call that was overtaken gets a reply that it gets in no order of the two calls. -/
theorem not_serialisable :
    ∃ (v : BearerServer Unit) (host : String) (q : Side → Request),
      v.Honest .anonymous {} ∧ (∀ q r r', v.pages q r → v.pages q r' → r = r') ∧
      (∀ x, v.Plain host (q x)) ∧ (∀ x, v.scope (q x) = "pull") ∧
      (∃ r, TokenRequest.toHttp ⟨v.realm, v.service, ["pull"]⟩ .anonymous = .ok r) ∧
      let run := interleave v.net (Handler.handling v.net)
        ⟨bearerOnly .none {}, ⟨(), []⟩, fun x => .fresh (q x)⟩
      ∃ schedule, (∀ x, schedule.count x = 5) ∧
        ∃ x, ∀ y, (run schedule).stages x ≠ (run (sequential y)).stages x := by
  refine ⟨oneToken, "registry.example", fun _ => pageRequest, oneToken_honest .anonymous,
    fun _ _ _ h h' => h.trans h'.symm, fun _ => pageRequest_plain, fun _ => rfl, oneToken_reachable, ?_⟩
  intro run
  refine ⟨overtaking, by intro x; cases x <;> rfl, .left, ?_⟩
  have hm : (run overtaking).stages .left = .done (.ok pullRefusal) := by decide +kernel
  intro y
  rw [hm]
  cases y with
  | left =>
    have hs : (run (sequential .left)).stages .left = .done (.ok { status := ⟨200⟩ }) := by
      decide +kernel
    rw [hs]
    decide
  | right =>
    have hs : (run (sequential .right)).stages .left = .done (.ok { status := ⟨200⟩ }) := by
      decide +kernel
    rw [hs]
    decide

end HttpAuth.Authenticator
