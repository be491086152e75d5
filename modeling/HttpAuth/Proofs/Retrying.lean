import HttpAuth.Proofs.SequentialCalls
import HttpAuth.Proofs.Unaccepted

namespace HttpAuth.Authenticator

variable {W H : Type} {net : Network W} {hd : Handling W H}

/-- A request that is answered is the one asked about, with a value put on it. -/
theorem authorizeWith_eq_some {host : String} {request q : Request} {a : Authenticator H}
    {schemes : List Name} {s : Session W}
    (h : (authorizeWith hd host request a schemes s).1.1 = some q) :
    ∃ value, q = withAuthorization request value := by
  induction schemes generalizing a s with
  | nil => cases h
  | cons scheme rest ih =>
    cases hh : a.handler? ⟨host, scheme⟩ with
    | none =>
      rw [authorizeWith_of_absent hd request rest hh] at h
      exact ih h
    | some before =>
      rcases authorizeWith_cases hd request rest s hh with ⟨value, -, heq⟩ | ⟨-, s', -, heq⟩
      · rw [heq] at h
        exact ⟨_, (Option.some.inj h).symm⟩
      · rw [heq] at h
        exact ih h

theorem authorize_eq_some {request q : Request} {a : Authenticator H} {s : Session W}
    (h : (a.authorize hd request s).1.1 = some q) : ∃ value, q = withAuthorization request value := by
  unfold authorize at h
  cases hhost : request.uri.hostKey? with
  | none =>
    rw [hhost] at h
    cases h
  | some host =>
    rw [hhost] at h
    exact authorizeWith_eq_some h

/-- Nothing but the authorization value differs. -/
theorem bare_authorize (hd : Handling W H) (request : Request) (a : Authenticator H) (s : Session W) :
    ((a.authorize hd request s).1.1.getD request).bare = request.bare := by
  cases h : (a.authorize hd request s).1.1 with
  | none => rfl
  | some q =>
    obtain ⟨value, rfl⟩ := authorize_eq_some h
    exact bare_withAuthorization request value

section course

variable {a a₁ a₂ : Authenticator H} {q : Request} {first? : Option Request} {response : Response}
  {reply : Except String Response} {s s₁ s₂ s₃ : Session W}

/-- A call whose message is not answered ends with that. -/
theorem send_of_failure {e : String} (ha : a.authorize hd q s = ((first?, a₁), s₁))
    (hr : (net.send (first?.getD q) s₁.world).1 = .error e) :
    a.send net hd q s =
      ((.error e, a₁), (Session.send net .delivery (first?.getD q) s₁).2) := by
  simp only [send, Session.bind_apply, ha, Session.send_apply, hr]
  rfl

/-- A call that is refused and learns nothing from it ends with the refusal. -/
theorem send_of_refusal {e : AuthError} (ha : a.authorize hd q s = ((first?, a₁), s₁))
    (hr : (net.send (first?.getD q) s₁.world).1 = .ok response)
    (hs : response.status = .unauthorized)
    (hl : a₁.learn hd q.uri response (Session.send net .delivery (first?.getD q) s₁).2 =
      ((.error e, a₂), s₂)) :
    a.send net hd q s = ((.ok response, a₂), (Session.log (.notRetried q.uri e) s₂).2) := by
  rw [Session.send_apply, hr] at hl
  simp only [send, Session.bind_apply, ha, Session.send_apply, hr, hs, ne_eq, not_true_eq_false,
    ↓reduceIte, hl]
  rfl

/-- A call ends without an answer, with the reply to its first message, or with that to a second one. -/
theorem send_cases (ha : a.authorize hd q s = ((first?, a₁), s₁))
    (hm : Session.send net .delivery (first?.getD q) s₁ = (reply, s₂)) :
    (∃ e, reply = .error e ∧ a.send net hd q s = ((.error e, a₁), s₂)) ∨
      (∃ response, reply = .ok response ∧
        ¬ (response.status = .unauthorized ∧ (a₁.learn hd q.uri response s₂).1.1 = .ok ()) ∧
        (a.send net hd q s).1.1 = .ok response ∧ (a.send net hd q s).2.delivered = s₂.delivered) ∨
      ∃ response a₂ s₃ second? a₃ s₄, reply = .ok response ∧ response.status = .unauthorized ∧
        a₁.learn hd q.uri response s₂ = ((.ok (), a₂), s₃) ∧
        a₂.authorize hd q s₃ = ((second?, a₃), s₄) ∧
        a.send net hd q s = (((net.send (second?.getD q) s₄.world).1, a₃),
          (Session.send net .delivery (second?.getD q) s₄).2) := by
  have hreply : (net.send (first?.getD q) s₁.world).1 = reply := congrArg Prod.fst hm
  have hsent : (Session.send net .delivery (first?.getD q) s₁).2 = s₂ := congrArg Prod.snd hm
  cases reply with
  | error e =>
    refine .inl ⟨e, rfl, ?_⟩
    rw [send_of_failure ha hreply, hsent]
  | ok response =>
    refine .inr ?_
    by_cases hs : response.status = .unauthorized
    · rcases hl : a₁.learn hd q.uri response s₂ with ⟨⟨_ | _, a₂⟩, s₃⟩
      · next e =>
        have hquiet := (discreet_learn hd a₁ q.uri response).delivers s₂
        rw [hl] at hquiet
        refine .inl ⟨response, rfl, by simp [hl], ?_⟩
        rw [send_of_refusal ha hreply hs (hsent ▸ hl), (Session.discreet_log _).delivers]
        exact ⟨rfl, hquiet⟩
      · rcases ha₂ : a₂.authorize hd q s₃ with ⟨⟨second?, a₃⟩, s₄⟩
        exact .inr ⟨response, a₂, s₃, second?, a₃, s₄, rfl, hs, hl, ha₂,
          send_of_lesson ha hreply hs (hsent ▸ hl) ha₂⟩
    · refine .inl ⟨response, rfl, fun h => hs h.1, ?_⟩
      rw [send_of_page ha hreply hs, hsent]
      exact ⟨rfl, rfl⟩

end course

/-- A call sends its request once, or twice if the first message is refused and the refusal teaches something. Both
messages are the request of the caller with the authorization value that is known at that moment, if there is
one. The answer is the reply to the last message. If nothing is learned this is the refusal itself, and if the first
message is not answered then nothing else is done. -/
theorem send_retries_once (net : Network W) (hd : Handling W H) (a : Authenticator H)
    (request : Request) (s : Session W) (hq : ∀ h, Session.Discreet (hd.authorize h)) :
    let first := a.authorize hd request s
    let message := first.1.1.getD request
    let sent := Session.send net .delivery message first.2
    let learned := fun response => first.1.2.learn hd request.uri response sent.2
    let second := fun response => (learned response).1.2.authorize hd request (learned response).2
    let r := a.send net hd request s
    ∃ more : List (Request × Except String Response),
      r.2.delivered = s.delivered ++ (message, sent.1) :: more ∧ more.length ≤ 1 ∧
      (more ≠ [] ↔ ∃ response, sent.1 = .ok response ∧ response.status = .unauthorized ∧
        (learned response).1.1 = .ok ()) ∧
      (∀ m ∈ (message, sent.1) :: more, m.1.bare = request.bare) ∧
      (∀ response, sent.1 = .ok response → ∀ m ∈ more, m.1 = (second response).1.1.getD request) ∧
      r.1.1 = (((message, sent.1) :: more).getLast (List.cons_ne_nil _ _)).2 ∧
      (∀ response e, sent.1 = .ok response → (learned response).1.1 = .error e →
        r.1.1 = .ok response) ∧
      ∀ e, sent.1 = .error e → r.1 = (.error e, first.1.2) := by
  have hbare := bare_authorize hd request a s
  have hquiet := (discreet_authorize hd hq a request).delivers s
  rcases ha : a.authorize hd request s with ⟨⟨first?, a₁⟩, s₁⟩
  rw [ha] at hbare hquiet
  have hdelivered := Session.delivered_send net (first?.getD request) s₁
  rw [hquiet] at hdelivered
  dsimp only at hbare hdelivered ⊢
  rcases hm : Session.send net .delivery (first?.getD request) s₁ with ⟨reply, s₂⟩
  rw [show (net.send (first?.getD request) s₁.world).1 = reply from congrArg Prod.fst hm, hm]
    at hdelivered
  rcases send_cases ha hm with ⟨e, rfl, hr⟩ | ⟨response, rfl, hnot, hanswer, hr⟩ |
    ⟨response, a₂, s₃, second?, a₃, s₄, rfl, hs, hl, ha₂, hr⟩
  · refine ⟨[], ?_, Nat.zero_le _, ?_, ?_, ?_, ?_, ?_, ?_⟩
    · rw [hr, hdelivered]
    · simp
    · simpa using hbare
    · simp
    · rw [hr]
      rfl
    · simp
    · rintro e ⟨⟩
      rw [hr]
  · refine ⟨[], ?_, Nat.zero_le _, ?_, ?_, ?_, ?_, ?_, ?_⟩
    · rw [hr, hdelivered]
    · refine iff_of_false (fun h => h rfl) ?_
      rintro ⟨other, ⟨⟩, hs, hl⟩
      exact hnot ⟨hs, hl⟩
    · simpa using hbare
    · simp
    · exact hanswer
    · rintro other e ⟨⟩ -
      exact hanswer
    · rintro e ⟨⟩
  · have hbare₂ := bare_authorize hd request a₂ s₃
    have hquiet₁ := (discreet_learn hd a₁ request.uri response).delivers s₂
    have hquiet₂ := (discreet_authorize hd hq a₂ request).delivers s₃
    rw [ha₂] at hbare₂ hquiet₂
    rw [hl] at hquiet₁
    refine ⟨[(second?.getD request, (net.send (second?.getD request) s₄.world).1)], ?_, Nat.le_refl _,
      ?_, ?_, ?_, ?_, ?_, ?_⟩
    · rw [hr, Session.delivered_send, hquiet₂, hquiet₁, hdelivered, List.append_assoc]
      rfl
    · exact iff_of_true (List.cons_ne_nil _ _) ⟨response, rfl, hs, by rw [hl]⟩
    · simpa using ⟨hbare, hbare₂⟩
    · rintro other ⟨⟩ m hm
      rw [List.mem_singleton.mp hm, hl, ha₂]
    · rw [hr]
      rfl
    · rintro other e ⟨⟩ he
      rw [hl] at he
      cases he
    · rintro e ⟨⟩

/-- The page is refused, a token is issued, and the page is delivered. -/
theorem send_retries_once_push :
    let net := twoScopes.net
    let q := pageAt "/v2/push"
    let r := (bearerOnly .none {}).send net (Handler.handling net) q ⟨0, []⟩
    (∀ h, Session.Discreet ((Handler.handling net).authorize h)) ∧ r.2.delivered.length = 2 ∧
      (∀ m ∈ r.2.delivered, m.1.bare = q.bare) ∧ r.1.1 = .ok (countedPage 2) := by
  intro net q r
  have hanswer : r.1.1 = .ok (countedPage 2) := by decide +kernel
  have hr : (bearerOnly .none {}).send net (Handler.handling net) q ⟨0, []⟩ = r := rfl
  clear_value r
  have hquiet : ∀ h, Session.Discreet ((Handler.handling net).authorize h) :=
    Handler.discreet_authorize net
  have hrefused : (Session.send net .delivery q ⟨0, []⟩).1 = .ok (twoScopesRefusal q) := by
    decide +kernel
  have hlearned : ((bearerOnly .none {}).learn (Handler.handling net) q.uri (twoScopesRefusal q)
      (Session.send net .delivery q ⟨0, []⟩).2).1.1 = .ok () := by decide +kernel
  obtain ⟨more, hdelivered, hshort, hiff, hbare, -⟩ :=
    send_retries_once net (Handler.handling net) (bearerOnly .none {}) q ⟨0, []⟩ hquiet
  rw [hr] at hdelivered
  simp only [authorize_bearerOnly, Option.getD_none] at hiff
  have hmore : more ≠ [] := hiff.mpr ⟨twoScopesRefusal q, hrefused, rfl, hlearned⟩
  have hlength := List.length_pos_iff.mpr hmore
  refine ⟨hquiet, ?_, ?_, hanswer⟩
  · rw [hdelivered, List.length_append, List.length_cons]
    simp only [Session.delivered, List.filterMap_nil, List.length_nil]
    omega
  · rw [hdelivered]
    exact hbare

end HttpAuth.Authenticator
