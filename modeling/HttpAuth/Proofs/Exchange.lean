import HttpAuth.Proofs.Effects
import HttpAuth.Proofs.ExactTime
import HttpAuth.Token.Exchange

namespace HttpAuth

variable {W : Type}

/-- Between two sessions one token request was sent, and the reply to it carries the token. -/
structure Exchanged (r : TokenRequest) (credentials : Credentials) (token : String)
    (before after : Session W) : Prop where
  request : ∃ request response reply, r.toHttp credentials = .ok request ∧
    after.journal = before.journal ++
      [.logged (.tokenRequested r.realm r.service r.scopes.length credentials.isAnonymous),
        .sent .token request (.ok response)] ∧
    response.status.isSuccess = true ∧ TokenReply.decode? response.body = some reply ∧
    reply.tokenText? = some token
  ne_empty : token ≠ ""

theorem Exchanged.of_journal {r : TokenRequest} {credentials : Credentials} {token : String}
    {before before' after : Session W} (h : Exchanged r credentials token before after)
    (hj : before.journal = before'.journal) : Exchanged r credentials token before' after :=
  ⟨hj ▸ h.request, h.ne_empty⟩

namespace TokenReply

theorem filter_ne_empty {text? : Option String} {token : String}
    (h : text?.filter (!·.isEmpty) = some token) : token ≠ "" := by
  rintro rfl
  have := (Option.filter_eq_some_iff.mp h).2
  simp at this

theorem tokenText?_ne_empty {reply : TokenReply} {token : String}
    (h : reply.tokenText? = some token) : token ≠ "" := by
  rcases Option.or_eq_some_iff.mp h with h | ⟨-, h⟩
  · exact filter_ne_empty h
  · exact filter_ne_empty h

/-- How long the token lives, in exact numbers. -/
def lifetime (reply : TokenReply) (options : TokenOptions) : Time.Span :=
  match reply.expiresIn? with
  | some seconds => .ofSeconds (max seconds 0)
  | none => options.defaultLifetime

theorem lifetime_of_lifetime? {reply : TokenReply} {options : TokenOptions} {lifetime : Time.Span}
    (h : reply.lifetime? options = some lifetime) : reply.lifetime options = lifetime := by
  unfold lifetime? at h
  unfold TokenReply.lifetime
  cases hseconds : reply.expiresIn? with
  | none =>
    rw [hseconds] at h
    exact Option.some.inj h
  | some seconds =>
    rw [hseconds] at h
    obtain ⟨-, heq⟩ := Option.ite_none_right_eq_some.mp h
    exact Option.some.inj heq

/-- The lifetime is checked twice, but a lifetime that fails the first check would also fail the second. -/
theorem bind_lifetime? (reply : TokenReply) (options : TokenOptions) (start : Time.Instant) :
    (reply.lifetime? options).bind start.add? = start.add? (reply.lifetime options) := by
  unfold lifetime? lifetime
  cases reply.expiresIn? with
  | none => rfl
  | some seconds => exact Time.bind_ofSeconds? start (Int.le_max_right seconds 0)

theorem lifetime?_of_add? {reply : TokenReply} {options : TokenOptions} {start expiresAt : Time.Instant}
    (h : start.add? (reply.lifetime options) = some expiresAt) :
    reply.lifetime? options = some (reply.lifetime options) := by
  rw [← bind_lifetime?] at h
  obtain ⟨lifetime, hlifetime, -⟩ := Option.bind_eq_some_iff.mp h
  rw [lifetime_of_lifetime? hlifetime, hlifetime]

end TokenReply

namespace TokenRequest

/-- What has gone well when there is a request to send. -/
theorem toHttp_eq_ok {r : TokenRequest} {credentials : Credentials} {request : Request}
    (h : r.toHttp credentials = .ok request) :
    ∃ url uri, Url.parse? r.realm = some url ∧ Uri.parse? (url.appendPairs r.pairs).text = some uri ∧
      request = { uri := uri, headers := headers credentials } := by
  unfold toHttp at h
  cases hu : Url.parse? r.realm with
  | none =>
    rw [hu] at h
    cases h
  | some url =>
    simp only [hu] at h
    cases hq : Uri.parse? (url.appendPairs r.pairs).text with
    | none =>
      rw [hq] at h
      cases h
    | some uri =>
      rw [hq] at h
      cases h
      exact ⟨url, uri, rfl, hq, rfl⟩

/-- Reading the clock leaves no entry. -/
theorem journal_issuedAt (net : Network W) (reply : TokenReply) (s : Session W) :
    (issuedAt net reply s).2.journal = s.journal := by
  unfold issuedAt
  cases reply.issuedAt? <;> rfl

theorem issuedAt_start (net : Network W) (reply : TokenReply) (s : Session W) :
    (issuedAt net reply s).1 = reply.issuedAt?.getD (net.now s.world).1 := by
  unfold issuedAt
  cases reply.issuedAt? <;> rfl

theorem issuedAt_world (net : Network W) (reply : TokenReply) (s : Session W) :
    (issuedAt net reply s).2.world = s.world ∨
      (issuedAt net reply s).2.world = (net.now s.world).2 := by
  unfold issuedAt
  cases reply.issuedAt? with
  | none => exact .inr rfl
  | some start => exact .inl rfl

/-- What a reply needs so that it is accepted. -/
theorem accept_of_reply {net : Network W} {options : TokenOptions} {response : Response}
    {reply : TokenReply} {token : String} {expiresAt : Time.Instant} {s : Session W}
    (hs : response.status.isSuccess = true) (hd : TokenReply.decode? response.body = some reply)
    (ht : reply.tokenText? = some token)
    (he : (reply.issuedAt?.getD (net.now s.world).1).add? (reply.lifetime options) =
      some expiresAt) :
    accept net options response s = (.ok ⟨token, expiresAt⟩, (issuedAt net reply s).2) := by
  have hl := TokenReply.lifetime?_of_add? he
  rw [← issuedAt_start] at he
  rw [accept, hs, if_neg (by decide)]
  simp only [hd, ht, hl, Session.bind_apply, he]
  rfl

theorem accept_eq_ok {net : Network W} {options : TokenOptions} {response : Response}
    {issued : IssuedToken} {s s' : Session W}
    (h : accept net options response s = (.ok issued, s')) :
    response.status.isSuccess = true ∧
      (∃ reply, TokenReply.decode? response.body = some reply ∧
        reply.tokenText? = some issued.token) ∧
      s'.journal = s.journal := by
  unfold accept at h
  cases hs : response.status.isSuccess with
  | false =>
    rw [hs] at h
    cases h
  | true =>
    rw [hs, if_neg (by decide)] at h
    cases hd : TokenReply.decode? response.body with
    | none =>
      rw [hd] at h
      cases h
    | some reply =>
      cases ht : reply.tokenText? with
      | none =>
        simp only [hd, ht] at h
        cases h
      | some token =>
        simp only [hd, ht] at h
        cases hl : reply.lifetime? options with
        | none =>
          rw [hl] at h
          cases h
        | some lifetime =>
          simp only [hl, Session.bind_apply] at h
          cases he : (issuedAt net reply s).1.add? lifetime with
          | none =>
            rw [he] at h
            cases h
          | some expiresAt =>
            rw [he] at h
            cases h
            exact ⟨rfl, ⟨reply, rfl, ht⟩, journal_issuedAt net reply s⟩

theorem journal_accept (net : Network W) (options : TokenOptions) (response : Response)
    (s : Session W) : (accept net options response s).2.journal = s.journal := by
  unfold accept
  split
  · rfl
  · cases TokenReply.decode? response.body with
    | none => rfl
    | some reply =>
      cases ht : reply.tokenText? with
      | none =>
        simp only [ht]
        rfl
      | some token =>
        simp only [ht]
        cases reply.lifetime? options with
        | none => rfl
        | some lifetime =>
          simp only [Session.bind_apply]
          cases (issuedAt net reply s).1.add? lifetime with
          | none => exact journal_issuedAt net reply s
          | some expiresAt => exact journal_issuedAt net reply s

theorem exchange_of_response {net : Network W} {r : TokenRequest} {credentials : Credentials}
    {options : TokenOptions} {request : Request} {response : Response} {s : Session W}
    (hr : r.toHttp credentials = .ok request)
    (hn : (net.send request s.world).1 = .ok response) :
    exchange net r credentials options s = accept net options response
      { world := (net.send request s.world).2
        journal := s.journal ++
          [.logged (.tokenRequested r.realm r.service r.scopes.length credentials.isAnonymous),
            .sent .token request (.ok response)] } := by
  simp only [exchange, Session.bind_apply, Session.log_apply, hr, Session.send_apply, hn,
    List.append_assoc]
  rfl

theorem exchange_eq_ok {net : Network W} {r : TokenRequest} {credentials : Credentials}
    {options : TokenOptions} {issued : IssuedToken} {s s' : Session W}
    (h : exchange net r credentials options s = (.ok issued, s')) :
    Exchanged r credentials issued.token s s' := by
  cases hr : r.toHttp credentials with
  | error failure =>
    simp only [exchange, Session.bind_apply, hr] at h
    cases h
  | ok request =>
    cases hn : (net.send request s.world).1 with
    | error e =>
      simp only [exchange, Session.bind_apply, Session.log_apply, Session.send_apply, hr, hn] at h
      cases h
    | ok response =>
      rw [exchange_of_response hr hn] at h
      obtain ⟨hs, ⟨reply, hd, ht⟩, hj⟩ := accept_eq_ok h
      exact ⟨⟨request, response, reply, hr, hj, hs, hd, ht⟩, TokenReply.tokenText?_ne_empty ht⟩

theorem discreet_issuedAt (net : Network W) (reply : TokenReply) :
    Session.Discreet (issuedAt net reply) := by
  unfold issuedAt
  cases reply.issuedAt? with
  | some instant => exact Session.discreet_pure instant
  | none => exact Session.discreet_now net

theorem discreet_accept (net : Network W) (options : TokenOptions) (response : Response) :
    Session.Discreet (accept net options response) := by
  unfold accept
  split
  · exact Session.discreet_pure _
  · cases TokenReply.decode? response.body with
    | none => exact Session.discreet_pure _
    | some reply =>
      cases htoken : reply.tokenText? with
      | none =>
        simp only [htoken]
        exact Session.discreet_pure _
      | some token =>
        simp only [htoken]
        cases reply.lifetime? options with
        | none => exact Session.discreet_pure _
        | some lifetime =>
          apply (discreet_issuedAt net reply).bind
          intro start
          cases start.add? lifetime with
          | none => exact Session.discreet_pure _
          | some expiresAt => exact Session.discreet_pure _

theorem discreet_exchange (net : Network W) (r : TokenRequest) (credentials : Credentials)
    (options : TokenOptions) : Session.Discreet (exchange net r credentials options) := by
  unfold exchange
  apply (Session.discreet_log _).bind
  intro _
  cases r.toHttp credentials with
  | error failure => exact Session.discreet_pure _
  | ok request =>
    apply (Session.discreet_send net request).bind
    intro reply
    cases reply with
    | error e => exact Session.discreet_pure _
    | ok response => exact discreet_accept net options response

end TokenRequest

end HttpAuth
