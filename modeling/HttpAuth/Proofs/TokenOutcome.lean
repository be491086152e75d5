import HttpAuth.Proofs.Exchange

namespace HttpAuth

open Time (Instant)

namespace TokenReply

/-- The reply carries the token, in the first of its two texts that is not empty. -/
def Names (reply : TokenReply) (token : String) : Prop :=
  token ≠ "" ∧ (reply.token? = some token ∨
    (reply.token? = none ∨ reply.token? = some "") ∧ reply.accessToken? = some token)

/-- When the life of the token begins, for a reply that is read at `clock`. -/
def base (reply : TokenReply) (clock : Instant) : Instant := reply.issuedAt?.getD clock

theorem filter_eq_some {text? : Option String} {token : String} :
    text?.filter (!·.isEmpty) = some token ↔ text? = some token ∧ token ≠ "" := by
  rw [Option.filter_eq_some_iff, Bool.not_eq_true', ← Bool.not_eq_true, String.isEmpty_iff]

theorem filter_eq_none {text? : Option String} :
    text?.filter (!·.isEmpty) = none ↔ text? = none ∨ text? = some "" := by
  cases text? with
  | none => simp
  | some text => simp [Option.filter_some]

theorem tokenText?_eq_some {reply : TokenReply} {token : String} :
    reply.tokenText? = some token ↔ reply.Names token := by
  rw [tokenText?, Option.or_eq_some_iff, filter_eq_some, filter_eq_some, filter_eq_none]
  constructor
  · rintro (⟨htoken, hne⟩ | ⟨habsent, htoken, hne⟩)
    · exact ⟨hne, .inl htoken⟩
    · exact ⟨hne, .inr ⟨habsent, htoken⟩⟩
  · rintro ⟨hne, htoken | ⟨habsent, htoken⟩⟩
    · exact .inl ⟨htoken, hne⟩
    · exact .inr ⟨habsent, htoken, hne⟩

end TokenReply

theorem Status.isSuccess_iff {status : Status} :
    status.isSuccess = true ↔ 200 ≤ status.code ∧ status.code < 300 := by
  simp [isSuccess]

namespace TokenRequest

/-- What comes of a reply that is read at `clock`. The conditions are tried in this order, and the first that is
not met gives the failure. -/
inductive Answer (options : TokenOptions) (clock : Instant) :
    Except String Response → Except TokenFailure IssuedToken → Prop where
  | undelivered (text : String) : Answer options clock (.error text) (.error .requestFailed)
  | refused {response : Response}
    (hs : ¬ (200 ≤ response.status.code ∧ response.status.code < 300)) :
    Answer options clock (.ok response) (.error (.refused response.status))
  | malformed {response : Response} (hs : 200 ≤ response.status.code ∧ response.status.code < 300)
    (hd : TokenReply.decode? response.body = none) :
    Answer options clock (.ok response) (.error .malformedReply)
  | nameless {response : Response} {reply : TokenReply}
    (hs : 200 ≤ response.status.code ∧ response.status.code < 300)
    (hd : TokenReply.decode? response.body = some reply) (hn : ∀ token, ¬ reply.Names token) :
    Answer options clock (.ok response) (.error .noToken)
  | outside {response : Response} {reply : TokenReply} {token : String}
    (hs : 200 ≤ response.status.code ∧ response.status.code < 300)
    (hd : TokenReply.decode? response.body = some reply) (hn : reply.Names token)
    (hr : ¬ (reply.base clock).Reaches (reply.lifetime options)) :
    Answer options clock (.ok response) (.error .lifetimeOutOfRange)
  | issued {response : Response} {reply : TokenReply} {issued : IssuedToken}
    (hs : 200 ≤ response.status.code ∧ response.status.code < 300)
    (hd : TokenReply.decode? response.body = some reply) (hn : reply.Names issued.token)
    (hsum : (reply.base clock).IsSum (reply.lifetime options) issued.expiresAt) :
    Answer options clock (.ok response) (.ok issued)

variable {W : Type} {net : Network W} {options : TokenOptions}

/-- Both checks of the lifetime fail with one failure, so the clock may be read for neither. -/
theorem accept_of_token {response : Response} {reply : TokenReply} {token : String} {s : Session W}
    (hs : response.status.isSuccess = true) (hd : TokenReply.decode? response.body = some reply)
    (ht : reply.tokenText? = some token) :
    (accept net options response s).1 =
      match (reply.base (net.now s.world).1).add? (reply.lifetime options) with
      | none => .error .lifetimeOutOfRange
      | some expiresAt => .ok ⟨token, expiresAt⟩ := by
  rw [← TokenReply.bind_lifetime?, TokenReply.base, ← issuedAt_start, accept, hs,
    if_neg (by decide)]
  simp only [hd, ht]
  cases reply.lifetime? options with
  | none => rfl
  | some lifetime =>
    simp only [Session.bind_apply, Option.bind_some]
    cases (issuedAt net reply s).1.add? lifetime with
    | none => rfl
    | some expiresAt => rfl

theorem answer_accept (net : Network W) (options : TokenOptions) (response : Response) (s : Session W) :
    Answer options (net.now s.world).1 (.ok response) (accept net options response s).1 := by
  cases hs : response.status.isSuccess with
  | false =>
    rw [accept, hs, if_pos (by decide)]
    exact .refused fun h => absurd (Status.isSuccess_iff.mpr h) (by simp [hs])
  | true =>
    have hcode := Status.isSuccess_iff.mp hs
    cases hd : TokenReply.decode? response.body with
    | none =>
      rw [accept, hs, if_neg (by decide), hd]
      exact .malformed hcode hd
    | some reply =>
      cases ht : reply.tokenText? with
      | none =>
        rw [accept, hs, if_neg (by decide)]
        simp only [hd, ht]
        refine .nameless hcode hd ?_
        intro token hn
        rw [TokenReply.tokenText?_eq_some.mpr hn] at ht
        cases ht
      | some token =>
        rw [accept_of_token hs hd ht]
        have hn := TokenReply.tokenText?_eq_some.mp ht
        cases hsum : (reply.base (net.now s.world).1).add? (reply.lifetime options) with
        | none => exact .outside hcode hd hn (Instant.add?_eq_none.mp hsum)
        | some expiresAt => exact .issued hcode hd hn (Instant.add?_eq_some.mp hsum)

/-- The conditions together are what it takes to get a token. -/
theorem Answer.isOk_iff {clock : Instant} {reply? : Except String Response}
    {result : Except TokenFailure IssuedToken} (h : Answer options clock reply? result) :
    (∃ issued, result = .ok issued) ↔
      ∃ response reply token, reply? = .ok response ∧ 200 ≤ response.status.code ∧
        response.status.code < 300 ∧ TokenReply.decode? response.body = some reply ∧
        reply.Names token ∧ (reply.base clock).Reaches (reply.lifetime options) := by
  constructor
  · rintro ⟨issued, rfl⟩
    cases h with
    | issued hs hd hn hsum => exact ⟨_, _, _, rfl, hs.1, hs.2, hd, hn, hsum.reaches⟩
  · rintro ⟨response, reply, token, rfl, hlow, hhigh, hd, hn, hr⟩
    cases h with
    | refused hs => exact absurd ⟨hlow, hhigh⟩ hs
    | malformed hs hd' =>
      rw [hd] at hd'
      cases hd'
    | nameless hs hd' hno =>
      rw [hd] at hd'
      cases hd'
      exact absurd hn (hno token)
    | outside hs hd' hn' hout =>
      rw [hd] at hd'
      cases hd'
      exact absurd hr hout
    | issued => exact ⟨_, rfl⟩

theorem exchange_of_refusal {r : TokenRequest} {credentials : Credentials} {e : TokenFailure}
    (hr : r.toHttp credentials = .error e) (s : Session W) :
    exchange net r credentials options s = (.error e,
      { s with journal := s.journal ++
        [.logged (.tokenRequested r.realm r.service r.scopes.length credentials.isAnonymous)] }) := by
  simp only [exchange, Session.bind_apply, Session.log_apply, hr]
  rfl

theorem exchange_of_silence {r : TokenRequest} {credentials : Credentials} {request : Request}
    {text : String} {s : Session W} (hr : r.toHttp credentials = .ok request)
    (hn : (net.send request s.world).1 = .error text) :
    exchange net r credentials options s = (.error .requestFailed,
      { world := (net.send request s.world).2
        journal := s.journal ++
          [.logged (.tokenRequested r.realm r.service r.scopes.length credentials.isAnonymous),
            .sent .token request (.error text)] }) := by
  simp only [exchange, Session.bind_apply, Session.log_apply, hr, Session.send_apply, hn,
    List.append_assoc]
  rfl

/-- Whatever the endpoint and the clock say: nothing is sent if there is no request to send, and one message
otherwise. A token comes of it exactly if the reply arrives with success, can be read, and carries a token whose life
ends, in integers, within the range of instants; and this end is then the expiry. A life that begins inside a leap
second is counted from there. -/
theorem exchange_exact (net : Network W) (r : TokenRequest) (credentials : Credentials)
    (options : TokenOptions) (s : Session W) :
    let x := r.exchange net credentials options s
    let asked := s.journal ++
      [.logged (.tokenRequested r.realm r.service r.scopes.length credentials.isAnonymous)]
    (∀ e, r.toHttp credentials = .error e → x = (.error e, { s with journal := asked })) ∧
    ∀ request, r.toHttp credentials = .ok request →
      let answer := net.send request s.world
      let clock := (net.now answer.2).1
      x.2.journal = asked ++ [.sent .token request answer.1] ∧
      Answer options clock answer.1 x.1 ∧
      ((∃ issued, x.1 = .ok issued) ↔
        ∃ response reply token, answer.1 = .ok response ∧ 200 ≤ response.status.code ∧
          response.status.code < 300 ∧ TokenReply.decode? response.body = some reply ∧
          reply.Names token ∧ (reply.base clock).Reaches (reply.lifetime options)) ∧
      ∀ issued, x.1 = .ok issued →
        ∃ response reply, answer.1 = .ok response ∧ TokenReply.decode? response.body = some reply ∧
          reply.Names issued.token ∧
          (reply.base clock).IsSum (reply.lifetime options) issued.expiresAt ∧
          (¬ (reply.base clock).inLeapSecond → ¬ issued.expiresAt.inLeapSecond ∧
            issued.expiresAt.unixNanos =
              (reply.base clock).unixNanos + (reply.lifetime options).nanos) := by
  intro x asked
  refine ⟨fun e he => exchange_of_refusal he s, ?_⟩
  intro request hr answer clock
  have hcourse : x.2.journal = asked ++ [.sent .token request answer.1] ∧
      Answer options clock answer.1 x.1 := by
    cases hn : answer.1 with
    | error text =>
      have hx : x = _ := exchange_of_silence hr hn
      rw [hx]
      exact ⟨by simp [asked], .undelivered text⟩
    | ok response =>
      have hx : x = _ := exchange_of_response hr hn
      rw [hx]
      refine ⟨?_, answer_accept net options response ⟨answer.2, _⟩⟩
      simp only [journal_accept, asked, List.append_assoc, List.cons_append, List.nil_append]
  obtain ⟨hjournal, hanswer⟩ := hcourse
  refine ⟨hjournal, hanswer, hanswer.isOk_iff, ?_⟩
  intro issued hissued
  rw [hissued] at hanswer
  generalize answer.1 = reply? at hanswer
  cases hanswer with
  | issued hs hd hn hsum =>
    exact ⟨_, _, rfl, hd, hn, hsum, fun hbase => (Instant.isSum_of_regular hbase).mp hsum⟩

/-- A token that is issued one minute before the end of time may live for a minute. -/
theorem exchange_exact_last_minute :
    let clock : Instant := ⟨Time.lastSecond - 60, 999999999, by decide, by decide, by decide⟩
    let body := Utf8.encode "\x7b\"token\":\"\",\"access_token\":\"abc\",\"expires_in\":60\x7d"
    let net : Network Unit :=
      ⟨fun _ w => (.ok { status := ⟨200⟩, body := body }, w), fun w => (clock, w)⟩
    let r : TokenRequest := ⟨"http://auth.example/token", "registry", ["pull"]⟩
    let x := r.exchange net .anonymous {} ⟨(), []⟩
    ∃ issued, x.1 = .ok issued ∧ issued.token = "abc" ∧
      issued.expiresAt.unixNanos = (Time.lastSecond + 1) * Time.nanosPerSecond - 1 := by
  intro clock body net r x
  have hdecoded : TokenReply.decode? body =
      some { token? := some "", accessToken? := some "abc", expiresIn? := some 60 } := by
    decide +kernel
  have hbuilt : (r.toHttp .anonymous).toOption.isSome = true := by decide +kernel
  cases hr : r.toHttp .anonymous with
  | error e =>
    rw [hr] at hbuilt
    cases hbuilt
  | ok request =>
    obtain ⟨-, -, hiff, hexact⟩ := (exchange_exact net r .anonymous {} ⟨(), []⟩).2 request hr
    have hclock : ¬ clock.inLeapSecond := by decide
    have hreaches : clock.Reaches (.ofSeconds 60) := by decide
    have hlast : clock.unixNanos + (Time.Span.ofSeconds 60).nanos =
        (Time.lastSecond + 1) * Time.nanosPerSecond - 1 := by decide
    obtain ⟨issued, hissued⟩ := hiff.mpr
      ⟨_, _, "abc", rfl, by decide, by decide, hdecoded, ⟨by decide, .inr ⟨.inr rfl, rfl⟩⟩, hreaches⟩
    obtain ⟨_, _, ⟨⟩, hd, ⟨hne, hn⟩, -, hregular⟩ := hexact issued hissued
    cases hdecoded.symm.trans hd
    refine ⟨issued, hissued, ?_, (hregular hclock).2.trans hlast⟩
    rcases hn with hn | ⟨-, hn⟩
    · exact absurd (Option.some.inj hn).symm hne
    · exact (Option.some.inj hn).symm

end TokenRequest

end HttpAuth
