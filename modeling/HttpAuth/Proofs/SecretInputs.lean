import HttpAuth.Proofs.Lockstep
import HttpAuth.Proofs.SequentialCalls

namespace HttpAuth

/-- The same text, or two texts that can be sent. -/
def SameOrSendable (text text' : String) : Prop := text = text' ∨ FieldText text ∧ FieldText text'

/-- Both failed with the same error, or both succeeded with related results. -/
inductive ResultsAlike {ε α β : Type} (R : α → β → Prop) : Except ε α → Except ε β → Prop where
  | error (e : ε) : ResultsAlike R (.error e) (.error e)
  | ok {a : α} {b : β} (h : R a b) : ResultsAlike R (.ok a) (.ok b)

theorem fieldText_append {s t : String} : FieldText (s ++ t) ↔ FieldText s ∧ FieldText t := by
  simp [FieldText, Header.isValue, List.all_append]

theorem SameOrSendable.isValue {text text' : String} (h : SameOrSendable text text') :
    Header.isValue (Utf8.encode text) = Header.isValue (Utf8.encode text') := by
  rcases h with rfl | ⟨ht, ht'⟩
  · rfl
  · exact ht.trans ht'.symm

theorem SameOrSendable.value {token token' : String} (h : SameOrSendable token token') :
    SameOrSendable (BearerAuth.value token) (BearerAuth.value token') := by
  have hlead : FieldText "Bearer " := show Header.isValue _ = true by decide
  rcases h with rfl | ⟨ht, ht'⟩
  · exact .inl rfl
  · exact .inr ⟨fieldText_append.mpr ⟨hlead, ht⟩, fieldText_append.mpr ⟨hlead, ht'⟩⟩

theorem Base64.visible_digit (n : Nat) : 0x20 < (digit n).toNat ∧ (digit n).toNat < 0x7F := by
  have hsmall : ∀ m < 64, 0x20 < (digit m).toNat ∧ (digit m).toNat < 0x7F := by decide
  by_cases hn : n < 64
  · exact hsmall n hn
  · have hlast : digit n = '/' := by
      rw [digit, if_neg (by omega), if_neg (by omega), if_neg (by omega), if_neg (by omega)]
    rw [hlast]
    decide

theorem Base64.visible_encode (bytes : List UInt8) : Visible (Base64.encode bytes) := by
  have hpad : 0x20 < '='.toNat ∧ '='.toNat < 0x7F := by decide
  intro c hc
  rw [Base64.encode, String.toList_ofList] at hc
  induction bytes using Base64.encodeChars.induct with
  | case1 => cases hc
  | case2 a =>
    simp only [encodeChars, List.mem_cons, List.not_mem_nil, or_false] at hc
    rcases hc with rfl | rfl | rfl | rfl
    · exact visible_digit _
    · exact visible_digit _
    · exact hpad
    · exact hpad
  | case3 a b =>
    simp only [encodeChars, List.mem_cons, List.not_mem_nil, or_false] at hc
    rcases hc with rfl | rfl | rfl | rfl
    · exact visible_digit _
    · exact visible_digit _
    · exact visible_digit _
    · exact hpad
  | case4 a b c rest ih =>
    simp only [encodeChars, List.mem_cons] at hc
    rcases hc with rfl | rfl | rfl | rfl | hc
    · exact visible_digit _
    · exact visible_digit _
    · exact visible_digit _
    · exact visible_digit _
    · exact ih hc

theorem fieldText_basicValue (c : Credentials) : FieldText c.basicValue := by
  have hvalue : FieldText (BearerAuth.value _) :=
    (Base64.visible_encode (Utf8.encode (c.username ++ ":" ++ c.password))).isValue
  have hlead : FieldText "Basic " := show Header.isValue _ = true by decide
  exact fieldText_append.mpr ⟨hlead, (fieldText_append.mp hvalue).2⟩

/-- The same user, and both with a password or both without. -/
structure Credentials.Akin (passwords : Prop) (c c' : Credentials) : Prop where
  username : c.username = c'.username
  password : c.password = "" ↔ c'.password = ""
  same : passwords → c = c'

section credentials

variable {passwords : Prop} {c c' : Credentials}

theorem Credentials.Akin.isAnonymous (h : c.Akin passwords c') : c.isAnonymous = c'.isAnonymous := by
  have hpassword : c.password.isEmpty = c'.password.isEmpty := by
    rw [Bool.eq_iff_iff, String.isEmpty_iff, String.isEmpty_iff]
    exact h.password
  rw [Credentials.isAnonymous, Credentials.isAnonymous, h.username, hpassword]

theorem Credentials.Akin.describe (h : c.Akin passwords c') : c.describe = c'.describe := by
  unfold Credentials.describe
  rw [h.username]

/-- Token requests differ in the value of their authorization field. -/
theorem Credentials.Akin.toHttp (h : c.Akin passwords c') (r : TokenRequest) :
    ResultsAlike (fun q q' => q.veil = q'.veil ∧ (passwords → q = q')) (r.toHttp c) (r.toHttp c') := by
  have hheaders : ∀ uri, ({ uri := uri, headers := TokenRequest.headers c } : Request).veil =
      ({ uri := uri, headers := TokenRequest.headers c' } : Request).veil := by
    intro uri
    unfold Request.veil TokenRequest.headers
    rw [h.isAnonymous]
    cases c'.isAnonymous with
    | true => simp only [if_pos]
    | false => simp only [Bool.false_eq_true, if_false, List.map_cons, List.map_nil, if_true]
  unfold TokenRequest.toHttp
  cases Url.parse? r.realm with
  | none => exact .error _
  | some url =>
    simp only
    cases Uri.parse? (url.appendPairs r.pairs).text with
    | none => exact .error _
    | some uri => exact .ok ⟨hheaders uri, fun hp => by rw [h.same hp]⟩

end credentials

structure IssuedToken.Akin (t t' : IssuedToken) : Prop where
  token : SameOrSendable t.token t'.token
  expiresAt : t.expiresAt = t'.expiresAt

theorem IssuedToken.Akin.isFresh {t t' : IssuedToken} (h : t.Akin t') (now : Time.Instant)
    (leeway : Time.Span) : t.isFresh now leeway = t'.isFresh now leeway := by
  rw [IssuedToken.isFresh, IssuedToken.isFresh, h.expiresAt]

theorem IssuedToken.Akin.describe {t t' : IssuedToken} (h : t.Akin t') : t.describe = t'.describe := by
  unfold IssuedToken.describe
  rw [h.expiresAt]

/-- Two replies that lead to akin tokens. -/
structure TokenReply.Akin (reply reply' : TokenReply) : Prop where
  tokenText : Option.Rel SameOrSendable reply.tokenText? reply'.tokenText?
  expiresIn : reply.expiresIn? = reply'.expiresIn?
  issuedAt : reply.issuedAt? = reply'.issuedAt?

theorem TextsAlike.filter {text? text'? : Option String} (h : TextsAlike text? text'?) :
    Option.Rel SameOrSendable (text?.filter (!·.isEmpty)) (text'?.filter (!·.isEmpty)) := by
  cases h with
  | absent => exact .none
  | @present text text' he ht ht' =>
    by_cases hempty : text = ""
    · rw [he.mp hempty, hempty]
      exact .none
    · have hempty' : text' ≠ "" := fun hn => hempty (he.mpr hn)
      simp only [Option.filter_some, Bool.not_eq_true', String.isEmpty_eq_false_iff, hempty, hempty', ne_eq,
        not_false_eq_true, ↓reduceIte]
      exact .some (.inr ⟨ht, ht'⟩)

theorem rel_or {α : Type} {R : α → α → Prop} {x? x'? y? y'? : Option α} (hx : Option.Rel R x? x'?)
    (hy : Option.Rel R y? y'?) : Option.Rel R (x?.or y?) (x'?.or y'?) := by
  cases hx with
  | some h => exact .some h
  | none => exact hy

theorem TokenReply.SameButTokens.akin {reply reply' : TokenReply} (h : reply.SameButTokens reply') :
    reply.Akin reply' :=
  ⟨rel_or h.token.filter h.accessToken.filter, h.expiresIn, h.issuedAt⟩

theorem TokenReply.akin_refl (reply : TokenReply) : reply.Akin reply := by
  refine ⟨?_, rfl, rfl⟩
  cases reply.tokenText? with
  | none => exact .none
  | some text => exact .some (.inl rfl)

theorem RepliesAlike.decoded {response response' : Response}
    (h : RepliesAlike .token (.ok response) (.ok response')) :
    response.status = response'.status ∧
      Option.Rel TokenReply.Akin (TokenReply.decode? response.body) (TokenReply.decode? response'.body) := by
  cases h with
  | same =>
    refine ⟨rfl, ?_⟩
    cases TokenReply.decode? response.body with
    | none => exact .none
    | some reply => exact .some reply.akin_refl
  | tokens hs hd hd' h =>
    refine ⟨rfl, ?_⟩
    rw [hd, hd']
    exact .some h.akin

section exchange

variable {p : Pair}

theorem lockstep_issuedAt {reply reply' : TokenReply} (h : reply.issuedAt? = reply'.issuedAt?) :
    Lockstep p Eq (TokenRequest.issuedAt p.first.network reply)
      (TokenRequest.issuedAt p.second.network reply') := by
  unfold TokenRequest.issuedAt
  rw [h]
  cases reply'.issuedAt? with
  | some instant => exact lockstep_pure rfl
  | none => exact lockstep_now

theorem lockstep_accept {response response' : Response}
    (h : RepliesAlike .token (.ok response) (.ok response')) (options : TokenOptions) :
    Lockstep p (ResultsAlike IssuedToken.Akin) (TokenRequest.accept p.first.network options response)
      (TokenRequest.accept p.second.network options response') := by
  obtain ⟨hstatus, hdecoded⟩ := h.decoded
  unfold TokenRequest.accept
  rw [hstatus]
  split
  · exact lockstep_pure (.error _)
  · generalize TokenReply.decode? response.body = reply? at hdecoded
    generalize TokenReply.decode? response'.body = reply'? at hdecoded
    cases hdecoded with
    | none => exact lockstep_pure (.error _)
    | @some reply reply' hreply =>
      simp only
      have htext := hreply.tokenText
      generalize reply.tokenText? = text? at htext
      generalize reply'.tokenText? = text'? at htext
      cases htext with
      | none => exact lockstep_pure (.error _)
      | some htoken =>
        have hlifetime : reply.lifetime? options = reply'.lifetime? options := by
          rw [TokenReply.lifetime?, TokenReply.lifetime?, hreply.expiresIn]
        simp only [hlifetime]
        cases reply'.lifetime? options with
        | none => exact lockstep_pure (.error _)
        | some lifetime =>
          apply (lockstep_issuedAt hreply.issuedAt).bind
          rintro start _ rfl
          cases start.add? lifetime with
          | none => exact lockstep_pure (.error _)
          | some expiresAt => exact lockstep_pure (.ok ⟨htoken, rfl⟩)

theorem Credentials.Akin.exchange {c c' : Credentials} (h : c.Akin p.passwords c') (r : TokenRequest)
    (options : TokenOptions) :
    Lockstep p (ResultsAlike IssuedToken.Akin) (r.exchange p.first.network c options)
      (r.exchange p.second.network c' options) := by
  unfold TokenRequest.exchange
  rw [h.isAnonymous]
  apply lockstep_after_log
  have hrequest := h.toHttp r
  generalize r.toHttp c = result at hrequest
  generalize r.toHttp c' = result' at hrequest
  cases hrequest with
  | error e => exact lockstep_pure (.error e)
  | ok hq =>
    obtain ⟨hveil, hsame⟩ := hq
    apply (lockstep_send hveil fun hp _ => hsame hp).bind
    intro reply reply' hreply
    cases reply with
    | error e =>
      cases hreply
      exact lockstep_pure (.error _)
    | ok response =>
      cases reply' with
      | error e => cases hreply
      | ok response' => exact lockstep_accept hreply options

end exchange

/-- What a log may show of a handler. -/
def Handler.describe : Handler → String
  | basic b => b.describe
  | bearer b => b.describe

structure BasicAuth.Akin (passwords : Prop) (b b' : BasicAuth) : Prop where
  realm : b.realm? = b'.realm?
  credentials : b.credentials.Akin passwords b'.credentials

structure BearerAuth.Akin (passwords : Prop) (b b' : BearerAuth) : Prop where
  host : b.host = b'.host
  credentials : b.credentials.Akin passwords b'.credentials
  options : b.options = b'.options
  realm : b.realm? = b'.realm?
  service : b.service? = b'.service?
  scopes : b.scopes = b'.scopes
  token : Option.Rel IssuedToken.Akin b.token? b'.token?

/-- Handlers that differ in passwords and tokens. -/
inductive Handler.Akin (passwords : Prop) : Handler → Handler → Prop where
  | basic {b b' : BasicAuth} (h : b.Akin passwords b') : Akin passwords (.basic b) (.basic b')
  | bearer {b b' : BearerAuth} (h : b.Akin passwords b') : Akin passwords (.bearer b) (.bearer b')

section handlers

variable {p : Pair} {passwords : Prop}

theorem BearerAuth.describeToken_congr {t? t'? : Option IssuedToken}
    (h : Option.Rel IssuedToken.Akin t? t'?) : describeToken t? = describeToken t'? := by
  cases h with
  | none => rfl
  | some h => exact congrArg (fun text => "Some(" ++ text ++ ")") h.describe

theorem Handler.Akin.describe {h h' : Handler} (hh : h.Akin passwords h') : h.describe = h'.describe := by
  cases hh with
  | @basic b b' h =>
    change b.describe = b'.describe
    unfold BasicAuth.describe
    rw [h.realm, h.credentials.describe]
  | @bearer b b' h =>
    change b.describe = b'.describe
    unfold BearerAuth.describe
    rw [h.host, h.realm, h.service, h.scopes, BearerAuth.describeToken_congr h.token]

theorem BasicAuth.Akin.learn {b b' : BasicAuth} (h : b.Akin passwords b') (c : Challenge) :
    ResultsAlike (BasicAuth.Akin passwords) (b.learn c) (b'.learn c) := by
  unfold BasicAuth.learn
  rw [h.realm]
  cases c.param? "realm" with
  | none => exact .error _
  | some realm =>
    simp only
    split
    · exact .error _
    · exact .ok ⟨rfl, h.credentials⟩

/-- Both keep their tokens, or both drop them. -/
theorem BearerAuth.Akin.learn {b b' : BearerAuth} (h : b.Akin passwords b') (c : Challenge) :
    ResultsAlike (BearerAuth.Akin passwords) (b.learn c) (b'.learn c) := by
  unfold BearerAuth.learn
  rw [h.realm, h.service, h.scopes]
  cases BearerAuth.required c "realm" with
  | error e => exact .error e
  | ok realm =>
    cases BearerAuth.required c "service" with
    | error e => exact .error e
    | ok service =>
      cases BearerAuth.required c "scope" with
      | error e => exact .error e
      | ok scope =>
        change ResultsAlike _ (if _ then _ else _) (if _ then _ else _)
        split
        · exact .error _
        · cases BearerAuth.bind b'.realm? realm "realm" with
          | error e => exact .error e
          | ok u =>
            cases BearerAuth.bind b'.service? service "service" with
            | error e => exact .error e
            | ok u =>
              change ResultsAlike _ (Except.ok (if _ then _ else _)) (Except.ok (if _ then _ else _))
              split
              · exact .ok ⟨h.host, h.credentials, h.options, rfl, rfl, rfl, h.token⟩
              · exact .ok ⟨h.host, h.credentials, h.options, rfl, rfl, rfl, .none⟩

theorem Handler.Akin.learn {h h' : Handler} (hh : h.Akin passwords h') (c : Challenge) :
    (Handler.learn c h).1 = (Handler.learn c h').1 ∧
      (Handler.learn c h).2.Akin passwords (Handler.learn c h').2 := by
  cases hh with
  | @basic b b' h =>
    have hlearn := h.learn c
    unfold Handler.learn
    simp only
    generalize b.learn c = result at hlearn
    generalize b'.learn c = result' at hlearn
    cases hlearn with
    | error e => exact ⟨rfl, .basic h⟩
    | ok hnext => exact ⟨rfl, .basic hnext⟩
  | @bearer b b' h =>
    have hlearn := h.learn c
    unfold Handler.learn
    simp only
    generalize b.learn c = result at hlearn
    generalize b'.learn c = result' at hlearn
    cases hlearn with
    | error e => exact ⟨rfl, .bearer h⟩
    | ok hnext => exact ⟨rfl, .bearer hnext⟩

/-- What comes of asking two handlers for a value. -/
def Answers {κ : Type} (R : κ → κ → Prop) (r r' : Except AuthError String × κ) : Prop :=
  ResultsAlike SameOrSendable r.1 r'.1 ∧ R r.2 r'.2

theorem BearerAuth.Akin.renew {b b' : BearerAuth} (h : b.Akin p.passwords b') (realm service : String) :
    Lockstep p (Answers (BearerAuth.Akin p.passwords)) (b.renew p.first.network realm service)
      (b'.renew p.second.network realm service) := by
  unfold BearerAuth.renew
  rw [h.scopes, h.options]
  apply (h.credentials.exchange _ _).bind
  rintro _ _ (e | htoken)
  · exact lockstep_pure ⟨.error _, h⟩
  · exact lockstep_pure ⟨.ok htoken.token.value, h.host, h.credentials, rfl, h.realm, h.service, rfl,
      .some htoken⟩

theorem BearerAuth.Akin.authorize {b b' : BearerAuth} (h : b.Akin p.passwords b') :
    Lockstep p (Answers (BearerAuth.Akin p.passwords)) (b.authorize p.first.network)
      (b'.authorize p.second.network) := by
  unfold BearerAuth.authorize
  rw [h.realm, h.service, h.options, h.host]
  cases b'.realm? with
  | none => exact lockstep_pure ⟨.error _, h⟩
  | some realm =>
    cases b'.service? with
    | none => exact lockstep_pure ⟨.error _, h⟩
    | some service =>
      simp only
      apply lockstep_now.bind
      rintro now _ rfl
      have hfresh : Option.Rel IssuedToken.Akin (b.token?.filter (·.isFresh now b'.options.leeway))
          (b'.token?.filter (·.isFresh now b'.options.leeway)) := by
        have htoken := h.token
        generalize b.token? = t? at htoken
        generalize b'.token? = t'? at htoken
        cases htoken with
        | none => exact .none
        | some htoken =>
          rw [Option.filter_some, Option.filter_some, htoken.isFresh]
          split
          · exact .some htoken
          · exact .none
      generalize b.token?.filter _ = t? at hfresh
      generalize b'.token?.filter _ = t'? at hfresh
      cases hfresh with
      | none => exact h.renew realm service
      | some htoken =>
        apply lockstep_after_log
        exact lockstep_pure ⟨.ok htoken.token.value, h⟩

theorem Handler.Akin.authorize {h h' : Handler} (hh : h.Akin p.passwords h') :
    Lockstep p (Answers (Handler.Akin p.passwords)) (h.authorize p.first.network)
      (h'.authorize p.second.network) := by
  cases hh with
  | @basic b b' h =>
    apply lockstep_pure
    refine ⟨?_, .basic h⟩
    simp only [BasicAuth.authorize, h.credentials.isAnonymous]
    split
    · exact .error _
    · exact .ok (.inr ⟨fieldText_basicValue _, fieldText_basicValue _⟩)
  | bearer h => exact h.authorize.bind fun _ _ hr => lockstep_pure ⟨hr.1, .bearer hr.2⟩

end handlers

end HttpAuth
