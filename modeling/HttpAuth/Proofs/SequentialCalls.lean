import HttpAuth.Proofs.BearerKnowledge
import HttpAuth.Proofs.BearerServer
import HttpAuth.Proofs.Discreet
import HttpAuth.Proofs.RoundTrip

namespace HttpAuth

/-- The bearer challenge that makes a demand. -/
def Demand.challenge (d : Demand) : Challenge :=
  (((Challenge.ofScheme "bearer").set "realm" d.realm).set "service" d.service).set "scope" d.scope

theorem Demand.demand?_challenge (d : Demand) : d.challenge.demand? = some d := by
  apply Challenge.demand?_of_params
  · rw [challenge, Challenge.param?_set, if_neg (by decide), Challenge.param?_set,
      if_neg (by decide), Challenge.param?_set, if_pos (by decide)]
  · rw [challenge, Challenge.param?_set, if_neg (by decide), Challenge.param?_set,
      if_pos (by decide)]
  · rw [challenge, Challenge.param?_set, if_pos (by decide)]

/-- Printed and sent, it reads back as it was. -/
theorem Demand.parseAll_challenge (d : Demand) :
    Challenge.parseAll [Utf8.encode (Challenge.renderAll [d.challenge])] = .ok [d.challenge] := by
  have hwords : ∀ c ∈ [d.challenge], ∀ n ∈ c.names, n.IsWord := by
    intro c hc n hn
    rw [List.mem_singleton.mp hc, challenge] at hn
    rcases Challenge.names_set hn with rfl | hn
    · exact Name.isWord_ofText (by decide) rfl
    · rcases Challenge.names_set hn with rfl | hn
      · exact Name.isWord_ofText (by decide) rfl
      · rcases Challenge.names_set hn with rfl | hn
        · exact Name.isWord_ofText (by decide) rfl
        · rw [List.mem_singleton.mp hn]
          exact Name.isWord_ofText (by decide) rfl
  rw [Challenge.parseAll, Challenge.parse_renderAll_of_words hwords]
  rfl

/-- Printable ASCII without the blank. -/
def Visible (token : String) : Prop := ∀ c ∈ token.toList, 0x20 < c.toNat ∧ c.toNat < 0x7F

theorem Visible.isValue {token : String} (h : Visible token) :
    Header.isValue (Utf8.encode (BearerAuth.value token)) = true := by
  have hlead : Header.isValue (Utf8.encode "Bearer ") = true := by decide
  have htoken : ∀ b ∈ Utf8.encode token, Header.isValueByte b = true := by
    intro b hb
    obtain ⟨c, hc, hb⟩ := List.mem_flatMap.mp hb
    obtain ⟨hlow, hhigh⟩ := h c hc
    rw [Utf8.encodeChar_ascii (by omega), List.mem_singleton] at hb
    subst hb
    have hn := Utf8.toNat_ofNat_byte (show c.toNat < 0x100 by omega)
    simp only [Header.isValueByte, Bool.or_eq_true, Bool.and_eq_true, decide_eq_true_eq, ne_eq,
      UInt8.le_iff_toNat_le, ← UInt8.toNat_inj, hn]
    exact .inl ⟨Nat.le_of_lt hlow, Nat.ne_of_lt hhigh⟩
  rw [BearerAuth.value, Utf8.encode_append, Header.isValue, List.all_append, Bool.and_eq_true]
  exact ⟨hlead, List.all_eq_true.mpr htoken⟩

theorem value_injective {token other : String}
    (h : Utf8.encode (BearerAuth.value token) = Utf8.encode (BearerAuth.value other)) :
    token = other := by
  have hv := Utf8.encode_injective h
  simpa [BearerAuth.value] using hv

namespace BearerServer

variable {W : Type}

/-- What the server demands of a request. -/
def demand (v : BearerServer W) (q : Request) : Demand := ⟨v.realm, v.service, v.scope q⟩

/-- The scopes that requests demand, each where it comes first. -/
def demanded (v : BearerServer W) (requests : List Request) : List String :=
  (requests.map v.scope).eraseDups

/-- The server accepts a token for the scopes that `issue` makes it for, and nothing else. It refuses with its
demand as the only challenge. -/
structure Strict (v : BearerServer W) (issue : List String → String) : Prop extends v.Gated where
  challenge : ∀ q r, v.refusals q r → Headers.values r.headers Header.wwwAuthenticate =
    [Utf8.encode (Challenge.renderAll [(v.demand q).challenge])]
  granted : ∀ w token scopes, v.granted w token scopes ↔ token = issue scopes

/-- For these scopes a token can be asked for, and the endpoint issues it. It can be sent, its end can be told, and
it is not issued for other scopes. -/
structure Issues (v : BearerServer W) (credentials : Credentials) (options : TokenOptions)
    (issue : List String → String) (scopes : List String) : Prop where
  requested : ∃ q, TokenRequest.toHttp ⟨v.realm, v.service, scopes⟩ credentials = .ok q
  answered : ∀ q w, TokenRequest.toHttp ⟨v.realm, v.service, scopes⟩ credentials = .ok q →
    ∃ response reply expiresAt, (v.net.send q w).1 = .ok response ∧
      response.status.isSuccess = true ∧ TokenReply.decode? response.body = some reply ∧
      reply.tokenText? = some (issue scopes) ∧
      (reply.issuedAt?.getD (v.net.now (v.net.send q w).2).1).add? (reply.lifetime options) =
        some expiresAt
  visible : Visible (issue scopes)
  injective : ∀ other, issue other = issue scopes → other = scopes

variable {v : BearerServer W} {issue : List String → String} {credentials : Credentials}
  {options : TokenOptions} {scopes : List String}

theorem Strict.fair (hv : v.Strict issue) : v.Fair where
  toGated := hv.toGated
  refuses q r hr := by
    refine ⟨(v.demand q).challenge, ?_, rfl, (v.demand q).demand?_challenge⟩
    rw [hv.challenge q r hr, Demand.parseAll_challenge]
  keeps q w token scopes h := (hv.granted _ _ _).mpr ((hv.granted _ _ _).mp h)
  remembers w token scopes h := (hv.granted _ _ _).mpr ((hv.granted _ _ _).mp h)

theorem Issues.grants (hi : v.Issues credentials options issue scopes) (hv : v.Strict issue)
    {q : Request} (hq : TokenRequest.toHttp ⟨v.realm, v.service, scopes⟩ credentials = .ok q)
    (w : W) : v.Grants options scopes q w := by
  obtain ⟨response, reply, expiresAt, hsend, hstatus, hd, ht, he⟩ := hi.answered q w hq
  exact ⟨response, reply, issue scopes, expiresAt, hsend, hstatus, hd, ht, he, hi.visible.isValue,
    (hv.granted _ _ _).mpr rfl⟩

/-- A token for other scopes is refused. -/
theorem Issues.send_refused (hi : v.Issues credentials options issue scopes) (hv : v.Strict issue)
    {host token : String} {q : Request} {w w' : W} (hq : v.Plain host q)
    (ht : v.granted w' token scopes) (hs : v.scope q ∉ scopes) :
    ∃ r, (v.net.send (Authenticator.withAuthorization q (Utf8.encode (BearerAuth.value token))) w).1 = .ok r ∧
      v.refusals q r := by
  have hb : (Authenticator.withAuthorization q (Utf8.encode (BearerAuth.value token))).bare = q := by
    rw [bare_withAuthorization, bare_of_values_nil hq.noValue]
  have hr := hv.refused (Authenticator.withAuthorization q (Utf8.encode (BearerAuth.value token))) w
  rw [hb] at hr
  apply hr hq.served
  rintro ⟨other, scopes', hvalue, hgranted, hscope⟩
  rw [values_withAuthorization] at hvalue
  have hsame : token = other := value_injective (List.singleton_inj.mp hvalue)
  rw [hv.granted] at ht hgranted
  have hscopes : scopes' = scopes := hi.injective scopes' (by rw [← hgranted, ← hsame, ht])
  rw [hb, hscopes] at hscope
  exact hs hscope

theorem demanded_concat (v : BearerServer W) (requests : List Request) (q : Request) :
    v.demanded (requests ++ [q]) =
      if v.scope q ∈ v.demanded requests then v.demanded requests
      else v.demanded requests ++ [v.scope q] := by
  rw [demanded, demanded, List.map_append, List.map_cons, List.map_nil, eraseDups_concat]
  simp only [List.mem_eraseDups]

theorem demanded_prefix (v : BearerServer W) (requests more : List Request) :
    v.demanded requests <+: v.demanded (requests ++ more) := by
  rw [demanded, demanded, List.map_append, List.eraseDups_append]
  exact List.prefix_append _ _

end BearerServer

namespace Authenticator

open BearerServer (demanded_concat demanded_prefix)

variable {W H : Type}

section messages

variable {net : Network W} {hd : Handling W H} {a a₁ a₂ a₃ : Authenticator H} {q : Request}
  {first? second? : Option Request} {response : Response} {s s₁ s₂ s₃ : Session W}

/-- A call that is not refused sends one message. -/
theorem send_of_page (ha : a.authorize hd q s = ((first?, a₁), s₁))
    (hr : (net.send (first?.getD q) s₁.world).1 = .ok response)
    (hs : response.status ≠ .unauthorized) :
    a.send net hd q s =
      ((.ok response, a₁), (Session.send net .delivery (first?.getD q) s₁).2) := by
  simp only [send, Session.bind_apply, ha, Session.send_apply, hr, if_pos hs]
  rfl

/-- A call that is refused and learns from it sends two. -/
theorem send_of_lesson (ha : a.authorize hd q s = ((first?, a₁), s₁))
    (hr : (net.send (first?.getD q) s₁.world).1 = .ok response)
    (hs : response.status = .unauthorized)
    (hl : a₁.learn hd q.uri response (Session.send net .delivery (first?.getD q) s₁).2 =
      ((.ok (), a₂), s₂))
    (ha₂ : a₂.authorize hd q s₂ = ((second?, a₃), s₃)) :
    a.send net hd q s = (((net.send (second?.getD q) s₃.world).1, a₃),
      (Session.send net .delivery (second?.getD q) s₃).2) := by
  rw [Session.send_apply, hr] at hl
  simp only [send, Session.bind_apply, ha, Session.send_apply, hr, hs, ne_eq, not_true_eq_false,
    ↓reduceIte, hl, ha₂]
  rfl

end messages

/-- What comes of a call for `q` once `scopes` are known. -/
structure Paged (v : BearerServer W) (provider : CredentialsProvider) (options : TokenOptions)
    (host : String) (q : Request) (scopes scopes' : List String) (before : Nat)
    (r : (Except String Response × Authenticator Handler) × Session W) : Prop where
  reply : ∃ response, r.1.1 = .ok response ∧ v.pages q response
  knows : Knows v provider options host r.2.world scopes' r.1.2
  deliveries : r.2.deliveries + scopes.length = before + 1 + scopes'.length

section calls

variable {v : BearerServer W} {provider : CredentialsProvider} {options : TokenOptions}
  {host : String} {issue : List String → String} {q : Request} {scopes : List String}
  {a : Authenticator Handler} {s : Session W}

/-- A page whose scope is known takes one message. -/
theorem Knows.send_known (hv : v.Strict issue) (hp : v.Plain host q)
    (hk : Knows v provider options host s.world scopes a)
    (hi : v.Issues (provider host) options issue scopes) (hq : v.scope q ∈ scopes) :
    Paged v provider options host q scopes scopes s.deliveries
      (a.send v.net (Handler.handling v.net) q s) := by
  obtain ⟨r, hr⟩ := hi.requested
  obtain ⟨token, a₁, s₁, ha, hu, -, hk₁⟩ := hk.authorize hv.fair (List.ne_nil_of_mem hq) hr
    (hi.grants hv hr) hp.hostKey
  have hquiet := (discreet_authorize (Handler.handling v.net) (Handler.discreet_authorize v.net)
    a q).quiet s
  rw [ha] at hquiet
  obtain ⟨response, hsend, hpage⟩ := hv.fair.send_usable hp hu hq
  rw [send_of_page ha hsend (hv.fair.page_ne hpage)]
  refine ⟨⟨response, rfl, hpage⟩, hk₁.later (hv.fair.keeps _ _), ?_⟩
  rw [Session.deliveries_send, hquiet]

/-- A page whose scope is new takes two. -/
theorem Knows.send_new (hv : v.Strict issue) (hp : v.Plain host q)
    (hk : Knows v provider options host s.world scopes a)
    (hi : scopes ≠ [] → v.Issues (provider host) options issue scopes)
    (hi' : v.Issues (provider host) options issue (scopes ++ [v.scope q]))
    (hq : v.scope q ∉ scopes) :
    Paged v provider options host q scopes (scopes ++ [v.scope q]) s.deliveries
      (a.send v.net (Handler.handling v.net) q s) := by
  have hfirst : ∃ first? a₁ s₁, a.authorize (Handler.handling v.net) q s = ((first?, a₁), s₁) ∧
      (∃ r, (v.net.send (first?.getD q) s₁.world).1 = .ok r ∧ v.refusals q r) ∧
        Knows v provider options host s₁.world scopes a₁ := by
    by_cases hne : scopes = []
    · subst hne
      cases hk with
      | nothing =>
        exact ⟨none, _, s, authorize_bearerOnly v.net q s, hv.fair.send_plain hp s.world, .nothing⟩
      | learned h hne => exact absurd rfl hne
    · obtain ⟨r, hr⟩ := (hi hne).requested
      obtain ⟨token, a₁, s₁, ha, hu, -, hk₁⟩ := hk.authorize hv.fair hne hr
        ((hi hne).grants hv hr) hp.hostKey
      exact ⟨_, a₁, s₁, ha, (hi hne).send_refused hv hp hu.granted hq, hk₁⟩
  obtain ⟨first?, a₁, s₁, ha, ⟨response, hrefused, hresponse⟩, hk₁⟩ := hfirst
  have hsent : Knows v provider options host
      (Session.send v.net .delivery (first?.getD q) s₁).2.world scopes a₁ :=
    hk₁.later (hv.fair.keeps _ _)
  obtain ⟨a₂, s₂, hl, -, hk₂⟩ := hsent.learn_new hv.fair hp.hostKey hresponse hq
  obtain ⟨r, hr⟩ := hi'.requested
  obtain ⟨token, a₃, s₃, ha₂, hu, -, hk₃⟩ := hk₂.authorize hv.fair (by simp) hr
    (hi'.grants hv hr) hp.hostKey
  have hquiet := (discreet_authorize (Handler.handling v.net) (Handler.discreet_authorize v.net)
    a q).quiet s
  have hquiet₂ := (discreet_learn (Handler.handling v.net) a₁ q.uri response).quiet
    (Session.send v.net .delivery (first?.getD q) s₁).2
  have hquiet₃ := (discreet_authorize (Handler.handling v.net) (Handler.discreet_authorize v.net)
    a₂ q).quiet s₂
  rw [ha] at hquiet
  rw [hl, Session.deliveries_send] at hquiet₂
  rw [ha₂] at hquiet₃
  rw [send_of_lesson ha hrefused (hv.unauthorized q response hresponse) hl ha₂]
  refine ⟨hv.fair.send_usable hp hu (by simp), hk₃.later (hv.fair.keeps _ _), ?_⟩
  rw [Session.deliveries_send, hquiet₃, hquiet₂, hquiet, List.length_append]
  simp only [List.length_cons, List.length_nil]
  omega

end calls

/-- Sends requests, one after the other. -/
def sendAll (net : Network W) (hd : Handling W H) (a : Authenticator H) :
    List Request → SessionM W (List (Except String Response) × Authenticator H)
  | [] => return ([], a)
  | q :: rest => do
    let (reply, a) ← a.send net hd q
    let (replies, a) ← sendAll net hd a rest
    return (reply :: replies, a)

theorem sendAll_cons (net : Network W) (hd : Handling W H) (a : Authenticator H) (q : Request)
    (rest : List Request) (s : Session W) :
    let first := a.send net hd q s
    let more := sendAll net hd first.1.2 rest first.2
    sendAll net hd a (q :: rest) s = ((first.1.1 :: more.1.1, more.1.2), more.2) := rfl

section runs

variable {v : BearerServer W} {provider : CredentialsProvider} {options : TokenOptions}
  {host : String} {issue : List String → String} {requests : List Request}

theorem Knows.send (hv : v.Strict issue) {done rest : List Request} {q : Request}
    (hi : ∀ scopes, scopes ≠ [] → scopes <+: v.demanded (done ++ q :: rest) →
      v.Issues (provider host) options issue scopes)
    (hp : v.Plain host q) {a : Authenticator Handler} {s : Session W}
    (hk : Knows v provider options host s.world (v.demanded done) a) :
    Paged v provider options host q (v.demanded done) (v.demanded (done ++ [q])) s.deliveries
      (a.send v.net (Handler.handling v.net) q s) := by
  have hknown : v.demanded done <+: v.demanded (done ++ q :: rest) := demanded_prefix v _ _
  have hnext := demanded_prefix v (done ++ [q]) rest
  rw [← List.append_cons] at hnext
  rw [demanded_concat] at hnext ⊢
  by_cases hq : v.scope q ∈ v.demanded done
  · rw [if_pos hq]
    exact hk.send_known hv hp (hi _ (List.ne_nil_of_mem hq) hknown) hq
  · rw [if_neg hq] at hnext ⊢
    exact hk.send_new hv hp (fun hne => hi _ hne hknown) (hi _ (by simp) hnext) hq

/-- The induction is on the calls to come; `done` are those that were made. -/
theorem Knows.sendAll (hv : v.Strict issue) (done : List Request) {rest : List Request}
    (hi : ∀ scopes, scopes ≠ [] → scopes <+: v.demanded (done ++ rest) →
      v.Issues (provider host) options issue scopes)
    (hp : ∀ q ∈ rest, v.Plain host q) {a : Authenticator Handler} {s : Session W}
    (hk : Knows v provider options host s.world (v.demanded done) a) :
    let r := Authenticator.sendAll v.net (Handler.handling v.net) a rest s
    List.Forall₂ (fun q reply => ∃ response, reply = .ok response ∧ v.pages q response) rest r.1.1 ∧
      Knows v provider options host r.2.world (v.demanded (done ++ rest)) r.1.2 ∧
      r.2.deliveries + (v.demanded done).length =
        s.deliveries + rest.length + (v.demanded (done ++ rest)).length := by
  induction rest generalizing done a s with
  | nil =>
    rw [List.append_nil]
    exact ⟨.nil, hk, rfl⟩
  | cons q rest ih =>
    obtain ⟨hq, hrest⟩ := List.forall_mem_cons.mp hp
    obtain ⟨hreply, hknows, hcount⟩ := hk.send hv hi hq
    rw [List.append_cons] at hi ⊢
    obtain ⟨hreplies, hknows', hcount'⟩ := ih _ hi hrest hknows
    rw [sendAll_cons]
    refine ⟨.cons hreply hreplies, hknows', ?_⟩
    dsimp only at hcount' ⊢
    rw [List.length_cons]
    omega

end runs

/-- Every call gets its page, whatever scopes are demanded in whatever order. Each scope costs one message more than
the calls themselves, and in the end all of them are known in the order in which they came first. -/
theorem sequential_calls_succeed (v : BearerServer W) (issue : List String → String)
    (provider : CredentialsProvider) (options : TokenOptions) (host : String)
    (requests : List Request) (s : Session W) (hv : v.Strict issue)
    (hi : ∀ scopes, scopes ≠ [] → scopes <+: v.demanded requests →
      v.Issues (provider host) options issue scopes)
    (hp : ∀ q ∈ requests, v.Plain host q) :
    let r := sendAll v.net (Handler.handling v.net) (bearerOnly provider options) requests s
    List.Forall₂ (fun q reply => ∃ response, reply = .ok response ∧ v.pages q response) requests r.1.1 ∧
      r.2.deliveries = s.deliveries + requests.length + (v.demanded requests).length ∧
      (requests ≠ [] → ∃ h, r.1.2.handler? (bearerSlot host) = some (.bearer h) ∧
        h.wanted? = some ⟨v.realm, v.service, v.demanded requests⟩) := by
  intro r
  have hstart : Knows v provider options host s.world (v.demanded []) (bearerOnly provider options) :=
    .nothing
  obtain ⟨hreplies, hknows, hcount⟩ := hstart.sendAll hv [] hi hp
  refine ⟨hreplies, hcount, ?_⟩
  intro hne
  rw [List.nil_append] at hknows
  change Knows v provider options host r.2.world _ r.1.2 at hknows
  generalize r.1.2 = a at hknows
  generalize hscopes : v.demanded requests = scopes at hknows
  cases hknows with
  | nothing =>
    cases requests with
    | nil => exact absurd rfl hne
    | cons q rest =>
      rw [BearerServer.demanded, List.map_cons, List.eraseDups_cons] at hscopes
      cases hscopes
  | learned h _ hw => exact ⟨h, handler?_withBearer h, hw⟩

/-- Another token for each list of scopes that is asked for below. -/
def tokenFor (scopes : List String) : String :=
  if scopes = ["pull"] then "one" else if scopes = ["pull", "push"] then "two" else "other"

def tokenReply (token : String) : Response :=
  { status := ⟨200⟩, body := Utf8.encode ("\x7b\"token\":\"" ++ token ++ "\"\x7d") }

/-- Whether `tokenFor` makes the value for scopes of which one is `scope`. -/
def admits (scope : String) (values : List (List UInt8)) : Bool :=
  values = [Utf8.encode "Bearer one"] && scope = "pull" || values = [Utf8.encode "Bearer two"] ||
    values = [Utf8.encode "Bearer other"]

theorem admits_iff {scope : String} {values : List (List UInt8)} (hs : scope = "pull" ∨ scope = "push") :
    admits scope values = true ↔
      ∃ scopes, values = [Utf8.encode (BearerAuth.value (tokenFor scopes))] ∧ scope ∈ scopes := by
  simp only [admits, Bool.or_eq_true, Bool.and_eq_true, decide_eq_true_eq]
  constructor
  · rintro ((⟨hv, rfl⟩ | hv) | hv)
    · exact ⟨["pull"], hv, List.mem_cons_self⟩
    · refine ⟨["pull", "push"], hv, ?_⟩
      rcases hs with rfl | rfl <;> simp
    · refine ⟨["push", "pull"], hv, ?_⟩
      rcases hs with rfl | rfl <;> simp
  · rintro ⟨scopes, hv, hm⟩
    unfold tokenFor at hv
    split at hv
    · next hone =>
      rw [hone, List.mem_singleton] at hm
      exact .inl (.inl ⟨hv, hm⟩)
    · split at hv
      · exact .inl (.inr hv)
      · exact .inr hv

def pushScope (q : Request) : String := if q.uri.path = "/v2/push" then "push" else "pull"

def twoScopesRefusal (q : Request) : Response :=
  { status := .unauthorized
    headers := [⟨Header.wwwAuthenticate, Utf8.encode (Challenge.renderAll
      [(⟨"http://auth.example/token", "registry", pushScope q⟩ : Demand).challenge]), false⟩] }

/-- A page, which tells how many requests came before. -/
def countedPage (n : Nat) : Response := { status := ⟨200⟩, body := Utf8.encode (toString n) }

/-- Pulls and pushes are demanded apart. A token request is known by what it accepts. No page comes twice. -/
def twoScopes : BearerServer Nat where
  net :=
    { send := fun q w =>
        (.ok (if Headers.values q.headers Header.accept ≠ [] then
            tokenReply (if q.uri.query? = some "service=registry&scope=pull" then "one" else "two")
          else if admits (pushScope q) (Headers.values q.headers Header.authorization) then
            countedPage w
          else twoScopesRefusal q.bare), w + 1)
      now := Session.stoppedClock }
  serves q := Headers.values q.headers Header.accept = []
  realm := "http://auth.example/token"
  service := "registry"
  scope := pushScope
  pages _ r := ∃ n, r = countedPage n
  refusals q r := r = twoScopesRefusal q
  granted _ token scopes := token = tokenFor scopes

theorem pushScope_cases (q : Request) : pushScope q = "pull" ∨ pushScope q = "push" := by
  unfold pushScope
  split
  · exact .inr rfl
  · exact .inl rfl

theorem twoScopes_carries {q : Request} {w : Nat} : twoScopes.Carries w q ↔
    admits (pushScope q) (Headers.values q.headers Header.authorization) = true := by
  rw [admits_iff (pushScope_cases q)]
  constructor
  · rintro ⟨token, scopes, hv, rfl, hs⟩
    exact ⟨scopes, hv, hs⟩
  · rintro ⟨scopes, hv, hs⟩
    exact ⟨_, scopes, hv, rfl, hs⟩

theorem twoScopes_strict : twoScopes.Strict tokenFor where
  success := by
    rintro q _ ⟨n, rfl⟩
    rfl
  unauthorized := by
    rintro q r rfl
    rfl
  challenge := by
    rintro q r rfl
    rfl
  granted _ _ _ := Iff.rfl
  admitted q w hs hc := by
    have ha : Headers.values q.headers Header.accept = [] := (values_bare_of_ne (by decide) q).symm.trans hs
    simp only [twoScopes, ha, twoScopes_carries.mp hc]
    exact ⟨_, rfl, w, rfl⟩
  refused q w hs hc := by
    have ha : Headers.values q.headers Header.accept = [] := (values_bare_of_ne (by decide) q).symm.trans hs
    rw [twoScopes_carries] at hc
    simp only [twoScopes, ha, hc]
    exact ⟨_, rfl, rfl⟩

theorem tokenFor_visible (scopes : List String) : Visible (tokenFor scopes) := by
  have hall : ∀ token ∈ ["one", "two", "other"],
      (token.toList.all fun c => 0x20 < c.toNat && c.toNat < 0x7F) = true := by decide
  have hm : tokenFor scopes ∈ ["one", "two", "other"] := by
    unfold tokenFor
    split
    · simp
    · split <;> simp
  intro c hc
  simpa using List.all_eq_true.mp (hall _ hm) c hc

/-- What is sent to the endpoint. -/
def endpointRequest (query : String) : Request :=
  { uri := { scheme? := some "http", authority? := some "auth.example", path := "/token", query? := some query }
    headers := TokenRequest.headers .anonymous }

theorem send_endpointRequest (query : String) (w : Nat) :
    (twoScopes.net.send (endpointRequest query) w).1 =
      .ok (tokenReply (if query = "service=registry&scope=pull" then "one" else "two")) := by
  have ha : Headers.values (TokenRequest.headers .anonymous) Header.accept ≠ [] := by decide
  simp only [twoScopes, endpointRequest, if_pos ha, Option.some.injEq]

/-- The tokens of the endpoint are good for a minute. -/
theorem expiry_twoScopes (token : String) (w : Nat) :
    (twoScopes.net.now w).1.add? (TokenReply.lifetime { token? := some token } {}) =
      some ⟨60, 0, by decide, by decide, by decide⟩ := by
  change Time.Instant.add? ((Time.Instant.ofUnix? 0 0).get (by decide)) (.ofSeconds 60) = _
  decide

theorem twoScopes_issues_pull : twoScopes.Issues .anonymous {} tokenFor ["pull"] := by
  have hq : TokenRequest.toHttp ⟨twoScopes.realm, twoScopes.service, ["pull"]⟩ .anonymous =
      .ok (endpointRequest "service=registry&scope=pull") := by decide +kernel
  refine ⟨⟨_, hq⟩, ?_, tokenFor_visible _, ?_⟩
  · rintro q w hr
    rw [hq] at hr
    cases hr
    exact ⟨tokenReply "one", { token? := some "one" }, _, send_endpointRequest _ w, rfl, by decide +kernel,
      by decide, expiry_twoScopes _ _⟩
  · intro other ho
    simp only [tokenFor] at ho
    split at ho
    · assumption
    · split at ho
      · exact absurd ho (by decide)
      · exact absurd ho (by decide)

theorem twoScopes_issues_both : twoScopes.Issues .anonymous {} tokenFor ["pull", "push"] := by
  have hq : TokenRequest.toHttp ⟨twoScopes.realm, twoScopes.service, ["pull", "push"]⟩ .anonymous =
      .ok (endpointRequest "service=registry&scope=pull&scope=push") := by decide +kernel
  refine ⟨⟨_, hq⟩, ?_, tokenFor_visible _, ?_⟩
  · rintro q w hr
    rw [hq] at hr
    cases hr
    exact ⟨tokenReply "two", { token? := some "two" }, _, send_endpointRequest _ w, rfl, by decide +kernel,
      by decide, expiry_twoScopes _ _⟩
  · intro other ho
    have hboth : tokenFor ["pull", "push"] = "two" := by decide
    rw [hboth, tokenFor] at ho
    split at ho
    · exact absurd ho (by decide)
    · split at ho
      · assumption
      · exact absurd ho (by decide)

def pageAt (path : String) : Request :=
  { uri := { scheme? := some "https", authority? := some "registry.example", path := path } }

/-- The push is refused with the token for pulls, and the last pull goes through at once. -/
theorem sequential_calls_succeed_twoScopes :
    let requests := [pageAt "/v2/", pageAt "/v2/push", pageAt "/v2/"]
    let r := sendAll twoScopes.net (Handler.handling twoScopes.net) (bearerOnly .none {}) requests
      ⟨0, []⟩
    List.Forall₂ (fun _ reply => ∃ n, reply = .ok (countedPage n)) requests r.1.1 ∧ r.2.deliveries = 5 ∧
      ∃ h, r.1.2.handler? (bearerSlot "registry.example") = some (.bearer h) ∧
        h.wanted? = some ⟨"http://auth.example/token", "registry", ["pull", "push"]⟩ := by
  intro requests r
  have hdemanded : twoScopes.demanded requests = ["pull", "push"] := by decide +kernel
  have hi : ∀ scopes, scopes ≠ [] → scopes <+: twoScopes.demanded requests →
      twoScopes.Issues .anonymous {} tokenFor scopes := by
    intro scopes hne hs
    rw [hdemanded] at hs
    rcases List.prefix_cons_iff.mp hs with rfl | ⟨rest, rfl, hrest⟩
    · exact absurd rfl hne
    · rcases List.prefix_cons_iff.mp hrest with rfl | ⟨more, rfl, hmore⟩
      · exact twoScopes_issues_pull
      · rw [List.prefix_nil.mp hmore]
        exact twoScopes_issues_both
  have hp : ∀ q ∈ requests, twoScopes.Plain "registry.example" q := by
    intro q hq
    have hplain : ∀ path ∈ ["/v2/", "/v2/push"],
        (pageAt path).uri.hostKey? = some "registry.example" := by decide +kernel
    simp only [requests, List.mem_cons, List.not_mem_nil, or_false] at hq
    rcases hq with rfl | rfl | rfl
    · exact ⟨rfl, hplain _ (by simp), rfl⟩
    · exact ⟨rfl, hplain _ (by simp), rfl⟩
    · exact ⟨rfl, hplain _ (by simp), rfl⟩
  -- The run is named, or else it would be carried out to compare its parts.
  have hr : sendAll twoScopes.net (Handler.handling twoScopes.net) (bearerOnly .none {}) requests
    ⟨0, []⟩ = r := rfl
  clear_value r
  have hall := sequential_calls_succeed twoScopes tokenFor .none {} "registry.example" requests
    ⟨0, []⟩ twoScopes_strict hi hp
  rw [hdemanded, hr] at hall
  obtain ⟨hreplies, hcount, hknown⟩ := hall
  refine ⟨hreplies.imp ?_, hcount, hknown (List.cons_ne_nil _ _)⟩
  rintro q _ ⟨_, rfl, n, rfl⟩
  exact ⟨n, rfl⟩

end Authenticator

end HttpAuth
