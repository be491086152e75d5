import HttpAuth.Proofs.Base64Decoding
import HttpAuth.Proofs.Candidates
import HttpAuth.Proofs.SecretInputs

namespace HttpAuth

open Authenticator (offline refusalOf registryUri)

def colon : UInt8 := 0x3A

/-- What stands before the first colon, and what stands behind it. -/
def splitAtColon (bytes : List UInt8) : List UInt8 × List UInt8 :=
  (bytes.takeWhile (· ≠ colon), (bytes.dropWhile (· ≠ colon)).tail)

theorem splitAtColon_append {xs : List UInt8} (h : colon ∉ xs) (ys : List UInt8) :
    splitAtColon (xs ++ colon :: ys) = (xs, ys) := by
  have hxs : ∀ b ∈ xs, decide (b ≠ colon) = true := by
    intro b hb
    have hne : b ≠ colon := by
      rintro rfl
      exact h hb
    simpa using hne
  rw [splitAtColon, List.takeWhile_append_of_pos hxs, List.dropWhile_append_of_pos hxs]
  simp

/-- No other character has the byte of the colon. -/
theorem colon_notMem_encode {s : String} (h : ':' ∉ s.toList) : colon ∉ Utf8.encode s := by
  intro hm
  obtain ⟨c, hc, hm⟩ := List.mem_flatMap.mp hm
  exact Challenge.encodeChar_ne (d := ':') (by decide) (fun he => h (he ▸ hc)) hm

namespace Credentials

variable {c d : Credentials}

/-- User name, colon and password. -/
def pairBytes (c : Credentials) : List UInt8 := Utf8.encode c.username ++ colon :: Utf8.encode c.password

theorem encode_pair (c : Credentials) :
    Utf8.encode (c.username ++ ":" ++ c.password) = c.pairBytes := by
  have hcolon : Utf8.encode ":" = [colon] := by decide
  rw [Utf8.encode_append, Utf8.encode_append, hcolon, List.append_assoc]
  rfl

theorem basicValue_eq (c : Credentials) : c.basicValue = "Basic " ++ Base64.encode c.pairBytes := by
  rw [basicValue, encode_pair]

theorem splitAtColon_pairBytes (h : ':' ∉ c.username.toList) :
    splitAtColon c.pairBytes = (Utf8.encode c.username, Utf8.encode c.password) :=
  splitAtColon_append (colon_notMem_encode h) _

/-- Without colons in the user names, credentials with the same value are the same. -/
theorem eq_of_basicValue (hc : ':' ∉ c.username.toList) (hd : ':' ∉ d.username.toList)
    (h : c.basicValue = d.basicValue) : c = d := by
  have hdigits : Base64.encode c.pairBytes = Base64.encode d.pairBytes := by
    simpa [basicValue_eq] using h
  have hbytes : c.pairBytes = d.pairBytes := by
    have hread := Base64.decode?_eq_some.mpr hdigits
    rw [Base64.decode?_eq_some.mpr rfl] at hread
    exact (Option.some.inj hread)
  have hhalves := splitAtColon_pairBytes hc
  rw [hbytes, splitAtColon_pairBytes hd] at hhalves
  obtain ⟨husername, hpassword⟩ := Prod.mk.inj hhalves
  obtain ⟨cuser, cpass⟩ := c
  obtain ⟨duser, dpass⟩ := d
  obtain rfl : duser = cuser := Utf8.encode_injective husername
  obtain rfl : dpass = cpass := Utf8.encode_injective hpassword
  rfl

end Credentials

namespace Authenticator

variable {W : Type} {net : Network W} {host : String}

/-- When the request is given a value, this handler is not passed over: the handlers that are asked in vain are
others, and there is one that has a value. If it is this one then the value is the one given here. -/
def NotSkipped {H : Type} (hd : Handling W H) (a : Authenticator H) (host : String) (request : Request)
    (s : Session W) (e : Name × H) (value : String) : Prop :=
  ∃ tried after s' found untried given k,
    a.candidates host = tried ++ found :: untried ∧ InVain hd host tried s after s' ∧ e ∉ tried ∧
      hd.authorize found.2 s' = ((.ok given, k), (a.authorize hd request s).2) ∧
      (a.authorize hd request s).1.1 = some (withAuthorization request (Utf8.encode given)) ∧
      (found = e → given = value)

theorem authorize_basic {b : BasicAuth} (hb : b.credentials.isAnonymous = false) (s : Session W) :
    (Handler.handling net).authorize (.basic b) s = ((.ok b.credentials.basicValue, .basic b), s) := by
  change ((b.authorize, Handler.basic b), s) = _
  rw [BasicAuth.authorize, hb]
  rfl

/-- With credentials a Basic handler is never asked in vain. -/
theorem InVain.not_mem {b : BasicAuth} {scheme : Name} {tried after : List (Name × Handler)}
    {s s' : Session W} (hv : InVain (Handler.handling net) host tried s after s')
    (hb : b.credentials.isAnonymous = false) : (scheme, .basic b) ∉ tried := by
  intro hm
  induction hv with
  | nil => cases hm
  | cons hasked hresult _ ih =>
    rcases List.mem_cons.mp hm with he | hm
    · cases he
      rw [authorize_basic hb] at hasked
      cases hasked
      exact hresult _ ⟨rfl, fieldText_basicValue b.credentials⟩
    · exact ih hm

theorem notSkipped_basic {a : Authenticator Handler} {request : Request} {scheme : Name} {b : BasicAuth}
    (hn : a.schemes.Nodup) (hhost : request.uri.hostKey? = some host)
    (hm : (scheme, .basic b) ∈ a.candidates host) (hb : b.credentials.isAnonymous = false)
    (s : Session W) :
    a.NotSkipped (Handler.handling net) host request s (scheme, .basic b) b.credentials.basicValue := by
  have hr : a.authorize (Handler.handling net) request s =
      authorizeWith (Handler.handling net) host request a a.schemes s := by
    simp only [authorize, hhost]
  obtain ⟨tried, after, s', hvain, hend⟩ :=
    authorizeWith_search (Handler.handling net) host request a hn s
  have hnot : (scheme, Handler.basic b) ∉ tried := hvain.not_mem hb
  rcases hend with ⟨htried, -⟩ | ⟨other, h, untried, value, h', s'', hsplit, hasked, -, heq⟩
  · exact absurd (htried ▸ hm) hnot
  · refine ⟨tried, after, s', (other, h), untried, value, h', hsplit, hvain, hnot, ?_, ?_, ?_⟩
    · rw [hr, heq, hasked]
    · rw [hr, heq]
    · rintro he
      cases he
      rw [authorize_basic hb] at hasked
      cases hasked
      rfl

end Authenticator

/-- For credentials with a user name and a password, whatever characters these are made of, the value is `Basic`, a
blank and padded digits. The digits are the one text that is read back as user name, colon and password. All but the
blank is visible ASCII, so the value can be sent, and no handler that has it is passed over. Where the user name has no
colon the first one ends it, so other credentials of this kind have another value. -/
theorem basic_value_faithful {c : Credentials} (hc : c.isAnonymous = false) :
    ∃ digits, (∀ realm?, (BasicAuth.mk realm? c).authorize = .ok ("Basic" ++ " " ++ digits)) ∧
      (∀ text, Base64.decode? text = some c.pairBytes ↔ text = digits) ∧
      Visible "Basic" ∧ Visible digits ∧
      Header.isValue (Utf8.encode ("Basic" ++ " " ++ digits)) = true ∧
      (∀ {W : Type} (net : Network W) (a : Authenticator Handler) (host : String) (request : Request)
        (s : Session W) (scheme : Name) (realm? : Option String), a.schemes.Nodup →
          request.uri.hostKey? = some host → (scheme, .basic ⟨realm?, c⟩) ∈ a.candidates host →
            a.NotSkipped (Handler.handling net) host request s (scheme, .basic ⟨realm?, c⟩)
              ("Basic" ++ " " ++ digits)) ∧
      (':' ∉ c.username.toList →
        splitAtColon c.pairBytes = (Utf8.encode c.username, Utf8.encode c.password) ∧
        ∀ d : Credentials, d.isAnonymous = false → ':' ∉ d.username.toList → d ≠ c →
          ∀ realm?, (BasicAuth.mk realm? d).authorize ≠ .ok ("Basic" ++ " " ++ digits)) := by
  have hlead : "Basic" ++ " " = "Basic " := rfl
  have hvalue : ∀ {d : Credentials}, d.isAnonymous = false →
      ∀ realm?, (BasicAuth.mk realm? d).authorize = .ok d.basicValue := by
    intro d hd realm?
    simp [BasicAuth.authorize, hd]
  refine ⟨Base64.encode c.pairBytes, ?_⟩
  rw [hlead, ← c.basicValue_eq]
  refine ⟨hvalue hc, fun _ => Base64.decode?_eq_some, by simp [Visible],
    Base64.visible_encode _, fieldText_basicValue c, ?_, ?_⟩
  · intro W net a host request s scheme realm? hn hhost hm
    exact Authenticator.notSkipped_basic hn hhost hm hc s
  · intro hcolon
    refine ⟨Credentials.splitAtColon_pairBytes hcolon, ?_⟩
    intro d hd hcolon' hne realm? hsame
    rw [hvalue hd, Except.ok.injEq] at hsame
    exact hne (Credentials.eq_of_basicValue hcolon' hcolon hsame)

/-- The user name is not ASCII, and the password has a colon. Bearer comes before Basic, but no token can be had. -/
theorem basic_value_faithful_colon :
    let c : Credentials := ⟨"é", "a:b"⟩
    let hd := Handler.handling offline
    let settings := [.scheme "bearer" (Handler.bearerFactory {}), .defaults, .provider fun _ => c]
    let refusal := refusalOf ["Basic realm=\"a\"",
      "Bearer realm=\"https://auth.example/token\",service=\"s\",scope=\"pull\""]
    let used := Authenticator.callAll hd
      (.ofRegistry (.configured Handler.basicFactory settings) Handler.basicFactory)
      [.learn registryUri refusal] ⟨(), []⟩
    c.isAnonymous = false ∧ (BasicAuth.mk none c).authorize = .ok "Basic w6k6YTpi" ∧
      Base64.decode? "w6k6YTpi" = some c.pairBytes ∧
      splitAtColon c.pairBytes = (Utf8.encode "é", Utf8.encode "a:b") ∧
      used.1.2.NotSkipped hd "registry.example" { uri := registryUri } used.2
        (.ofText "basic", .basic ⟨some "a", c⟩) "Basic w6k6YTpi" := by
  intro c hd settings refusal used
  have hc : c.isAnonymous = false := by decide +kernel
  obtain ⟨digits, hvalue, hdigits, -, -, -, hsearch, hsplit⟩ := basic_value_faithful hc
  have hmade : (BasicAuth.mk none c).authorize = .ok "Basic w6k6YTpi" := by decide +kernel
  have hn : used.1.2.schemes.Nodup :=
    Authenticator.nodup_schemes_callAll hd Handler.basicFactory settings _ _
  have hsame : "Basic" ++ " " ++ digits = "Basic w6k6YTpi" := Except.ok.inj ((hvalue none).symm.trans hmade)
  have hread : Base64.decode? "w6k6YTpi" = some c.pairBytes := by decide +kernel
  refine ⟨hc, hmade, hread, (hsplit (by decide +kernel)).1, ?_⟩
  rw [← hsame]
  exact hsearch offline used.1.2 "registry.example" _ used.2 _ _ hn (by decide +kernel)
    (by decide +kernel)

end HttpAuth
