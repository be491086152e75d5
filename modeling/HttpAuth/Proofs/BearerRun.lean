import HttpAuth.Proofs.BearerSteps
import Mathlib.Data.List.Induction

namespace HttpAuth.BearerAuth

variable {W : Type}

inductive Call where
  | learn (c : Challenge)
  | authorize

/-- A handler between two calls, in the session it is used in. -/
structure Moment (W : Type) where
  handler : BearerAuth
  session : Session W

def call (net : Network W) (m : Moment W) : Call → Moment W
  | .learn c =>
    match m.handler.learn c with
    | .ok h => { m with handler := h }
    | .error _ => m
  | .authorize => ⟨(m.handler.authorize net m.session).1.2, (m.handler.authorize net m.session).2⟩

def run (net : Network W) (m : Moment W) (calls : List Call) : Moment W := calls.foldl (call net) m

/-- What a call teaches. -/
def lesson (h : BearerAuth) : Call → Option Demand
  | .learn c =>
    match h.learn c with
    | .ok _ => c.demand?
    | .error _ => none
  | .authorize => none

/-- The demands of all challenges that were accepted in a run, in their order. -/
def lessons (net : Network W) (m : Moment W) : List Call → List Demand
  | [] => []
  | c :: calls => (lesson m.handler c).toList ++ lessons net (call net m c) calls

/-- The call at `i` accepts a challenge. -/
def LearnedAt (net : Network W) (start : Moment W) (calls : List Call) (i : Nat) : Prop :=
  ∃ c, calls[i]? = some c ∧ (lesson (run net start (calls.take i)).handler c).isSome

/-- The call at `i` asks for a value, and finds it by exchanging `r` for the token. -/
def IssuedAt (net : Network W) (start : Moment W) (calls : List Call) (i : Nat) (r : TokenRequest)
    (token : String) : Prop :=
  calls[i]? = some .authorize ∧ (run net start (calls.take i)).handler.wanted? = some r ∧
    Exchanged r start.handler.credentials token (run net start (calls.take i)).session
      (run net start (calls.take (i + 1))).session

/-- In the run the token was issued for `r`, after the last challenge that was accepted. -/
def IssuedFor (net : Network W) (start : Moment W) (calls : List Call) (r : TokenRequest)
    (token : String) : Prop :=
  ∃ i, IssuedAt net start calls i r token ∧ ∀ j, LearnedAt net start calls j → j < i

section runs

variable {net : Network W} {start : Moment W} {calls : List Call} {r : TokenRequest}
  {token : String}

theorem run_append (c : Call) : run net start (calls ++ [c]) = call net (run net start calls) c :=
  List.foldl_append

theorem lessons_append (c : Call) :
    lessons net start (calls ++ [c]) =
      lessons net start calls ++ (lesson (run net start calls).handler c).toList := by
  induction calls generalizing start with
  | nil => exact List.append_nil _
  | cons d calls ih =>
    rw [List.cons_append, lessons, lessons, ih, List.append_assoc]
    rfl

theorem learnedAt_append {c : Call} {i : Nat} (h : LearnedAt net start (calls ++ [c]) i) :
    LearnedAt net start calls i ∨
      i = calls.length ∧ (lesson (run net start calls).handler c).isSome := by
  obtain ⟨d, hd, hl⟩ := h
  rcases Nat.lt_or_ge i calls.length with hi | hi
  · rw [List.getElem?_append_left hi] at hd
    rw [List.take_append_of_le_length (Nat.le_of_lt hi)] at hl
    exact .inl ⟨d, hd, hl⟩
  · rw [List.getElem?_append_right hi] at hd
    have hz : i - calls.length = 0 := by
      have := (List.getElem?_eq_some_iff.mp hd).1
      simpa using this
    obtain rfl : i = calls.length := by omega
    rw [hz] at hd
    cases hd
    rw [List.take_left] at hl
    exact .inr ⟨rfl, hl⟩

theorem IssuedAt.append {i : Nat} (h : IssuedAt net start calls i r token) (c : Call) :
    IssuedAt net start (calls ++ [c]) i r token := by
  have hi := (List.getElem?_eq_some_iff.mp h.1).1
  unfold IssuedAt
  rw [List.getElem?_append_left hi, List.take_append_of_le_length (Nat.le_of_lt hi),
    List.take_append_of_le_length hi]
  exact h

theorem IssuedFor.append (h : IssuedFor net start calls r token) {c : Call}
    (hc : lesson (run net start calls).handler c = none) :
    IssuedFor net start (calls ++ [c]) r token := by
  obtain ⟨i, hi, hlast⟩ := h
  refine ⟨i, hi.append c, ?_⟩
  intro j hj
  rcases learnedAt_append hj with hj | ⟨-, hl⟩
  · exact hlast j hj
  · rw [hc] at hl
    cases hl

/-- A token that has just been obtained is newer than all that was learned. -/
theorem issuedFor_authorize (hw : (run net start calls).handler.wanted? = some r)
    (hx : Exchanged r start.handler.credentials token (run net start calls).session
      (run net start (calls ++ [.authorize])).session) :
    IssuedFor net start (calls ++ [.authorize]) r token := by
  refine ⟨calls.length, ⟨?_, ?_, ?_⟩, ?_⟩
  · rw [List.getElem?_append_right (Nat.le_refl _), Nat.sub_self]
    rfl
  · rwa [List.take_left]
  · rwa [List.take_left, List.take_of_length_le (by simp)]
  · intro j hj
    rcases learnedAt_append hj with ⟨d, hd, -⟩ | ⟨-, hl⟩
    · exact (List.getElem?_eq_some_iff.mp hd).1
    · cases hl

structure Sound (net : Network W) (start : Moment W) (calls : List Call) : Prop where
  coherent : (run net start calls).handler.Coherent
  credentials : (run net start calls).handler.credentials = start.handler.credentials
  scopes : (run net start calls).handler.scopes = (lessons net start calls).map Demand.scope
  bound : ∀ d ∈ lessons net start calls, (run net start calls).handler.realm? = some d.realm ∧
    (run net start calls).handler.service? = some d.service
  issued : ∀ t, (run net start calls).handler.token? = some t →
    ∃ r, (run net start calls).handler.wanted? = some r ∧ IssuedFor net start calls r t.token

theorem sound_start (h : start.handler.Blank) : Sound net start [] where
  coherent _ := h
  credentials := rfl
  scopes := h.scopes
  bound _ hd := absurd hd List.not_mem_nil
  issued t ht := by
    have hn := h.token
    rw [show start.handler.token? = some t from ht] at hn
    cases hn

/-- A call that teaches nothing and leaves the handler as it was. -/
theorem Sound.unchanged (h : Sound net start calls) {c : Call}
    (hh : (run net start (calls ++ [c])).handler = (run net start calls).handler)
    (hl : lesson (run net start calls).handler c = none) : Sound net start (calls ++ [c]) where
  coherent := hh ▸ h.coherent
  credentials := hh ▸ h.credentials
  scopes := by
    rw [hh, lessons_append, hl]
    simpa using h.scopes
  bound := by
    rw [hh, lessons_append, hl]
    simpa using h.bound
  issued t ht := by
    rw [hh] at ht ⊢
    obtain ⟨r, hw, hi⟩ := h.issued t ht
    exact ⟨r, hw, hi.append hl⟩

theorem Sound.learned (h : Sound net start calls) {c : Challenge} {h' : BearerAuth}
    (hok : (run net start calls).handler.learn c = .ok h') :
    Sound net start (calls ++ [.learn c]) := by
  obtain ⟨d, hd, ha, -, rfl⟩ := learn_eq_ok h.coherent hok
  have hh : (run net start (calls ++ [.learn c])).handler =
      (run net start calls).handler.taught d := by
    rw [run_append, call, hok]
  have hl : lesson (run net start calls).handler (.learn c) = some d := by
    rw [lesson, hok]
    exact hd
  constructor
  · rw [hh]
    exact coherent_taught _ d
  · rw [hh]
    exact h.credentials
  · rw [hh, lessons_append, hl, List.map_append, ← h.scopes]
    rfl
  · intro e he
    rw [lessons_append, hl] at he
    rw [hh]
    rcases List.mem_append.mp he with he | he
    · obtain ⟨hr, hs⟩ := h.bound e he
      rcases ha with hn | ⟨hdr, hds⟩
      · rw [(h.coherent hn).realm] at hr
        cases hr
      · rw [hdr] at hr
        rw [hds] at hs
        exact ⟨hr, hs⟩
    · rw [List.mem_singleton.mp he]
      exact ⟨rfl, rfl⟩
  · intro t ht
    rw [hh] at ht
    cases ht

theorem run_authorize : run net start (calls ++ [.authorize]) =
    ⟨((run net start calls).handler.authorize net (run net start calls).session).1.2,
      ((run net start calls).handler.authorize net (run net start calls).session).2⟩ :=
  run_append _

theorem Sound.outcome (h : Sound net start calls) {result : Except AuthError String}
    {h' : BearerAuth} {s' : Session W}
    (ho : Outcome net (run net start calls).handler (run net start calls).session result h' s')
    (hm : run net start (calls ++ [.authorize]) = ⟨h', s'⟩) :
    Sound net start (calls ++ [.authorize]) := by
  have hl : lesson (run net start calls).handler .authorize = none := rfl
  cases ho with
  | nothing | reused | failed => exact h.unchanged (by rw [hm]) hl
  | renewed r t s' hw hs hx =>
    have hi : IssuedFor net start (calls ++ [.authorize]) r t.token := by
      apply issuedFor_authorize hw
      rw [hm, ← h.credentials]
      exact (TokenRequest.exchange_eq_ok hx).of_journal rfl
    constructor
    · rw [hm]
      exact coherent_of_wanted hw
    · rw [hm]
      exact h.credentials
    · rw [hm, lessons_append, hl]
      simpa using h.scopes
    · rw [hm, lessons_append, hl]
      simpa using h.bound
    · intro u hu
      rw [hm] at hu ⊢
      cases hu
      exact ⟨r, hw, hi⟩

theorem sound_run (h : start.handler.Blank) (calls : List Call) : Sound net start calls := by
  induction calls using List.reverseRecOn with
  | nil => exact sound_start h
  | append_singleton calls c ih =>
    cases c with
    | authorize => exact ih.outcome (outcome_authorize _ _ _) run_authorize
    | learn c =>
      cases hl : (run net start calls).handler.learn c with
      | ok h' => exact ih.learned hl
      | error e =>
        apply ih.unchanged
        · rw [run_append, call, hl]
        · rw [lesson, hl]

end runs

/-- Whatever is called in whatever order with whatever replies: a cached token was issued for what the handler
wants now, and so was the token of a value that is returned, after every scope that was accepted. -/
theorem issued_for_all_scopes (net : Network W) (host : String) (credentials : Credentials)
    (options : TokenOptions) (s : Session W) (calls : List Call) :
    let start : Moment W := ⟨{ host := host, credentials := credentials, options := options }, s⟩
    let m := run net start calls
    (m.handler.scopes = (lessons net start calls).map Demand.scope ∧
      ∀ d ∈ lessons net start calls,
        m.handler.realm? = some d.realm ∧ m.handler.service? = some d.service) ∧
    (∀ t, m.handler.token? = some t →
      ∃ r, m.handler.wanted? = some r ∧ IssuedFor net start calls r t.token) ∧
    ∀ v, (m.handler.authorize net m.session).1.1 = .ok v →
      ∃ r token, m.handler.wanted? = some r ∧ token ≠ "" ∧ v = value token ∧
        IssuedFor net start (calls ++ [.authorize]) r token := by
  intro start m
  have hblank : start.handler.Blank := ⟨rfl, rfl, rfl, rfl⟩
  have hs : Sound net start calls := sound_run hblank calls
  refine ⟨⟨hs.scopes, hs.bound⟩, hs.issued, ?_⟩
  intro v hv
  have ho := outcome_authorize net m.handler m.session
  rw [hv] at ho
  obtain ⟨t, ht, rfl⟩ := ho.token
  have hm : run net start (calls ++ [.authorize]) = _ := run_authorize
  obtain ⟨r, hw, hi⟩ := (sound_run hblank (calls ++ [.authorize])).issued t (by rwa [hm])
  rw [hm] at hw
  obtain ⟨i, ⟨hcall, hwi, hx⟩, hlast⟩ := hi
  exact ⟨r, t.token, ho.wanted ▸ hw, hx.ne_empty, rfl, i, ⟨hcall, hwi, hx⟩, hlast⟩

/-- An endpoint that gives out one token, which is cached and then used again. -/
theorem issued_for_all_scopes_reused :
    let epoch : Time.Instant := ⟨0, 0, by decide, by decide, by decide⟩
    let minute : Time.Instant := ⟨60, 0, by decide, by decide, by decide⟩
    let body := Utf8.encode "\x7b\"token\":\"abc\"\x7d"
    let net : Network Unit :=
      ⟨fun _ w => (.ok { status := ⟨200⟩, body := body }, w), fun w => (epoch, w)⟩
    let c := (((Challenge.ofScheme "bearer").set "realm" "http://auth.example/token").set
      "service" "registry").set "scope" "pull"
    let start : Moment Unit := ⟨{ host := "registry.example", credentials := .anonymous }, ⟨(), []⟩⟩
    let calls := [.learn c, .authorize]
    let m := run net start calls
    m.handler.token? = some ⟨"abc", minute⟩ ∧
      (∃ r, m.handler.wanted? = some r ∧ IssuedFor net start calls r "abc") ∧
      (m.handler.authorize net m.session).1.1 = .ok "Bearer abc" ∧
      ∃ r token, m.handler.wanted? = some r ∧ token ≠ "" ∧ "Bearer abc" = value token ∧
        IssuedFor net start (calls ++ [.authorize]) r token := by
  intro epoch minute body net c start calls m
  have ht : m.handler.token? = some ⟨"abc", minute⟩ := by decide +kernel
  have hv : (m.handler.authorize net m.session).1.1 = .ok "Bearer abc" := by decide +kernel
  have h := issued_for_all_scopes net "registry.example" .anonymous {} ⟨(), []⟩ calls
  exact ⟨ht, h.2.1 _ ht, hv, h.2.2 _ hv⟩

end HttpAuth.BearerAuth
