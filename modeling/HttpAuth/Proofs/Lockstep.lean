import Mathlib.Data.List.Forall2
import HttpAuth.Proofs.Provenance

namespace HttpAuth

open Time (Instant)

/-- The request without the values of its authorization fields. -/
def Request.veil (q : Request) : Request :=
  { q with
    headers := q.headers.map fun h =>
      if h.name = Header.authorization then { h with value := [] } else h }

theorem Authenticator.veil_withAuthorization (request : Request) (value value' : List UInt8) :
    (withAuthorization request value).veil = (withAuthorization request value').veil := by
  simp [withAuthorization, Request.veil, Headers.put]

/-- The text can be sent in a header field. -/
def FieldText (text : String) : Prop := Header.isValue (Utf8.encode text) = true

/-- Two texts of which both are absent, or both are empty, or neither. Those that are there can be sent. -/
inductive TextsAlike : Option String → Option String → Prop where
  | absent : TextsAlike none none
  | present {text text' : String} (he : text = "" ↔ text' = "") (ht : FieldText text)
    (ht' : FieldText text') : TextsAlike (some text) (some text')

/-- Two replies of a token endpoint that differ in the tokens only. -/
structure TokenReply.SameButTokens (reply reply' : TokenReply) : Prop where
  token : TextsAlike reply.token? reply'.token?
  accessToken : TextsAlike reply.accessToken? reply'.accessToken?
  expiresIn : reply.expiresIn? = reply'.expiresIn?
  issuedAt : reply.issuedAt? = reply'.issuedAt?

/-- What comes back for a message in two runs: the same, or for a token request two successful replies with
different tokens. -/
inductive RepliesAlike : Purpose → Except String Response → Except String Response → Prop where
  | same (purpose : Purpose) (reply : Except String Response) : RepliesAlike purpose reply reply
  | tokens {status : Status} {headers : Headers} {body body' : List UInt8} {reply reply' : TokenReply}
    (hs : status.isSuccess = true) (hd : TokenReply.decode? body = some reply)
    (hd' : TokenReply.decode? body' = some reply') (h : reply.SameButTokens reply') :
    RepliesAlike .token (.ok ⟨status, headers, body⟩) (.ok ⟨status, headers, body'⟩)

/-- What two runs write at the same place. `passwords` says that they work with the same passwords, and `replies`
that the same comes back to them. -/
inductive Entry.Alike (passwords replies : Prop) : Entry → Entry → Prop where
  | logged (event : Event) : Alike passwords replies (.logged event) (.logged event)
  | lookedUp (host : String) : Alike passwords replies (.lookedUp host) (.lookedUp host)
  | sent {purpose : Purpose} {q q' : Request} {reply reply' : Except String Response}
    (hq : q.veil = q'.veil) (htoken : passwords → purpose = .token → q = q')
    (hr : RepliesAlike purpose reply reply') (hreplies : replies → reply = reply') :
    Alike passwords replies (.sent purpose q reply) (.sent purpose q' reply')

/-- Replies and readings of the clock, prepared in their order. -/
structure Script where
  reply : Nat → Except String Response
  clock : Nat → Instant

/-- The world is how many of both were used. -/
def Script.network (script : Script) : Network (Nat × Nat) where
  send _ w := (script.reply w.1, (w.1 + 1, w.2))
  now w := (script.clock w.2, (w.1, w.2 + 1))

/-- Two scripts that show the same time, for runs with the same passwords or with others. -/
structure Pair where
  first : Script
  second : Script
  clock : second.clock = first.clock
  passwords : Prop

def Entry.purpose? : Entry → Option Purpose
  | .sent purpose .. => some purpose
  | .lookedUp _ | .logged _ => none

/-- What the messages were for. -/
def purposes (entries : List Entry) : List Purpose := entries.filterMap Entry.purpose?

theorem purposes_append (entries more : List Entry) :
    purposes (entries ++ more) = purposes entries ++ purposes more :=
  List.filterMap_append

/-- The replies that were used up in a run are alike in both scripts. -/
def Pair.Fed (p : Pair) (journal : List Entry) : Prop :=
  ∀ (k : Nat) (purpose : Purpose), (purposes journal)[k]? = some purpose →
    RepliesAlike purpose (p.first.reply k) (p.second.reply k)

theorem Pair.Fed.before {p : Pair} {journal more : List Entry} (h : p.Fed (journal ++ more)) :
    p.Fed journal := by
  intro k purpose hk
  apply h k purpose
  rw [purposes_append, List.getElem?_append_left (List.getElem?_eq_some_iff.mp hk).1]
  exact hk

/-- Both runs have used up as much of their scripts, and have written alike. -/
structure Pair.Matched (p : Pair) (s s' : Session (Nat × Nat)) : Prop where
  world : s'.world = s.world
  count : s.world.1 = (purposes s.journal).length
  journal : List.Forall₂ (Entry.Alike p.passwords (p.second.reply = p.first.reply)) s.journal s'.journal

variable {α β γ δ : Type} {p : Pair}

/-- The runs stay matched and have related results, as long as the replies are alike. -/
structure Lockstep (p : Pair) (R : α → β → Prop) (x : SessionM (Nat × Nat) α)
    (y : SessionM (Nat × Nat) β) : Prop where
  writes : Session.Writes x fun a _ => ∃ b, R a b
  related : ∀ s s', p.Matched s s' → p.Fed (x s).2.journal →
    R (x s).1 (y s').1 ∧ p.Matched (x s).2 (y s').2

section lockstep

variable {R : α → β → Prop} {T : γ → δ → Prop}

theorem lockstep_pure {a : α} {b : β} (h : R a b) : Lockstep p R (pure a) (pure b) :=
  ⟨Session.writes_pure ⟨b, h⟩, fun _ _ hm _ => ⟨h, hm⟩⟩

theorem Lockstep.imp {x : SessionM (Nat × Nat) α} {y : SessionM (Nat × Nat) β} {R' : α → β → Prop}
    (h : Lockstep p R x y) (hR : ∀ a b, R a b → R' a b) : Lockstep p R' x y := by
  constructor
  · exact h.writes.imp fun a _ ⟨b, hab⟩ => ⟨b, hR a b hab⟩
  · intro s s' hm hfed
    obtain ⟨hab, hnext⟩ := h.related s s' hm hfed
    exact ⟨hR _ _ hab, hnext⟩

theorem Lockstep.bind {x : SessionM (Nat × Nat) α} {y : SessionM (Nat × Nat) β}
    {f : α → SessionM (Nat × Nat) γ} {g : β → SessionM (Nat × Nat) δ} (h : Lockstep p R x y)
    (hf : ∀ a b, R a b → Lockstep p T (f a) (g b)) : Lockstep p T (x >>= f) (y >>= g) := by
  constructor
  · apply h.writes.bind
    rintro a entries ⟨b, hab⟩
    exact (hf a b hab).writes
  · intro s s' hm hfed
    rw [Session.bind_apply] at hfed
    obtain ⟨_, -, b, hb⟩ := h.writes s
    obtain ⟨more, hmore, -⟩ := (hf _ b hb).writes (x s).2
    rw [hmore] at hfed
    obtain ⟨hab, hnext⟩ := h.related s s' hm hfed.before
    rw [← hmore] at hfed
    exact (hf _ _ hab).related _ _ hnext hfed

/-- Both note the same entry, which does not tell of a message. -/
theorem lockstep_write {entry : Entry} (he : ∀ passwords replies, entry.Alike passwords replies entry)
    (hn : purposes [entry] = []) {R : α → β → Prop} {a : α} {b : β} (h : R a b) :
    Lockstep p R (fun s => (a, { s with journal := s.journal ++ [entry] }))
      (fun s => (b, { s with journal := s.journal ++ [entry] })) := by
  constructor
  · exact fun _ => ⟨_, rfl, b, h⟩
  · rintro s s' ⟨hworld, hcount, hjournal⟩ -
    refine ⟨h, hworld, ?_, List.rel_append hjournal (.cons (he _ _) .nil)⟩
    rw [purposes_append, hn, List.append_nil]
    exact hcount

theorem lockstep_after_log (event : Event) {f : Unit → SessionM (Nat × Nat) γ}
    {g : Unit → SessionM (Nat × Nat) δ} (h : Lockstep p T (f ()) (g ())) :
    Lockstep p T (Session.log event >>= f) (Session.log event >>= g) :=
  Lockstep.bind (R := Eq) (lockstep_write (fun _ _ => .logged event) rfl rfl) fun _ _ _ => h

theorem lockstep_lookUp {provider provider' : CredentialsProvider} {host : String}
    {R : Credentials → Credentials → Prop} (h : R (provider host) (provider' host)) :
    Lockstep p R (Session.lookUp provider host) (Session.lookUp provider' host) :=
  lockstep_write (fun _ _ => .lookedUp host) rfl h

theorem lockstep_now : Lockstep p Eq (Session.now p.first.network) (Session.now p.second.network) := by
  constructor
  · exact fun s => ⟨[], (List.append_nil _).symm, _, rfl⟩
  · rintro s s' ⟨hworld, hcount, hjournal⟩ -
    simp only [Session.now_apply, Script.network, hworld, p.clock, true_and]
    exact ⟨rfl, hcount, hjournal⟩

theorem lockstep_send {purpose : Purpose} {q q' : Request} (hq : q.veil = q'.veil)
    (htoken : p.passwords → purpose = .token → q = q') :
    Lockstep p (RepliesAlike purpose) (Session.send p.first.network purpose q)
      (Session.send p.second.network purpose q') := by
  constructor
  · exact fun s => ⟨_, rfl, _, .same purpose _⟩
  · rintro s s' ⟨hworld, hcount, hjournal⟩ hfed
    have hpurposes : purposes (s.journal ++ [.sent purpose q (p.first.reply s.world.1)]) =
        purposes s.journal ++ [purpose] := purposes_append _ _
    simp only [Session.send_apply, Script.network, hworld] at hfed ⊢
    have hr : RepliesAlike purpose (p.first.reply s.world.1) (p.second.reply s.world.1) := by
      apply hfed
      rw [hpurposes, hcount]
      simp
    refine ⟨hr, rfl, ?_, List.rel_append hjournal (.cons (.sent hq htoken hr ?_) .nil)⟩
    · rw [hpurposes, List.length_append, ← hcount]
      simp
    · intro hreplies
      rw [hreplies]

end lockstep

end HttpAuth
