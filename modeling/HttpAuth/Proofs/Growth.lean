import Mathlib.Data.List.Induction
import HttpAuth.Proofs.Provenance
import HttpAuth.Proofs.Registration
import HttpAuth.Proofs.Slots
import HttpAuth.Proofs.Teaching

namespace HttpAuth

/-- Neither says that a handler is created, nor is a look-up of credentials. -/
def Entry.Neutral : Entry → Prop
  | .logged (.handlerCreated ..) => False
  | .lookedUp _ => False
  | _ => True

/-- Handlers are created for these slots, in this order. Each creation is followed at once by a look-up of the
credentials for the host, and there is no other look-up. -/
inductive Creates : List Entry → List Slot → Prop where
  | nil : Creates [] []
  | other {entry : Entry} {entries : List Entry} {slots : List Slot} (he : entry.Neutral)
    (h : Creates entries slots) : Creates (entry :: entries) slots
  | made (slot : Slot) {entries : List Entry} {slots : List Slot} (h : Creates entries slots) :
    Creates (.logged (.handlerCreated slot.host slot.scheme.text) :: .lookedUp slot.host :: entries)
      (slot :: slots)

theorem Creates.append {entries more : List Entry} {slots others : List Slot}
    (h : Creates entries slots) (hmore : Creates more others) :
    Creates (entries ++ more) (slots ++ others) := by
  induction h with
  | nil => exact hmore
  | other he _ ih => exact .other he ih
  | made slot _ ih => exact .made slot ih

theorem creates_of_neutral {entries : List Entry} (h : ∀ e ∈ entries, e.Neutral) :
    Creates entries [] := by
  induction entries with
  | nil => exact .nil
  | cons e rest ih =>
    obtain ⟨he, hrest⟩ := List.forall_mem_cons.mp h
    exact .other he (ih hrest)

namespace Session

variable {W α β : Type} {q : Prop}

/-- Adds entries to the journal that fit what it returns, provided that this condition holds. -/
def WritesIf (q : Prop) (x : SessionM W α) (Q : α → List Entry → Prop) : Prop :=
  ∀ s : Session W, ∃ entries, (q → (x s).2.journal = s.journal ++ entries) ∧ Q (x s).1 entries

theorem Writes.writesIf {x : SessionM W α} {Q : α → List Entry → Prop} (hx : Writes x Q) :
    WritesIf q x Q := by
  intro s
  obtain ⟨entries, hj, hp⟩ := hx s
  exact ⟨entries, fun _ => hj, hp⟩

theorem writesIf_pure {Q : α → List Entry → Prop} {a : α} (h : Q a []) :
    WritesIf q (pure a : SessionM W α) Q :=
  (writes_pure h).writesIf

theorem WritesIf.imp {x : SessionM W α} {P Q : α → List Entry → Prop} (hx : WritesIf q x P)
    (h : ∀ a entries, P a entries → Q a entries) : WritesIf q x Q := by
  intro s
  obtain ⟨entries, hj, hp⟩ := hx s
  exact ⟨entries, hj, h _ _ hp⟩

theorem WritesIf.bind {x : SessionM W α} {f : α → SessionM W β} {P : α → List Entry → Prop}
    {Q : β → List Entry → Prop} (hx : WritesIf q x P)
    (hf : ∀ a entries, P a entries → WritesIf q (f a) fun b more => Q b (entries ++ more)) :
    WritesIf q (x >>= f) Q := by
  intro s
  obtain ⟨entries, hj, hp⟩ := hx s
  obtain ⟨more, hk, hp'⟩ := hf _ _ hp (x s).2
  refine ⟨entries ++ more, fun h => ?_, hp'⟩
  rw [bind_apply, hk h, hj h, List.append_assoc]

end Session

section library

variable {W : Type}

/-- No look-up is made, and no creation is announced. -/
abbrev Session.Plain {α : Type} (x : SessionM W α) : Prop :=
  Session.Writes x fun _ entries => ∀ e ∈ entries, e.Neutral

theorem TokenRequest.plain_exchange (net : Network W) (r : TokenRequest) (credentials : Credentials)
    (options : TokenOptions) : Session.Plain (exchange net r credentials options) := by
  apply Session.writes_after_note
  cases r.toHttp credentials with
  | error failure => exact Session.writes_pure (by simp [Entry.Neutral])
  | ok request =>
    apply Session.writes_after_send net
    intro reply
    cases reply with
    | error e => exact Session.writes_pure (by simp [Entry.Neutral])
    | ok response =>
      apply (writes_accept net options request response).imp
      rintro result _ ⟨rfl, -⟩
      simp [Entry.Neutral]

theorem BearerAuth.plain_authorize (net : Network W) (b : BearerAuth) :
    Session.Plain (b.authorize net) := by
  intro s
  have hcourse := outcome_authorize net b s
  rcases hresult : b.authorize net s with ⟨⟨result, b'⟩, s'⟩
  rw [hresult] at hcourse
  dsimp only at hcourse
  cases hcourse with
  | nothing => exact ⟨[], (List.append_nil _).symm, by simp⟩
  | reused => exact ⟨_, rfl, by simp [Entry.Neutral]⟩
  | renewed r _ _ _ _ hx | failed r _ _ _ _ hx =>
    have hplain := TokenRequest.plain_exchange net r b.credentials b.options
      { s with world := (net.now s.world).2 }
    rwa [hx] at hplain

/-- Asked for a value, its handlers neither look up credentials nor say that a handler is created. -/
def Handling.Plain {H : Type} (hd : Handling W H) : Prop := ∀ h, Session.Plain (hd.authorize h)

theorem Handler.plain_handling (net : Network W) : (handling net).Plain := by
  intro h
  cases h with
  | basic b => exact Session.writes_pure (by simp)
  | bearer b =>
    apply (b.plain_authorize net).bind
    rintro ⟨result, next⟩ entries hneutral
    apply Session.writes_pure
    rwa [List.append_nil]

end library

namespace Authenticator

variable {W H : Type} {hd : Handling W H}

/-- The second handler is the first after some challenges and some requests for a value. -/
inductive Descends (hd : Handling W H) (h : H) : H → Prop where
  | refl : Descends hd h h
  | learned {k : H} (c : Challenge) (hk : Descends hd h k) : Descends hd h (hd.learn c k).2
  | asked {k : H} (s : Session W) (hk : Descends hd h k) : Descends hd h (hd.authorize k s).1.2

theorem Descends.trans {h k l : H} (hk : Descends hd h k) (hl : Descends hd k l) : Descends hd h l := by
  induction hl with
  | refl => exact hk
  | learned c _ ih => exact ih.learned c
  | asked s _ ih => exact ih.asked s

/-- What may become of an authenticator while these entries are written, even if the provider comes to answer
otherwise. Slots are only added, each with a creation, and a handler goes on. -/
structure Lasting (hd : Handling W H) (a a' : Authenticator H) (entries : List Entry) : Prop where
  factories : a'.registry.entries = a.registry.entries
  added : ∃ new, Creates entries new ∧ a'.table.slots.Perm (a.table.slots ++ new)
  settled : a.table.NoEmptyHost → a'.table.NoEmptyHost
  kept : ∀ slot h, a.handler? slot = some h → ∃ h', a'.handler? slot = some h' ∧ Descends hd h h'

/-- What may become of it while the provider answers alike. A new handler comes from the factory of its scheme. -/
structure Grown (hd : Handling W H) (a a' : Authenticator H) (entries : List Entry) : Prop extends
    Lasting hd a a' entries where
  registry : a'.registry = a.registry
  built : ∀ slot h', a.handler? slot = none → a'.handler? slot = some h' →
    ∃ h, a.pupil? slot = some h ∧ Descends hd h h'

section grown

variable {a b c : Authenticator H} {entries more : List Entry} {slot : Slot} {h k : H}

theorem Lasting.trans (h : Lasting hd a b entries) (h' : Lasting hd b c more) :
    Lasting hd a c (entries ++ more) where
  factories := h'.factories.trans h.factories
  added := by
    obtain ⟨new, hcreates, hslots⟩ := h.added
    obtain ⟨newer, hcreates', hslots'⟩ := h'.added
    refine ⟨new ++ newer, hcreates.append hcreates', ?_⟩
    rw [← List.append_assoc]
    exact hslots'.trans (hslots.append_right newer)
  settled := h'.settled ∘ h.settled
  kept slot k hk := by
    obtain ⟨k', hk', hdescends⟩ := h.kept slot k hk
    obtain ⟨k'', hk'', hdescends'⟩ := h'.kept slot k' hk'
    exact ⟨k'', hk'', hdescends.trans hdescends'⟩

theorem Lasting.schemes (h : Lasting hd a b entries) : b.schemes = a.schemes :=
  congrArg (List.map Prod.fst) h.factories

theorem grown_idle (he : ∀ e ∈ entries, e.Neutral) : Grown hd a a entries where
  factories := rfl
  added := ⟨[], creates_of_neutral he, by simp⟩
  settled := id
  kept _ h hh := ⟨h, hh, .refl⟩
  registry := rfl
  built _ _ hn hs := by
    rw [hn] at hs
    cases hs

/-- The provider comes to answer otherwise. -/
theorem lasting_provide (provider : CredentialsProvider) : Lasting hd a (a.provide provider) [] where
  factories := rfl
  added := ⟨[], .nil, by simp [provide]⟩
  settled := id
  kept _ h hh := ⟨h, hh, .refl⟩

theorem pupil?_congr (hr : b.registry = a.registry) (hh : b.handler? slot = a.handler? slot) :
    b.pupil? slot = a.pupil? slot := by
  rw [pupil?, pupil?, hr, hh]

theorem Grown.trans (h : Grown hd a b entries) (h' : Grown hd b c more) :
    Grown hd a c (entries ++ more) where
  toLasting := h.toLasting.trans h'.toLasting
  registry := h'.registry.trans h.registry
  built slot k'' hn hs := by
    cases hb : b.handler? slot with
    | none =>
      rw [← pupil?_congr h.registry (hb.trans hn.symm)]
      exact h'.built slot k'' hb hs
    | some k' =>
      obtain ⟨k, hp, hdescends⟩ := h.built slot k' hn hb
      obtain ⟨l, hl, hdescends'⟩ := h'.kept slot k' hb
      rw [hs] at hl
      cases hl
      exact ⟨k, hp, hdescends.trans hdescends'⟩

/-- A handler that is there goes on. -/
theorem grown_tend (hh : a.handler? slot = some h) (hk : Descends hd h k)
    (he : ∀ e ∈ entries, e.Neutral) : Grown hd a (a.store slot k) entries where
  factories := rfl
  added := by
    refine ⟨[], creates_of_neutral he, ?_⟩
    rw [store, Table.slots_put_of_find? hh, List.append_nil]
  settled ht := ht.put slot k
  kept other l hl := by
    by_cases hne : slot = other
    · subst hne
      rw [hh] at hl
      cases hl
      exact ⟨k, handler?_store_self k, hk⟩
    · exact ⟨l, (handler?_store_of_ne k hne).trans hl, .refl⟩
  registry := rfl
  built other l hn hl := by
    have hne : slot ≠ other := by
      rintro rfl
      rw [hh] at hn
      cases hn
    rw [handler?_store_of_ne k hne, hn] at hl
    cases hl

/-- A handler is made. -/
theorem grown_make (hn : a.handler? slot = none) (hp : a.pupil? slot = some h) (hk : Descends hd h k) :
    Grown hd a (a.store slot k)
      [.logged (.handlerCreated slot.host slot.scheme.text), .lookedUp slot.host] where
  factories := rfl
  added := ⟨[slot], .made slot .nil, Table.perm_slots_put hn k⟩
  settled ht := ht.put slot k
  kept other l hl := by
    have hne : slot ≠ other := by
      rintro rfl
      rw [hn] at hl
      cases hl
    exact ⟨l, (handler?_store_of_ne k hne).trans hl, .refl⟩
  registry := rfl
  built other l hno hl := by
    by_cases hne : slot = other
    · subst hne
      rw [handler?_store_self] at hl
      cases hl
      exact ⟨h, hp, hk⟩
    · rw [handler?_store_of_ne k hne, hno] at hl
      cases hl

end grown

section operations

variable {a : Authenticator H} {host : String}

/-- Asked for the handler of a slot, it makes one if there is none. -/
theorem grown_obtain (hd : Handling W H) {factory : Factory H} (slot : Slot)
    (hf : a.registry.factory? slot.scheme = some factory) :
    Session.Writes (a.obtain factory slot : SessionM W H) fun h entries =>
      ∀ k, Descends hd h k → Grown hd a (a.store slot k) entries := by
  unfold obtain
  cases hh : a.handler? slot with
  | some h =>
    apply Session.writes_pure
    exact fun k hk => grown_tend hh hk (by simp)
  | none =>
    apply Session.writes_after_note
    apply Session.writes_after_lookUp
    apply Session.writes_pure
    have hp : a.pupil? slot = some (factory slot.host (a.registry.provider slot.host)) := by
      rw [pupil?, hf, hh]
      rfl
    exact fun k hk => grown_make hh hp hk

theorem grown_learnAll (hd : Handling W H) (host : String) (learned : Bool) (a : Authenticator H)
    (cs : List Challenge) : Session.Writes (learnAll hd host learned a cs) fun r entries =>
      Grown hd a r.2 entries := by
  induction cs generalizing a learned with
  | nil => exact Session.writes_pure (grown_idle (by simp))
  | cons c rest ih =>
    rw [learnAll]
    cases hf : a.registry.factory? c.scheme with
    | none =>
      apply Session.writes_after_note
      exact (ih learned a).imp fun _ _ => (grown_idle (by simp [Entry.Neutral])).trans
    | some factory =>
      apply (grown_obtain hd ⟨host, c.scheme⟩ hf).bind
      intro before entries hgrown
      have hfirst := hgrown _ (Descends.learned c .refl)
      have hgo : ∀ learned, Session.Writes
          (learnAll hd host learned (a.store ⟨host, c.scheme⟩ (hd.learn c before).2) rest)
          fun r more => Grown hd a r.2 (entries ++ more) :=
        fun learned => (ih learned _).imp fun _ _ => hfirst.trans
      generalize hd.learn c before = outcome at hfirst hgo ⊢
      obtain ⟨result, after⟩ := outcome
      cases result with
      | ok u => exact hgo true
      | error e =>
        cases e with
        | noNewChallenge => exact hgo learned
        | unsupported | parse | invalidChallenge | notFound | authFailed =>
          apply Session.writes_pure
          rwa [List.append_nil]

theorem grown_learn (hd : Handling W H) (a : Authenticator H) (uri : Uri) (response : Response) :
    Session.Writes (a.learn hd uri response) fun r entries => Grown hd a r.2 entries := by
  unfold learn
  split
  · exact Session.writes_pure (grown_idle (by simp))
  · cases uri.hostKey? with
    | none => exact Session.writes_pure (grown_idle (by simp))
    | some host =>
      cases Challenge.parseAll (Headers.values response.headers Header.wwwAuthenticate) with
      | error e => exact Session.writes_pure (grown_idle (by simp))
      | ok cs => exact grown_learnAll hd host false a cs

theorem grown_authorizeWith (hd : Handling W H) (host : String) (request : Request)
    (a : Authenticator H) (schemes : List Name) :
    Session.WritesIf hd.Plain (authorizeWith hd host request a schemes) fun r entries =>
      Grown hd a r.2 entries := by
  induction schemes generalizing a with
  | nil => exact Session.writesIf_pure (grown_idle (by simp))
  | cons scheme rest ih =>
    cases hh : a.handler? ⟨host, scheme⟩ with
    | none =>
      rw [authorizeWith_of_absent hd request rest hh]
      exact ih a
    | some before =>
      have hasked : Session.WritesIf hd.Plain (hd.authorize before) fun r entries =>
          Grown hd a (a.store ⟨host, scheme⟩ r.2) entries := by
        intro s
        have hgoes := (Descends.refl : Descends hd before before).asked s
        by_cases hp : hd.Plain
        · obtain ⟨entries, hj, hneutral⟩ := hp before s
          exact ⟨entries, fun _ => hj, grown_tend hh hgoes hneutral⟩
        · exact ⟨[], fun hplain => absurd hplain hp, grown_tend hh hgoes (by simp)⟩
      simp only [authorizeWith]
      rw [hh]
      apply hasked.bind
      rintro ⟨result, after⟩ entries hgrown
      have hskip : ∀ event, Entry.Neutral (.logged event) → Session.WritesIf hd.Plain (do
          Session.log event
          authorizeWith hd host request (a.store ⟨host, scheme⟩ after) rest) fun r more =>
          Grown hd a r.2 (entries ++ more) := by
        intro event hevent
        have hlogged : Session.Writes (Session.log event : SessionM W Unit) fun _ more =>
            Grown hd a (a.store ⟨host, scheme⟩ after) (entries ++ more) :=
          fun _ => ⟨_, rfl, hgrown.trans (grown_idle (by simpa using hevent))⟩
        apply hlogged.writesIf.bind
        rintro - noted hsofar
        apply (ih _).imp
        intro r more hrest
        rw [← List.append_assoc]
        exact hsofar.trans hrest
      cases result with
      | error e => exact hskip _ trivial
      | ok value =>
        simp only
        split
        · apply Session.writesIf_pure
          rwa [List.append_nil]
        · exact hskip _ trivial

theorem grown_authorize (hd : Handling W H) (a : Authenticator H) (request : Request) :
    Session.WritesIf hd.Plain (a.authorize hd request) fun r entries => Grown hd a r.2 entries := by
  unfold authorize
  cases request.uri.hostKey? with
  | none => exact Session.writesIf_pure (grown_idle (by simp))
  | some host => exact grown_authorizeWith hd host request a a.schemes

/-- Asking for a value makes no handler. -/
theorem slots_authorizeWith (hd : Handling W H) (host : String) (request : Request)
    (a : Authenticator H) (schemes : List Name) (s : Session W) :
    (authorizeWith hd host request a schemes s).1.2.table.slots = a.table.slots := by
  induction schemes generalizing a s with
  | nil => rfl
  | cons scheme rest ih =>
    cases hh : a.handler? ⟨host, scheme⟩ with
    | none =>
      rw [authorizeWith_of_absent hd request rest hh]
      exact ih a s
    | some before =>
      have hstore : ∀ k, (a.store ⟨host, scheme⟩ k).table.slots = a.table.slots :=
        Table.slots_put_of_find? hh
      rcases authorizeWith_cases hd request rest s hh with ⟨value, -, heq⟩ | ⟨-, s', -, heq⟩
      · rw [heq]
        exact hstore _
      · rw [heq, ih, hstore]

theorem slots_authorize (hd : Handling W H) (a : Authenticator H) (request : Request) (s : Session W) :
    (a.authorize hd request s).1.2.table.slots = a.table.slots := by
  unfold authorize
  cases request.uri.hostKey? with
  | none => rfl
  | some host => exact slots_authorizeWith hd host request a a.schemes s

end operations

end Authenticator

end HttpAuth
