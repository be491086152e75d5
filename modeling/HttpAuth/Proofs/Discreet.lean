import HttpAuth.Authenticator.Basic
import HttpAuth.Proofs.BearerSteps

namespace HttpAuth

variable {W H : Type}

theorem Handler.discreet_authorize (net : Network W) (h : Handler) :
    Session.Discreet (h.authorize net) := by
  cases h with
  | basic b => exact Session.discreet_pure _
  | bearer b => exact (BearerAuth.discreet_authorize net b).bind fun _ => Session.discreet_pure _

namespace Authenticator

theorem discreet_authorizeWith (hd : Handling W H) (h : ∀ k, Session.Discreet (hd.authorize k))
    (host : String) (request : Request) (a : Authenticator H) (schemes : List Name) :
    Session.Discreet (authorizeWith hd host request a schemes) := by
  induction schemes generalizing a with
  | nil => exact Session.discreet_pure _
  | cons scheme rest ih =>
    simp only [authorizeWith]
    cases a.handler? ⟨host, scheme⟩ with
    | none => exact ih a
    | some before =>
      apply (h before).bind
      rintro ⟨result, after⟩
      cases result with
      | error e => exact (Session.discreet_log _).bind fun _ => ih _
      | ok value =>
        simp only
        split
        · exact Session.discreet_pure _
        · exact (Session.discreet_log _).bind fun _ => ih _

theorem discreet_authorize (hd : Handling W H) (h : ∀ k, Session.Discreet (hd.authorize k))
    (a : Authenticator H) (request : Request) : Session.Discreet (a.authorize hd request) := by
  unfold authorize
  cases request.uri.hostKey? with
  | none => exact Session.discreet_pure _
  | some host => exact discreet_authorizeWith hd h host request a _

theorem discreet_obtain (a : Authenticator H) (factory : Factory H) (slot : Slot) :
    Session.Discreet (a.obtain factory slot : SessionM W H) := by
  unfold obtain
  cases a.handler? slot with
  | some h => exact Session.discreet_pure _
  | none =>
    apply (Session.discreet_log _).bind
    intro _
    exact (Session.discreet_lookUp _ _).bind fun _ => Session.discreet_pure _

theorem discreet_learnAll (hd : Handling W H) (host : String) (learned : Bool) (a : Authenticator H)
    (cs : List Challenge) : Session.Discreet (learnAll hd host learned a cs) := by
  induction cs generalizing learned a with
  | nil => exact Session.discreet_pure _
  | cons c rest ih =>
    rw [learnAll]
    cases a.registry.factory? c.scheme with
    | none => exact (Session.discreet_log _).bind fun _ => ih _ _
    | some factory =>
      apply (discreet_obtain a factory _).bind
      intro before
      generalize hd.learn c before = outcome
      obtain ⟨result, after⟩ := outcome
      cases result with
      | ok u => exact ih _ _
      | error e =>
        cases e with
        | noNewChallenge => exact ih _ _
        | unsupported | parse | invalidChallenge | notFound | authFailed =>
          exact Session.discreet_pure _

theorem discreet_learn (hd : Handling W H) (a : Authenticator H) (uri : Uri) (response : Response) :
    Session.Discreet (a.learn hd uri response) := by
  unfold Authenticator.learn
  split
  · exact Session.discreet_pure _
  · cases uri.hostKey? with
    | none => exact Session.discreet_pure _
    | some host =>
      cases Challenge.parseAll (Headers.values response.headers Header.wwwAuthenticate) with
      | error e => exact Session.discreet_pure _
      | ok cs => exact discreet_learnAll hd host _ a cs

end Authenticator

end HttpAuth
