import HttpAuth.Authenticator.Registry
import HttpAuth.Authenticator.Table
import HttpAuth.Challenge.Scanner

namespace HttpAuth

/-- All that it learns is kept in its handlers, one for each host key and scheme. -/
structure Authenticator (H : Type) where
  registry : Registry H
  table : Table H := ∅

namespace Authenticator

variable {W H : Type}

def ofRegistry (r : Registry H) (basic : Factory H) : Authenticator H :=
  { registry := r.finish basic }

def schemes (a : Authenticator H) : List Name := a.registry.schemes

def handler? (a : Authenticator H) (slot : Slot) : Option H := a.table.find? slot

def hasHandler (a : Authenticator H) (host scheme : String) : Bool :=
  (a.handler? ⟨host, .ofText scheme⟩).isSome

def store (a : Authenticator H) (slot : Slot) (h : H) : Authenticator H :=
  { a with table := a.table.put slot h }

/-- The handler of a slot, which is made when it is first asked for. -/
def obtain (a : Authenticator H) (factory : Factory H) (slot : Slot) : SessionM W H := do
  match a.handler? slot with
  | some h => return h
  | none =>
    Session.log (.handlerCreated slot.host slot.scheme.text)
    let credentials ← Session.lookUp a.registry.provider slot.host
    return factory slot.host credentials

/-- Gives challenges to their handlers in order, up to the first that a handler finds wrong. Succeeds if a
handler has learned something, be it before this point. -/
def learnAll (hd : Handling W H) (host : String) (learned : Bool) (a : Authenticator H) :
    List Challenge → SessionM W (Except AuthError Unit × Authenticator H)
  | [] => return (if learned then .ok () else .error .noNewChallenge, a)
  | c :: rest => do
    match a.registry.factory? c.scheme with
    | none =>
      Session.log (.unsupportedScheme host c.scheme.text)
      learnAll hd host learned a rest
    | some factory =>
      let slot : Slot := ⟨host, c.scheme⟩
      let before ← a.obtain factory slot
      let (result, after) := hd.learn c before
      match result with
      | .ok () => learnAll hd host true (a.store slot after) rest
      | .error .noNewChallenge => learnAll hd host learned (a.store slot after) rest
      | .error e => return (.error e, a.store slot after)

/-- Learns from the response to a request for `uri`. -/
def learn (hd : Handling W H) (a : Authenticator H) (uri : Uri) (response : Response) :
    SessionM W (Except AuthError Unit × Authenticator H) :=
  if response.status ≠ .unauthorized then return (.error .unsupported, a)
  else match uri.hostKey? with
    | none => return (.error .unsupported, a)
    | some host =>
      match Challenge.parseAll (Headers.values response.headers Header.wwwAuthenticate) with
      | .error e => return (.error (.parse e), a)
      | .ok challenges => learnAll hd host false a challenges

/-- The request with an authorization value as its only one. -/
def withAuthorization (request : Request) (value : List UInt8) : Request :=
  { request with
    headers := Headers.put request.headers ⟨Header.authorization, value, true⟩ }

/-- Tries schemes in order until one has a value that can be sent. -/
def authorizeWith (hd : Handling W H) (host : String) (request : Request) (a : Authenticator H) :
    List Name → SessionM W (Option Request × Authenticator H)
  | [] => return (none, a)
  | scheme :: rest => do
    let slot : Slot := ⟨host, scheme⟩
    match a.handler? slot with
    | none => authorizeWith hd host request a rest
    | some before =>
      let (result, after) ← hd.authorize before
      match result with
      | .error e =>
        Session.log (.schemeSkipped host scheme.text e)
        authorizeWith hd host request (a.store slot after) rest
      | .ok value =>
        if Header.isValue (Utf8.encode value) then
          return (some (withAuthorization request (Utf8.encode value)), a.store slot after)
        else
          Session.log (.valueNotSendable host scheme.text)
          authorizeWith hd host request (a.store slot after) rest

/-- The request with the authorization value of the first scheme that has one for its host. -/
def authorize (hd : Handling W H) (a : Authenticator H) (request : Request) :
    SessionM W (Option Request × Authenticator H) :=
  match request.uri.hostKey? with
  | none => return (none, a)
  | some host => authorizeWith hd host request a a.schemes

end Authenticator

end HttpAuth
