import HttpAuth.Proofs.HandlerTable
import HttpAuth.Proofs.Registration
import HttpAuth.Proofs.Retrying

namespace HttpAuth.Authenticator

variable {W H : Type} {hd : Handling W H} {host : String} {a : Authenticator H}

/-- The handlers of a host for these schemes. -/
def handlersFor (a : Authenticator H) (host : String) (schemes : List Name) : List (Name × H) :=
  schemes.filterMap fun scheme => (a.handler? ⟨host, scheme⟩).map (scheme, ·)

/-- Those that are asked for a value, in this order. -/
def candidates (a : Authenticator H) (host : String) : List (Name × H) := a.handlersFor host a.schemes

/-- What is noted of a handler whose answer cannot be sent. -/
def passedOver (host : String) (scheme : Name) : Except AuthError String → Event
  | .error e => .schemeSkipped host scheme.text e
  | .ok _ => .valueNotSendable host scheme.text

/-- Handlers are asked one after the other, each in the session that the one before has left, and none of them
has a value that can be sent. The second list holds what has become of them. -/
inductive InVain (hd : Handling W H) (host : String) :
    List (Name × H) → Session W → List (Name × H) → Session W → Prop where
  | nil (s : Session W) : InVain hd host [] s [] s
  | cons {scheme : Name} {h h' : H} {result : Except AuthError String} {s s' s'' : Session W}
    {rest after : List (Name × H)} (hasked : hd.authorize h s = ((result, h'), s'))
    (hresult : ∀ value, ¬ Sendable result value)
    (hrest : InVain hd host rest (Session.log (passedOver host scheme result) s').2 after s'') :
    InVain hd host ((scheme, h) :: rest) s ((scheme, h') :: after) s''

/-- Puts handlers of one host in their places. -/
def storeAll (a : Authenticator H) (host : String) (handlers : List (Name × H)) : Authenticator H :=
  handlers.foldl (fun a e => a.store ⟨host, e.1⟩ e.2) a

section storing

variable {handlers : List (Name × H)} {scheme : Name} {h : H}

theorem handler?_storeAll_of_ne {slot : Slot} (hne : ∀ e ∈ handlers, (⟨host, e.1⟩ : Slot) ≠ slot) :
    (a.storeAll host handlers).handler? slot = a.handler? slot := by
  induction handlers generalizing a with
  | nil => rfl
  | cons e rest ih =>
    obtain ⟨he, hrest⟩ := List.forall_mem_cons.mp hne
    exact (ih hrest).trans (handler?_store_of_ne e.2 he)

theorem handler?_storeAll_of_mem (hn : (handlers.map Prod.fst).Nodup) (hm : (scheme, h) ∈ handlers) :
    (a.storeAll host handlers).handler? ⟨host, scheme⟩ = some h := by
  induction handlers generalizing a with
  | nil => cases hm
  | cons e rest ih =>
    obtain ⟨hfirst, hrest⟩ := List.nodup_cons.mp hn
    rcases List.mem_cons.mp hm with rfl | hm
    · have hothers : ∀ e ∈ rest, (⟨host, e.1⟩ : Slot) ≠ ⟨host, scheme⟩ := by
        rintro e he hslot
        exact hfirst (List.mem_map.mpr ⟨e, he, congrArg Slot.scheme hslot⟩)
      exact (handler?_storeAll_of_ne hothers).trans (handler?_store_self h)
    · exact ih hrest hm

end storing

section search

variable {scheme : Name} {names rest : List Name} {h h' : H} {s s' : Session W}
  {tried after : List (Name × H)}

theorem InVain.schemes (hv : InVain hd host tried s after s') :
    after.map Prod.fst = tried.map Prod.fst := by
  induction hv with
  | nil => rfl
  | cons _ _ _ ih => exact congrArg (List.cons _) ih

theorem handlersFor_cons_none (hh : a.handler? ⟨host, scheme⟩ = none) :
    a.handlersFor host (scheme :: rest) = a.handlersFor host rest := by
  simp [handlersFor, hh]

theorem handlersFor_cons_some (hh : a.handler? ⟨host, scheme⟩ = some h) :
    a.handlersFor host (scheme :: rest) = (scheme, h) :: a.handlersFor host rest := by
  simp [handlersFor, hh]

/-- What one handler becomes does not matter to the others. -/
theorem handlersFor_store (h : H) (hs : scheme ∉ rest) :
    (a.store ⟨host, scheme⟩ h).handlersFor host rest = a.handlersFor host rest := by
  refine List.filterMap_congr fun other ho => ?_
  have hne : (⟨host, scheme⟩ : Slot) ≠ ⟨host, other⟩ := by
    intro hslot
    cases hslot
    exact hs ho
  rw [handler?_store_of_ne h hne]

theorem sublist_handlersFor (a : Authenticator H) (host : String) (names : List Name) :
    ((a.handlersFor host names).map Prod.fst).Sublist names := by
  induction names with
  | nil => exact List.Sublist.refl _
  | cons scheme rest ih =>
    cases hh : a.handler? ⟨host, scheme⟩ with
    | none =>
      rw [handlersFor_cons_none hh]
      exact ih.cons _
    | some h =>
      rw [handlersFor_cons_some hh]
      exact ih.cons_cons _

theorem handler?_of_mem_handlersFor (hm : (scheme, h) ∈ a.handlersFor host names) :
    a.handler? ⟨host, scheme⟩ = some h := by
  obtain ⟨other, -, ho⟩ := List.mem_filterMap.mp hm
  obtain ⟨k, hk, he⟩ := Option.map_eq_some_iff.mp ho
  cases he
  exact hk

/-- A handler that has no value that can be sent is passed over. -/
theorem authorizeWith_of_refused {result : Except AuthError String} (request : Request)
    (hh : a.handler? ⟨host, scheme⟩ = some h) (hasked : hd.authorize h s = ((result, h'), s'))
    (hresult : ∀ value, ¬ Sendable result value) :
    authorizeWith hd host request a (scheme :: rest) s =
      authorizeWith hd host request (a.store ⟨host, scheme⟩ h') rest
        (Session.log (passedOver host scheme result) s').2 := by
  simp only [authorizeWith]
  rw [hh]
  simp only [Session.bind_apply, hasked]
  cases result with
  | error e => rfl
  | ok value =>
    have hv : Header.isValue (Utf8.encode value) ≠ true := fun hv => hresult value ⟨rfl, hv⟩
    simp only [hv, Bool.false_eq_true, ↓reduceIte]
    rfl

theorem authorizeWith_of_sendable {value : String} (request : Request)
    (hh : a.handler? ⟨host, scheme⟩ = some h) (hasked : hd.authorize h s = ((.ok value, h'), s'))
    (hv : Header.isValue (Utf8.encode value) = true) :
    authorizeWith hd host request a (scheme :: rest) s =
      ((some (withAuthorization request (Utf8.encode value)), a.store ⟨host, scheme⟩ h'), s') := by
  simp only [authorizeWith]
  rw [hh]
  simp only [Session.bind_apply, hasked, hv, ↓reduceIte]
  rfl

/-- All handlers are asked in vain, or all in front of one that has a value. -/
theorem authorizeWith_search (hd : Handling W H) (host : String) (request : Request)
    (a : Authenticator H) (hn : names.Nodup) (s : Session W) :
    ∃ tried after s', InVain hd host tried s after s' ∧
      (a.handlersFor host names = tried ∧
          authorizeWith hd host request a names s = ((none, a.storeAll host after), s') ∨
        ∃ scheme h untried value h' s'', a.handlersFor host names = tried ++ (scheme, h) :: untried ∧
          hd.authorize h s' = ((.ok value, h'), s'') ∧ Header.isValue (Utf8.encode value) = true ∧
          authorizeWith hd host request a names s =
            ((some (withAuthorization request (Utf8.encode value)),
              a.storeAll host (after ++ [(scheme, h')])), s'')) := by
  induction names generalizing a s with
  | nil => exact ⟨[], [], s, .nil s, .inl ⟨rfl, rfl⟩⟩
  | cons scheme rest ih =>
    obtain ⟨hscheme, hrest⟩ := List.nodup_cons.mp hn
    cases hh : a.handler? ⟨host, scheme⟩ with
    | none =>
      rw [authorizeWith_of_absent hd request rest hh, handlersFor_cons_none hh]
      exact ih a hrest s
    | some h =>
      rw [handlersFor_cons_some hh]
      rcases hasked : hd.authorize h s with ⟨⟨result, h'⟩, s'⟩
      by_cases hresult : ∃ value, Sendable result value
      · obtain ⟨value, rfl, hv⟩ := hresult
        exact ⟨[], [], s, .nil s, .inr ⟨scheme, h, _, value, h', s', rfl, hasked, hv,
          authorizeWith_of_sendable request hh hasked hv⟩⟩
      · have hno := not_exists.mp hresult
        rw [authorizeWith_of_refused request hh hasked hno, ← handlersFor_store h' hscheme]
        obtain ⟨tried, after, s'', hvain, hend⟩ := ih (a.store ⟨host, scheme⟩ h') hrest
          (Session.log (passedOver host scheme result) s').2
        refine ⟨_, _, _, .cons hasked hno hvain, ?_⟩
        rcases hend with ⟨htried, heq⟩ | ⟨other, k, untried, value, k', t, hsplit, hfound, hv, heq⟩
        · exact .inl ⟨congrArg _ htried, heq⟩
        · exact .inr ⟨other, k, untried, value, k', t, congrArg _ hsplit, hfound, hv, heq⟩

end search

/-- Of the handlers of this host, these have become the ones in the list. All others are as they were. -/
structure Tended (a : Authenticator H) (host : String) (handlers : List (Name × H))
    (a' : Authenticator H) : Prop where
  asked : ∀ e ∈ handlers, a'.handler? ⟨host, e.1⟩ = some e.2
  others : ∀ slot, (∀ e ∈ handlers, (⟨host, e.1⟩ : Slot) ≠ slot) → a'.handler? slot = a.handler? slot

theorem tended_storeAll {handlers : List (Name × H)} (a : Authenticator H) (host : String)
    (hn : (handlers.map Prod.fst).Nodup) : a.Tended host handlers (a.storeAll host handlers) where
  asked _ he := handler?_storeAll_of_mem hn he
  others _ hne := handler?_storeAll_of_ne hne

theorem Tended.elsewhere {handlers : List (Name × H)} {a' : Authenticator H}
    (ht : a.Tended host handlers a') {slot : Slot} (hne : slot.host ≠ host) :
    a'.handler? slot = a.handler? slot :=
  ht.others slot fun _ _ hslot => hne (congrArg Slot.host hslot).symm

theorem registry_authorize (hd : Handling W H) (a : Authenticator H) (request : Request) (s : Session W) :
    (a.authorize hd request s).1.2.registry = a.registry := by
  obtain ⟨entries, -, hgrown⟩ := grown_authorize hd a request s
  exact hgrown.registry

theorem filter_withAuthorization (request : Request) (value : List UInt8) :
    (withAuthorization request value).headers.filter (·.name = Header.authorization) =
      [⟨Header.authorization, value, true⟩] := by
  simp [withAuthorization, Headers.put]

/-- However an authenticator was put together and has been used, it has each scheme once. -/
theorem nodup_schemes_callAll (hd : Handling W H) (basic : Factory H) (settings : List (Setting H))
    (calls : List Call) (s : Session W) :
    (callAll hd (ofRegistry (.configured basic settings) basic) calls s).1.2.schemes.Nodup := by
  rw [schemes_callAll]
  exact Registry.nodup_finish (Registry.nodup_configured basic settings) basic

/-- The handlers of the host of a request are asked for a value in the order in which their schemes were
registered, each once, until one of them has a value that can be sent. That value becomes the only authorization
value of the request, and is marked as sensitive; nothing else of the request changes. The handlers behind this one
are not asked, and stay as they are. If none has such a value, if there are none, or if the request has no host, then
there is no new request. Handlers of other hosts stay as they are, and none is made. -/
theorem authorize_first_sendable (hd : Handling W H) (a : Authenticator H) (request : Request)
    (s : Session W) (hn : a.schemes.Nodup) :
    let r := a.authorize hd request s
    (request.uri.hostKey? = none → r = ((none, a), s)) ∧
    ∀ host, request.uri.hostKey? = some host →
      (a.candidates host = [] → r = ((none, a), s)) ∧
      ((a.candidates host).map Prod.fst).Nodup ∧
      ((a.candidates host).map Prod.fst).Sublist a.schemes ∧
      r.1.2.registry = a.registry ∧ r.1.2.table.slots = a.table.slots ∧
      (∀ slot, slot.host ≠ host → r.1.2.handler? slot = a.handler? slot) ∧
      ∃ tried after s', InVain hd host tried s after s' ∧
        (a.candidates host = tried ∧ a.Tended host after r.1.2 ∧ r.1.1 = none ∧ r.2 = s' ∨
          ∃ scheme h untried value h', a.candidates host = tried ++ (scheme, h) :: untried ∧
            hd.authorize h s' = ((.ok value, h'), r.2) ∧ Header.isValue (Utf8.encode value) = true ∧
            a.Tended host (after ++ [(scheme, h')]) r.1.2 ∧
            (∀ e ∈ untried, r.1.2.handler? ⟨host, e.1⟩ = some e.2) ∧
            ∃ q, r.1.1 = some q ∧ q.bare = request.bare ∧
              q.headers.filter (·.name = Header.authorization) =
                [⟨Header.authorization, Utf8.encode value, true⟩]) := by
  intro r
  refine ⟨?_, ?_⟩
  · intro hhost
    simp only [r, authorize, hhost]
    rfl
  · intro host hhost
    have hr : r = authorizeWith hd host request a a.schemes s := by
      simp only [r, authorize, hhost]
    have hsub := sublist_handlersFor a host a.schemes
    have hdistinct := hsub.nodup hn
    have hregistry : r.1.2.registry = a.registry := registry_authorize hd a request s
    have hslots : r.1.2.table.slots = a.table.slots := slots_authorize hd a request s
    obtain ⟨tried, after, s', hvain, hend⟩ := authorizeWith_search hd host request a hn s
    rw [← hr] at hend
    rcases hend with ⟨htried, heq⟩ | ⟨scheme, h, untried, value, h', s'', hsplit, hasked, hv, heq⟩
    · have htended : a.Tended host after r.1.2 := by
        rw [heq]
        apply tended_storeAll
        rwa [hvain.schemes, ← htried]
      refine ⟨?_, hdistinct, hsub, hregistry, hslots, fun slot => htended.elsewhere, tried, after, s',
        hvain, .inl ⟨htried, htended, congrArg (·.1.1) heq, congrArg (·.2) heq⟩⟩
      intro hnone
      obtain rfl : tried = [] := htried.symm.trans hnone
      cases hvain
      exact heq
    · have hsplit' : (a.candidates host).map Prod.fst =
          (after ++ [(scheme, h')]).map Prod.fst ++ untried.map Prod.fst := by
        rw [candidates, hsplit, List.map_append, List.map_append, hvain.schemes, List.append_assoc]
        rfl
      obtain ⟨hasked', -, hapart⟩ := List.nodup_append.mp (hsplit' ▸ hdistinct)
      have htended : a.Tended host (after ++ [(scheme, h')]) r.1.2 := by
        rw [heq]
        exact tended_storeAll a host hasked'
      have hidle : ∀ e ∈ untried, r.1.2.handler? ⟨host, e.1⟩ = some e.2 := by
        intro e he
        have hm : e ∈ a.candidates host := by
          rw [candidates, hsplit]
          exact List.mem_append_right _ (List.mem_cons_of_mem _ he)
        rw [← handler?_of_mem_handlersFor hm]
        apply htended.others
        intro d hd hslot
        exact hapart _ (List.mem_map_of_mem hd) _ (List.mem_map_of_mem he) (congrArg Slot.scheme hslot)
      have hanswer : r.1.1 = some (withAuthorization request (Utf8.encode value)) := congrArg (·.1.1) heq
      refine ⟨?_, hdistinct, hsub, hregistry, hslots, fun slot => htended.elsewhere, tried, after, s',
        hvain, .inr ⟨scheme, h, untried, value, h', hsplit, ?_, hv, htended, hidle, _, hanswer,
          bare_withAuthorization request _, filter_withAuthorization request _⟩⟩
      · intro hnone
        rw [candidates, hsplit] at hnone
        simp at hnone
      · rw [hasked, heq]

/-- Bearer comes before Basic, but no token can be had. What the caller put on the request is replaced. -/
theorem authorize_first_sendable_fallback :
    let hd := Handler.handling offline
    let settings := [.scheme "bearer" (Handler.bearerFactory {}), .defaults,
      .provider fun _ => ⟨"alice", "wonderland"⟩]
    let refusal := refusalOf ["Basic realm=\"a\"",
      "Bearer realm=\"https://auth.example/token\",service=\"s\",scope=\"pull\""]
    let used := callAll hd (ofRegistry (.configured Handler.basicFactory settings) Handler.basicFactory)
      [.learn registryUri refusal] ⟨(), []⟩
    let q : Request := { uri := registryUri, headers := [⟨Header.authorization, [0x78], false⟩] }
    let r := used.1.2.authorize hd q used.2
    used.1.2.schemes.Nodup ∧
      (used.1.2.candidates "registry.example").map Prod.fst = [.ofText "bearer", .ofText "basic"] ∧
      ∃ answer, r.1.1 = some answer ∧ answer.bare = q.bare ∧
        answer.headers = [⟨Header.authorization, Utf8.encode "Basic YWxpY2U6d29uZGVybGFuZA==", true⟩] := by
  intro hd settings refusal used q r
  have hn : used.1.2.schemes.Nodup := nodup_schemes_callAll hd Handler.basicFactory settings _ _
  have hschemes : (used.1.2.candidates "registry.example").map Prod.fst =
      [.ofText "bearer", .ofText "basic"] := by decide +kernel
  have hheaders : r.1.1.map Request.headers =
      some [⟨Header.authorization, Utf8.encode "Basic YWxpY2U6d29uZGVybGFuZA==", true⟩] := by
    decide +kernel
  obtain ⟨-, hsearch⟩ := authorize_first_sendable hd used.1.2 q used.2 hn
  obtain ⟨-, -, -, -, -, -, tried, after, s', -, hend⟩ := hsearch "registry.example" (by decide +kernel)
  change (_ ∧ _ ∧ r.1.1 = none ∧ _) ∨ _ at hend
  rcases hend with ⟨-, -, hnone, -⟩ | ⟨_, _, _, _, _, -, -, -, -, -, answer, hanswer, hbare, -⟩
  · rw [hnone] at hheaders
    cases hheaders
  · refine ⟨hn, hschemes, answer, hanswer, hbare, ?_⟩
    change r.1.1 = _ at hanswer
    rw [hanswer] at hheaders
    exact Option.some.inj hheaders

end HttpAuth.Authenticator
