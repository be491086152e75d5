import HttpAuth.Proofs.Growth

namespace HttpAuth.Authenticator

variable {W H : Type} {hd : Handling W H}

section reached

variable {a : Authenticator H} {uri : Uri} {response : Response} {host : String} {cs : List Challenge}

/-- After a lesson there is a handler where there was one before, and where a challenge was given. -/
theorem isSome_handler?_learn (hd : Handling W H) (h : Asks uri response host cs) (a : Authenticator H)
    (s : Session W) (slot : Slot) :
    ((a.learn hd uri response s).1.2.handler? slot).isSome ↔ (a.handler? slot).isSome ∨
      ∃ c ∈ (teach hd host).given a cs, slot = ⟨host, c.scheme⟩ ∧ c.scheme ∈ a.schemes := by
  rw [(h.learn hd a s).1, Learner.lesson_snd]
  have hbrought := brought_after hd host a ((teach hd host).given a cs)
  constructor
  · intro hs
    by_cases hold : (a.handler? slot).isSome
    · exact .inl hold
    · right
      by_contra hn
      have hidle : ((teach hd host).after a ((teach hd host).given a cs)).handler? slot =
          a.handler? slot := by
        obtain ⟨other, scheme⟩ := slot
        by_cases hhost : other = host
        · subst hhost
          apply hbrought.idle
          by_contra hboth
          obtain ⟨hne, hregistered⟩ := not_or.mp hboth
          obtain ⟨c, hc⟩ := List.exists_mem_of_ne_nil _ hne
          obtain ⟨hgiven, rfl⟩ := Challenge.mem_forScheme.mp hc
          exact hn ⟨c, hgiven, rfl, Registry.mem_schemes_iff.mpr (Option.ne_none_iff_exists'.mp hregistered)⟩
        · exact hbrought.others _ hhost
      rw [hidle] at hs
      exact hold hs
  · rintro (hold | ⟨c, hc, rfl, hscheme⟩)
    · exact isSome_handler?_after hd host _ hold
    · obtain ⟨factory, hf⟩ := Registry.mem_schemes_iff.mp hscheme
      have hp : a.pupil? ⟨host, c.scheme⟩ = some _ := congrArg (Option.map _) hf
      have hne : Challenge.forScheme c.scheme ((teach hd host).given a cs) ≠ [] :=
        List.ne_nil_of_mem (Challenge.mem_forScheme.mpr ⟨hc, rfl⟩)
      rw [hbrought.taught c.scheme _ hne hp]
      rfl

end reached

/-- What happens to an authenticator: it is called, or its provider comes to answer otherwise. -/
inductive Call where
  | learn (uri : Uri) (response : Response)
  | authorize (request : Request)
  | has (host scheme : String)
  | provide (provider : CredentialsProvider)

inductive Reply where
  | learned (result : Except AuthError Unit)
  | authorized (answer? : Option Request)
  | known (answer : Bool)
  | nothing

def call (hd : Handling W H) (a : Authenticator H) : Call → SessionM W (Reply × Authenticator H)
  | .learn uri response => do
    let (result, a) ← a.learn hd uri response
    return (.learned result, a)
  | .authorize request => do
    let (answer?, a) ← a.authorize hd request
    return (.authorized answer?, a)
  | .has host scheme => return (.known (a.hasHandler host scheme), a)
  | .provide provider => return (.nothing, a.provide provider)

/-- Calls, one after the other. -/
def callAll (hd : Handling W H) (a : Authenticator H) :
    List Call → SessionM W (List Reply × Authenticator H)
  | [] => return ([], a)
  | c :: rest => do
    let (reply, a) ← a.call hd c
    let (replies, a) ← callAll hd a rest
    return (reply :: replies, a)

section calls

variable {a : Authenticator H}

theorem callAll_append (hd : Handling W H) (a : Authenticator H) (calls more : List Call) (s : Session W) :
    let first := callAll hd a calls s
    let second := callAll hd first.1.2 more first.2
    callAll hd a (calls ++ more) s = ((first.1.1 ++ second.1.1, second.1.2), second.2) := by
  induction calls generalizing a s with
  | nil => rfl
  | cons c rest ih =>
    simp only [List.cons_append, callAll, Session.bind_apply, ih]
    rfl

theorem lasting_call (hd : Handling W H) (a : Authenticator H) (c : Call) :
    Session.WritesIf hd.Plain (a.call hd c) fun r entries => Lasting hd a r.2 entries := by
  have hreturn : ∀ (reply : Reply) (b : Authenticator H) entries, Lasting hd a b entries →
      Session.WritesIf hd.Plain (pure (reply, b) : SessionM W _) fun r more =>
        Lasting hd a r.2 (entries ++ more) := by
    intro reply b entries hlasting
    exact Session.writesIf_pure (by rwa [List.append_nil])
  cases c with
  | learn uri response =>
    exact (grown_learn hd a uri response).writesIf.bind fun r _ hgrown => hreturn _ r.2 _ hgrown.toLasting
  | authorize request =>
    exact (grown_authorize hd a request).bind fun r _ hgrown => hreturn _ r.2 _ hgrown.toLasting
  | has host scheme => exact hreturn _ a [] (grown_idle (by simp)).toLasting
  | provide provider => exact hreturn _ _ [] (lasting_provide provider)

theorem lasting_callAll (hd : Handling W H) (a : Authenticator H) (calls : List Call) :
    Session.WritesIf hd.Plain (callAll hd a calls) fun r entries => Lasting hd a r.2 entries := by
  induction calls generalizing a with
  | nil => exact Session.writesIf_pure (grown_idle (by simp)).toLasting
  | cons c rest ih =>
    rw [callAll]
    apply (lasting_call hd a c).bind
    rintro ⟨reply, b⟩ entries hfirst
    apply (ih b).bind
    intro r more hmore
    apply Session.writesIf_pure
    rw [List.append_nil]
    exact hfirst.trans hmore

theorem schemes_callAll (hd : Handling W H) (a : Authenticator H) (calls : List Call) (s : Session W) :
    (callAll hd a calls s).1.2.schemes = a.schemes := by
  obtain ⟨entries, -, hlasting⟩ := lasting_callAll hd a calls s
  exact hlasting.schemes

/-- A challenge for the slot was given in one of the calls. -/
def Reached (hd : Handling W H) (a : Authenticator H) (s : Session W) (calls : List Call) (slot : Slot) :
    Prop :=
  ∃ before uri response after cs, calls = before ++ .learn uri response :: after ∧
    Asks uri response slot.host cs ∧
    ∃ c ∈ (teach hd slot.host).given (callAll hd a before s).1.2 cs, c.scheme = slot.scheme ∧
      c.scheme ∈ a.schemes

theorem reached_append (hd : Handling W H) (s : Session W) (calls : List Call) (c : Call) (slot : Slot) :
    Reached hd a s (calls ++ [c]) slot ↔ Reached hd a s calls slot ∨
      ∃ uri response cs, c = .learn uri response ∧ Asks uri response slot.host cs ∧
        ∃ d ∈ (teach hd slot.host).given (callAll hd a calls s).1.2 cs, d.scheme = slot.scheme ∧
          d.scheme ∈ a.schemes := by
  constructor
  · rintro ⟨before, uri, response, after, cs, hsplit, hgiven⟩
    cases after using List.reverseRecOn with
    | nil =>
      obtain ⟨rfl, hc⟩ := List.append_inj' hsplit rfl
      exact .inr ⟨uri, response, cs, List.singleton_inj.mp hc, hgiven⟩
    | append_singleton after d =>
      rw [← List.cons_append, ← List.append_assoc] at hsplit
      obtain ⟨rfl, -⟩ := List.append_inj' hsplit rfl
      exact .inl ⟨before, uri, response, after, cs, rfl, hgiven⟩
  · rintro (⟨before, uri, response, after, cs, rfl, hgiven⟩ | ⟨uri, response, cs, rfl, hgiven⟩)
    · exact ⟨before, uri, response, after ++ [c], cs, by simp, hgiven⟩
    · exact ⟨calls, uri, response, [], cs, rfl, hgiven⟩

theorem isSome_handler?_call (hd : Handling W H) (a : Authenticator H) (c : Call) (s : Session W)
    (slot : Slot) : ((a.call hd c s).1.2.handler? slot).isSome ↔ (a.handler? slot).isSome ∨
      ∃ uri response cs, c = .learn uri response ∧ Asks uri response slot.host cs ∧
        ∃ d ∈ (teach hd slot.host).given a cs, d.scheme = slot.scheme ∧ d.scheme ∈ a.schemes := by
  cases c with
  | learn uri response =>
    by_cases hasks : ∃ host cs, Asks uri response host cs
    · obtain ⟨host, cs, hasks⟩ := hasks
      refine (isSome_handler?_learn hd hasks a s slot).trans (or_congr Iff.rfl ?_)
      constructor
      · rintro ⟨d, hd', rfl, hscheme⟩
        exact ⟨uri, response, cs, rfl, hasks, d, hd', rfl, hscheme⟩
      · rintro ⟨_, _, cs', ⟨⟩, hasks', d, hd', hslot, hscheme⟩
        obtain rfl := Option.some.inj (hasks.hostKey.symm.trans hasks'.hostKey)
        obtain rfl := Except.ok.inj (hasks.parsed.symm.trans hasks'.parsed)
        exact ⟨d, hd', by rw [hslot], hscheme⟩
    · obtain ⟨e, he⟩ := learn_of_not_asks (fun host cs hn => hasks ⟨host, cs, hn⟩) hd
      have hsame : (a.call hd (.learn uri response) s).1.2 = a := congrArg (·.1.2) (he a s)
      rw [hsame]
      refine ⟨.inl, ?_⟩
      rintro (hold | ⟨_, _, cs, ⟨⟩, hasks', -⟩)
      · exact hold
      · exact absurd ⟨_, cs, hasks'⟩ hasks
  | authorize request =>
    have hslots := slots_authorize hd a request s
    have hsome : ((a.authorize hd request s).1.2.handler? slot).isSome ↔ (a.handler? slot).isSome := by
      rw [handler?, handler?, ← Table.mem_slots_iff, ← Table.mem_slots_iff, hslots]
    refine hsome.trans ⟨.inl, ?_⟩
    rintro (hold | ⟨_, _, _, ⟨⟩, -⟩)
    exact hold
  | has | provide =>
    refine ⟨.inl, ?_⟩
    rintro (hold | ⟨_, _, _, ⟨⟩, -⟩)
    exact hold

/-- The handlers that there are after some calls are those whose challenges have come. -/
theorem isSome_handler?_callAll (hd : Handling W H) (r : Registry H) (basic : Factory H)
    (calls : List Call) (s : Session W) (slot : Slot) :
    ((callAll hd (ofRegistry r basic) calls s).1.2.handler? slot).isSome ↔
      Reached hd (ofRegistry r basic) s calls slot := by
  induction calls using List.reverseRecOn with
  | nil =>
    constructor
    · rintro ⟨⟩
    · rintro ⟨before, uri, response, after, cs, hsplit, -⟩
      simp at hsplit
  | append_singleton calls c ih =>
    have hschemes := schemes_callAll hd (ofRegistry r basic) calls s
    have hstep := isSome_handler?_call hd (callAll hd (ofRegistry r basic) calls s).1.2 c
      (callAll hd (ofRegistry r basic) calls s).2 slot
    rw [callAll_append, reached_append, ← ih]
    rw [hschemes] at hstep
    exact hstep

/-- A handler was made in one of the calls, by the factory of its scheme and with the credentials that the provider
had for its host then. Its slot was empty before. This is what has become of it. -/
def MadeIn (hd : Handling W H) (a : Authenticator H) (s : Session W) (calls : List Call) (slot : Slot) (h : H) :
    Prop :=
  ∃ earlier uri response rest factory k, calls = earlier ++ .learn uri response :: rest ∧
    a.registry.factory? slot.scheme = some factory ∧
    let b := (callAll hd a earlier s).1.2
    b.handler? slot = none ∧
    (callAll hd a (earlier ++ [.learn uri response]) s).1.2.handler? slot = some k ∧
    Descends hd (factory slot.host (b.registry.provider slot.host)) k ∧ Descends hd k h

theorem MadeIn.append {s : Session W} {calls : List Call} {slot : Slot} {h k : H}
    (hm : MadeIn hd a s calls slot h) (c : Call) (hk : Descends hd h k) :
    MadeIn hd a s (calls ++ [c]) slot k := by
  obtain ⟨earlier, uri, response, rest, factory, first, rfl, hf, hnone, hsome, hborn, hgone⟩ := hm
  exact ⟨earlier, uri, response, rest ++ [c], factory, first, by simp, hf, hnone, hsome, hborn, hgone.trans hk⟩

/-- Every handler that there is after some calls was made in one of them. -/
theorem madeIn_callAll (hd : Handling W H) (r : Registry H) (basic : Factory H) (calls : List Call)
    (s : Session W) {slot : Slot} {h : H}
    (hh : (callAll hd (ofRegistry r basic) calls s).1.2.handler? slot = some h) :
    MadeIn hd (ofRegistry r basic) s calls slot h := by
  induction calls using List.reverseRecOn generalizing h with
  | nil => cases hh
  | append_singleton calls c ih =>
    have hlast := hh
    rw [callAll_append] at hh
    obtain ⟨_, -, hbefore⟩ := lasting_callAll hd (ofRegistry r basic) calls s
    generalize hb : callAll hd (ofRegistry r basic) calls s = before at hh hbefore ih
    change (before.1.2.call hd c before.2).1.2.handler? slot = some h at hh
    cases hk : before.1.2.handler? slot with
    | some k =>
      obtain ⟨_, -, hstep⟩ := lasting_call hd before.1.2 c before.2
      obtain ⟨h', hh', hdescends⟩ := hstep.kept slot k hk
      rw [hh] at hh'
      cases hh'
      exact (ih hk).append c hdescends
    | none =>
      have hsome : ((before.1.2.call hd c before.2).1.2.handler? slot).isSome := by
        rw [hh]
        rfl
      rcases (isSome_handler?_call hd before.1.2 c before.2 slot).mp hsome with hold | ⟨uri, response, _, rfl, -⟩
      · rw [hk] at hold
        cases hold
      · obtain ⟨_, -, hgrown⟩ := grown_learn hd before.1.2 uri response before.2
        obtain ⟨made, hp, hdescends⟩ := hgrown.built slot h hk hh
        obtain ⟨factory, hf, rfl⟩ := Option.map_eq_some_iff.mp hp
        rw [hk, Option.getD_none] at hdescends
        refine ⟨calls, uri, response, [], factory, h, rfl, ?_, ?_, hlast, ?_, .refl⟩
        · rw [← hf, Registry.factory?, Registry.factory?, hbefore.factories]
        · rwa [hb]
        · rwa [hb]

end calls

/-- However an authenticator is used from the beginning, and whatever its provider comes to answer: for each slot
one handler is made and never another, by the factory that is registered for its scheme; it goes on from there and
stays. All handlers are of registered schemes, and no host of the table is without a handler. Unless a handler looks
them up itself, credentials are looked up once for each handler, when it is made, and then only. The handlers that
there are belong to the hosts and registered schemes for which a challenge was given in an earlier lesson. -/
theorem table_only_grows (hd : Handling W H) (r : Registry H) (basic : Factory H) (s : Session W)
    (calls more : List Call) :
    let start := ofRegistry r basic
    let first := callAll hd start calls s
    let a := first.1.2
    let later := (callAll hd a more first.2).1.2
    a.table.slots.Nodup ∧
    (∀ slot ∈ a.table.slots, slot.scheme ∈ a.schemes ∧ (a.handler? slot).isSome) ∧
    (∀ entry ∈ a.table.entries, entry.2.entries ≠ []) ∧
    (∀ slot h, a.handler? slot = some h → slot ∈ a.table.slots ∧ MadeIn hd start s calls slot h) ∧
    (∀ slot h, a.handler? slot = some h →
      ∃ h', later.handler? slot = some h' ∧ Descends hd h h') ∧
    (hd.Plain → ∃ entries made, first.2.journal = s.journal ++ entries ∧ Creates entries made ∧
      made.Perm a.table.slots) ∧
    ∀ host scheme, a.hasHandler host scheme = true ↔
      Reached hd start s calls ⟨host, .ofText scheme⟩ := by
  intro start first a later
  obtain ⟨entries, hjournal, hlasting⟩ := lasting_callAll hd start calls s
  obtain ⟨_, -, hlater⟩ := lasting_callAll hd a more first.2
  obtain ⟨made, hcreates, hslots⟩ := hlasting.added
  have hempty : start.table.NoEmptyHost := by
    rintro entry ⟨⟩
  refine ⟨Table.nodup_slots _, ?_, hlasting.settled hempty, ?_, hlater.kept,
    fun hp => ⟨entries, made, hjournal hp, hcreates, hslots.symm⟩, ?_⟩
  · intro slot hslot
    have hsome : (a.handler? slot).isSome := Table.mem_slots_iff.mp hslot
    obtain ⟨h, hh⟩ := Option.isSome_iff_exists.mp hsome
    obtain ⟨_, _, _, _, factory, _, -, hf, -⟩ := madeIn_callAll hd r basic calls s hh
    have hschemes : a.schemes = start.schemes := hlasting.schemes
    rw [hschemes]
    exact ⟨Registry.mem_schemes_iff.mpr ⟨factory, hf⟩, hsome⟩
  · intro slot h hh
    exact ⟨Table.mem_slots_iff.mpr (Option.isSome_iff_exists.mpr ⟨h, hh⟩), madeIn_callAll hd r basic calls s hh⟩
  · intro host scheme
    exact isSome_handler?_callAll hd r basic calls s ⟨host, .ofText scheme⟩

/-- One response asks for a registered scheme and one that is not. The user logs in, and a later response asks for
both registered schemes. -/
theorem table_only_grows_two :
    let r := (({} : Registry Handler).register "bearer" (Handler.bearerFactory {})).register "basic"
      Handler.basicFactory
    let alice : Credentials := ⟨"alice", "wonderland"⟩
    let calls : List Call := [.learn registryUri (refusalOf ["Basic realm=\"a\", Digest realm=\"a\""]),
      .has "registry.example" "Digest", .provide fun _ => alice, .authorize { uri := registryUri },
      .learn registryUri (refusalOf ["Basic realm=\"a\"",
        "Bearer realm=\"https://auth.example/token\",service=\"s\",scope=\"pull\""])]
    let first := callAll (Handler.handling offline) (ofRegistry r Handler.basicFactory) calls ⟨(), []⟩
    (Handler.handling offline).Plain ∧ ∃ made, Creates first.2.journal made ∧ made.Perm
      [⟨"registry.example", .ofText "basic"⟩, ⟨"registry.example", .ofText "bearer"⟩] := by
  intro r alice calls first
  have hplain : (Handler.handling offline).Plain := Handler.plain_handling offline
  have hslots : first.1.2.table.slots =
      [⟨"registry.example", .ofText "basic"⟩, ⟨"registry.example", .ofText "bearer"⟩] := by
    decide +kernel
  obtain ⟨-, -, -, -, -, hcreated, -⟩ :=
    table_only_grows (Handler.handling offline) r Handler.basicFactory ⟨(), []⟩ calls []
  obtain ⟨entries, made, hjournal, hcreates, hperm⟩ := hcreated hplain
  refine ⟨hplain, made, ?_, hslots ▸ hperm⟩
  rw [hjournal]
  exact hcreates

end HttpAuth.Authenticator
