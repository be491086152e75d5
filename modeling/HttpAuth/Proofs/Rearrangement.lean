import HttpAuth.Proofs.Growth

namespace HttpAuth

namespace Learner

variable {σ : Type} {f : Learner σ} {x : σ} {cs : List Challenge} {learned : Bool}

/-- A lesson that ends well was not stopped on the way. -/
theorem fits_of_result (h : (f.lesson learned x cs).1 = .ok () ∨
    (f.lesson learned x cs).1 = .error .noNewChallenge) : f.Fits x cs := by
  rcases f.fits_or_stops x cs with hfits | ⟨before, c, after, e, rfl, hstops⟩
  · exact hfits
  · rw [lesson_of_stops hstops] at h
    rcases h with h | h
    · cases h
    · exact absurd (Except.error.inj h) hstops.flaw

end Learner

namespace Challenge

variable {c d : Challenge}

/-- Neighbours of different schemes may change places. -/
theorem forScheme_swap (h : c.scheme ≠ d.scheme) (scheme : Name) (rest : List Challenge) :
    forScheme scheme (c :: d :: rest) = forScheme scheme (d :: c :: rest) := by
  by_cases hc : c.scheme = scheme
  · have hd : d.scheme ≠ scheme := fun hd => h (hc.trans hd.symm)
    simp [forScheme, hc, hd]
  · simp [forScheme, hc, List.filter_cons]

end Challenge

namespace Authenticator

open Challenge (forScheme forScheme_swap)

variable {W H : Type} {hd : Handling W H} {host : String} {a : Authenticator H} {cs ds : List Challenge}

/-- The challenges that remain when those of other schemes are dropped. -/
def registered (a : Authenticator H) (cs : List Challenge) : List Challenge :=
  cs.filter fun c => c.scheme ∈ a.schemes

/-- The same challenges of registered schemes in another order, but those of each scheme in the same one. -/
structure Rearranged (a : Authenticator H) (cs ds : List Challenge) : Prop where
  perm : (a.registered cs).Perm (a.registered ds)
  order : ∀ scheme, forScheme scheme (a.registered cs) = forScheme scheme (a.registered ds)

theorem forScheme_registered {scheme : Name} (h : scheme ∈ a.schemes) (cs : List Challenge) :
    forScheme scheme (a.registered cs) = forScheme scheme cs := by
  rw [forScheme, forScheme, registered, List.filter_filter]
  apply List.filter_congr
  intro c _
  by_cases hc : c.scheme = scheme
  · simp [hc, h]
  · simp [hc]

namespace Rearranged

/-- A handler hears the same from both. -/
theorem heard (h : a.Rearranged cs ds) {scheme : Name} {k : H} (hp : a.pupil? ⟨host, scheme⟩ = some k) :
    forScheme scheme cs = forScheme scheme ds := by
  obtain ⟨factory, hf, -⟩ := Option.map_eq_some_iff.mp hp
  have hs : scheme ∈ a.schemes := Registry.mem_schemes_iff.mpr ⟨factory, hf⟩
  rw [← forScheme_registered hs cs, h.order, forScheme_registered hs]

/-- Since each handler is taught by its own challenges only, the answers are of one kind for both or for none.
-/
theorem each_iff {P : Except AuthError Unit → Prop} (h : a.Rearranged cs ds)
    (hP : P (.error .noNewChallenge)) : (teach hd host).Each P a cs ↔ (teach hd host).Each P a ds := by
  rw [each_teach_iff hP, each_teach_iff hP]
  refine forall_congr' fun scheme => forall_congr' fun k => forall_congr' fun hp => ?_
  rw [h.heard hp]

theorem handler?_after (h : a.Rearranged cs ds) (slot : Slot) :
    ((teach hd host).after a ds).handler? slot = ((teach hd host).after a cs).handler? slot := by
  have hfirst := brought_after hd host a cs
  have hsecond := brought_after hd host a ds
  obtain ⟨other, scheme⟩ := slot
  by_cases hhost : other = host
  · subst hhost
    cases hp : a.pupil? ⟨other, scheme⟩ with
    | none =>
      have hf : a.registry.factory? scheme = none := Option.map_eq_none_iff.mp hp
      rw [hsecond.idle scheme (.inr hf), hfirst.idle scheme (.inr hf)]
    | some k =>
      have heard := h.heard hp
      -- A handler that hears nothing is not even made.
      by_cases hnil : forScheme scheme cs = []
      · rw [hsecond.idle scheme (.inl (heard ▸ hnil)), hfirst.idle scheme (.inl hnil)]
      · rw [hsecond.taught scheme k (heard ▸ hnil) hp, hfirst.taught scheme k hnil hp, heard]
  · rw [hsecond.others _ hhost, hfirst.others _ hhost]

/-- If the first lesson is not stopped, neither is the second, and they come to the same. -/
theorem lesson (h : a.Rearranged cs ds) (hfits : (teach hd host).Fits a cs) :
    ((teach hd host).lesson false a ds).1 = ((teach hd host).lesson false a cs).1 ∧
      ((teach hd host).lesson false a cs).2 = (teach hd host).after a cs ∧
      ((teach hd host).lesson false a ds).2 = (teach hd host).after a ds := by
  have hfits' : (teach hd host).Fits a ds := (h.each_iff (.inr rfl)).mp hfits
  have hrepeats : (teach hd host).Repeats a cs ↔ (teach hd host).Repeats a ds := h.each_iff rfl
  by_cases hr : (teach hd host).Repeats a cs
  · rw [Learner.lesson_of_repeats hr, Learner.lesson_of_repeats (hrepeats.mp hr)]
    exact ⟨rfl, rfl, rfl⟩
  · have hr' := fun hn => hr (hrepeats.mpr hn)
    rw [Learner.lesson_of_fits hfits (.inr hr), Learner.lesson_of_fits hfits' (.inr hr')]
    exact ⟨rfl, rfl, rfl⟩

end Rearranged

/-- Two responses to one request bring the same challenges for registered schemes, and differ in how those of
different schemes are mixed. If the first is learned from without an error, or with the one that says that
nothing is new, so is the second: both have the same result and leave the same handlers, each with the same
knowledge. -/
theorem learn_rearranged (hd : Handling W H) (a : Authenticator H) {uri : Uri} {first second : Response}
    {host : String} {cs ds : List Challenge} (hfirst : Asks uri first host cs)
    (hsecond : Asks uri second host ds) (h : a.Rearranged cs ds) (s s' : Session W)
    (hgood : (a.learn hd uri first s).1.1 = .ok () ∨
      (a.learn hd uri first s).1.1 = .error .noNewChallenge) :
    (a.learn hd uri second s').1.1 = (a.learn hd uri first s).1.1 ∧
      (a.learn hd uri second s').1.2.registry = (a.learn hd uri first s).1.2.registry ∧
      ∀ slot, (a.learn hd uri second s').1.2.handler? slot =
        (a.learn hd uri first s).1.2.handler? slot := by
  rw [(hfirst.learn hd a s).1] at hgood ⊢
  rw [(hsecond.learn hd a s').1]
  obtain ⟨hresult, hleft, hleft'⟩ := h.lesson (Learner.fits_of_result hgood)
  rw [hleft, hleft']
  exact ⟨hresult, by rw [registry_after, registry_after], h.handler?_after⟩

/-- Two scopes of one realm, brought around another scheme in one response and behind it in the other. -/
theorem learn_rearranged_two_scopes :
    let r := (({} : Registry Handler).register "bearer" (Handler.bearerFactory {})).register "basic"
      Handler.basicFactory
    let a := ofRegistry r Handler.basicFactory
    let first := refusalOf ["Bearer realm=\"/t\",service=s,scope=pull",
      "Basic realm=a, Bearer realm=\"/t\",service=s,scope=push", "Digest realm=a"]
    let second := refusalOf ["Digest realm=b, Basic realm=a",
      "Bearer realm=\"/t\",service=s,scope=pull, Bearer realm=\"/t\",service=s,scope=push"]
    let learned := a.learn (Handler.handling offline) registryUri first ⟨(), []⟩
    let learned' := a.learn (Handler.handling offline) registryUri second ⟨(), []⟩
    learned.1.1 = .ok () ∧ learned'.1.1 = .ok () ∧
      learned'.1.2.table.slots = learned.1.2.table.slots.reverse ∧
      learned'.1.2.handler? ⟨"registry.example", .ofText "bearer"⟩ =
        learned.1.2.handler? ⟨"registry.example", .ofText "bearer"⟩ := by
  intro r a first second learned learned'
  let bearer := fun scope =>
    (((Challenge.ofScheme "bearer").set "realm" "/t").set "service" "s").set "scope" scope
  let basic := (Challenge.ofScheme "basic").set "realm" "a"
  let digest := fun realm => (Challenge.ofScheme "digest").set "realm" realm
  let cs := [bearer "pull", basic, bearer "push", digest "a"]
  let ds := [digest "b", basic, bearer "pull", bearer "push"]
  have hfirst : Asks registryUri first "registry.example" cs :=
    ⟨rfl, by decide +kernel, by decide +kernel⟩
  have hsecond : Asks registryUri second "registry.example" ds :=
    ⟨rfl, by decide +kernel, by decide +kernel⟩
  have horder : a.Rearranged cs ds := by
    have hcs : a.registered cs = [bearer "pull", basic, bearer "push"] := by decide +kernel
    have hds : a.registered ds = [basic, bearer "pull", bearer "push"] := by decide +kernel
    have hne : (bearer "pull").scheme ≠ basic.scheme := by decide
    refine ⟨?_, fun scheme => ?_⟩
    · rw [hcs, hds]
      exact List.Perm.swap ..
    · rw [hcs, hds]
      exact forScheme_swap hne scheme _
  have hlearned := (hfirst.learn (Handler.handling offline) a ⟨(), []⟩).1
  have hlearned' := (hsecond.learn (Handler.handling offline) a ⟨(), []⟩).1
  have hgood : learned.1.1 = .ok () := by
    rw [hlearned]
    decide +kernel
  obtain ⟨hresult, -, hhandlers⟩ := learn_rearranged (Handler.handling offline) a hfirst hsecond horder
    ⟨(), []⟩ ⟨(), []⟩ (.inl hgood)
  refine ⟨hgood, hresult.trans hgood, ?_, hhandlers _⟩
  rw [hlearned, hlearned']
  decide +kernel

end Authenticator

end HttpAuth
