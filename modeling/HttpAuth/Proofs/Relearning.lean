import HttpAuth.Proofs.BearerSteps
import HttpAuth.Proofs.Lessons
import HttpAuth.Scheme.Handler

namespace HttpAuth

namespace Learner

variable {σ : Type} {f : Learner σ}

theorem repeats_of_fixed {x : σ} {cs : List Challenge}
    (h : ∀ c ∈ cs, f c x = (.error .noNewChallenge, x)) : f.Repeats x cs ∧ f.after x cs = x := by
  induction cs with
  | nil => exact ⟨trivial, rfl⟩
  | cons c rest ih =>
    have hc := h c List.mem_cons_self
    obtain ⟨hrepeats, hafter⟩ := ih fun d hd => h d (List.mem_cons_of_mem _ hd)
    rw [Repeats, Each, after, List.foldl_cons, hc]
    exact ⟨⟨rfl, hrepeats⟩, hafter⟩

theorem Repeats.fits {x : σ} {cs : List Challenge} (h : f.Repeats x cs) : f.Fits x cs := by
  induction cs generalizing x with
  | nil => trivial
  | cons c rest ih => exact ⟨.inr h.1, ih h.2⟩

end Learner

namespace Handler

open Learner (after Fits Repeats)

section basic

variable {b : BasicAuth} {c : Challenge} {cs : List Challenge}

theorem learn_basic_none (hc : c.param? "realm" = none) :
    learn c (.basic b) = (.error (.invalidChallenge .basicWithoutRealm), .basic b) := by
  simp only [learn, BasicAuth.learn, hc]
  rfl

theorem learn_basic_same (hc : c.param? "realm" = b.realm?) {realm : String}
    (hr : b.realm? = some realm) : learn c (.basic b) = (.error .noNewChallenge, .basic b) := by
  simp only [learn, BasicAuth.learn, hc, hr, ↓reduceIte]
  rfl

theorem learn_basic_other {realm : String} (hc : c.param? "realm" = some realm)
    (hr : b.realm? ≠ some realm) :
    learn c (.basic b) = (.ok (), .basic { b with realm? := some realm }) := by
  simp only [learn, BasicAuth.learn, hc, if_neg hr]
  rfl

/-- The handler keeps the realm it has heard last. -/
theorem learn_basic_snd {realm : String} (hc : c.param? "realm" = some realm) :
    (learn c (.basic b)).2 = .basic { b with realm? := some realm } := by
  by_cases hr : b.realm? = some realm
  · rw [learn_basic_same (hc.trans hr.symm) hr, ← hr]
  · rw [learn_basic_other hc hr]

theorem fits_basic_iff : Fits learn (.basic b) cs ↔ ∀ c ∈ cs, (c.param? "realm").isSome := by
  induction cs generalizing b with
  | nil => simp [Fits, Learner.Each]
  | cons c rest ih =>
    rw [Fits, Learner.Each, List.forall_mem_cons]
    cases hc : c.param? "realm" with
    | none => simp [learn_basic_none hc]
    | some realm =>
      rw [learn_basic_snd hc]
      have hfst : (learn c (.basic b)).1 = .ok () ∨
          (learn c (.basic b)).1 = .error .noNewChallenge := by
        by_cases hr : b.realm? = some realm
        · exact .inr (congrArg Prod.fst (learn_basic_same (hc.trans hr.symm) hr))
        · exact .inl (congrArg Prod.fst (learn_basic_other hc hr))
      simp [hfst, ih]

/-- The realm of the last challenge, or the one from before. -/
def lastRealm? (b : BasicAuth) (cs : List Challenge) : Option String :=
  (cs.getLast?.map (·.param? "realm")).getD b.realm?

theorem after_basic (hf : ∀ c ∈ cs, (c.param? "realm").isSome) :
    after learn (.basic b) cs = .basic { b with realm? := lastRealm? b cs } := by
  induction cs generalizing b with
  | nil => rfl
  | cons c rest ih =>
    obtain ⟨hc, hrest⟩ := List.forall_mem_cons.mp hf
    obtain ⟨realm, hrealm⟩ := Option.isSome_iff_exists.mp hc
    rw [after, List.foldl_cons, learn_basic_snd hrealm]
    refine (ih hrest).trans ?_
    simp only [lastRealm?, List.getLast?_cons]
    cases rest.getLast? with
    | none => simp [hrealm]
    | some d => rfl

theorem repeats_basic_iff (hf : ∀ c ∈ cs, (c.param? "realm").isSome) :
    Repeats learn (.basic b) cs ↔ ∀ c ∈ cs, c.param? "realm" = b.realm? := by
  induction cs with
  | nil => simp [Repeats, Learner.Each]
  | cons c rest ih =>
    obtain ⟨hc, hrest⟩ := List.forall_mem_cons.mp hf
    obtain ⟨realm, hrealm⟩ := Option.isSome_iff_exists.mp hc
    rw [Repeats, Learner.Each, List.forall_mem_cons]
    by_cases hr : b.realm? = some realm
    · have hsame := hrealm.trans hr.symm
      rw [learn_basic_same hsame hr, ← ih hrest]
      simp [hsame]
    · rw [learn_basic_other hrealm hr]
      simp [hrealm, Ne.symm hr]

theorem again_basic (hf : Fits learn (.basic b) cs) :
    ∃ b', after learn (.basic b) cs = .basic b' ∧ Fits learn (.basic b') cs ∧
      after learn (.basic b') cs = .basic b' ∧
        (Repeats learn (.basic b') cs ↔ ∀ c ∈ cs, ∀ d ∈ cs, c.param? "realm" = d.param? "realm") := by
  have hrealms := fits_basic_iff.mp hf
  refine ⟨_, after_basic hrealms, fits_basic_iff.mpr hrealms, ?_, ?_⟩
  · rw [after_basic hrealms, lastRealm?, lastRealm?]
    cases cs.getLast? with
    | none => rfl
    | some c => rfl
  · rw [repeats_basic_iff hrealms]
    constructor
    · intro hall c hc d hd
      rw [hall c hc, hall d hd]
    · intro hall c hc
      obtain ⟨d, hd⟩ := List.getLast?_isSome.mpr (List.ne_nil_of_mem hc) |> Option.isSome_iff_exists.mp
      simp only [lastRealm?, hd]
      exact hall c hc d (List.mem_of_getLast? hd)

end basic

section bearer

variable {b : BearerAuth} {c : Challenge} {cs : List Challenge}

theorem learn_bearer_of_remembers {d : Demand} (hd : c.demand? = some d) (hr : b.Remembers d) :
    learn c (.bearer b) = (.error .noNewChallenge, .bearer b) := by
  simp only [learn, BearerAuth.learn_of_known hd hr.realm hr.service hr.scope]
  rfl

/-- What a bearer handler has been given is taken in, and so is what it had before. -/
theorem learn_bearer (hf : (learn c (.bearer b)).1 = .ok () ∨
    (learn c (.bearer b)).1 = .error .noNewChallenge) :
    ∃ b' d, (learn c (.bearer b)).2 = .bearer b' ∧ c.demand? = some d ∧ b'.Remembers d ∧
      ∀ e, b.Remembers e → b'.Remembers e := by
  rcases b.learn_cases c with ⟨flaw, hl⟩ | ⟨d, hd, ⟨hr, -⟩ | ⟨-, -, -, hl⟩⟩
  · have herror : (learn c (.bearer b)).1 = .error (.invalidChallenge flaw) := by
      simp only [learn, hl]
      rfl
    rw [herror] at hf
    rcases hf with hf | hf <;> cases hf
  · refine ⟨b, d, ?_, hd, hr, fun _ he => he⟩
    rw [learn_bearer_of_remembers hd hr]
  · refine ⟨b.takeIn d, d, ?_, hd, BearerAuth.remembers_takeIn b d, fun e he => he.learned hl⟩
    simp only [learn, hl]
    rfl

theorem after_bearer (hf : Fits learn (.bearer b) cs) :
    ∃ b', after learn (.bearer b) cs = .bearer b' ∧ (∀ e, b.Remembers e → b'.Remembers e) ∧
      ∀ c ∈ cs, ∃ d, c.demand? = some d ∧ b'.Remembers d := by
  induction cs generalizing b with
  | nil => exact ⟨b, rfl, fun _ he => he, fun _ hc => absurd hc List.not_mem_nil⟩
  | cons c rest ih =>
    obtain ⟨b₁, d, hl, hd, hr, hkeep⟩ := learn_bearer hf.1
    have hrest := hf.2
    rw [hl] at hrest
    obtain ⟨b', hafter, hkeep', hall⟩ := ih hrest
    refine ⟨b', ?_, fun e he => hkeep' e (hkeep e he), ?_⟩
    · rw [after, List.foldl_cons, hl]
      exact hafter
    · intro e he
      rcases List.mem_cons.mp he with rfl | he
      · exact ⟨d, hd, hkeep' d hr⟩
      · exact hall e he

theorem again_bearer (hf : Fits learn (.bearer b) cs) :
    ∃ b', after learn (.bearer b) cs = .bearer b' ∧ Repeats learn (.bearer b') cs ∧
      after learn (.bearer b') cs = .bearer b' := by
  obtain ⟨b', hafter, -, hall⟩ := after_bearer hf
  refine ⟨b', hafter, Learner.repeats_of_fixed ?_⟩
  intro c hc
  obtain ⟨d, hd, hr⟩ := hall c hc
  exact learn_bearer_of_remembers hd hr

end bearer

/-- Challenges that fit once fit again, and leave the handler where it is. -/
theorem again {h : Handler} {cs : List Challenge} (hf : Fits learn h cs) :
    Fits learn (after learn h cs) cs ∧ after learn (after learn h cs) cs = after learn h cs ∧
      (Repeats learn (after learn h cs) cs ↔ ∀ b, after learn h cs = .basic b →
        ∀ c ∈ cs, ∀ d ∈ cs, c.param? "realm" = d.param? "realm") := by
  cases h with
  | basic b =>
    obtain ⟨b', hafter, hfits, hstay, hrepeats⟩ := again_basic hf
    rw [hafter]
    refine ⟨hfits, hstay, hrepeats.trans ⟨fun hall _ _ => hall, fun hall => hall b' rfl⟩⟩
  | bearer b =>
    obtain ⟨b', hafter, hrepeats, hstay⟩ := again_bearer hf
    rw [hafter]
    refine ⟨hrepeats.fits, hstay, fun _ _ hb => ?_, fun _ => hrepeats⟩
    cases hb

end Handler

namespace Authenticator

open Challenge (forScheme mem_forScheme)

variable {W : Type}

/-- Two of the challenges name different realms to one Basic handler. -/
def Wavers (a : Authenticator Handler) (host : String) (cs : List Challenge) : Prop :=
  ∃ c ∈ cs, ∃ d ∈ cs, c.scheme = d.scheme ∧ c.param? "realm" ≠ d.param? "realm" ∧
    ∃ b, a.pupil? ⟨host, c.scheme⟩ = some (.basic b)

section again

variable {net : Network W} {host : String} {a : Authenticator Handler} {cs : List Challenge}

/-- A handler after the challenges of a response, and what these are to it from then on. -/
theorem again_pupil? (hf : (teach (Handler.handling net) host).Fits a cs) {scheme : Name} {h : Handler}
    (hp : ((teach (Handler.handling net) host).after a cs).pupil? ⟨host, scheme⟩ = some h) :
    Learner.Fits Handler.learn h (forScheme scheme cs) ∧
      Learner.after Handler.learn h (forScheme scheme cs) = h ∧
      (Learner.Repeats Handler.learn h (forScheme scheme cs) ↔ ∀ b, h = .basic b →
        ∀ c ∈ forScheme scheme cs, ∀ d ∈ forScheme scheme cs,
          c.param? "realm" = d.param? "realm") := by
  rw [pupil?_after] at hp
  obtain ⟨before, hbefore, rfl⟩ := Option.map_eq_some_iff.mp hp
  exact Handler.again ((each_teach_iff (.inr rfl) _ _ _ _).mp hf scheme before hbefore)

theorem fits_again (hf : (teach (Handler.handling net) host).Fits a cs) :
    (teach (Handler.handling net) host).Fits ((teach (Handler.handling net) host).after a cs) cs :=
  (each_teach_iff (.inr rfl) _ _ _ _).mpr fun _ _ hp => (again_pupil? hf hp).1

theorem handler?_again (hf : (teach (Handler.handling net) host).Fits a cs) (slot : Slot) :
    ((teach (Handler.handling net) host).after
      ((teach (Handler.handling net) host).after a cs) cs).handler? slot =
      ((teach (Handler.handling net) host).after a cs).handler? slot := by
  by_cases hc : ∃ c ∈ cs, (⟨host, c.scheme⟩ : Slot) = slot ∧ (a.pupil? slot).isSome
  · obtain ⟨c, hm, rfl, hs⟩ := hc
    obtain ⟨h, hp⟩ := Option.isSome_iff_exists.mp hs
    have hp' := pupil?_after (Handler.handling net) host a cs c.scheme
    rw [hp, Option.map_some] at hp'
    have hstay := (again_pupil? hf hp').2.1
    rw [handler?_after_of_mem _ hm hp', handler?_after_of_mem _ hm hp, pupil?_after, hp',
      Option.map_some]
    exact congrArg some hstay
  · apply handler?_after_of_absent
    intro c hm hslot
    subst hslot
    rw [pupil?_after]
    cases hp : a.pupil? ⟨host, c.scheme⟩ with
    | none => rfl
    | some h => exact absurd ⟨c, hm, rfl, by rw [hp]; rfl⟩ hc

theorem repeats_again_iff (hf : (teach (Handler.handling net) host).Fits a cs) :
    (teach (Handler.handling net) host).Repeats ((teach (Handler.handling net) host).after a cs) cs ↔
      ¬ ((teach (Handler.handling net) host).after a cs).Wavers host cs := by
  refine (each_teach_iff (P := (· = .error .noNewChallenge)) rfl _ _ _ _).trans ?_
  constructor
  · rintro hall ⟨c, hc, d, hd, hscheme, hrealm, b, hp⟩
    have hrepeats := (again_pupil? hf hp).2.2.mp (hall _ _ hp) b rfl
    exact hrealm (hrepeats c (mem_forScheme.mpr ⟨hc, rfl⟩) d (mem_forScheme.mpr ⟨hd, hscheme.symm⟩))
  · intro hn scheme h hp
    refine (again_pupil? hf hp).2.2.mpr ?_
    rintro b rfl c hc d hd
    obtain ⟨hcs, rfl⟩ := mem_forScheme.mp hc
    obtain ⟨hds, hscheme⟩ := mem_forScheme.mp hd
    by_contra hrealm
    exact hn ⟨c, hcs, d, hds, hscheme.symm, hrealm, b, hp⟩

end again

/-- A response that taught something teaches nothing if it comes again, unless it names several realms to one
Basic handler; then it counts as new again. Either way every handler stays as it is. -/
theorem learn_again (net : Network W) (a : Authenticator Handler) (uri : Uri) (response : Response)
    (s later : Session W)
    (h : (a.learn (Handler.handling net) uri response s).1.1 = .ok ()) :
    let a' := (a.learn (Handler.handling net) uri response s).1.2
    let again := a'.learn (Handler.handling net) uri response later
    (∀ slot, again.1.2.handler? slot = a'.handler? slot) ∧
      ∃ host cs, Asks uri response host cs ∧
        (¬ a'.Wavers host cs → again.1.1 = .error .noNewChallenge) ∧
        (a'.Wavers host cs → again.1.1 = .ok ()) := by
  intro a' again
  by_cases hasks : ∃ host cs, Asks uri response host cs
  · obtain ⟨host, cs, hasks⟩ := hasks
    have hfirst := (hasks.learn (Handler.handling net) a s).1
    have hagain := (hasks.learn (Handler.handling net) a' later).1
    have hf : (teach (Handler.handling net) host).Fits a cs :=
      Learner.fits_of_lesson (hfirst.symm.trans (Prod.ext h rfl))
    have hn : ¬ (teach (Handler.handling net) host).Repeats a cs := by
      intro hrepeats
      rw [hfirst, Learner.lesson_of_repeats hrepeats] at h
      cases h
    have ha' : a' = (teach (Handler.handling net) host).after a cs :=
      congrArg Prod.snd (hfirst.trans (Learner.lesson_of_fits hf (.inr hn)))
    have hrepeats := repeats_again_iff hf
    have hhandlers := handler?_again hf
    have hf' := fits_again hf
    rw [← ha'] at hrepeats hhandlers hf'
    have hresult : again.1.2 = (teach (Handler.handling net) host).after a' cs ∧
        (¬ a'.Wavers host cs → again.1.1 = .error .noNewChallenge) ∧
          (a'.Wavers host cs → again.1.1 = .ok ()) := by
      by_cases hw : a'.Wavers host cs
      · have hlesson := hagain.trans
          (Learner.lesson_of_fits hf' (.inr fun hr => hrepeats.mp hr hw))
        exact ⟨congrArg Prod.snd hlesson, fun hn => absurd hw hn, fun _ => congrArg Prod.fst hlesson⟩
      · have hlesson := hagain.trans (Learner.lesson_of_repeats (hrepeats.mpr hw) false)
        exact ⟨congrArg Prod.snd hlesson, fun _ => congrArg Prod.fst hlesson, fun hn => absurd hn hw⟩
    refine ⟨?_, host, cs, hasks, hresult.2⟩
    intro slot
    rw [hresult.1]
    exact hhandlers slot
  · obtain ⟨e, he⟩ := learn_of_not_asks (fun host cs hn => hasks ⟨host, cs, hn⟩)
      (Handler.handling net)
    rw [he] at h
    cases h

theorem learn_again_one_realm :
    let response := refusalOf ["Basic realm=\"a\"", "Negotiate Basic realm=a"]
    let first := (basicOnly .none).learn (Handler.handling offline) registryUri response ⟨(), []⟩
    let again := first.1.2.learn (Handler.handling offline) registryUri response first.2
    first.1.1 = .ok () ∧ (∀ slot, again.1.2.handler? slot = first.1.2.handler? slot) ∧
      again.1.1 = .error .noNewChallenge := by
  intro response first again
  have hok : first.1.1 = .ok () := by decide +kernel
  obtain ⟨hstay, host, cs, hasks, hnew, -⟩ :=
    learn_again offline (basicOnly .none) registryUri response ⟨(), []⟩ first.2 hok
  refine ⟨hok, hstay, hnew ?_⟩
  let basic := (Challenge.ofScheme "basic").set "realm" "a"
  have hparse : Challenge.parseAll (Headers.values response.headers Header.wwwAuthenticate) =
      .ok [basic, Challenge.ofScheme "negotiate", basic] := by decide +kernel
  have hcs := hasks.parsed
  rw [hparse] at hcs
  cases hcs
  have hsame : ∀ c ∈ [basic, Challenge.ofScheme "negotiate", basic],
      ∀ d ∈ [basic, Challenge.ofScheme "negotiate", basic],
        c.scheme = d.scheme → c.param? "realm" = d.param? "realm" := by decide +kernel
  rintro ⟨c, hc, d, hd, hscheme, hrealm, -⟩
  exact hrealm (hsame c hc d hd hscheme)

/-- One realm after the other is new each time. -/
theorem learn_again_two_realms :
    let response := refusalOf ["Basic realm=\"a\"", "Basic realm=\"b\""]
    let first := (basicOnly .none).learn (Handler.handling offline) registryUri response ⟨(), []⟩
    let again := first.1.2.learn (Handler.handling offline) registryUri response first.2
    first.1.1 = .ok () ∧ again.1.1 = .ok () := by
  decide +kernel

end Authenticator

end HttpAuth
