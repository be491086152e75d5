import HttpAuth.Proofs.Lessons

namespace HttpAuth

namespace Challenge

variable {before after : List (List UInt8)} {line : List UInt8} {e : ParseError}

/-- The first value that cannot be read decides. -/
theorem parseAll_of_fault (hb : ∀ l ∈ before, ∃ cs, parse l = .ok cs) (he : parse line = .error e) :
    parseAll (before ++ line :: after) = .error e := by
  induction before with
  | nil =>
    rw [List.nil_append, parseAll, he]
    rfl
  | cons l rest ih =>
    obtain ⟨⟨cs, hl⟩, hrest⟩ := List.forall_mem_cons.mp hb
    rw [List.cons_append, parseAll, hl, ih hrest]
    rfl

theorem parseAll_of_read {lines : List (List UInt8)} {read : List (List Challenge)}
    (h : lines.map parse = read.map .ok) : parseAll lines = .ok read.flatten := by
  induction lines generalizing read with
  | nil =>
    rw [List.map_nil, eq_comm, List.map_eq_nil_iff] at h
    rw [h]
    rfl
  | cons l rest ih =>
    cases read with
    | nil => cases h
    | cons cs read =>
      obtain ⟨hl, hrest⟩ := List.cons.inj h
      rw [parseAll, hl, ih hrest]
      rfl

end Challenge

namespace Learner

variable {σ : Type} {f : Learner σ} {x : σ} {cs : List Challenge}

/-- All challenges up to the first that is found wrong, and that one. -/
def given (f : Learner σ) (x : σ) : List Challenge → List Challenge
  | [] => []
  | c :: rest =>
    match f c x with
    | (.ok (), y) => c :: given f y rest
    | (.error e, y) => if e = .noNewChallenge then c :: given f y rest else [c]

theorem each_iff {P : Except AuthError Unit → Prop} :
    f.Each P x cs ↔ ∀ before c after, cs = before ++ c :: after → P (f c (f.after x before)).1 := by
  induction cs generalizing x with
  | nil => simp [Each]
  | cons c rest ih =>
    rw [Each, ih]
    constructor
    · rintro ⟨hc, hrest⟩ before d after hsplit
      cases before with
      | nil =>
        cases hsplit
        exact hc
      | cons b before =>
        obtain ⟨hb, htail⟩ := List.cons.inj hsplit
        subst hb
        exact hrest before d after htail
    · intro hall
      refine ⟨hall [] c rest rfl, ?_⟩
      intro before d after hsplit
      exact hall (c :: before) d after (congrArg (c :: ·) hsplit)

/-- The challenge is known or accepted, so the next one has its turn. -/
def Passed (f : Learner σ) (x : σ) (c : Challenge) : Prop :=
  (f c x).1 = .ok () ∨ (f c x).1 = .error .noNewChallenge

theorem given_of_passed {c : Challenge} (hc : f.Passed x c) (rest : List Challenge) :
    f.given x (c :: rest) = c :: f.given (f c x).2 rest := by
  cases hf : f c x with
  | mk result y =>
    rw [Passed, hf] at hc
    rcases hc with rfl | rfl <;> simp only [given, hf, ↓reduceIte]

theorem lesson_of_passed {c : Challenge} (hc : f.Passed x c) (learned : Bool) (rest : List Challenge) :
    ∃ learned', f.lesson learned x (c :: rest) = f.lesson learned' (f c x).2 rest := by
  cases hf : f c x with
  | mk result y =>
    rw [Passed, hf] at hc
    rcases hc with rfl | rfl
    · exact ⟨true, by simp only [lesson, hf]⟩
    · exact ⟨learned, by simp only [lesson, hf, ↓reduceIte]⟩

/-- The challenge behind `before` is the first that is found wrong. -/
structure Stops (f : Learner σ) (x : σ) (before : List Challenge) (c : Challenge) (e : AuthError) :
    Prop where
  fits : f.Fits x before
  wrong : (f c (f.after x before)).1 = .error e
  flaw : e ≠ .noNewChallenge

theorem fits_or_stops (f : Learner σ) (x : σ) (cs : List Challenge) :
    f.Fits x cs ∨ ∃ before c after e, cs = before ++ c :: after ∧ f.Stops x before c e := by
  induction cs generalizing x with
  | nil => exact .inl trivial
  | cons c rest ih =>
    have hpassed : f.Passed x c ∨ ∃ e, (f c x).1 = .error e ∧ e ≠ .noNewChallenge := by
      rw [Passed]
      cases (f c x).1 with
      | ok u => exact .inl (.inl rfl)
      | error e =>
        by_cases he : e = .noNewChallenge
        · exact .inl (.inr (congrArg _ he))
        · exact .inr ⟨e, rfl, he⟩
    rcases hpassed with hc | ⟨e, hc, he⟩
    · rcases ih (f c x).2 with hfits | ⟨before, d, after, e, rfl, hfits, hwrong, hflaw⟩
      · exact .inl ⟨hc, hfits⟩
      · exact .inr ⟨c :: before, d, after, e, rfl, ⟨hc, hfits⟩, hwrong, hflaw⟩
    · exact .inr ⟨[], c, rest, e, rfl, trivial, hc, he⟩

theorem given_of_fits (h : f.Fits x cs) : f.given x cs = cs := by
  induction cs generalizing x with
  | nil => rfl
  | cons c rest ih => rw [given_of_passed h.1, ih h.2]

section stops

variable {before : List Challenge} {c : Challenge} {e : AuthError}

theorem given_of_stops (h : f.Stops x before c e) (rest : List Challenge) :
    f.given x (before ++ c :: rest) = before ++ [c] := by
  induction before generalizing x with
  | nil =>
    cases hf : f c x with
    | mk result y =>
      have hwrong : (f c x).1 = .error e := h.wrong
      rw [hf] at hwrong
      subst hwrong
      simp only [List.nil_append, given, hf, if_neg h.flaw]
  | cons b before ih =>
    rw [List.cons_append, given_of_passed h.fits.1, ih ⟨h.fits.2, h.wrong, h.flaw⟩, List.cons_append]

theorem lesson_of_stops (h : f.Stops x before c e) (learned : Bool) (rest : List Challenge) :
    f.lesson learned x (before ++ c :: rest) = (.error e, f.after x (before ++ [c])) := by
  induction before generalizing x learned with
  | nil =>
    cases hf : f c x with
    | mk result y =>
      have hwrong : (f c x).1 = .error e := h.wrong
      rw [hf] at hwrong
      subst hwrong
      simp only [List.nil_append, lesson, hf, if_neg h.flaw, after, List.foldl_cons, List.foldl_nil]
  | cons b before ih =>
    obtain ⟨learned', hl⟩ := lesson_of_passed h.fits.1 learned (before ++ c :: rest)
    rw [List.cons_append, hl, ih ⟨h.fits.2, h.wrong, h.flaw⟩]
    rfl

end stops

/-- What is learned comes from the challenges that are given. -/
theorem lesson_snd (learned : Bool) : (f.lesson learned x cs).2 = f.after x (f.given x cs) := by
  rcases f.fits_or_stops x cs with hfits | ⟨before, c, after, e, rfl, hstops⟩
  · rw [given_of_fits hfits]
    by_cases hr : f.Repeats x cs
    · rw [lesson_of_repeats hr]
    · rw [lesson_of_fits hfits (.inr hr)]
  · rw [given_of_stops hstops, lesson_of_stops hstops]

end Learner

namespace Authenticator

open Challenge (forScheme forScheme_self forScheme_of_ne mem_forScheme)
open Learner (each_iff)

variable {W H : Type}

/-- The answer of the handler for `c` when the challenges in `before` have been given to their handlers. There is
none if the scheme is not registered. -/
def answer? (hd : Handling W H) (a : Authenticator H) (host : String) (before : List Challenge)
    (c : Challenge) : Option (Except AuthError Unit) :=
  (a.pupil? ⟨host, c.scheme⟩).map fun h =>
    (hd.learn c (Learner.after hd.learn h (forScheme c.scheme before))).1

/-- No handler finds its challenge wrong. -/
def Passes (hd : Handling W H) (a : Authenticator H) (host : String) (cs : List Challenge) : Prop :=
  ∀ before c after, cs = before ++ c :: after →
    ∀ e, a.answer? hd host before c = some (.error e) → e = .noNewChallenge

/-- Some handler learns something. -/
def Teaches (hd : Handling W H) (a : Authenticator H) (host : String) (cs : List Challenge) : Prop :=
  ∃ before c after, cs = before ++ c :: after ∧ a.answer? hd host before c = some (.ok ())

/-- Each challenge in `given` has been given once, to the handler for its scheme at `host`. Nothing else has
changed. -/
structure Brought (hd : Handling W H) (a : Authenticator H) (host : String) (given : List Challenge)
    (a' : Authenticator H) : Prop where
  registry : a'.registry = a.registry
  others : ∀ slot, slot.host ≠ host → a'.handler? slot = a.handler? slot
  idle : ∀ scheme, forScheme scheme given = [] ∨ a.registry.factory? scheme = none →
    a'.handler? ⟨host, scheme⟩ = a.handler? ⟨host, scheme⟩
  taught : ∀ scheme h, forScheme scheme given ≠ [] → a.pupil? ⟨host, scheme⟩ = some h →
    a'.handler? ⟨host, scheme⟩ = some (Learner.after hd.learn h (forScheme scheme given))

section lessons

variable {hd : Handling W H} {host : String} {a : Authenticator H} {cs : List Challenge}

theorem teach_after (before : List Challenge) (c : Challenge) :
    (teach hd host c ((teach hd host).after a before)).1 =
      (a.answer? hd host before c).getD (.error .noNewChallenge) := by
  have hp := pupil?_after hd host a before c.scheme
  cases hpupil : a.pupil? ⟨host, c.scheme⟩ with
  | none =>
    rw [hpupil, Option.map_none] at hp
    rw [teach_unregistered hp, answer?, hpupil]
    rfl
  | some h =>
    rw [hpupil, Option.map_some] at hp
    rw [teach_registered hp, answer?, hpupil]
    rfl

theorem answer?_of_wrong {before : List Challenge} {c : Challenge} {e : AuthError}
    (h : (teach hd host c ((teach hd host).after a before)).1 = .error e) (he : e ≠ .noNewChallenge) :
    a.answer? hd host before c = some (.error e) := by
  rw [teach_after] at h
  cases hanswer : a.answer? hd host before c with
  | none =>
    rw [hanswer] at h
    exact absurd (Except.error.inj h).symm he
  | some result =>
    rw [hanswer] at h
    exact congrArg some h

theorem passes_iff : a.Passes hd host cs ↔ (teach hd host).Fits a cs := by
  rw [Learner.Fits, each_iff]
  refine forall_congr' fun before => forall_congr' fun c => forall_congr' fun after =>
    forall_congr' fun _ => ?_
  rw [teach_after]
  rcases a.answer? hd host before c with _ | ⟨_ | _⟩ <;> simp

theorem teaches_iff (hp : a.Passes hd host cs) : a.Teaches hd host cs ↔ ¬ (teach hd host).Repeats a cs := by
  have hr : (teach hd host).Repeats a cs ↔ ∀ before c after, cs = before ++ c :: after →
      (teach hd host c ((teach hd host).after a before)).1 = .error .noNewChallenge := each_iff
  rw [hr]
  constructor
  · rintro ⟨before, c, after, hsplit, hok⟩ hall
    have hno := hall before c after hsplit
    rw [teach_after, hok] at hno
    cases hno
  · intro hn
    by_contra ht
    refine hn fun before c after hsplit => ?_
    rw [teach_after]
    cases hanswer : a.answer? hd host before c with
    | none => rfl
    | some result =>
      cases result with
      | ok u => exact absurd ⟨before, c, after, hsplit, hanswer⟩ ht
      | error e =>
        rw [hp before c after hsplit e hanswer]
        rfl

theorem registry_after (given : List Challenge) :
    ((teach hd host).after a given).registry = a.registry := by
  induction given generalizing a with
  | nil => rfl
  | cons c rest ih =>
    have hstep : (teach hd host c a).2.registry = a.registry := by
      cases hp : a.pupil? ⟨host, c.scheme⟩ with
      | none => rw [teach_unregistered hp]
      | some h => rw [teach_registered hp, registry_store]
    exact ih.trans hstep

theorem brought_after (hd : Handling W H) (host : String) (a : Authenticator H) (given : List Challenge) :
    a.Brought hd host given ((teach hd host).after a given) where
  registry := registry_after given
  others slot hne := handler?_after_of_absent hd fun c _ hslot => absurd (congrArg Slot.host hslot).symm hne
  idle scheme hidle := by
    apply handler?_after_of_absent hd
    rintro c hc hslot
    have hscheme : c.scheme = scheme := congrArg Slot.scheme hslot
    rcases hidle with hnil | hnone
    · have hm : c ∈ forScheme scheme given := mem_forScheme.mpr ⟨hc, hscheme⟩
      rw [hnil] at hm
      cases hm
    · rw [pupil?, hnone, Option.map_none]
  taught scheme h hne hp := by
    obtain ⟨c, hc⟩ := List.exists_mem_of_ne_nil _ hne
    obtain ⟨hm, rfl⟩ := mem_forScheme.mp hc
    rw [handler?_after_of_mem hd hm hp, pupil?_after, hp, Option.map_some]

end lessons

/-- A response that asks for nothing, or of which some value cannot be read, changes nothing at all. From any
other the challenges are given in order, each once and to the handler for its scheme at the host of the request,
and a scheme that is not registered is passed over. The first error of a handler ends the lesson, but for the one
that says that a challenge is not new; what was learned before is kept. Without such an error the lesson succeeds
if some handler has learned something. -/
theorem learn_in_order (hd : Handling W H) (a : Authenticator H) (uri : Uri) (response : Response)
    (s : Session W) :
    let r := a.learn hd uri response s
    let lines := Headers.values response.headers Header.wwwAuthenticate
    (response.status ≠ .unauthorized ∨ uri.hostKey? = none → r = ((.error .unsupported, a), s)) ∧
    ∀ host, response.status = .unauthorized → uri.hostKey? = some host →
      (∀ before line after e, lines = before ++ line :: after →
        (∀ l ∈ before, ∃ cs, Challenge.parse l = .ok cs) → Challenge.parse line = .error e →
          r = ((.error (.parse e), a), s)) ∧
      ∀ read : List (List Challenge), lines.map Challenge.parse = read.map .ok →
        r.2.world = s.world ∧
        ((∃ before c after e, read.flatten = before ++ c :: after ∧ a.Passes hd host before ∧
            a.answer? hd host before c = some (.error e) ∧ e ≠ .noNewChallenge ∧
            r.1.1 = .error e ∧ a.Brought hd host (before ++ [c]) r.1.2) ∨
          a.Passes hd host read.flatten ∧ a.Brought hd host read.flatten r.1.2 ∧
            (a.Teaches hd host read.flatten → r.1.1 = .ok ()) ∧
            (¬ a.Teaches hd host read.flatten → r.1.1 = .error .noNewChallenge)) := by
  intro r lines
  refine ⟨?_, ?_⟩
  · intro hnothing
    by_cases hstatus : response.status = .unauthorized
    · have hhost := hnothing.resolve_left fun hn => hn hstatus
      simp only [r, learn, hstatus, hhost, ne_eq, not_true_eq_false, ↓reduceIte]
      rfl
    · simp only [r, learn, ne_eq, hstatus, not_false_eq_true, ↓reduceIte]
      rfl
  · intro host hstatus hhost
    refine ⟨?_, ?_⟩
    · intro before line after e hlines hbefore hline
      have hparsed : Challenge.parseAll lines = .error e := by
        rw [hlines]
        exact Challenge.parseAll_of_fault hbefore hline
      simp only [r, learn, hstatus, hhost, ne_eq, not_true_eq_false, ↓reduceIte]
      rw [hparsed]
      rfl
    · intro read hread
      have hasks : Asks uri response host read.flatten :=
        ⟨hstatus, hhost, Challenge.parseAll_of_read hread⟩
      obtain ⟨hlesson, hworld⟩ := hasks.learn hd a s
      refine ⟨hworld, ?_⟩
      change r.1 = _ at hlesson
      rcases (teach hd host).fits_or_stops a read.flatten with
        hfits | ⟨before, c, after, e, hsplit, hstops⟩
      · have hpasses := passes_iff.mpr hfits
        refine .inr ⟨hpasses, ?_⟩
        by_cases ht : a.Teaches hd host read.flatten
        · rw [hlesson, Learner.lesson_of_fits hfits (.inr ((teaches_iff hpasses).mp ht))]
          exact ⟨brought_after hd host a _, fun _ => rfl, fun hn => absurd ht hn⟩
        · have hrepeats := not_not.mp fun hn => ht ((teaches_iff hpasses).mpr hn)
          rw [hlesson, Learner.lesson_of_repeats hrepeats]
          exact ⟨brought_after hd host a _, fun hn => absurd hn ht, fun _ => rfl⟩
      · rw [hsplit, Learner.lesson_of_stops hstops] at hlesson
        rw [hlesson]
        exact .inl ⟨before, c, after, e, hsplit, passes_iff.mpr hstops.fits,
          answer?_of_wrong hstops.wrong hstops.flaw, hstops.flaw, rfl, brought_after hd host a _⟩

/-- The realm before the flaw is learned, and the one behind it is not. -/
theorem learn_in_order_flawed :
    let a := basicOnly .none
    let response := refusalOf ["Basic realm=\"a\"", "Basic charset=\"UTF-8\", Basic realm=\"b\""]
    let r := a.learn (Handler.handling offline) registryUri response ⟨(), []⟩
    r.1.1 = .error (.invalidChallenge .basicWithoutRealm) ∧
      r.1.2.handler? ⟨"registry.example", .ofText "basic"⟩ =
        some (.basic { realm? := some "a", credentials := .anonymous }) := by
  intro a response r
  let good := (Challenge.ofScheme "basic").set "realm" "a"
  let flawed := (Challenge.ofScheme "basic").set "charset" "UTF-8"
  let late := (Challenge.ofScheme "basic").set "realm" "b"
  have hhost : registryUri.hostKey? = some "registry.example" := by decide +kernel
  have hread : (Headers.values response.headers Header.wwwAuthenticate).map Challenge.parse =
      [[good], [flawed, late]].map .ok := by decide +kernel
  have hgood : a.answer? (Handler.handling offline) "registry.example" [] good = some (.ok ()) := by
    decide +kernel
  have hflawed : a.answer? (Handler.handling offline) "registry.example" [good] flawed =
      some (.error (.invalidChallenge .basicWithoutRealm)) := by decide +kernel
  obtain ⟨-, hcourse⟩ := ((learn_in_order (Handler.handling offline) a registryUri response
    ⟨(), []⟩).2 _ rfl hhost).2 _ hread
  rcases hcourse with ⟨before, c, after, e, hsplit, hpasses, hwrong, -, hresult, hbrought⟩ | ⟨hpasses, -⟩
  · match before with
    | [] =>
      cases hsplit
      rw [hgood] at hwrong
      cases hwrong
    | [_] =>
      cases hsplit
      rw [hflawed] at hwrong
      cases hwrong
      exact ⟨hresult, hbrought.taught _ (.basic { credentials := .anonymous }) (by decide) (by decide)⟩
    | [_, _] =>
      cases hsplit
      cases hpasses [good] flawed [] rfl _ hflawed
    | _ :: _ :: _ :: more => simp at hsplit
  · cases hpasses [good] flawed [late] rfl _ hflawed

end Authenticator

end HttpAuth
