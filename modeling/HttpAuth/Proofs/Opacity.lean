import HttpAuth.Proofs.Faults
import HttpAuth.Proofs.RoundTrip

namespace HttpAuth

open Scanner (quote)

namespace Challenge

/-- The parameters of a challenge put over those of another one. -/
structure Over (base later c : Challenge) : Prop where
  scheme : c.scheme = base.scheme
  param? : ∀ k, c.param? k = (later.param? k).or (base.param? k)

theorem param?_bare (scheme : Name) (k : String) : (Challenge.mk scheme ∅).param? k = none := rfl

theorem Over.bare (base : Challenge) (scheme : Name) : Over base ⟨scheme, ∅⟩ base :=
  ⟨rfl, fun k => by rw [param?_bare, Option.none_or]⟩

theorem Over.set {base later c : Challenge} (h : Over base later c) (key value : String) :
    Over base (later.set key value) (c.set key value) := by
  refine ⟨h.scheme, fun k => ?_⟩
  rw [param?_set, param?_set, h.param?]
  split <;> rfl

end Challenge

namespace Place

open Challenge (Over)

variable {base : Challenge} {older os os' : List Challenge} {p q : Place}

/-- Challenges opened from a bare one on, and the same with that one put over another, older ones behind it. -/
inductive Grown (base : Challenge) (older : List Challenge) : List Challenge → List Challenge → Prop where
  | intro (newer : List Challenge) {later c : Challenge} (h : Over base later c) :
      Grown base older (newer ++ [later]) (newer ++ c :: older)

theorem Grown.ne_nil (h : Grown base older os os') : os ≠ [] ∧ os' ≠ [] := by
  obtain ⟨newer, -⟩ := h
  simp

theorem Grown.openWith (h : Grown base older os os') (letters : List UInt8) :
    Grown base older (openWith letters os) (openWith letters os') := by
  obtain ⟨newer, h⟩ := h
  exact .intro (.ofScheme (Utf8.decodeLossy letters) :: newer) h

theorem Grown.assignTo (h : Grown base older os os') (key content : List UInt8) :
    Grown base older (assignTo key content os) (assignTo key content os') := by
  obtain ⟨newer, h⟩ := h
  cases newer with
  | nil => exact .intro [] (h.set _ _)
  | cons d newer => exact .intro (d.set _ _ :: newer) h

/-- The same place, with more behind its open challenges. -/
inductive Alike (base : Challenge) (older : List Challenge) : Place → Place → Prop where
  | word (letters : List UInt8) (afterComma : Bool) {os os' : List Challenge}
      (h : Grown base older os os') :
      Alike base older (.word letters afterComma os) (.word letters afterComma os')
  | value (key letters : List UInt8) {os os' : List Challenge} (h : Grown base older os os') :
      Alike base older (.value key letters os) (.value key letters os')
  | quoted (key content : List UInt8) {os os' : List Challenge} (h : Grown base older os os') :
      Alike base older (.quoted key content os) (.quoted key content os')
  | escaped (key content : List UInt8) {os os' : List Challenge} (h : Grown base older os os') :
      Alike base older (.escaped key content os) (.escaped key content os')
  | settled {os os' : List Challenge} (h : Grown base older os os') :
      Alike base older (.settled os) (.settled os')

theorem Alike.step (h : Alike base older p q) (b : UInt8) :
    Option.Rel (Alike base older) (p.step b) (q.step b) := by
  cases h with
  | word letters afterComma h =>
    simp only [Place.step, ne_eq, h.ne_nil, not_false_eq_true, and_true]
    split
    · exact .some (.word _ _ h)
    split
    · split
      · exact .some (.word _ _ h)
      · exact .some (.word _ _ (h.openWith letters))
    split
    · exact .some (.value _ _ h)
    · exact .none
  | value key letters h =>
    simp only [Place.step]
    split
    · exact .some (.value _ _ h)
    split
    · exact .some (.quoted _ _ h)
    split
    · exact .some (.word _ _ (h.assignTo key letters))
    split
    · exact .some (.settled (h.assignTo key letters))
    · exact .none
  | quoted key content h =>
    simp only [Place.step]
    split
    · exact .some (.settled (h.assignTo key content))
    split
    · exact .some (.escaped _ _ h)
    · exact .some (.quoted _ _ h)
  | escaped key content h => exact .some (.quoted _ _ h)
  | settled h =>
    simp only [Place.step]
    split
    · exact .some (.settled h)
    split
    · exact .some (.word _ _ h)
    · exact .none

/-- Both walks are stopped by the same byte, or both go on to the end. -/
theorem Alike.feed (h : Alike base older p q) (bytes : List UInt8) :
    (∃ e, p.feed bytes = .error e ∧ q.feed bytes = .error e) ∨
      ∃ p' q', p.feed bytes = .ok p' ∧ q.feed bytes = .ok q' ∧ Alike base older p' q' := by
  induction bytes generalizing p q with
  | nil => exact .inr ⟨p, q, rfl, rfl, h⟩
  | cons b rest ih =>
    simp only [Place.feed]
    have hs := h.step b
    generalize p.step b = x at hs
    generalize q.step b = y at hs
    cases hs with
    | none => exact .inl ⟨(b, rest), rfl, rfl⟩
    | some h' => exact ih h'

theorem Grown.reverse {cs cs' : List Challenge} (h : Grown base older cs.reverse cs'.reverse) :
    ∃ later after c, cs = later :: after ∧ cs' = older.reverse ++ c :: after ∧ Over base later c := by
  generalize hos : cs.reverse = os at h
  generalize hos' : cs'.reverse = os' at h
  obtain @⟨newer, later, c, hover⟩ := h
  refine ⟨later, newer.reverse, c, ?_, ?_, hover⟩
  · simpa using congrArg List.reverse hos
  · simpa using congrArg List.reverse hos'

/-- Both places are inside a quoted string, or the challenges are the same up to the one put over another. -/
theorem Alike.finish (h : Alike base older p q) :
    (p.finish = none ∧ q.finish = none) ∨ ∃ later after c, p.finish = some (later :: after) ∧
      q.finish = some (older.reverse ++ c :: after) ∧ Over base later c := by
  have hlists : (p.finish = none ∧ q.finish = none) ∨ ∃ cs cs', p.finish = some cs ∧
      q.finish = some cs' ∧ Grown base older cs.reverse cs'.reverse := by
    cases h with
    | word letters afterComma h =>
      simp only [Place.finish, h.ne_nil, false_or]
      split
      · exact .inr ⟨_, _, rfl, rfl, by simpa using h.openWith letters⟩
      · exact .inr ⟨_, _, rfl, rfl, by simpa using h⟩
    | value key letters h =>
      simp only [Place.finish]
      split
      · exact .inr ⟨_, _, rfl, rfl, by simpa using h⟩
      · exact .inr ⟨_, _, rfl, rfl, by simpa using h.assignTo key letters⟩
    | quoted | escaped => exact .inl ⟨rfl, rfl⟩
    | settled h => exact .inr ⟨_, _, rfl, rfl, by simpa using h⟩
  refine hlists.imp_right ?_
  rintro ⟨cs, cs', hp, hq, hgrown⟩
  obtain ⟨later, after, c, rfl, rfl, hover⟩ := hgrown.reverse
  exact ⟨later, after, c, hp, hq, hover⟩

end Place

namespace Challenge

/-- A text between quotes. -/
def quotedBytes (value : String) : List UInt8 := quote :: Utf8.encode (escape value) ++ [quote]

/-- The bytes end with the equals sign behind this key. The challenge opened last comes first. -/
def Awaits (bytes : List UInt8) (key : Name) (opened : List Challenge) : Prop :=
  ∃ s, Scanner.feed {} bytes = .ok s ∧ s.phase = .value ∧ s.value = #[] ∧
    Name.ofText (Scanner.textOf s.key) = key ∧ s.opened = opened

/-- The challenges, oldest first, that bytes behind a parameter make if a challenge of this scheme is open and
has no parameters yet. -/
def readOn (scheme : Name) (rest : List UInt8) : Option (List Challenge) :=
  match Scanner.feed { phase := .settled, opened := [⟨scheme, ∅⟩] } rest with
  | .error _ => none
  | .ok s => s.finish

/-- A place in what stands around a value. -/
inductive Spot where
  | before (k : Nat)
  | behind (k : Nat)

namespace Spot

def offset (beginning value : List UInt8) : Spot → Nat
  | before k => k
  | behind k => (beginning ++ value).length + k

/-- At a byte before the value, at a byte behind it, or at the end. -/
def Within (beginning rest : List UInt8) : Spot → Prop
  | before k => k < beginning.length
  | behind k => k ≤ rest.length

end Spot

section value

variable {beginning rest : List UInt8} {key : Name} {opened older : List Challenge}
  {current : Challenge}

theorem Awaits.place (h : Awaits beginning key opened) :
    ∃ letters, Place.start.feed beginning = .ok (.value letters [] opened) ∧
      Name.ofText (Utf8.decodeLossy letters) = key := by
  obtain ⟨s, hs, hphase, hvalue, hkey, hopened⟩ := h
  have hf : Scanner.feed {} beginning = (Place.start.feed beginning).map Place.scanner :=
    Place.feed_scanner Place.start beginning
  rw [hs] at hf
  cases hp : Place.start.feed beginning with
  | error e =>
    rw [hp] at hf
    cases hf
  | ok p =>
    rw [hp] at hf
    obtain rfl : s = p.scanner := by injection hf
    cases p with
    | word | quoted | escaped | settled => cases hphase
    | value letters content os =>
      obtain rfl : content = [] := by simpa [Place.scanner] using hvalue
      obtain rfl : os = opened := hopened
      exact ⟨letters, rfl, hkey⟩

/-- A key is taken only if there is a challenge for it. -/
theorem Awaits.exists_current (h : Awaits beginning key opened) :
    ∃ current older, opened = current :: older := by
  obtain ⟨letters, hp, -⟩ := h.place
  apply List.exists_cons_of_ne_nil
  obtain - | ⟨o, ho, key, hl⟩ := Grammar.fits_feed Grammar.fits_start hp
  apply Grammar.Front.opened_ne_nil
  by_cases hn : o.elements = []
  · exact .inl (ho hn)
  · exact .inr (Grammar.allOpened_ne_nil o.opens hn)

theorem set_key (c : Challenge) {k k' : String} (h : Name.ofText k = Name.ofText k') (value : String) :
    c.set k value = c.set k' value := by
  rw [set, set, h]

/-- Behind its value the parameter is set, and the scanner stands as behind any other value. -/
theorem Awaits.feed_quoted (h : Awaits beginning key (current :: older)) (v : String) :
    Place.start.feed (beginning ++ quotedBytes v) =
      .ok (.settled (current.set key.text v :: older)) := by
  obtain ⟨letters, hp, hkey⟩ := h.place
  obtain ⟨ps, hbytes, hcontent⟩ := exists_pieces_escape v
  have hname : Name.ofText (Utf8.decodeLossy letters) = Name.ofText key.text := by
    rw [hkey, Name.ofText_text]
  rw [Place.feed_append hp, quotedBytes, ← hbytes, Grammar.feed_quoted, hcontent, Place.assignTo,
    Utf8.decodeLossy_encode, Grammar.assign, set_key current hname]

theorem isValid_quoted_iff (v : String) : Utf8.isValid (beginning ++ quotedBytes v ++ rest) = true ↔
    Utf8.isValid beginning = true ∧ Utf8.isValid rest = true := by
  have hq : quote.toNat < 0x80 := by decide
  simp [quotedBytes, Utf8.isValid_cut hq]

/-- Damaged bytes are found where they stand before the value or behind it. -/
theorem validLength_quoted (v : String) :
    Utf8.validLength (beginning ++ quotedBytes v ++ rest) =
      if Utf8.isValid beginning then (beginning ++ quotedBytes v).length + Utf8.validLength rest
      else Utf8.validLength beginning := by
  split
  · next hv =>
    apply Utf8.validLength_of_isValid
    rw [← List.append_nil (_ ++ _), isValid_quoted_iff]
    exact ⟨hv, Utf8.isValid_encodeChars []⟩
  · next hv =>
    rw [quotedBytes, List.append_assoc, List.cons_append, List.cons_append]
    exact Utf8.validLength_append_ascii (by decide) (Bool.eq_false_iff.mpr hv) _

/-- The value is sound, so the sound bytes end before it or behind it. -/
theorem exists_spot_validLength (beginning rest : List UInt8) : ∃ spot, Spot.Within beginning rest spot ∧
    ∀ v, Utf8.validLength (beginning ++ quotedBytes v ++ rest) = spot.offset beginning (quotedBytes v) := by
  cases hb : Utf8.isValid beginning with
  | false =>
    refine ⟨.before (Utf8.validLength beginning), Utf8.validLength_lt hb, fun v => ?_⟩
    rw [validLength_quoted, hb, if_neg Bool.false_ne_true]
    rfl
  | true =>
    refine ⟨.behind (Utf8.validLength rest), (Utf8.validLength_isGreatest rest).1.1, fun v => ?_⟩
    rw [validLength_quoted, hb, if_pos rfl]
    rfl

/-- Behind the value the walk is in lock step with that from a bare challenge of the same scheme. -/
theorem Awaits.walk (h : Awaits beginning key (current :: older)) (v : String) (rest : List UInt8) :
    (∃ b more, (Place.settled [⟨current.scheme, ∅⟩]).feed rest = .error (b, more) ∧
      FailsAt (beginning ++ quotedBytes v ++ rest) (.unexpectedByte b)
        ((beginning ++ quotedBytes v).length + (rest.length - (more.length + 1)))) ∨
    ∃ q q', (Place.settled [⟨current.scheme, ∅⟩]).feed rest = .ok q ∧
      Place.start.feed (beginning ++ quotedBytes v ++ rest) = .ok q' ∧
        Place.Alike (current.set key.text v) older q q' := by
  have hp := h.feed_quoted v
  have halike : Place.Alike (current.set key.text v) older (.settled [⟨current.scheme, ∅⟩])
      (.settled (current.set key.text v :: older)) := .settled (.intro [] (Over.bare _ _))
  obtain ⟨⟨b, more⟩, hcanon, hreal⟩ | ⟨q, q', hcanon, hreal, hend⟩ := halike.feed rest
  · refine .inl ⟨b, more, hcanon, ?_⟩
    obtain ⟨taken, r, rfl, ht, hb⟩ := Place.feed_eq_error hreal
    have hf := failsAt_of_refused ((Place.feed_append hp taken).trans ht) hb more
    rw [List.append_assoc, List.length_append] at hf
    simpa using hf
  · exact .inr ⟨q, q', hcanon, (Place.feed_append hp rest).trans hreal, hend⟩

theorem readOn_eq {scheme : Name} {q : Place}
    (h : (Place.settled [⟨scheme, ∅⟩]).feed rest = .ok q) : readOn scheme rest = q.finish := by
  have hf := Place.feed_scanner (.settled [⟨scheme, ∅⟩]) rest
  rw [h] at hf
  change Scanner.feed _ rest = _ at hf
  rw [readOn, show Scanner.feed { phase := .settled, opened := [⟨scheme, ∅⟩] } rest = _ from hf]
  exact q.finish_scanner

/-- If the walk from the bare challenge goes to the end then so does the other, and both end alike. -/
theorem Awaits.walk_end {q : Place} (h : Awaits beginning key (current :: older))
    (hq : (Place.settled [⟨current.scheme, ∅⟩]).feed rest = .ok q) (v : String) :
    ∃ q', Place.start.feed (beginning ++ quotedBytes v ++ rest) = .ok q' ∧
      ((q.finish = none ∧ q'.finish = none) ∨ ∃ later after c, q.finish = some (later :: after) ∧
        q'.finish = some (older.reverse ++ c :: after) ∧ Over (current.set key.text v) later c) := by
  obtain ⟨b, more, hq', -⟩ | ⟨r, q', hq', hreal, halike⟩ := h.walk v rest
  · cases hq.symm.trans hq'
  · cases hq.symm.trans hq'
    exact ⟨q', hreal, halike.finish⟩

/-- If what follows may end there, then it depends on the bytes around the quoted value alone whether they are all
sound. -/
theorem Awaits.read_end {q : Place} {later : Challenge} {after : List Challenge}
    (h : Awaits beginning key (current :: older))
    (hq : (Place.settled [⟨current.scheme, ∅⟩]).feed rest = .ok q)
    (hf : q.finish = some (later :: after)) (v : String) :
    (∃ c, Over (current.set key.text v) later c ∧
      ((Utf8.isValid beginning = true ∧ Utf8.isValid rest = true) →
        parse (beginning ++ quotedBytes v ++ rest) = .ok (older.reverse ++ c :: after))) ∧
    (¬ (Utf8.isValid beginning = true ∧ Utf8.isValid rest = true) →
      FailsAt (beginning ++ quotedBytes v ++ rest) .invalidUtf8
        (Utf8.validLength (beginning ++ quotedBytes v ++ rest))) := by
  obtain ⟨q', hq', ⟨hnone, -⟩ | ⟨_, _, c, hsome, hf', hover⟩⟩ := h.walk_end hq v
  · cases hf.symm.trans hnone
  · cases hf.symm.trans hsome
    refine ⟨⟨c, hover, ?_⟩, ?_⟩
    · intro hv
      exact parse_eq_ok_iff.mpr ⟨(isValid_quoted_iff v).mpr hv, q', hq', hf'⟩
    · intro hv
      have hdamaged : Utf8.isValid (beginning ++ quotedBytes v ++ rest) = false := by
        rw [Bool.eq_false_iff]
        exact fun hn => hv ((isValid_quoted_iff v).mp hn)
      exact failsAt_of_not_isValid hq' hf' hdamaged

/-- What reading comes to does not depend on the value, apart from that parameter itself: a fault is found at one
spot around the value, or the parameters that follow are put over those of the open challenge. -/
theorem read_quoted (h : Awaits beginning key (current :: older)) (rest : List UInt8) :
    (∃ fault spot, Spot.Within beginning rest spot ∧ ∀ v,
      FailsAt (beginning ++ quotedBytes v ++ rest) fault (spot.offset beginning (quotedBytes v))) ∨
    ∃ later after, readOn current.scheme rest = some (later :: after) ∧ ∀ v, ∃ c,
      parse (beginning ++ quotedBytes v ++ rest) = .ok (older.reverse ++ c :: after) ∧
        Over (current.set key.text v) later c := by
  cases hq : (Place.settled [⟨current.scheme, ∅⟩]).feed rest with
  | error e =>
    obtain ⟨b, more⟩ := e
    refine .inl ⟨.unexpectedByte b, .behind (rest.length - (more.length + 1)), Nat.sub_le _ _, ?_⟩
    intro v
    obtain ⟨_, _, hq', hfails⟩ | ⟨q, q', hq', -⟩ := h.walk v rest
    · cases hq.symm.trans hq'
      exact hfails
    · cases hq.symm.trans hq'
  | ok q =>
    cases hf : q.finish with
    | none =>
      refine .inl ⟨.unterminatedQuote, .behind rest.length, Nat.le_refl _, ?_⟩
      intro v
      obtain ⟨q', hq', ⟨-, hf'⟩ | ⟨_, _, _, hsome, -⟩⟩ := h.walk_end hq v
      · have hfails := failsAt_of_unfinished hq' hf'
        rwa [List.length_append] at hfails
      · cases hf.symm.trans hsome
    | some cs =>
      obtain ⟨-, -, ⟨hnone, -⟩ | ⟨later, after, -, hsome, -⟩⟩ := h.walk_end hq ""
      · cases hf.symm.trans hnone
      · cases hf.symm.trans hsome
        by_cases hv : Utf8.isValid beginning = true ∧ Utf8.isValid rest = true
        · refine .inr ⟨later, after, (readOn_eq hq).trans hf, ?_⟩
          intro v
          obtain ⟨⟨c, hover, hparse⟩, -⟩ := h.read_end hq hf v
          exact ⟨c, hparse hv, hover⟩
        · obtain ⟨spot, hwithin, hspot⟩ := exists_spot_validLength beginning rest
          refine .inl ⟨.invalidUtf8, spot, hwithin, ?_⟩
          intro v
          rw [← hspot v]
          exact (h.read_end hq hf v).2 hv

/-- The parameter has its value unless it is given again. -/
theorem Over.param?_key {later c : Challenge} {v : String}
    (h : Over (current.set key.text v) later c) :
    c.param? key.text = some ((later.param? key.text).getD v) := by
  rw [h.param?, param?_set, Name.ofText_text, if_pos rfl]
  cases later.param? key.text <;> rfl

theorem Over.param?_other {later c : Challenge} {v k : String}
    (h : Over (current.set key.text v) later c) (hk : k ≠ key.text) :
    c.param? k = (later.param? k).or (current.param? k) := by
  rw [h.param?, param?_set, Name.ofText_text, if_neg hk.symm]

/-- Two values in the same place make no difference but that between them. Either both readings fail with the same
fault at the same spot, or they make the same challenges up to the parameter itself, which has the one value or
the other unless what follows gives it again to the same challenge. -/
theorem quoted_opaque (h : Awaits beginning key opened) (v v' : String) (rest : List UInt8) :
    (∃ fault spot, Spot.Within beginning rest spot ∧
      FailsAt (beginning ++ quotedBytes v ++ rest) fault (spot.offset beginning (quotedBytes v)) ∧
      FailsAt (beginning ++ quotedBytes v' ++ rest) fault (spot.offset beginning (quotedBytes v'))) ∨
    ∃ current older later after c c', opened = current :: older ∧
      readOn current.scheme rest = some (later :: after) ∧
      parse (beginning ++ quotedBytes v ++ rest) = .ok (older.reverse ++ c :: after) ∧
      parse (beginning ++ quotedBytes v' ++ rest) = .ok (older.reverse ++ c' :: after) ∧
      c.scheme = current.scheme ∧ c'.scheme = current.scheme ∧
      (∀ k, k ≠ key.text → c.param? k = c'.param? k) ∧
      c.param? key.text = some ((later.param? key.text).getD v) ∧
      c'.param? key.text = some ((later.param? key.text).getD v') := by
  obtain ⟨current, older, rfl⟩ := h.exists_current
  obtain ⟨fault, spot, hwithin, hfails⟩ | ⟨later, after, hread, hparse⟩ := read_quoted h rest
  · exact .inl ⟨fault, spot, hwithin, hfails v, hfails v'⟩
  · obtain ⟨c, hc, hover⟩ := hparse v
    obtain ⟨c', hc', hover'⟩ := hparse v'
    refine .inr ⟨current, older, later, after, c, c', rfl, hread, hc, hc', hover.scheme,
      hover'.scheme, ?_, hover.param?_key, hover'.param?_key⟩
    intro k hk
    rw [hover.param?_other hk, hover'.param?_other hk]

end value

/-- A value that looks like another challenge, against an empty one. -/
theorem quoted_opaque_digest :
    let beginning := Utf8.encode "Negotiate Basic realm="
    let rest := Utf8.encode ", charset=\"UTF-8\", Bearer"
    let hostile := "é\", Digest realm=\"a\\"
    Awaits beginning (.ofText "realm") [ofScheme "basic", ofScheme "negotiate"] ∧
      ∃ c c' after,
        parse (beginning ++ quotedBytes hostile ++ rest) = .ok (ofScheme "negotiate" :: c :: after) ∧
        parse (beginning ++ quotedBytes "" ++ rest) = .ok (ofScheme "negotiate" :: c' :: after) ∧
        (∀ k, k ≠ "realm" → c.param? k = c'.param? k) ∧
        c.param? "realm" = some hostile ∧ c'.param? "realm" = some "" := by
  intro beginning rest hostile
  have h : Awaits beginning (.ofText "realm") [ofScheme "basic", ofScheme "negotiate"] :=
    ⟨_, rfl, by decide +kernel, by decide +kernel, by decide +kernel, by decide +kernel⟩
  refine ⟨h, ?_⟩
  obtain ⟨fault, spot, -, ⟨e, he, -⟩, -⟩ | ⟨current, older, later, after, c, c', hopened, hread, hc,
    hc', -, -, hk, hv, hv'⟩ := quoted_opaque h hostile "" rest
  · have hok : (parse (beginning ++ quotedBytes hostile ++ rest)).toOption.isSome = true := by
      decide +kernel
    rw [he] at hok
    cases hok
  · cases hopened
    have hlater : (readOn (.ofText "basic") rest).map (fun cs => cs.map (·.param? "realm")) =
        some [none, none] := by
      decide +kernel
    have hread : readOn (.ofText "basic") rest = some (later :: after) := hread
    rw [hread] at hlater
    simp only [Option.map_some, List.map_cons, Option.some.injEq, List.cons.injEq] at hlater
    have hname : (Name.ofText "realm").text = "realm" := by decide +kernel
    rw [hname, hlater.1] at hv hv'
    exact ⟨c, c', after, hc, hc', fun k hne => hk k (hname ▸ hne), hv, hv'⟩

end Challenge

end HttpAuth
