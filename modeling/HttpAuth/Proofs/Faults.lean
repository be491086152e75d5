import HttpAuth.Proofs.Place
import HttpAuth.Proofs.ValidLength

namespace HttpAuth

open Scanner (equals comma quote backslash)

namespace Place

variable {p q : Place} {xs ys rest : List UInt8} {b : UInt8}

theorem feed_refused (h : p.feed xs = .ok q) (hb : q.step b = none) (rest : List UInt8) :
    p.feed (xs ++ b :: rest) = .error (b, rest) := by
  rw [feed_append h, feed, hb]

theorem step_of_feed (h : p.feed [b] = .ok q) : p.step b = some q := by
  cases hs : p.step b with
  | none => simp [feed, hs] at h
  | some r =>
    rw [feed_cons hs] at h
    cases h
    rfl

/-- The bytes before the one that is refused were taken. -/
theorem feed_eq_error (h : p.feed xs = .error (b, rest)) :
    ∃ taken r, xs = taken ++ b :: rest ∧ p.feed taken = .ok r ∧ r.step b = none := by
  induction xs generalizing p with
  | nil => cases h
  | cons d xs ih =>
    rw [feed] at h
    cases hs : p.step d with
    | none =>
      rw [hs] at h
      cases h
      exact ⟨[], p, rfl, rfl, hs⟩
    | some r =>
      rw [hs] at h
      obtain ⟨taken, last, rfl, hf, hb⟩ := ih h
      exact ⟨d :: taken, last, rfl, by rw [feed_cons hs, hf], hb⟩

/-- A walk may be cut anywhere. -/
theorem feed_cut (h : p.feed (xs ++ ys) = .ok q) : ∃ r, p.feed xs = .ok r ∧ r.feed ys = .ok q := by
  cases hx : p.feed xs with
  | ok r => exact ⟨r, rfl, by rw [← feed_append hx, h]⟩
  | error e =>
    obtain ⟨d, more⟩ := e
    obtain ⟨taken, r, rfl, ht, hd⟩ := feed_eq_error hx
    rw [List.append_assoc, List.cons_append, feed_refused ht hd] at h
    cases h

/-- There are no dead ends: from every place bytes can go on to an end. -/
theorem exists_end (p : Place) : ∃ bytes q cs, p.feed bytes = .ok q ∧ q.finish = some cs := by
  cases p with
  | word letters afterComma opened =>
    by_cases hw : letters ≠ [] ∧ (opened = [] ∨ afterComma)
    · exact ⟨[], _, _, rfl, if_pos hw⟩
    · exact ⟨[], _, _, rfl, if_neg hw⟩
  | value key letters opened =>
    by_cases hl : letters = []
    · exact ⟨[], _, _, rfl, if_pos hl⟩
    · exact ⟨[], _, _, rfl, if_neg hl⟩
  | quoted key content opened =>
    exact ⟨[quote], .settled (assignTo key content opened), _, rfl, rfl⟩
  | escaped key content opened =>
    exact ⟨[quote, quote], .settled (assignTo key (content ++ [quote]) opened), _, rfl, rfl⟩
  | settled opened => exact ⟨[], _, _, rfl, rfl⟩

end Place

/-- Where bytes stand with regard to quoted strings: behind an opening quote that no quote has closed, or behind
a backslash in such a string. -/
inductive Quoting where
  | outside
  | inside
  | escaping
deriving DecidableEq, Repr

namespace Quoting

def next : Quoting → UInt8 → Quoting
  | outside, b => if b = quote then inside else outside
  | inside, b => if b = quote then outside else if b = backslash then escaping else inside
  | escaping, _ => inside

def behind (bytes : List UInt8) : Quoting := bytes.foldl next outside

end Quoting

namespace Place

variable {p q : Place} {bytes : List UInt8} {b : UInt8}

def quoting : Place → Quoting
  | quoted .. => .inside
  | escaped .. => .escaping
  | word .. | value .. | settled .. => .outside

/-- A byte other than a quote, taken outside of quoted strings, leaves them outside. -/
theorem outside_next (h : Ascii.isAlphanum b = true ∨ Ascii.isSpace b = true ∨ b = equals ∨ b = comma) :
    Quoting.outside.next b = .outside := by
  have hq : b ≠ quote := by
    rintro rfl
    exact absurd h (by decide)
  exact if_neg hq

/-- A quote is taken only as the first or the last byte of a quoted string, or behind a backslash in it. -/
theorem quoting_step (h : p.step b = some q) : q.quoting = p.quoting.next b := by
  cases p with
  | word letters afterComma opened =>
    simp only [step] at h
    split at h
    · next hb =>
      cases h
      exact (outside_next (.inl hb)).symm
    split at h
    · next hb =>
      have hout := outside_next (.inr (.inl hb))
      split at h <;>
        · cases h
          exact hout.symm
    split at h
    · next hb =>
      cases h
      exact (outside_next (.inr (.inr (.inl hb.1)))).symm
    · cases h
  | value key letters opened =>
    simp only [step] at h
    split at h
    · next hb =>
      cases h
      exact (outside_next (.inl hb)).symm
    split at h
    · next hb =>
      cases h
      exact (if_pos hb.1).symm
    split at h
    · next hb =>
      cases h
      exact (outside_next (.inr (.inr (.inr hb)))).symm
    split at h
    · next hb =>
      cases h
      exact (outside_next (.inr (.inl hb))).symm
    · cases h
  | quoted key content opened =>
    simp only [step] at h
    simp only [quoting, Quoting.next]
    split at h
    · next hb =>
      cases h
      exact (if_pos hb).symm
    · next hq =>
      rw [if_neg hq]
      split at h
      · next hb =>
        cases h
        exact (if_pos hb).symm
      · next hb =>
        cases h
        exact (if_neg hb).symm
  | escaped key content opened =>
    cases h
    rfl
  | settled opened =>
    simp only [step] at h
    split at h
    · next hb =>
      cases h
      exact (outside_next (.inr (.inl hb))).symm
    split at h
    · next hb =>
      cases h
      exact (outside_next (.inr (.inr (.inr hb)))).symm
    · cases h

theorem quoting_feed (h : p.feed bytes = .ok q) :
    q.quoting = bytes.foldl Quoting.next p.quoting := by
  induction bytes generalizing p with
  | nil =>
    cases h
    rfl
  | cons b bytes ih =>
    rw [feed] at h
    cases hs : p.step b with
    | none => simp [hs] at h
    | some r =>
      rw [hs] at h
      rw [ih h, quoting_step hs, List.foldl_cons]

theorem quoting_behind (h : start.feed bytes = .ok q) : Quoting.behind bytes = q.quoting :=
  (quoting_feed h).symm

/-- Only inside a quoted string a value may not end. -/
theorem finish_eq_none_iff (p : Place) : p.finish = none ↔ p.quoting ≠ .outside := by
  cases p with
  | word | value =>
    rw [finish]
    split <;> simp [quoting]
  | quoted | escaped | settled => simp [finish, quoting]

/-- Beyond ASCII a byte is taken inside a quoted string only. -/
theorem quoting_of_step (h : p.step b = some q) (hb : 0x80 ≤ b.toNat) :
    p.quoting ≠ .outside ∧ q.quoting = .inside := by
  have ha : Ascii.isAlphanum b = false := by
    rw [Bool.eq_false_iff]
    intro ha
    have := Grammar.ascii_of_isAlphanum ha
    omega
  have hs : Ascii.isSpace b = false := by
    rw [Bool.eq_false_iff]
    intro hs
    have := Grammar.ascii_of_isSpace hs
    omega
  have hne : b ≠ equals ∧ b ≠ comma ∧ b ≠ quote ∧ b ≠ backslash := by
    refine ⟨?_, ?_, ?_, ?_⟩ <;>
      · rintro rfl
        exact absurd hb (by decide)
  obtain ⟨he, hc, hq, hbs⟩ := hne
  cases p with
  | word | value | settled => simp [step, ha, hs, he, hc, hq] at h
  | quoted key content opened =>
    simp only [step, hq, hbs, ↓reduceIte] at h
    cases h
    exact ⟨by simp [quoting], rfl⟩
  | escaped key content opened =>
    cases h
    exact ⟨by simp [quoting], rfl⟩

end Place

namespace Challenge

/-- Reading fails with this fault, found at this byte. -/
def FailsAt (bytes : List UInt8) (fault : Fault) (offset : Nat) : Prop :=
  ∃ e, parse bytes = .error e ∧ e.fault = fault ∧ e.offset = offset

/-- Reading would succeed if the encoding did not matter. -/
def Readable (bytes : List UInt8) : Prop :=
  (∃ cs, parse bytes = .ok cs) ∨ ∃ offset, FailsAt bytes .invalidUtf8 offset

section walks

variable {bytes taken rest : List UInt8} {q : Place} {b : UInt8} {cs : List Challenge}

theorem parse_of_feed (bytes : List UInt8) : parse bytes =
    match Place.start.feed bytes with
    | .error (b, rest) =>
      .error ⟨.unexpectedByte b, Utf8.decodeLossy bytes, bytes.length - (rest.length + 1)⟩
    | .ok q =>
      match q.finish with
      | none => .error ⟨.unterminatedQuote, Utf8.decodeLossy bytes, bytes.length⟩
      | some cs =>
        if Utf8.isValid bytes then .ok cs
        else .error ⟨.invalidUtf8, Utf8.decodeLossy bytes, Utf8.validLength bytes⟩ := by
  have hf : Scanner.feed {} bytes = (Place.start.feed bytes).map Place.scanner :=
    Place.feed_scanner Place.start bytes
  simp only [parse, hf]
  cases Place.start.feed bytes with
  | error e => rfl
  | ok q =>
    cases hq : q.finish <;> simp only [Except.map, Place.finish_scanner, hq]

theorem failsAt_of_refused (h : Place.start.feed taken = .ok q) (hb : q.step b = none)
    (rest : List UInt8) : FailsAt (taken ++ b :: rest) (.unexpectedByte b) taken.length := by
  have hp := parse_of_feed (taken ++ b :: rest)
  rw [Place.feed_refused h hb] at hp
  refine ⟨_, hp, rfl, ?_⟩
  simp only [List.length_append, List.length_cons]
  omega

theorem failsAt_of_unfinished (h : Place.start.feed bytes = .ok q) (hf : q.finish = none) :
    FailsAt bytes .unterminatedQuote bytes.length := by
  have hp := parse_of_feed bytes
  simp only [h, hf] at hp
  exact ⟨_, hp, rfl, rfl⟩

theorem failsAt_of_not_isValid (h : Place.start.feed bytes = .ok q) (hf : q.finish = some cs)
    (hv : Utf8.isValid bytes = false) : FailsAt bytes .invalidUtf8 (Utf8.validLength bytes) := by
  have hp := parse_of_feed bytes
  simp only [h, hf, hv, Bool.false_eq_true, ↓reduceIte] at hp
  exact ⟨_, hp, rfl, rfl⟩

/-- Every byte is taken, or one is refused. -/
theorem refused_or_taken (bytes : List UInt8) :
    (∃ taken b rest q, bytes = taken ++ b :: rest ∧ Place.start.feed taken = .ok q ∧
      q.step b = none) ∨ ∃ q, Place.start.feed bytes = .ok q := by
  cases h : Place.start.feed bytes with
  | ok q => exact .inr ⟨q, rfl⟩
  | error e =>
    obtain ⟨b, rest⟩ := e
    obtain ⟨taken, q, hbytes, ht, hb⟩ := Place.feed_eq_error h
    exact .inl ⟨taken, b, rest, q, hbytes, ht, hb⟩

/-- The ways to fail, by where the walk ends. -/
inductive Failure (bytes : List UInt8) : Fault → Nat → Prop where
  | refused {taken rest : List UInt8} {b : UInt8} {q : Place} (hbytes : bytes = taken ++ b :: rest)
      (ht : Place.start.feed taken = .ok q) (hb : q.step b = none) :
      Failure bytes (.unexpectedByte b) taken.length
  | unfinished {q : Place} (hq : Place.start.feed bytes = .ok q) (hf : q.finish = none) :
      Failure bytes .unterminatedQuote bytes.length
  | damaged {q : Place} {cs : List Challenge} (hq : Place.start.feed bytes = .ok q)
      (hf : q.finish = some cs) (hv : Utf8.isValid bytes = false) :
      Failure bytes .invalidUtf8 (Utf8.validLength bytes)

theorem failsAt_iff {fault : Fault} {offset : Nat} :
    FailsAt bytes fault offset ↔ Failure bytes fault offset := by
  constructor
  · rintro ⟨e, he, rfl, rfl⟩
    rcases refused_or_taken bytes with ⟨taken, b, rest, q, hbytes, ht, hb⟩ | ⟨q, hq⟩
    · obtain ⟨e', he', hfault, hoffset⟩ := failsAt_of_refused ht hb rest
      rw [← hbytes, he] at he'
      cases he'
      rw [hfault, hoffset]
      exact .refused hbytes ht hb
    · have hp := parse_of_feed bytes
      rw [he, hq] at hp
      cases hf : q.finish with
      | none =>
        simp only [hf] at hp
        cases hp
        exact .unfinished hq hf
      | some cs =>
        cases hv : Utf8.isValid bytes with
        | true =>
          simp only [hf, hv, ↓reduceIte] at hp
          cases hp
        | false =>
          simp only [hf, hv, Bool.false_eq_true, ↓reduceIte] at hp
          cases hp
          exact .damaged hq hf hv
  · rintro (⟨rfl, ht, hb⟩ | ⟨hq, hf⟩ | ⟨hq, hf, hv⟩)
    · exact failsAt_of_refused ht hb _
    · exact failsAt_of_unfinished hq hf
    · exact failsAt_of_not_isValid hq hf hv

theorem taken_iff (bytes : List UInt8) : (∃ q, Place.start.feed bytes = .ok q) ↔
    ∀ b offset, ¬ FailsAt bytes (.unexpectedByte b) offset := by
  constructor
  · rintro ⟨q, hq⟩ b offset h
    obtain ⟨hbytes, ht, hb⟩ := failsAt_iff.mp h
    rw [hbytes, Place.feed_refused ht hb] at hq
    cases hq
  · intro h
    rcases refused_or_taken bytes with ⟨taken, b, rest, q, rfl, ht, hb⟩ | hq
    · exact absurd (failsAt_of_refused ht hb rest) (h b _)
    · exact hq

theorem readable_of_feed (h : Place.start.feed bytes = .ok q) (hf : q.finish = some cs) :
    Readable bytes := by
  cases hv : Utf8.isValid bytes with
  | true => exact .inl ⟨cs, parse_eq_ok_iff.mpr ⟨hv, q, h, hf⟩⟩
  | false => exact .inr ⟨_, failsAt_of_not_isValid h hf hv⟩

theorem feed_of_readable (h : Readable bytes) : ∃ q, Place.start.feed bytes = .ok q := by
  rcases h with ⟨cs, hcs⟩ | ⟨offset, hoffset⟩
  · obtain ⟨-, q, hq, -⟩ := parse_eq_ok_iff.mp hcs
    exact ⟨q, hq⟩
  · obtain - | - | ⟨hq, -, -⟩ := failsAt_iff.mp hoffset
    exact ⟨_, hq⟩

/-- Bytes that were taken can be gone on with to something readable, and no others can. -/
theorem exists_readable_iff (bytes : List UInt8) :
    (∃ more, Readable (bytes ++ more)) ↔ ∃ q, Place.start.feed bytes = .ok q := by
  constructor
  · rintro ⟨more, h⟩
    obtain ⟨q, hq⟩ := feed_of_readable h
    obtain ⟨r, hr, -⟩ := Place.feed_cut hq
    exact ⟨r, hr⟩
  · rintro ⟨q, hq⟩
    obtain ⟨more, r, cs, hr, hf⟩ := q.exists_end
    exact ⟨more, readable_of_feed ((Place.feed_append hq more).trans hr) hf⟩

end walks

section faults

variable {bytes : List UInt8} {b : UInt8} {offset : Nat}

theorem take_append_cons (taken rest : List UInt8) (b : UInt8) :
    (taken ++ b :: rest).take (taken.length + 1) = taken ++ [b] := by
  rw [List.take_length_add_append]
  rfl

theorem unexpectedByte_iff : FailsAt bytes (.unexpectedByte b) offset ↔
    bytes[offset]? = some b ∧ (∃ more, Readable (bytes.take offset ++ more)) ∧
      ∀ more, ¬ Readable (bytes.take (offset + 1) ++ more) := by
  constructor
  · intro h
    obtain ⟨rfl, ht, hb⟩ := failsAt_iff.mp h
    refine ⟨by simp, ?_, ?_⟩
    · rw [List.take_left]
      exact (exists_readable_iff _).mpr ⟨_, ht⟩
    · rw [take_append_cons]
      intro more hm
      obtain ⟨r, hr⟩ := (exists_readable_iff _).mp ⟨more, hm⟩
      rw [Place.feed_refused ht hb] at hr
      cases hr
  · rintro ⟨hbyte, hmore, hnone⟩
    obtain ⟨hlt, rfl⟩ := List.getElem?_eq_some_iff.mp hbyte
    obtain ⟨q, hq⟩ := (exists_readable_iff _).mp hmore
    have hlength : (bytes.take offset).length = offset := by
      rw [List.length_take, Nat.min_eq_left (Nat.le_of_lt hlt)]
    have hsplit : bytes = bytes.take offset ++ bytes[offset] :: bytes.drop (offset + 1) := by
      rw [List.getElem_cons_drop, List.take_append_drop]
    cases hs : q.step bytes[offset] with
    | none =>
      have h := Failure.refused hsplit hq hs
      rw [hlength] at h
      exact failsAt_iff.mpr h
    | some r =>
      exfalso
      have hr : Place.start.feed (bytes.take (offset + 1)) = .ok r := by
        rw [List.take_succ_eq_append_getElem hlt, Place.feed_append hq, Place.feed_cons hs]
        rfl
      obtain ⟨more, hm⟩ := (exists_readable_iff _).mpr ⟨r, hr⟩
      exact hnone more hm

/-- Nothing that follows a refused byte changes that. -/
theorem FailsAt.unexpectedByte_more (h : FailsAt bytes (.unexpectedByte b) offset)
    (more : List UInt8) : FailsAt (bytes.take (offset + 1) ++ more) (.unexpectedByte b) offset := by
  obtain ⟨rfl, ht, hb⟩ := failsAt_iff.mp h
  rw [take_append_cons, List.append_assoc]
  exact failsAt_of_refused ht hb more

theorem unterminatedQuote_iff : FailsAt bytes .unterminatedQuote offset ↔
    (∀ b o, ¬ FailsAt bytes (.unexpectedByte b) o) ∧ offset = bytes.length ∧
      Quoting.behind bytes ≠ .outside := by
  rw [← taken_iff]
  constructor
  · intro h
    obtain - | ⟨hq, hf⟩ := failsAt_iff.mp h
    rw [Place.finish_eq_none_iff] at hf
    exact ⟨⟨_, hq⟩, rfl, by rwa [Place.quoting_behind hq]⟩
  · rintro ⟨⟨q, hq⟩, rfl, hb⟩
    rw [Place.quoting_behind hq] at hb
    exact failsAt_of_unfinished hq ((Place.finish_eq_none_iff q).mpr hb)

theorem invalidUtf8_iff : FailsAt bytes .invalidUtf8 offset ↔
    (∀ b o, ¬ FailsAt bytes (.unexpectedByte b) o) ∧ (∀ o, ¬ FailsAt bytes .unterminatedQuote o) ∧
      Utf8.isValid bytes = false ∧
        IsGreatest {n | n ≤ bytes.length ∧ Utf8.isValid (bytes.take n) = true} offset := by
  constructor
  · intro h
    obtain - | - | ⟨hq, hf, hv⟩ := failsAt_iff.mp h
    refine ⟨(taken_iff bytes).mp ⟨_, hq⟩, ?_, hv, Utf8.validLength_isGreatest bytes⟩
    intro o ho
    obtain - | ⟨hq', hf'⟩ := failsAt_iff.mp ho
    cases hq.symm.trans hq'
    rw [hf] at hf'
    cases hf'
  · rintro ⟨htaken, hended, hv, hgreatest⟩
    rw [hgreatest.unique (Utf8.validLength_isGreatest bytes)]
    obtain ⟨q, hq⟩ := (taken_iff bytes).mpr htaken
    cases hf : q.finish with
    | none => exact absurd (failsAt_of_unfinished hq hf) (hended _)
    | some cs => exact failsAt_of_not_isValid hq hf hv

/-- Damaged bytes are inside a quoted string. -/
theorem FailsAt.invalidUtf8_inside (h : FailsAt bytes .invalidUtf8 offset) :
    offset < bytes.length ∧ Quoting.behind (bytes.take offset) ≠ .outside ∧
      Quoting.behind (bytes.take (offset + 1)) = .inside := by
  obtain - | - | ⟨hq, hf, hv⟩ := failsAt_iff.mp h
  obtain ⟨b, hbyte, hhigh⟩ := Utf8.exists_byte_of_not_isValid hv
  obtain ⟨hlt, rfl⟩ := List.getElem?_eq_some_iff.mp hbyte
  rw [← List.take_append_drop (Utf8.validLength bytes + 1) bytes] at hq
  obtain ⟨r, hr, -⟩ := Place.feed_cut hq
  have hbehind := Place.quoting_behind hr
  rw [List.take_succ_eq_append_getElem hlt] at hr
  obtain ⟨p, hp, hlast⟩ := Place.feed_cut hr
  have hs := Place.step_of_feed hlast
  obtain ⟨hp', hr'⟩ := Place.quoting_of_step hs hhigh
  exact ⟨hlt, by rwa [Place.quoting_behind hp], by rw [hbehind, hr']⟩

/-- Where reading fails. A byte is refused exactly where the bytes before it can be gone on with to something
readable and no longer can with it, whatever may follow. If no byte is refused then the value may end inside a quoted
string; if it does not then its bytes may be damaged, and the first that are stand inside a quoted string. -/
theorem first_fault (bytes : List UInt8) :
    (∀ b offset, FailsAt bytes (.unexpectedByte b) offset ↔
      bytes[offset]? = some b ∧ (∃ more, Readable (bytes.take offset ++ more)) ∧
        ∀ more, ¬ Readable (bytes.take (offset + 1) ++ more)) ∧
    (∀ b offset, FailsAt bytes (.unexpectedByte b) offset →
      ∀ more, FailsAt (bytes.take (offset + 1) ++ more) (.unexpectedByte b) offset) ∧
    (∀ offset, FailsAt bytes .unterminatedQuote offset ↔
      (∀ b o, ¬ FailsAt bytes (.unexpectedByte b) o) ∧ offset = bytes.length ∧
        Quoting.behind bytes ≠ .outside) ∧
    (∀ offset, FailsAt bytes .invalidUtf8 offset ↔
      (∀ b o, ¬ FailsAt bytes (.unexpectedByte b) o) ∧ (∀ o, ¬ FailsAt bytes .unterminatedQuote o) ∧
        Utf8.isValid bytes = false ∧
          IsGreatest {n | n ≤ bytes.length ∧ Utf8.isValid (bytes.take n) = true} offset) ∧
    ∀ offset, FailsAt bytes .invalidUtf8 offset → offset < bytes.length ∧
      Quoting.behind (bytes.take offset) ≠ .outside ∧
        Quoting.behind (bytes.take (offset + 1)) = .inside :=
  ⟨fun _ _ => unexpectedByte_iff, fun _ _ h => h.unexpectedByte_more, fun _ => unterminatedQuote_iff,
    fun _ => invalidUtf8_iff, fun _ h => h.invalidUtf8_inside⟩

end faults

end Challenge

end HttpAuth
