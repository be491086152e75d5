import HttpAuth.Time.Instant

namespace HttpAuth.Time

/-- A place on the line between the first nanosecond of the first second and the last one of the last second. -/
def InRange (nanos : Int) : Prop :=
  firstSecond * nanosPerSecond ≤ nanos ∧ nanos < (lastSecond + 1) * nanosPerSecond

instance (nanos : Int) : Decidable (InRange nanos) := inferInstanceAs (Decidable (_ ∧ _))

namespace Instant

/-- The leap second that this instant lies in. -/
def leap (i : Instant) : Int := if i.inLeapSecond then nanosPerSecond else 0

/-- How much time passes from one instant to another. The leap second that the first one lies in has passed
as well if the other is behind it. -/
def nanosTo (i j : Instant) : Int :=
  j.unixNanos - i.unixNanos + if i.second < j.second then i.leap else 0

/-- The second instant is as far from the first as the span is long. It lies in a leap second only if that is
the one in which the first lies. -/
structure IsSum (i : Instant) (d : Span) (j : Instant) : Prop where
  distance : i.nanosTo j = d.nanos
  regular : j.inLeapSecond → i.inLeapSecond ∧ j.second = i.second

/-- The end of the span is between the first instant and the last. Its place is one second later if a leap second
is passed on the way. -/
def Reaches (i : Instant) (d : Span) : Prop :=
  firstSecond * nanosPerSecond ≤ i.unixNanos + d.nanos ∧
    i.unixNanos + d.nanos < (lastSecond + 1) * nanosPerSecond + i.leap

instance (i : Instant) (d : Span) : Decidable (i.Reaches d) := inferInstanceAs (Decidable (_ ∧ _))

theorem ofUnix?_eq_some {second : Int} {nano : Nat} {i : Instant} :
    ofUnix? second nano = some i ↔ i.second = second ∧ i.nano = nano := by
  obtain ⟨s, n, hfirst, hlast, hnano⟩ := i
  unfold ofUnix?
  constructor
  · intro h
    split at h
    · cases h
      exact ⟨rfl, rfl⟩
    · cases h
  · rintro ⟨rfl, rfl⟩
    rw [dif_pos ⟨hfirst, hlast, hnano⟩]

theorem ofUnix?_eq_none {second : Int} {nano : Nat} : ofUnix? second nano = none ↔
    ¬ (firstSecond ≤ second ∧ second ≤ lastSecond ∧ nano < 2 * nanosPerSecond) := by
  unfold ofUnix?
  split
  · next h => exact iff_of_false (Option.some_ne_none _) (not_not_intro h)
  · next h => exact iff_of_true rfl h

/-- Division splits a place into the second and the part of it. -/
theorem ofUnixNanos?_eq_some {n : Int} {i : Instant} :
    ofUnixNanos? n = some i ↔ ¬ i.inLeapSecond ∧ i.unixNanos = n := by
  rw [ofUnixNanos?, ofUnix?_eq_some]
  simp only [inLeapSecond, unixNanos, nanosPerSecond]
  omega

theorem inRange_unixNanos {i : Instant} (h : ¬ i.inLeapSecond) : InRange i.unixNanos := by
  have hfirst := i.first_le
  have hlast := i.le_last
  simp only [inLeapSecond, InRange, unixNanos, nanosPerSecond] at h ⊢
  omega

theorem exists_of_inRange {n : Int} (h : InRange n) : ∃ i, ofUnixNanos? n = some i := by
  simp only [InRange, nanosPerSecond] at h
  have hparts : firstSecond ≤ n / nanosPerSecond ∧ n / nanosPerSecond ≤ lastSecond ∧
      (n % nanosPerSecond).toNat < 2 * nanosPerSecond := by
    simp only [nanosPerSecond]
    omega
  exact ⟨⟨_, _, hparts.1, hparts.2.1, hparts.2.2⟩, dif_pos hparts⟩

theorem ofUnixNanos?_eq_none {n : Int} : ofUnixNanos? n = none ↔ ¬ InRange n := by
  constructor
  · intro hn hr
    obtain ⟨i, hi⟩ := exists_of_inRange hr
    rw [hn] at hi
    cases hi
  · intro hr
    rw [Option.eq_none_iff_forall_ne_some]
    intro i hi
    obtain ⟨hregular, hplace⟩ := ofUnixNanos?_eq_some.mp hi
    exact hr (hplace ▸ inRange_unixNanos hregular)

section sums

variable {i j : Instant} {d : Span}

theorem add?_of_regular (hi : ¬ i.inLeapSecond) : i.add? d = ofUnixNanos? (i.unixNanos + d.nanos) := by
  rw [add?, if_neg fun h => hi h.1]

theorem isSum_iff : IsSum i d j ↔
    i.nanosTo j = d.nanos ∧ (j.inLeapSecond → i.inLeapSecond ∧ j.second = i.second) :=
  ⟨fun h => ⟨h.distance, h.regular⟩, fun h => ⟨h.1, h.2⟩⟩

theorem isSum_of_regular (hi : ¬ i.inLeapSecond) :
    IsSum i d j ↔ ¬ j.inLeapSecond ∧ j.unixNanos = i.unixNanos + d.nanos := by
  rw [isSum_iff, nanosTo, leap, if_neg hi, ite_self]
  simp only [hi, false_and]
  constructor
  · rintro ⟨hsum, hregular⟩
    exact ⟨hregular, by omega⟩
  · rintro ⟨hregular, hsum⟩
    exact ⟨by omega, hregular⟩

theorem add?_eq_some : i.add? d = some j ↔ IsSum i d j := by
  by_cases hi : i.inLeapSecond
  · have hnano := i.nano_lt
    have hnano' := j.nano_lt
    rw [isSum_iff, nanosTo, leap, if_pos hi]
    unfold add?
    split
    · split
      -- within the second, past its end, and before its beginning
      · rw [ofUnix?_eq_some]
        simp only [unixNanos, inLeapSecond, nanosPerSecond] at *
        split <;> omega
      · rw [ofUnixNanos?_eq_some]
        simp only [unixNanos, inLeapSecond, nanosPerSecond] at *
        split <;> omega
    · rw [ofUnixNanos?_eq_some]
      simp only [unixNanos, inLeapSecond, nanosPerSecond] at *
      split <;> omega
  · rw [add?_of_regular hi, ofUnixNanos?_eq_some, isSum_of_regular hi]

theorem reaches_of_regular (hi : ¬ i.inLeapSecond) :
    i.Reaches d ↔ InRange (i.unixNanos + d.nanos) := by
  rw [Reaches, leap, if_neg hi, Int.add_zero]
  rfl

/-- There is no sum exactly when the exact one is out of range. -/
theorem add?_eq_none : i.add? d = none ↔ ¬ i.Reaches d := by
  by_cases hi : i.inLeapSecond
  · have hfirst := i.first_le
    have hlast := i.le_last
    have hnano := i.nano_lt
    rw [Reaches, leap, if_pos hi]
    unfold add?
    split
    · split
      · rw [ofUnix?_eq_none]
        simp only [unixNanos, inLeapSecond, nanosPerSecond] at *
        omega
      · rw [ofUnixNanos?_eq_none]
        simp only [InRange, unixNanos, inLeapSecond, nanosPerSecond] at *
        omega
    · rw [ofUnixNanos?_eq_none]
      simp only [InRange, unixNanos, inLeapSecond, nanosPerSecond] at *
      omega
  · rw [add?_of_regular hi, ofUnixNanos?_eq_none, reaches_of_regular hi]

theorem IsSum.reaches (h : IsSum i d j) : i.Reaches d := by
  refine Decidable.by_contra fun hr => ?_
  rw [← add?_eq_none, add?_eq_some.mpr h] at hr
  cases hr

/-- What comes after the end of a span that does not lead back also comes after its beginning. -/
theorem IsSum.before {k : Instant} (h : IsSum i d j) (hd : 0 ≤ d.nanos) (hk : j.Before k) :
    i.Before k := by
  obtain ⟨hdistance, hregular⟩ := h
  have hnano := j.nano_lt
  simp only [nanosTo, leap, unixNanos, inLeapSecond, Before, nanosPerSecond] at *
  split at hdistance <;> omega

/-- All instants lie within a number of seconds that is a span of time. -/
theorem Reaches.le_maxSeconds (h : i.Reaches d) : d.nanos ≤ Span.maxSeconds * nanosPerSecond := by
  have hfirst := i.first_le
  have hle : i.leap ≤ nanosPerSecond := by
    unfold leap
    split
    · exact Int.le_refl _
    · exact Int.natCast_nonneg _
  have hend := h.2
  simp only [unixNanos, firstSecond, lastSecond, nanosPerSecond, Span.maxSeconds] at *
  omega

end sums

end Instant

/-- Seconds that are too many for a span of time lead from no instant to another. -/
theorem bind_ofSeconds? (i : Instant) {n : Int} (hn : 0 ≤ n) :
    (Span.ofSeconds? n).bind i.add? = i.add? (.ofSeconds n) := by
  unfold Span.ofSeconds?
  split
  · rfl
  · next hlarge =>
    symm
    rw [Option.bind_none, Instant.add?_eq_none]
    intro hr
    have hspan := hr.le_maxSeconds
    simp only [Span.ofSeconds, Span.maxSeconds, nanosPerSecond] at hspan hlarge
    omega

end HttpAuth.Time
