import HttpAuth.Proofs.ExactTime
import HttpAuth.Token.Issued

namespace HttpAuth

open Time (Instant Span firstSecond lastSecond nanosPerSecond)

namespace Time.Instant

variable {i j : Instant}

/-- Outside of leap seconds the order of instants is that of their places on the line. -/
theorem before_iff (hi : ¬ i.inLeapSecond) (hj : ¬ j.inLeapSecond) :
    i.Before j ↔ i.unixNanos < j.unixNanos := by
  simp only [Before, unixNanos, inLeapSecond, nanosPerSecond] at hi hj ⊢
  omega

/-- A sum is never before the first instant if the span does not lead back. -/
theorem first_le_add (i : Instant) {d : Span} (hd : 0 ≤ d.nanos) :
    firstSecond * nanosPerSecond ≤ i.unixNanos + d.nanos := by
  have hfirst := i.first_le
  simp only [unixNanos, nanosPerSecond]
  omega

end Time.Instant

namespace IssuedToken

variable {t : IssuedToken} {now : Instant} {leeway : Span}

/-- With the leeway added, the moment is an instant before the expiry. -/
theorem isFresh_iff : t.isFresh now leeway = true ↔
    ∃ deadline, now.IsSum leeway deadline ∧ deadline.Before t.expiresAt := by
  simp only [isFresh, ← Instant.add?_eq_some]
  cases now.add? leeway <;> simp

/-- The exact sum is not before the first instant, and it comes before the expiry. -/
theorem isFresh_iff_nanos (hnow : ¬ now.inLeapSecond) (hend : ¬ t.expiresAt.inLeapSecond) :
    t.isFresh now leeway = true ↔ firstSecond * nanosPerSecond ≤ now.unixNanos + leeway.nanos ∧
      now.unixNanos + leeway.nanos < t.expiresAt.unixNanos := by
  rw [isFresh_iff]
  constructor
  · rintro ⟨deadline, hsum, hbefore⟩
    obtain ⟨hregular, hplace⟩ := (Instant.isSum_of_regular hnow).mp hsum
    rw [Instant.before_iff hregular hend, hplace] at hbefore
    exact ⟨hplace ▸ (Instant.inRange_unixNanos hregular).1, hbefore⟩
  · rintro ⟨hfirst, hbefore⟩
    -- What comes before an instant does not come after the last one.
    have hlast := (Instant.inRange_unixNanos hend).2
    obtain ⟨deadline, hdeadline⟩ := Instant.exists_of_inRange ⟨hfirst, Int.lt_trans hbefore hlast⟩
    obtain ⟨hregular, hplace⟩ := Instant.ofUnixNanos?_eq_some.mp hdeadline
    exact ⟨deadline, (Instant.isSum_of_regular hnow).mpr ⟨hregular, hplace⟩,
      (Instant.before_iff hregular hend).mpr (hplace ▸ hbefore)⟩

/-- Unless the leeway leads back behind the first instant, a token is fresh exactly if the sum of the moment and the
leeway, as integers, is less than its end. A leeway that is not negative never leads there, however long it is, so a
token that is fresh with such a leeway was so at every moment before, and is with every shorter leeway. -/
theorem fresh_exact (hnow : ¬ now.inLeapSecond) (hend : ¬ t.expiresAt.inLeapSecond) :
    (firstSecond * nanosPerSecond ≤ now.unixNanos + leeway.nanos →
      (t.isFresh now leeway = true ↔ now.unixNanos + leeway.nanos < t.expiresAt.unixNanos)) ∧
    (0 ≤ leeway.nanos → firstSecond * nanosPerSecond ≤ now.unixNanos + leeway.nanos) ∧
    ∀ (earlier : Instant) (shorter : Span), ¬ earlier.inLeapSecond →
      earlier.unixNanos ≤ now.unixNanos → 0 ≤ shorter.nanos → shorter.nanos ≤ leeway.nanos →
        t.isFresh now leeway = true → t.isFresh earlier shorter = true := by
  refine ⟨?_, now.first_le_add, ?_⟩
  · intro hfirst
    rw [isFresh_iff_nanos hnow hend]
    exact and_iff_right hfirst
  · intro earlier shorter hearlier hle hshorter hspan hfresh
    obtain ⟨-, hbefore⟩ := (isFresh_iff_nanos hnow hend).mp hfresh
    exact (isFresh_iff_nanos hearlier hend).mpr ⟨earlier.first_le_add hshorter, by omega⟩

/-- A nanosecond before the last instant. The longest span of all, of 2^63 - 1 milliseconds, leads behind it. -/
theorem fresh_exact_last :
    let last : Instant := ⟨lastSecond, 999999999, by decide, by decide, by decide⟩
    let now : Instant := ⟨lastSecond, 999999998, by decide, by decide, by decide⟩
    let t : IssuedToken := ⟨"token", last⟩
    let longest : Span := .ofMillis 9223372036854775807
    ¬ now.inLeapSecond ∧ ¬ t.expiresAt.inLeapSecond ∧ t.isFresh now ⟨0⟩ = true ∧
      t.isFresh now ⟨1⟩ = false ∧ t.isFresh now longest = false := by
  intro last now t longest
  have hnow : ¬ now.inLeapSecond := by decide
  have hend : ¬ t.expiresAt.inLeapSecond := by decide
  have hexact : ∀ leeway : Span, 0 ≤ leeway.nanos →
      (t.isFresh now leeway = true ↔ now.unixNanos + leeway.nanos < t.expiresAt.unixNanos) := by
    intro leeway hleeway
    obtain ⟨hiff, hfirst, -⟩ := @fresh_exact t now leeway hnow hend
    exact hiff (hfirst hleeway)
  refine ⟨hnow, hend, (hexact ⟨0⟩ (by decide)).mpr (by decide), ?_, ?_⟩
  · exact Bool.eq_false_iff.mpr fun hfresh => absurd ((hexact ⟨1⟩ (by decide)).mp hfresh) (by decide)
  · exact Bool.eq_false_iff.mpr fun hfresh => absurd ((hexact longest (by decide)).mp hfresh) (by decide)

end IssuedToken

end HttpAuth
