import Gatehouse.Proofs.AdmissionBound
import Gatehouse.Surroundings.Counter

/-! Exact numbers as the service reads them. A number of seconds becomes a span of whole nanoseconds,
and what a client is told of it are whole seconds, less than one too few. -/
namespace Gatehouse

open RateLimit

namespace Duration

/-- The span nearest to an exact number of seconds, a half nanosecond going to the even one. Below
zero it is zero; 2^64 seconds and more are out of range. -/
def ofRat? (seconds : ℚ) : Option Duration :=
  if 18446744073709551616 ≤ seconds then none
  else some ⟨Number.roundEven (seconds.num.toNat * 1000000000) seconds.den⟩

theorem nanoseconds_of_ofRat? {seconds : ℚ} {span : Duration} (h : ofRat? seconds = some span) :
    span.nanoseconds = Number.roundEven (seconds.num.toNat * 1000000000) seconds.den := by
  unfold ofRat? at h
  split at h
  · cases h
  · cases h
    rfl

/-- A span is off by half a nanosecond at most. -/
theorem le_of_ofRat? {seconds : ℚ} {span : Duration} (h : ofRat? seconds = some span) :
    2 * (seconds * 1000000000) ≤ 2 * span.nanoseconds + 1 := by
  obtain ⟨hNear, -⟩ :=
    Number.roundEven_near (seconds.num.toNat * 1000000000) seconds.den_pos
  rw [← nanoseconds_of_ofRat? h] at hNear
  have hDen : (0 : ℚ) < seconds.den := by exact_mod_cast seconds.den_pos
  have hNum : (seconds.num : ℚ) ≤ (seconds.num.toNat : ℚ) := by
    exact_mod_cast Int.self_le_toNat seconds.num
  have hCast : 2 * ((seconds.num.toNat : ℚ) * 1000000000) ≤
      seconds.den * (2 * span.nanoseconds + 1) := by exact_mod_cast hNear
  calc 2 * (seconds * 1000000000)
      = 2 * (seconds.num * 1000000000) / seconds.den := by
        rw [← mul_div_assoc', ← div_mul_eq_mul_div, Rat.num_div_den]
    _ ≤ 2 * span.nanoseconds + 1 := by
        rw [div_le_iff₀ hDen]
        linarith

/-- Whole seconds, with one more, are enough. -/
theorem lt_secondsAtLeastOne {seconds : ℚ} {span : Duration} (h : ofRat? seconds = some span) :
    seconds < span.secondsAtLeastOne + 1 := by
  have hNear := le_of_ofRat? h
  have hWhole : span.nanoseconds + 1 ≤ (span.secondsAtLeastOne + 1) * 1000000000 := by
    have hSeconds : span.seconds ≤ span.secondsAtLeastOne := Nat.le_max_left ..
    have hCut : span.nanoseconds < (span.seconds + 1) * 1000000000 := by
      unfold Duration.seconds
      omega
    omega
  have hCast : (span.nanoseconds : ℚ) + 1 ≤ (span.secondsAtLeastOne + 1) * 1000000000 := by
    exact_mod_cast hWhole
  linarith

end Duration

namespace Surroundings

/-- Counting in exact numbers. -/
def Reckoning.exact : Reckoning ℚ where
  quota := Limit.exactQuota
  read verdict :=
    match Duration.ofRat? verdict.resetAfter with
    | none => .error (.invalidReply (toString verdict.resetAfter))
    | some resetAfter =>
      match Duration.ofRat? verdict.retryAfter with
      | none => .error (.invalidReply (toString verdict.retryAfter))
      | some retryAfter =>
        .ok ⟨verdict.allowed, Store.Reply.clampRemaining verdict.remaining, resetAfter, retryAfter⟩

theorem read_exact {verdict : Gcra.Verdict ℚ} {decision : Decision}
    (h : Reckoning.exact.read verdict = .ok decision) :
    decision.allowed = verdict.allowed ∧
      Duration.ofRat? verdict.retryAfter = some decision.retryAfter := by
  unfold Reckoning.exact at h
  dsimp only at h
  split at h
  · cases h
  · split at h
    · cases h
    · next hRetry =>
      cases h
      exact ⟨rfl, hRetry⟩

end Surroundings

end Gatehouse
