import Gatehouse.Settings.Validation
import Mathlib.Tactic.Lemma

/-!
# What the checks of settings ensure

The checks stop at the first fault. Settings without one therefore have passed every check, and that is all
that is known about them.
-/

namespace Gatehouse.Proofs

/-- What holds of settings that have passed all checks. -/
structure Checked (s : Settings) : Prop where
  lasting : s.session.ttlSecs ≠ 0
  capped : s.session.maxAgeSecs = 0 ∨ s.session.ttlSecs ≤ s.session.maxAgeSecs
  prompt : s.session.refreshBeforeSecs < s.session.ttlSecs
  random : 32 ≤ s.session.idBytes ∧ 32 ≤ s.session.csrfBytes
  named : Text.isBlankText s.cookie.name = false
  guarded : s.cookie.sameSite = .none → s.cookie.secure = true
  limited : s.loginRateLimit.enabled = true → s.loginRateLimit.limit ≠ 0 ∧ s.loginRateLimit.windowSecs ≠ 0

/-- A chain of checks without a fault has passed the first, and has no fault in the rest. -/
lemma passed_of_none {c : Prop} [Decidable c] {e : SettingsError} {rest : Option SettingsError}
    (h : (if c then some e else rest) = none) : ¬ c ∧ rest = none := by
  split at h
  · cases h
  · rename_i hc
    exact ⟨hc, h⟩

lemma checked_of_validate {s : Settings} (h : s.validate = .ok ()) : Checked s := by
  have hfault : s.fault? = none := by
    unfold Settings.validate at h
    cases hf : s.fault? with
    | none => rfl
    | some e =>
      rw [hf] at h
      cases h
  unfold Settings.fault? at hfault
  obtain ⟨hlasting, hfault⟩ := passed_of_none hfault
  obtain ⟨hcapped, hfault⟩ := passed_of_none hfault
  obtain ⟨hprompt, hfault⟩ := passed_of_none hfault
  obtain ⟨hrandom, hfault⟩ := passed_of_none hfault
  obtain ⟨hnamed, hfault⟩ := passed_of_none hfault
  obtain ⟨hguarded, hfault⟩ := passed_of_none hfault
  obtain ⟨hlimited, _⟩ := passed_of_none hfault
  refine ⟨hlasting, ?_, ?_, ?_, Bool.eq_false_iff.2 hnamed, ?_, ?_⟩
  · rw [UInt64.lt_iff_toNat_lt, UInt64.lt_iff_toNat_lt] at hcapped
    rw [← UInt64.toNat_inj, UInt64.le_iff_toNat_le]
    have hzero : (0 : UInt64).toNat = 0 := rfl
    omega
  · rw [UInt64.le_iff_toNat_le] at hprompt
    rw [UInt64.lt_iff_toNat_lt]
    omega
  · simp only [UInt64.lt_iff_toNat_lt, not_or] at hrandom
    simp only [UInt64.le_iff_toNat_le]
    omega
  · intro hnone
    cases hsecure : s.cookie.secure with
    | true => rfl
    | false => exact absurd ⟨hnone, hsecure⟩ hguarded
  · intro henabled
    rw [not_and, not_or] at hlimited
    exact hlimited henabled

lemma validate_of_checked {s : Settings} (h : Checked s) (hredis : s.redis = none) : s.validate = .ok () := by
  have hcapped : ¬ (0 < s.session.maxAgeSecs ∧ s.session.maxAgeSecs < s.session.ttlSecs) := by
    rintro ⟨hpos, hlt⟩
    rcases h.capped with hzero | hle
    · rw [hzero] at hpos
      exact absurd hpos (by decide)
    · exact absurd hlt (UInt64.not_lt.2 hle)
  have hrandom : ¬ (s.session.idBytes < 32 ∨ s.session.csrfBytes < 32) :=
    not_or.2 ⟨UInt64.not_lt.2 h.random.1, UInt64.not_lt.2 h.random.2⟩
  have hguarded : ¬ (s.cookie.sameSite = .none ∧ s.cookie.secure = false) := by
    rintro ⟨hnone, hsecure⟩
    rw [h.guarded hnone] at hsecure
    cases hsecure
  have hlimited :
      ¬ (s.loginRateLimit.enabled = true ∧
        (s.loginRateLimit.limit = 0 ∨ s.loginRateLimit.windowSecs = 0)) := by
    rintro ⟨henabled, hzero⟩
    exact hzero.elim (h.limited henabled).1 (h.limited henabled).2
  have hfault : s.fault? = none := by
    unfold Settings.fault?
    dsimp only
    rw [if_neg h.lasting, if_neg hcapped, if_neg (UInt64.not_le.2 h.prompt), if_neg hrandom,
      if_neg (by simp [h.named]), if_neg hguarded, if_neg hlimited, hredis]
    rfl
  unfold Settings.validate
  rw [hfault]

end Gatehouse.Proofs
