import DroneFirmware.RadioRange

/-!
# Saturation and the sign of a moment

Each motor is cut to 0..100 % by itself.  About one axis, a positive correction raises one pair
of motors and lowers the other, and the two other corrections spread the motors of each pair
apart.  The cut takes from a pair that is spread over an end of the range, so it can weaken a
moment and, with enough spread, reverse it.

* `Axis`: the three axes, each with the pair it raises and the pair it lowers.
* `pairSum_le_iff`: two pairs about one mean throttle, compared after the cut.
* `axis_kept_iff`: which packages keep the sign of a moment.
-/

namespace DroneFirmware

/-! ## Axes -/

/-- The three axes of a correction. -/
inductive Axis where
  | pitch
  | roll
  | yaw
  deriving DecidableEq

/-- The correction about the axis. -/
def Axis.correction (rc : DataPackage) : Axis → ℤ
  | pitch => axisMix rc.yRight
  | roll => axisMix rc.xRight
  | yaw => axisMix rc.xLeft

/-- The corrections about the two other axes. -/
def Axis.others (rc : DataPackage) : Axis → ℤ × ℤ
  | pitch => (axisMix rc.xRight, axisMix rc.xLeft)
  | roll => (axisMix rc.yRight, axisMix rc.xLeft)
  | yaw => (axisMix rc.yRight, axisMix rc.xRight)

/-- The pair of motors that a positive correction raises. -/
def Axis.raised : Axis → Fin numMotors × Fin numMotors
  | pitch => (motorFrontLeft, motorFrontRight)
  | roll => (motorFrontLeft, motorRearLeft)
  | yaw => (motorFrontRight, motorRearLeft)

/-- The pair of motors that a positive correction lowers. -/
def Axis.lowered : Axis → Fin numMotors × Fin numMotors
  | pitch => (motorRearLeft, motorRearRight)
  | roll => (motorFrontRight, motorRearRight)
  | yaw => (motorFrontLeft, motorRearRight)

/-- The sums `m[i]` by the names of the motors. -/
theorem mix_motors (smooth : ℤ) (rc : DataPackage) :
    mix smooth rc motorFrontLeft =
        smooth + axisMix rc.yRight + axisMix rc.xRight - axisMix rc.xLeft ∧
      mix smooth rc motorFrontRight =
        smooth + axisMix rc.yRight - axisMix rc.xRight + axisMix rc.xLeft ∧
      mix smooth rc motorRearLeft =
        smooth - axisMix rc.yRight + axisMix rc.xRight + axisMix rc.xLeft ∧
      mix smooth rc motorRearRight =
        smooth - axisMix rc.yRight - axisMix rc.xRight - axisMix rc.xLeft :=
  ⟨rfl, rfl, rfl, rfl⟩

/-- How far the other corrections spread the raised pair. -/
def Axis.raisedSpread (x : Axis) (rc : DataPackage) : ℤ := |(x.others rc).1 - (x.others rc).2|

/-- How far the other corrections spread the lowered pair. -/
def Axis.loweredSpread (x : Axis) (rc : DataPackage) : ℤ := |(x.others rc).1 + (x.others rc).2|

/-! ## Pairs of motors -/

/-- The percentages of a pair, after the cut. -/
def appliedSum (smooth : ℤ) (rc : DataPackage) (p : Fin numMotors × Fin numMotors) : ℕ :=
  (clampPct (mix smooth rc p.1)).toNat + (clampPct (mix smooth rc p.2)).toNat

/-- Two motors at `mean ± spread`, each cut to 0..100. -/
def pairSum (mean spread : ℤ) : ℤ :=
  max 0 (min (mean + spread) 100) + max 0 (min (mean - spread) 100)

theorem pairSum_abs (mean spread : ℤ) : pairSum mean |spread| = pairSum mean spread := by
  rcases abs_choice spread with h | h
  · rw [h]
  · rw [h, pairSum, pairSum, sub_neg_eq_add, ← sub_eq_add_neg, add_comm]

theorem appliedSum_eq {smooth mean spread : ℤ} {rc : DataPackage}
    {p : Fin numMotors × Fin numMotors} (h1 : mix smooth rc p.1 = mean + spread)
    (h2 : mix smooth rc p.2 = mean - spread) :
    (appliedSum smooth rc p : ℤ) = pairSum mean spread := by
  rw [appliedSum, clampPct_toNat, clampPct_toNat, h1, h2, pairSum]
  omega

theorem Axis.mix_raised (x : Axis) (smooth : ℤ) (rc : DataPackage) :
    mix smooth rc x.raised.1 =
        smooth + x.correction rc + ((x.others rc).1 - (x.others rc).2) ∧
      mix smooth rc x.raised.2 =
        smooth + x.correction rc - ((x.others rc).1 - (x.others rc).2) := by
  obtain ⟨hfl, hfr, hrl, -⟩ := mix_motors smooth rc
  cases x with
  | pitch | roll | yaw =>
    simp only [raised, correction, others, hfl, hfr, hrl]
    constructor <;> ring

theorem Axis.mix_lowered (x : Axis) (smooth : ℤ) (rc : DataPackage) :
    mix smooth rc x.lowered.1 =
        smooth - x.correction rc + ((x.others rc).1 + (x.others rc).2) ∧
      mix smooth rc x.lowered.2 =
        smooth - x.correction rc - ((x.others rc).1 + (x.others rc).2) := by
  obtain ⟨hfl, hfr, hrl, hrr⟩ := mix_motors smooth rc
  cases x with
  | pitch | roll | yaw =>
    simp only [lowered, correction, others, hfl, hfr, hrl, hrr]
    constructor <;> ring

/-- The raised pair stands at `smooth + correction`, spread by the other corrections. -/
theorem Axis.appliedSum_raised (x : Axis) (smooth : ℤ) (rc : DataPackage) :
    (appliedSum smooth rc x.raised : ℤ) =
      pairSum (smooth + x.correction rc) (x.raisedSpread rc) := by
  obtain ⟨h1, h2⟩ := x.mix_raised smooth rc
  rw [raisedSpread, pairSum_abs, appliedSum_eq h1 h2]

/-- The lowered pair stands at `smooth - correction`. -/
theorem Axis.appliedSum_lowered (x : Axis) (smooth : ℤ) (rc : DataPackage) :
    (appliedSum smooth rc x.lowered : ℤ) =
      pairSum (smooth - x.correction rc) (x.loweredSpread rc) := by
  obtain ⟨h1, h2⟩ := x.mix_lowered smooth rc
  rw [loweredSpread, pairSum_abs, appliedSum_eq h1 h2]

/-- An update leaves these percentages in force in the cache: `appliedSum` is about what
`motors_set_from_rc` applies. -/
theorem motorsSetFromRc_lastPct {now : ℤ} {rc : DataPackage} {e : Esc}
    (hrc : rc.droneActive = true) (hlim : 20 ≤ now - e.lastUpdateMs) (pwm : PwmResults)
    (i : Fin numMotors) : (motorsSetFromRc now pwm rc e).lastPct i =
      clampPct (mix (motorsSetFromRc now pwm rc e).throttleSmooth rc i) := by
  rw [motorsSetFromRc_of_mixes hrc hlim, applyMix_eq]

/-! ## Room for a moment -/

/-- A correction `v` keeps its moment against the spreads of the two pairs.  The lowered pair is
within the room above 0, the raised one within the room below 100, or it is spread hardly more
than the other. -/
def RoomFor (smooth v raised lowered : ℤ) : Prop :=
  lowered ≤ max (smooth + 3 * v) (raised + 2 * v) ∧
    raised ≤ max (100 - smooth + 3 * v) (lowered + 2 * v)

instance (smooth v raised lowered : ℤ) : Decidable (RoomFor smooth v raised lowered) :=
  inferInstanceAs (Decidable (_ ∧ _))

/-- **Two pairs after the cut.**  The lowered pair is not above the raised one exactly when there
is room for the moment. -/
theorem pairSum_le_iff {smooth v d e : ℤ} (hs : 0 ≤ smooth ∧ smooth ≤ motorThrottleMax)
    (hv : 0 < v) (hd : 0 ≤ d) (he : 0 ≤ e) (hde : d + e ≤ 40) :
    pairSum (smooth - v) e ≤ pairSum (smooth + v) d ↔ RoomFor smooth v d e := by
  rw [motorThrottleMax] at hs
  rw [pairSum, pairSum, RoomFor]
  omega

/-! ## The sign of a moment -/

/-- The cut does not reverse the moment about the axis. -/
def Axis.Kept (x : Axis) (smooth : ℤ) (rc : DataPackage) : Prop :=
  (0 < x.correction rc → appliedSum smooth rc x.lowered ≤ appliedSum smooth rc x.raised) ∧
    (x.correction rc < 0 → appliedSum smooth rc x.raised ≤ appliedSum smooth rc x.lowered)

/-- There is room for the moment about the axis, whatever its sign. -/
def Axis.HasRoom (x : Axis) (smooth : ℤ) (rc : DataPackage) : Prop :=
  (0 < x.correction rc →
      RoomFor smooth (x.correction rc) (x.raisedSpread rc) (x.loweredSpread rc)) ∧
    (x.correction rc < 0 →
      RoomFor smooth (-x.correction rc) (x.loweredSpread rc) (x.raisedSpread rc))

instance (x : Axis) (smooth : ℤ) (rc : DataPackage) : Decidable (x.Kept smooth rc) :=
  inferInstanceAs (Decidable (_ ∧ _))

instance (x : Axis) (smooth : ℤ) (rc : DataPackage) : Decidable (x.HasRoom smooth rc) :=
  inferInstanceAs (Decidable (_ ∧ _))

/-- Sticks in range have corrections in range. -/
theorem DataPackage.SticksInRange.others_le {rc : DataPackage} (h : rc.SticksInRange) (x : Axis) :
    |(x.others rc).1| ≤ motorMixingMax ∧ |(x.others rc).2| ≤ motorMixingMax := by
  obtain ⟨hroll, hpitch, hyaw⟩ : rc.CorrectionsInRange := by
    have hmax : rcMax = 1023 := rfl
    obtain ⟨hx, hy, hl, -⟩ := h
    rw [correctionsInRange_iff, StickInReach, StickInReach, StickInReach]
    omega
  cases x with
  | pitch => exact ⟨hroll, hyaw⟩
  | roll => exact ⟨hpitch, hyaw⟩
  | yaw => exact ⟨hpitch, hroll⟩

/-- The two spreads share what one correction can give. -/
theorem Axis.spread_add_le {rc : DataPackage} (h : rc.SticksInRange) (x : Axis) :
    x.raisedSpread rc + x.loweredSpread rc ≤ 40 := by
  obtain ⟨h1, h2⟩ := h.others_le x
  rw [motorMixingMax, abs_le] at h1 h2
  rw [raisedSpread, loweredSpread]
  rcases abs_choice ((x.others rc).1 - (x.others rc).2) with hd | hd
  · rcases abs_choice ((x.others rc).1 + (x.others rc).2) with he | he
    · omega
    · omega
  · rcases abs_choice ((x.others rc).1 + (x.others rc).2) with he | he
    · omega
    · omega

/-- **The cut keeps the sign of a moment exactly when there is room for it.** -/
theorem Axis.kept_iff_hasRoom {smooth : ℤ} {rc : DataPackage}
    (hs : 0 ≤ smooth ∧ smooth ≤ motorThrottleMax) (hrc : rc.SticksInRange) (x : Axis) :
    x.Kept smooth rc ↔ x.HasRoom smooth rc := by
  have hd : 0 ≤ x.raisedSpread rc := abs_nonneg _
  have he : 0 ≤ x.loweredSpread rc := abs_nonneg _
  have hde := x.spread_add_le hrc
  refine and_congr (forall_congr' fun hv => ?_) (forall_congr' fun hv => ?_)
  · rw [← Int.ofNat_le, x.appliedSum_lowered, x.appliedSum_raised]
    exact pairSum_le_iff hs hv hd he hde
  · -- a negative correction raises the other pair
    rw [← Int.ofNat_le, x.appliedSum_lowered, x.appliedSum_raised,
      ← pairSum_le_iff hs (neg_pos.mpr hv) he hd (by omega), sub_neg_eq_add, ← sub_eq_add_neg]

/-- Without one of the other corrections both pairs are spread alike, and there is room. -/
theorem Axis.hasRoom_of_other_zero {rc : DataPackage} {x : Axis}
    (h : (x.others rc).1 = 0 ∨ (x.others rc).2 = 0) (smooth : ℤ) : x.HasRoom smooth rc := by
  have hspread : x.raisedSpread rc = x.loweredSpread rc := by
    rw [raisedSpread, loweredSpread]
    rcases h with h | h
    · rw [h, zero_sub, zero_add, abs_neg]
    · rw [h, sub_zero, add_zero]
  rw [HasRoom, RoomFor, RoomFor]
  omega

/-- No motor is cut. -/
def Uncut (smooth : ℤ) (rc : DataPackage) : Prop :=
  ∀ i, 0 ≤ mix smooth rc i ∧ mix smooth rc i ≤ 100

/-- Without a cut the moment is four times the correction. -/
theorem Axis.kept_of_uncut {smooth : ℤ} {rc : DataPackage} (h : Uncut smooth rc) (x : Axis) :
    x.Kept smooth rc := by
  have hpair : ∀ p : Fin numMotors × Fin numMotors,
      (appliedSum smooth rc p : ℤ) = mix smooth rc p.1 + mix smooth rc p.2 := by
    intro p
    have h1 := h p.1
    have h2 := h p.2
    rw [appliedSum, clampPct_toNat, clampPct_toNat]
    omega
  have hraised := hpair x.raised
  have hlowered := hpair x.lowered
  obtain ⟨hr1, hr2⟩ := x.mix_raised smooth rc
  obtain ⟨hl1, hl2⟩ := x.mix_lowered smooth rc
  rw [Kept]
  omega

/-- The law that saturation never reverses an axis. -/
def SaturationKeepsAxes : Prop :=
  ∀ (smooth : ℤ) (rc : DataPackage), 0 ≤ smooth ∧ smooth ≤ motorThrottleMax → rc.SticksInRange →
    ∀ x : Axis, x.Kept smooth rc

/-- **Which moments survive the cut.**  For a ramp and sticks in range the sign of a moment is
kept exactly when there is room for it; so it is when another correction is zero, and when no
motor is cut. -/
theorem axis_kept_iff {smooth : ℤ} {rc : DataPackage}
    (hs : 0 ≤ smooth ∧ smooth ≤ motorThrottleMax) (hrc : rc.SticksInRange) (x : Axis) :
    (x.Kept smooth rc ↔ x.HasRoom smooth rc) ∧
      ((x.others rc).1 = 0 ∨ (x.others rc).2 = 0 → x.Kept smooth rc) ∧
      (Uncut smooth rc → x.Kept smooth rc) :=
  ⟨x.kept_iff_hasRoom hs hrc,
    fun h => (x.kept_iff_hasRoom hs hrc).mpr (Axis.hasRoom_of_other_zero h smooth),
    fun h => Axis.kept_of_uncut h x⟩

/-- Full roll and full yaw, a touch of pitch. -/
def cornerPackage : DataPackage := ⟨1023, 538, 1023, 1, true⟩

theorem axis_kept_iff_cornerPackage :
    (Axis.pitch.Kept 40 cornerPackage ↔ Axis.pitch.HasRoom 40 cornerPackage) ∧
      Axis.pitch.Kept 40 cornerPackage :=
  have h := axis_kept_iff (by decide) (by decide) Axis.pitch
  ⟨h.1, h.1.mpr (by decide)⟩

/-- **With the throttle at zero the cut reverses the pitch** of that package: its correction is
1, the front motors get 2 % in all and the rear ones 39 %. -/
theorem not_saturationKeepsAxes :
    ¬ SaturationKeepsAxes ∧ Axis.pitch.correction cornerPackage = 1 ∧
      appliedSum 0 cornerPackage Axis.pitch.raised = 2 ∧
      appliedSum 0 cornerPackage Axis.pitch.lowered = 39 := by
  refine ⟨fun h => ?_, by decide, by decide, by decide⟩
  have hkept := h 0 cornerPackage (by decide) (by decide) .pitch
  revert hkept
  decide

end DroneFirmware
