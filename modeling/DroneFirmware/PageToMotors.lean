import DroneFirmware.CutPoll
import DroneFirmware.HeldSticks
import DroneFirmware.Onlooker

/-!
# From the page to the motors

The whole path of a command: the sliders of the page, the body of its poll, the integers that
`handle_rc` finds in it, the package and its scale, the staleness test, the state machine, the
rate limit, the ramp, the mixer, the clamp, the write cache and the pulse.  Each step has its
theorem; here they meet, for a pilot who leaves the sliders where they are.

* `Page.asked`: what the four sliders ask of a motor.
* `abs_share_sub_asked_le`: the mixer's share is that to within four points.
* `Polled`: a pass on which the page is in command.
* `page_reaches_motors`: the pulses in force.
-/

namespace DroneFirmware

open Reactive

/-! ## What the sliders ask -/

/-- Five times the percentage that the sliders ask of each motor: the throttle in fourths of
itself, and a fifth of each axis. -/
def Page.asked (p : Page) : Fin numMotors → ℤ :=
  ![4 * p.thr.value + p.spit.value + p.srol.value - p.syaw.value,
    4 * p.thr.value + p.spit.value - p.srol.value + p.syaw.value,
    4 * p.thr.value - p.spit.value + p.srol.value + p.syaw.value,
    4 * p.thr.value - p.spit.value - p.srol.value - p.syaw.value]

/-- The percentage that the mixer makes of the page's package at the end of the ramp. -/
def Page.share (p : Page) (i : Fin numMotors) : ℤ :=
  mix (throttleTarget (packageOfBody p.body)) (packageOfBody p.body) i

/-- The target of a throttle slider. -/
theorem throttleTarget_of_slider {rc : DataPackage} {v : ℤ} (hrc : rc.yLeft.toInt = exactThrottle v)
    (hlo : 0 ≤ v) (hhi : v ≤ 100) : 4 * v - 5 ≤ 5 * throttleTarget rc ∧
      5 * throttleTarget rc ≤ 4 * v := by
  have hmax : rcMax = 1023 := rfl
  have hscale : exactThrottle v = v * 1023 / 100 := by
    rw [exactThrottle, rcClamp, hmax, Int.tdiv_eq_ediv_of_nonneg (by omega)]
    omega
  rw [throttleTarget, hrc, hscale, motorThrottleMax, hmax, Int.tdiv_eq_ediv_of_nonneg (by omega)]
  omega

/-- The correction of an attitude slider. -/
theorem axisMix_of_slider {stick : Int16} {v : ℤ} (hstick : stick.toInt = exactStick v)
    (hlo : -100 ≤ v) (hhi : v ≤ 100) : v - 5 ≤ 5 * axisMix stick ∧ 5 * axisMix stick ≤ v + 5 := by
  have hhalf : rcMax.tdiv 2 = 511 := by decide
  have hmax : rcMax = 1023 := rfl
  have hcenter : rcCenter = 512 := rfl
  rw [axisMix, hstick, hhalf, exactStick, rcClamp, hmax, hcenter, motorMixingMax]
  rcases le_total 0 v with hv | hv
  · rw [Int.tdiv_eq_ediv_of_nonneg (by omega : 0 ≤ v * 512),
      Int.tdiv_eq_ediv_of_nonneg (by omega)]
    omega
  · rw [tdiv_of_nonpos (by omega : v * 512 ≤ 0), tdiv_of_nonpos (by omega)]
    omega

/-- **The share is what is asked**, to within four points of the percentage. -/
theorem abs_share_sub_asked_le (p : Page) (i : Fin numMotors) :
    |5 * p.share i - p.asked i| ≤ 20 := by
  have h := p.commandOf_body
  have hthr := throttleTarget_of_slider h.yLeft p.thr.lo_le p.thr.le_hi
  have hpit := axisMix_of_slider h.yRight p.spit.lo_le p.spit.le_hi
  have hrol := axisMix_of_slider h.xRight p.srol.lo_le p.srol.le_hi
  have hyaw := axisMix_of_slider h.xLeft p.syaw.lo_le p.syaw.le_hi
  rw [abs_le]
  fin_cases i <;> simp [Page.share, Page.asked, mix] <;> omega

/-! ## The page in command -/

/-- A pass on which every request served is the page's poll, the last one is not stale, and the
drivers work. -/
structure Polled (p : Page) (s : Firmware) (t : Tick) : Prop where
  own : ∀ q ∈ t.posts, q.body = p.body
  fresh : t.tWeb - (servePosts t.posts s.web).rcLastMs ≤ rcStaleMs
  i2c : t.i2c = .ok
  pwm : t.PwmOk

instance (p : Page) (s : Firmware) (t : Tick) : Decidable (Polled p s t) :=
  decidable_of_iff ((∀ q ∈ t.posts, q.body = p.body) ∧
    t.tWeb - (servePosts t.posts s.web).rcLastMs ≤ rcStaleMs ∧ t.i2c = .ok ∧ t.PwmOk)
    ⟨fun h => ⟨h.1, h.2.1, h.2.2.1, h.2.2.2⟩, fun h => ⟨h.1, h.2, h.3, h.4⟩⟩

/-- Polls of one page leave its package. -/
theorem servePosts_of_own {p : Page} {posts : List Post} (h : ∀ q ∈ posts, q.body = p.body)
    {w : Web} (hw : w.wifiRc = packageOfBody p.body) :
    (servePosts posts w).wifiRc = packageOfBody p.body := by
  rcases List.eq_nil_or_concat posts with rfl | ⟨posts, q, rfl⟩
  · exact hw
  · rw [List.concat_eq_append] at h ⊢
    rw [servePosts_concat, handleRc, h q (by simp)]

/-- The page is in command on such a pass. -/
theorem Polled.held {p : Page} (hactive : p.active = true) {s : Firmware} {t : Tick}
    (h : Polled p s t) (hw : s.web.wifiRc = packageOfBody p.body) :
    Held (packageOfBody p.body) s t := by
  have hstored := servePosts_of_own h.own hw
  have hfresh := h.fresh
  have hgot : droneWebserverGetRc t.tWeb (servePosts t.posts s.web) = packageOfBody p.body := by
    rw [droneWebserverGetRc, if_neg (by omega), hstored]
  refine ⟨?_, h.i2c, h.pwm⟩
  simp only [Firmware.packet, arbitrate, hgot, p.commandOf_body.droneActive, hactive, if_true]

/-- **The page reaches the motors.**  After the pass `a` the drone is in FLYING under an armed
page whose throttle is up, and the sliders stay where they are.  As long as its polls come in and
none gets stale, 20 ms and a gap for each update that the ramp needs are enough: then every motor
whose cache was coherent has the pulse of the percentage that the sliders ask of it, to within
four points, and keeps it. -/
theorem page_reaches_motors (env : BootEnv) (δ : ℤ) (history : List Tick) (a : Tick)
    (ts : List Tick) (t : Tick) (p : Page) (hactive : p.active = true) (hthr : 0 < p.thr.value)
    (hpaced : Paced δ (history ++ a :: ts ++ [t])) (ha : 0 ≤ a.tNow)
    (hfly : (reached env (history ++ [a])).fsm.currentState = .flying)
    (hpage : (reached env (history ++ [a])).web.wifiRc = packageOfBody p.body)
    (hpolled : Along iterate (Polled p) (reached env (history ++ [a])) (ts ++ [t]))
    (hlate : a.tNow + max 1 (updatesLeft (throttleTarget (packageOfBody p.body))
      (reached env (history ++ [a])).esc.throttleSmooth) * (20 + δ) < t.tNow)
    (i : Fin numMotors) (hcoherent : (reached env (history ++ [a])).esc.CoherentAt i) :
    ∃ percent : ℤ, |5 * percent - p.asked i| ≤ 20 ∧
      ((reached env (history ++ a :: ts ++ [t])).esc.pulseNs i : ℤ) =
        (1000 + 10 * max 0 (min percent 100)) * 1000 := by
  have hcommand := p.commandOf_body
  have hrc : (packageOfBody p.body).droneActive = true := hcommand.droneActive.trans hactive
  have hy : 0 < (packageOfBody p.body).yLeft.toInt := by
    have hmax : rcMax = 1023 := rfl
    rw [hcommand.yLeft, exactThrottle, rcClamp, hmax, Int.tdiv_eq_ediv_of_nonneg (by omega)]
    omega
  have hheld : Along iterate (Held (packageOfBody p.body)) (reached env (history ++ [a]))
      (ts ++ [t]) := by
    have hboth := along_congr_of (P := Polled p)
      (Q := fun s u => Polled p s u ∧ Held (packageOfBody p.body) s u)
      (fun s => s.web.wifiRc = packageOfBody p.body)
      (fun s u hw => ⟨fun h => ⟨h, h.held hactive hw⟩, fun h => h.1⟩)
      (fun s u hw h => by rw [iterate_web]; exact servePosts_of_own h.own hw) hpage (ts ++ [t])
    exact (hboth.mp hpolled).mono fun s u h => h.2
  have harrived := arrived_of_held env δ history a ts t _ hrc hy hpaced ha hfly hheld hlate i
    hcoherent
  refine ⟨p.share i, abs_share_sub_asked_le p i, ?_⟩
  rw [harrived.coherent, harrived.cached, pulseOf_clampPct, Page.share]

/-- The page with the throttle at 45 and a little pitch, armed. -/
def Page.climbing : Page where
  thr := ⟨45, by norm_num, by norm_num⟩
  syaw := Page.loaded.syaw
  spit := ⟨12, by norm_num, by norm_num⟩
  srol := Page.loaded.srol
  active := true

/-- A poll of that page, stored at `now`. -/
def climbingPost (now : ℤ) : Post := ⟨1, now, Page.climbing.body⟩

/-- Arm and take off from the page. -/
def climbingFlight : List Tick :=
  [.serving 5004 [pagePost 1 5000 "0" "1"], .serving 5504 [pagePost 1 5500 "0" "1"]]

/-- Passes half a second apart, each with a poll before it. -/
def climbingPasses : List Tick :=
  (List.range 18).map fun k => .serving (6008 + 500 * k) [climbingPost (6000 + 500 * k)]

theorem page_reaches_motors_climbingPasses :
    ∃ percent : ℤ, |5 * percent - Page.climbing.asked 0| ≤ 20 ∧
      ((reached .calm (climbingFlight ++ .serving 5508 [climbingPost 5506] :: climbingPasses ++
        [.serving 15008 [climbingPost 15000]])).esc.pulseNs 0 : ℤ) =
        (1000 + 10 * max 0 (min percent 100)) * 1000 :=
  page_reaches_motors .calm 500 climbingFlight (.serving 5508 [climbingPost 5506]) climbingPasses
    (.serving 15008 [climbingPost 15000]) .climbing rfl (by decide) (by decide +kernel) (by decide)
    (by decide +kernel) (by decide +kernel) (by decide +kernel) (by decide +kernel) 0
    (by decide +kernel)

end DroneFirmware
