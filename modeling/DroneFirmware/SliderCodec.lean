import DroneFirmware.CText.FlatJson
import DroneFirmware.Connection
import DroneFirmware.MotorMixing

/-!
# From the sliders of the page to the sticks

The control page posts its sliders as a flat JSON object of the members `t`, `y`, `p`, `r` and
`a`; `jget_int` looks for `"key":` and calls `atoi`, and `handle_rc` scales what it finds to
the range of the sticks in 32-bit arithmetic and clamps it.

* `jgetInt_of_member`: a search finds the member of its key and returns its value.
* `page_codec`: the page's encoder and the server's decoder agree.
* `slider_mapping_iff`: the scaling is that of exact integers exactly for sliders whose
  product fits an `int`.
-/

namespace DroneFirmware

open CText

/-! ## The scale of the sticks -/

/-- A value cut to the range of the sticks. -/
def rcClamp (v : ℤ) : ℤ := max 0 (min v rcMax)

/-- The throttle slider on the scale of the sticks, in exact integers. -/
def exactThrottle (t : ℤ) : ℤ := rcClamp ((t * rcMax).tdiv 100)

/-- An attitude slider on the scale of the sticks, in exact integers. -/
def exactStick (v : ℤ) : ℤ := rcClamp (rcCenter + (v * rcCenter).tdiv 100)

theorem clamp16_toInt (v : ℤ) : (clamp16 v 0 rcMax).toInt = rcClamp v := by
  have hmax : rcMax = 1023 := rfl
  rw [clamp16, rcClamp, hmax]
  split_ifs with hlo hhi
  · rw [Int16.toInt_ofInt_of_le (by omega) (by omega)]
    omega
  · rw [Int16.toInt_ofInt_of_le (by omega) (by omega)]
    omega
  · rw [Int16.toInt_ofInt_of_le (by omega) (by omega)]
    omega

theorem wrap32_of_fits {v : ℤ} (h : FitsInt v) : wrap32 v = v := by
  rw [FitsInt, intMin, intMax] at h
  rw [wrap32]
  exact Int.bmod_eq_of_le (by omega) (by omega)

/-- The offset of a stick from the centre is small against an `int`. -/
theorem fits_center_add {v : ℤ} (h : FitsInt (v * rcCenter)) :
    FitsInt (rcCenter + (v * rcCenter).tdiv 100) := by
  rw [FitsInt, intMin, intMax] at h ⊢
  have hcenter : rcCenter = 512 := rfl
  rcases le_total 0 (v * rcCenter) with h0 | h0
  · rw [Int.tdiv_eq_ediv_of_nonneg h0]
    omega
  · rw [tdiv_of_nonpos h0]
    omega

theorem sliderThrottle_toInt {t : ℤ} (h : FitsInt (t * rcMax)) :
    (sliderThrottle t).toInt = exactThrottle t := by
  rw [sliderThrottle, wrap32_of_fits h, clamp16_toInt, exactThrottle]

theorem sliderStick_toInt {v : ℤ} (h : FitsInt (v * rcCenter)) :
    (sliderStick v).toInt = exactStick v := by
  rw [sliderStick, wrap32_of_fits h, wrap32_of_fits (fits_center_add h), clamp16_toInt, exactStick]

/-! ## Reading a member -/

/-- **`jget_int` returns the value of the member**, in any object, if the pattern fits its
buffer of fifteen bytes. -/
theorem jgetInt_of_member (o : FlatObject) {m : Member} (hm : m ∈ o.members)
    (hcolon : m.key.head? ≠ some 0x3A) (hlen : m.key.length ≤ 12) (hv : FitsInt m.value) :
    jgetInt o.text m.key = m.value := by
  have hpattern : (ascii "\"" ++ m.key ++ ascii "\":").take 15 = keyPattern m.key := by
    have hquote : ascii "\"" = [0x22] := rfl
    have hclose : ascii "\":" = [0x22, 0x3A] := rfl
    rw [hquote, hclose, keyPattern, List.take_of_length_le]
    · simp
    · simp
      omega
  obtain ⟨later, hfound⟩ := strstr_keyPattern o hm hcolon
  rw [jgetInt, hpattern, hfound]
  have hdrop : (m.text ++ moreText later).drop (keyPattern m.key).length =
      List.replicate m.spaces 0x20 ++ (intText m.value ++ moreText later) := by
    have hsplit : m.text ++ moreText later = keyPattern m.key ++
        (List.replicate m.spaces 0x20 ++ (intText m.value ++ moreText later)) := by
      simp [Member.text, keyPattern]
    rw [hsplit, List.drop_left]
  have hspaces : (List.replicate m.spaces 0x20 ++ (intText m.value ++ moreText later)).dropWhile
      (· == 0x20) = intText m.value ++ moreText later := by
    rw [List.dropWhile_append_of_pos (by simp)]
    cases hhead : intText m.value with
    | nil => cases later <;> rfl
    | cons b digits =>
      have hb := (ne_of_mem_intText (show b ∈ intText m.value by rw [hhead]; simp)).1
      rw [List.cons_append, List.dropWhile_cons_of_neg (by simp [hb])]
  show atoi (((m.text ++ moreText later).drop (keyPattern m.key).length).dropWhile (· == 0x20)) = _
  rw [hdrop, hspaces, atoi_intText_append hv (numberEnds_moreText later)]

/-! ## The page and the server -/

/-- The object has a member of the given name and value. -/
def Carries (o : FlatObject) (name : String) (v : ℤ) : Prop :=
  ∃ m ∈ o.members, m.key = ascii name ∧ m.value = v

/-- A value that a slider may carry: an `int`, and so is its product with `RC_MAX`. -/
def SliderValue (v : ℤ) : Prop := FitsInt v ∧ FitsInt (v * rcMax)

instance (v : ℤ) : Decidable (SliderValue v) := inferInstanceAs (Decidable (_ ∧ _))

/-- The object is one that the page posts: it has the five members, in any order, and possibly
others. -/
structure PageBody (o : FlatObject) (t y p r a : ℤ) : Prop where
  throttle : Carries o "t" t ∧ SliderValue t
  yaw : Carries o "y" y ∧ SliderValue y
  pitch : Carries o "p" p ∧ SliderValue p
  roll : Carries o "r" r ∧ SliderValue r
  active : Carries o "a" a ∧ SliderValue a

/-- The body is the whole body of the stream's `POST /rc`, and it fits the buffer. -/
structure DeliveredBy (stream : List UInt8) (k : ℕ) (body : List UInt8) : Prop where
  headEnd : HeadEnd stream k
  postRc : PostRc (stream.take k)
  announced : bodyLength (stream.take k) = body.length
  fits : k + body.length ≤ reqBufSize - 1
  arrives : body <+: stream.drop k

/-- What the server makes of the five values. -/
structure Decoded (t y p r a : ℤ) (body : List UInt8) : Prop where
  throttle : jgetInt body (ascii "t") = t
  yaw : jgetInt body (ascii "y") = y
  pitch : jgetInt body (ascii "p") = p
  roll : jgetInt body (ascii "r") = r
  active : jgetInt body (ascii "a") = a
  yLeft : (packageOfBody body).yLeft.toInt = exactThrottle t
  xLeft : (packageOfBody body).xLeft.toInt = exactStick y
  yRight : (packageOfBody body).yRight.toInt = exactStick p
  xRight : (packageOfBody body).xRight.toInt = exactStick r
  droneActive : (packageOfBody body).droneActive = decide (a ≠ 0)
  /-- Delivered complete within the buffer, the body is stored as this package. -/
  stored : ∀ (stream : List UInt8) (k : ℕ), DeliveredBy stream k body →
    ∀ (now : ℤ) (buf : ReqBuf) (web : Web),
      (handleClient now stream buf web).web = ⟨packageOfBody body, now⟩

/-- The object `poll` writes: its members stand in this order, without spaces. -/
def pollObject (t y p r a : ℤ) : FlatObject where
  members := [
    ⟨ascii "t", by decide, by decide, 0, t⟩,
    ⟨ascii "y", by decide, by decide, 0, y⟩,
    ⟨ascii "p", by decide, by decide, 0, p⟩,
    ⟨ascii "r", by decide, by decide, 0, r⟩,
    ⟨ascii "a", by decide, by decide, 0, a⟩]
  nodup := by
    simp only [List.map_cons, List.map_nil]
    decide

theorem jgetInt_of_carries {o : FlatObject} {name : String} {v : ℤ} (h : Carries o name v)
    (hcolon : (ascii name).head? ≠ some 0x3A) (hlen : (ascii name).length ≤ 12) (hv : FitsInt v) :
    jgetInt o.text (ascii name) = v := by
  obtain ⟨m, hm, hkey, rfl⟩ := h
  rw [← hkey] at hcolon hlen ⊢
  exact jgetInt_of_member o hm hcolon hlen hv

/-- The factor of the sticks is smaller than that of the throttle. -/
theorem SliderValue.fits_center {v : ℤ} (h : SliderValue v) : FitsInt (v * rcCenter) := by
  obtain ⟨-, h⟩ := h
  have hmax : rcMax = 1023 := rfl
  have hcenter : rcCenter = 512 := rfl
  rw [FitsInt, intMin, intMax, hmax] at h
  rw [FitsInt, intMin, intMax, hcenter]
  omega

/-- A body without NULs that is delivered complete is what `handle_rc` parses. -/
theorem handleClient_web_of_delivered {stream body : List UInt8} {k : ℕ}
    (h : DeliveredBy stream k body) (hnul : 0 ∉ body) (now : ℤ) (buf : ReqBuf) (web : Web) :
    (handleClient now stream buf web).web = handleRc now body := by
  have hle := h.arrives.length_le
  rw [List.length_drop] at hle
  have hn : bodyReceived stream k = body.length := by
    rw [bodyReceived, h.announced]
    have := h.fits
    omega
  have hbody : (stream.drop k).take (bodyReceived stream k) = body := by
    rw [hn]
    exact List.prefix_iff_eq_take.mp h.arrives |>.symm
  have htext : text body = body :=
    List.takeWhile_eq_self_iff.mpr fun b hb => by
      rw [bne_iff_ne]
      rintro rfl
      exact hnul hb
  have houtcome := handleClient_outcome_of_postRc h.headEnd
    ((Nat.le_add_right _ _).trans h.fits) h.postRc now buf web
  rw [hbody, htext] at houtcome
  exact congrArg Outcome.web houtcome

/-- **The page's encoder and the server's decoder agree.**  Whatever the order of the members,
the spaces after their colons and the other members between them, every slider is read as it
was written, and no channel takes another member's value. -/
theorem page_codec (o : FlatObject) (t y p r a : ℤ) (h : PageBody o t y p r a) :
    Decoded t y p r a o.text := by
  have ht := jgetInt_of_carries h.throttle.1 (by decide) (by decide) h.throttle.2.1
  have hy := jgetInt_of_carries h.yaw.1 (by decide) (by decide) h.yaw.2.1
  have hp := jgetInt_of_carries h.pitch.1 (by decide) (by decide) h.pitch.2.1
  have hr := jgetInt_of_carries h.roll.1 (by decide) (by decide) h.roll.2.1
  have ha := jgetInt_of_carries h.active.1 (by decide) (by decide) h.active.2.1
  refine ⟨ht, hy, hp, hr, ha, ?_, ?_, ?_, ?_, ?_, fun stream k hs now buf web => ?_⟩
  · show (sliderThrottle _).toInt = _
    rw [ht, sliderThrottle_toInt h.throttle.2.2]
  · show (sliderStick _).toInt = _
    rw [hy, sliderStick_toInt h.yaw.2.fits_center]
  · show (sliderStick _).toInt = _
    rw [hp, sliderStick_toInt h.pitch.2.fits_center]
  · show (sliderStick _).toInt = _
    rw [hr, sliderStick_toInt h.roll.2.fits_center]
  · show (jgetInt _ _ != 0) = _
    rw [ha]
    rcases eq_or_ne a 0 with rfl | hne
    · rfl
    · rw [bne_iff_ne.mpr hne, decide_eq_true hne]
  · rw [handleClient_web_of_delivered hs o.text_noNul now buf web, handleRc]

/-- What `poll` writes is one of these objects. -/
theorem pollObject_pageBody {t y p r a : ℤ} (ht : SliderValue t) (hy : SliderValue y)
    (hp : SliderValue p) (hr : SliderValue r) (ha : SliderValue a) :
    PageBody (pollObject t y p r a) t y p r a where
  throttle := ⟨⟨_, .head _, rfl, rfl⟩, ht⟩
  yaw := ⟨⟨_, .tail _ (.head _), rfl, rfl⟩, hy⟩
  pitch := ⟨⟨_, .tail _ (.tail _ (.head _)), rfl, rfl⟩, hp⟩
  roll := ⟨⟨_, .tail _ (.tail _ (.tail _ (.head _))), rfl, rfl⟩, hr⟩
  active := ⟨⟨_, .tail _ (.tail _ (.tail _ (.tail _ (.head _)))), rfl, rfl⟩, ha⟩

/-- Such a poll, behind the head of its request. -/
def polledStream : List UInt8 :=
  ascii "POST /rc HTTP/1.1\r\nContent-Length: 35\r\n\r\n" ++ (pollObject 50 (-100) 0 7 1).text

theorem deliveredBy_polledStream :
    DeliveredBy polledStream 41 (pollObject 50 (-100) 0 7 1).text where
  headEnd := ⟨by unfold BlankLineAt; decide +kernel, by unfold BlankLineAt; decide +kernel⟩
  postRc := by decide +kernel
  announced := by decide +kernel
  fits := by decide +kernel
  arrives := by decide +kernel

theorem page_codec_poll :
    Decoded 50 (-100) 0 7 1 (pollObject 50 (-100) 0 7 1).text ∧
      (handleClient 6000 polledStream .zero .reset).web =
        ⟨packageOfBody (pollObject 50 (-100) 0 7 1).text, 6000⟩ := by
  have hdecoded := page_codec _ _ _ _ _ _ (pollObject_pageBody (t := 50) (y := -100) (p := 0)
    (r := 7) (a := 1) (by decide) (by decide) (by decide) (by decide) (by decide))
  exact ⟨hdecoded, hdecoded.stored _ _ deliveredBy_polledStream 6000 .zero .reset⟩

example : (pollObject 50 (-100) 0 7 1).text =
    ascii "\x7b\"t\":50,\"y\":-100,\"p\":0,\"r\":7,\"a\":1\x7d" := by decide

/-! ## Sliders that overflow -/

/-- No operation of `handle_rc` on the sliders leaves the range of an `int`. -/
structure NoOverflow (body : List UInt8) : Prop where
  throttle : FitsInt (jgetInt body (ascii "t") * rcMax)
  yaw : FitsInt (jgetInt body (ascii "y") * rcCenter) ∧
    FitsInt (rcCenter + (jgetInt body (ascii "y") * rcCenter).tdiv 100)
  pitch : FitsInt (jgetInt body (ascii "p") * rcCenter) ∧
    FitsInt (rcCenter + (jgetInt body (ascii "p") * rcCenter).tdiv 100)
  roll : FitsInt (jgetInt body (ascii "r") * rcCenter) ∧
    FitsInt (rcCenter + (jgetInt body (ascii "r") * rcCenter).tdiv 100)

/-- **The sliders are mapped as exact integers are**, and nothing overflows on the way. -/
structure MapsExactly (body : List UInt8) : Prop extends NoOverflow body where
  yLeft : (packageOfBody body).yLeft.toInt = exactThrottle (jgetInt body (ascii "t"))
  xLeft : (packageOfBody body).xLeft.toInt = exactStick (jgetInt body (ascii "y"))
  yRight : (packageOfBody body).yRight.toInt = exactStick (jgetInt body (ascii "p"))
  xRight : (packageOfBody body).xRight.toInt = exactStick (jgetInt body (ascii "r"))

/-- The largest throttle whose product with `RC_MAX` is an `int`. -/
def throttleFit : ℤ := 2099202

/-- The least attitude whose product with `RC_CENTER` is an `int`; the largest is one less than
its opposite. -/
def stickFit : ℤ := -4194304

/-- The sliders are of a size that the products are `int`s. -/
structure SlidersFit (body : List UInt8) : Prop where
  throttle : |jgetInt body (ascii "t")| ≤ throttleFit
  yaw : stickFit ≤ jgetInt body (ascii "y") ∧ jgetInt body (ascii "y") < -stickFit
  pitch : stickFit ≤ jgetInt body (ascii "p") ∧ jgetInt body (ascii "p") < -stickFit
  roll : stickFit ≤ jgetInt body (ascii "r") ∧ jgetInt body (ascii "r") < -stickFit

theorem fits_throttle_iff (t : ℤ) : FitsInt (t * rcMax) ↔ |t| ≤ throttleFit := by
  have hmax : rcMax = 1023 := rfl
  rw [FitsInt, intMin, intMax, hmax, throttleFit, abs_le]
  omega

theorem fits_stick_iff (v : ℤ) : FitsInt (v * rcCenter) ↔ stickFit ≤ v ∧ v < -stickFit := by
  have hcenter : rcCenter = 512 := rfl
  rw [FitsInt, intMin, intMax, hcenter, stickFit]
  omega

theorem SlidersFit.noOverflow {body : List UInt8} (h : SlidersFit body) : NoOverflow body := by
  have hy := (fits_stick_iff _).mpr h.yaw
  have hp := (fits_stick_iff _).mpr h.pitch
  have hr := (fits_stick_iff _).mpr h.roll
  exact ⟨(fits_throttle_iff _).mpr h.throttle, ⟨hy, fits_center_add hy⟩,
    ⟨hp, fits_center_add hp⟩, ⟨hr, fits_center_add hr⟩⟩

theorem NoOverflow.mapsExactly {body : List UInt8} (h : NoOverflow body) : MapsExactly body :=
  ⟨h, sliderThrottle_toInt h.throttle, sliderStick_toInt h.yaw.1, sliderStick_toInt h.pitch.1,
    sliderStick_toInt h.roll.1⟩

/-! ## What the exact mapping has -/

theorem rcClamp_mono {v w : ℤ} (h : v ≤ w) : rcClamp v ≤ rcClamp w := by
  rw [rcClamp, rcClamp]
  omega

theorem exactThrottle_mono {t t' : ℤ} (h : t ≤ t') : exactThrottle t ≤ exactThrottle t' := by
  have hprod : t * rcMax ≤ t' * rcMax := Int.mul_le_mul_of_nonneg_right h (by decide)
  exact rcClamp_mono (Int.tdiv_le_tdiv (by decide) hprod)

theorem exactStick_mono {v v' : ℤ} (h : v ≤ v') : exactStick v ≤ exactStick v' := by
  have hprod : v * rcCenter ≤ v' * rcCenter := Int.mul_le_mul_of_nonneg_right h (by decide)
  exact rcClamp_mono (Int.add_le_add_left (Int.tdiv_le_tdiv (by decide) hprod) rcCenter)

/-- A throttle slider at or above its upper end is full throttle. -/
theorem exactThrottle_of_le {t : ℤ} (h : 100 ≤ t) : exactThrottle t = rcMax := by
  have hmax : rcMax = 1023 := rfl
  rw [exactThrottle, rcClamp, hmax, Int.tdiv_eq_ediv_of_nonneg (by omega)]
  omega

/-- An attitude slider at or above its upper end is full deflection. -/
theorem exactStick_of_le {v : ℤ} (h : 100 ≤ v) : exactStick v = rcMax := by
  have hmax : rcMax = 1023 := rfl
  have hcenter : rcCenter = 512 := rfl
  rw [exactStick, rcClamp, hmax, hcenter, Int.tdiv_eq_ediv_of_nonneg (by omega)]
  omega

/-- In every channel, a body with a greater slider is stored with no smaller stick. -/
structure KeepsOrder (body body' : List UInt8) : Prop where
  yLeft : jgetInt body (ascii "t") ≤ jgetInt body' (ascii "t") →
    (packageOfBody body).yLeft.toInt ≤ (packageOfBody body').yLeft.toInt
  xLeft : jgetInt body (ascii "y") ≤ jgetInt body' (ascii "y") →
    (packageOfBody body).xLeft.toInt ≤ (packageOfBody body').xLeft.toInt
  yRight : jgetInt body (ascii "p") ≤ jgetInt body' (ascii "p") →
    (packageOfBody body).yRight.toInt ≤ (packageOfBody body').yRight.toInt
  xRight : jgetInt body (ascii "r") ≤ jgetInt body' (ascii "r") →
    (packageOfBody body).xRight.toInt ≤ (packageOfBody body').xRight.toInt

/-- Sliders at or above their upper end are stored as full deflection. -/
structure DeflectsFully (body : List UInt8) : Prop where
  yLeft : 100 ≤ jgetInt body (ascii "t") → (packageOfBody body).yLeft.toInt = rcMax
  xLeft : 100 ≤ jgetInt body (ascii "y") → (packageOfBody body).xLeft.toInt = rcMax
  yRight : 100 ≤ jgetInt body (ascii "p") → (packageOfBody body).yRight.toInt = rcMax
  xRight : 100 ≤ jgetInt body (ascii "r") → (packageOfBody body).xRight.toInt = rcMax

theorem MapsExactly.keepsOrder {body body' : List UInt8} (h : MapsExactly body)
    (h' : MapsExactly body') : KeepsOrder body body' where
  yLeft hle := by
    rw [h.yLeft, h'.yLeft]
    exact exactThrottle_mono hle
  xLeft hle := by
    rw [h.xLeft, h'.xLeft]
    exact exactStick_mono hle
  yRight hle := by
    rw [h.yRight, h'.yRight]
    exact exactStick_mono hle
  xRight hle := by
    rw [h.xRight, h'.xRight]
    exact exactStick_mono hle

theorem MapsExactly.deflectsFully {body : List UInt8} (h : MapsExactly body) :
    DeflectsFully body where
  yLeft hle := by rw [h.yLeft, exactThrottle_of_le hle]
  xLeft hle := by rw [h.xLeft, exactStick_of_le hle]
  yRight hle := by rw [h.yRight, exactStick_of_le hle]
  xRight hle := by rw [h.xRight, exactStick_of_le hle]

/-- **The sliders are mapped as exact integers exactly when their products are `int`s**; such
sliders are full deflection past their upper end, and among such bodies the sticks grow with the
sliders. -/
theorem slider_mapping_iff (body : List UInt8) :
    (MapsExactly body ↔ SlidersFit body) ∧
      (SlidersFit body →
        DeflectsFully body ∧ ∀ body', SlidersFit body' → KeepsOrder body body') := by
  have hexact : ∀ body, SlidersFit body → MapsExactly body := fun body h =>
    h.noOverflow.mapsExactly
  refine ⟨⟨fun h => ?_, hexact body⟩, fun h => ⟨(hexact body h).deflectsFully, fun body' h' => ?_⟩⟩
  · exact ⟨(fits_throttle_iff _).mp h.throttle, (fits_stick_iff _).mp h.yaw.1,
      (fits_stick_iff _).mp h.pitch.1, (fits_stick_iff _).mp h.roll.1⟩
  · exact (hexact body h).keepsOrder (hexact body' h')

/-- A throttle one past the bound: the product overflows and the stick is stored at zero. -/
theorem slider_overflow_stores_zero :
    ¬ (∀ body, MapsExactly body) ∧
      jgetInt (pollObject 2099203 0 0 0 1).text (ascii "t") = 2099203 ∧
      (packageOfBody (pollObject 2099203 0 0 0 1).text).yLeft = 0 ∧
      exactThrottle 2099203 = rcMax := by
  have hslider : jgetInt (pollObject 2099203 0 0 0 1).text (ascii "t") = 2099203 := by decide
  refine ⟨fun h => ?_, hslider, by decide, by decide⟩
  have hfits := (h (pollObject 2099203 0 0 0 1).text).throttle
  rw [hslider] at hfits
  exact absurd hfits (by decide)

end DroneFirmware
