import DroneFirmware.SliderCodec

/-!
# Polls that are cut short

The control page keeps its sliders and the ARM flag, and `poll` posts them.  The connection
may be lost, or the request may outgrow `req_buf`, after any byte: the server parses what it
has.  A request in general can become another command that way; the page's cannot, because its
flag is the last member of the body and has one digit.

* `Page`: the state of the page's script; an input element cannot leave its range.
* `jgetInt_concat_brace`: the closing brace of a body is not read.
* `packageOfBody_take`: a cut body is the whole command, or an inactive one.
* `cut_poll`: what a cut request can leave in the shared package.
-/

namespace DroneFirmware

open CText

/-! ## The page -/

/-- The value of an `<input type=range>` with integer steps. -/
structure Slider (lo hi : ℤ) where
  value : ℤ
  lo_le : lo ≤ value
  le_hi : value ≤ hi
  deriving DecidableEq

/-- The state of the page's script: the four sliders and `active`. -/
structure Page where
  thr : Slider 0 100
  syaw : Slider (-100) 100
  spit : Slider (-100) 100
  srol : Slider (-100) 100
  active : Bool
  deriving DecidableEq

/-- The page as it is loaded: `value=0` in every slider, `let active=false`. -/
def Page.loaded : Page where
  thr := ⟨0, by decide, by decide⟩
  syaw := ⟨0, by decide, by decide⟩
  spit := ⟨0, by decide, by decide⟩
  srol := ⟨0, by decide, by decide⟩
  active := false

/-- `a:active?1:0`. -/
def Page.flag (p : Page) : ℤ := if p.active then 1 else 0

/-- The object that `poll` writes. -/
def Page.object (p : Page) : FlatObject :=
  pollObject p.thr.value p.syaw.value p.spit.value p.srol.value p.flag

/-- The body of the page's poll. -/
def Page.body (p : Page) : List UInt8 := p.object.text

theorem Page.body_noNul (p : Page) : 0 ∉ p.body := p.object.text_noNul

/-- The values of a slider are small. -/
theorem Slider.fits {lo hi : ℤ} (s : Slider lo hi) (hlo : -100 ≤ lo) (hhi : hi ≤ 100) :
    SliderValue s.value := by
  have h1 := s.lo_le
  have h2 := s.le_hi
  have hmax : rcMax = 1023 := rfl
  rw [SliderValue, FitsInt, FitsInt, intMin, intMax, hmax]
  omega

/-- **The server reads the page's poll as the page wrote it.** -/
structure CommandOf (p : Page) (rc : DataPackage) : Prop where
  yLeft : rc.yLeft.toInt = exactThrottle p.thr.value
  xLeft : rc.xLeft.toInt = exactStick p.syaw.value
  yRight : rc.yRight.toInt = exactStick p.spit.value
  xRight : rc.xRight.toInt = exactStick p.srol.value
  droneActive : rc.droneActive = p.active

theorem Page.commandOf_body (p : Page) : CommandOf p (packageOfBody p.body) := by
  have hflag : SliderValue p.flag := by
    rw [Page.flag]
    cases p.active <;> decide
  have hpage : PageBody p.object _ _ _ _ _ :=
    pollObject_pageBody (p.thr.fits (by decide) (by decide)) (p.syaw.fits (by decide) (by decide))
      (p.spit.fits (by decide) (by decide)) (p.srol.fits (by decide) (by decide)) hflag
  have ht := jgetInt_of_carries hpage.throttle.1 (by decide) (by decide) hpage.throttle.2.1
  have hy := jgetInt_of_carries hpage.yaw.1 (by decide) (by decide) hpage.yaw.2.1
  have hp := jgetInt_of_carries hpage.pitch.1 (by decide) (by decide) hpage.pitch.2.1
  have hr := jgetInt_of_carries hpage.roll.1 (by decide) (by decide) hpage.roll.2.1
  have ha := jgetInt_of_carries hpage.active.1 (by decide) (by decide) hpage.active.2.1
  refine ⟨?_, ?_, ?_, ?_, ?_⟩
  · show (sliderThrottle (jgetInt p.object.text _)).toInt = _
    rw [ht, sliderThrottle_toInt hpage.throttle.2.2]
  · show (sliderStick (jgetInt p.object.text _)).toInt = _
    rw [hy, sliderStick_toInt hpage.yaw.2.fits_center]
  · show (sliderStick (jgetInt p.object.text _)).toInt = _
    rw [hp, sliderStick_toInt hpage.pitch.2.fits_center]
  · show (sliderStick (jgetInt p.object.text _)).toInt = _
    rw [hr, sliderStick_toInt hpage.roll.2.fits_center]
  · show (jgetInt p.object.text _ != 0) = _
    rw [ha, Page.flag]
    cases p.active <;> rfl

/-! ## The closing brace is not read -/

/-- A byte that the pattern does not hold, at the end of a string, changes no search. -/
theorem strstr_concat {needle : List UInt8} (hne : needle ≠ []) {b : UInt8} (hb : b ∉ needle)
    (hay : List UInt8) : strstr needle (hay ++ [b]) = (strstr needle hay).map (· ++ [b]) := by
  have hoccurs : ∀ hay, needle <+: hay ++ [b] ↔ needle <+: hay := by
    intro hay
    rw [List.prefix_concat_iff]
    refine ⟨fun h => h.resolve_left fun heq => hb (by rw [heq]; simp), Or.inr⟩
  induction hay with
  | nil =>
    have hnil : ¬ needle <+: [] := fun h => hne (List.prefix_nil.mp h)
    have hone : ¬ needle <+: [b] := mt (hoccurs []).mp hnil
    simp only [List.nil_append, strstr, List.isPrefixOf_iff_prefix, if_neg hnil, if_neg hone,
      Option.map_none]
  | cons c hay ih =>
    simp only [List.cons_append, strstr, List.isPrefixOf_iff_prefix, ih]
    rw [← List.cons_append]
    by_cases hp : needle <+: c :: hay
    · rw [if_pos hp, if_pos ((hoccurs _).mpr hp), Option.map_some]
    · rw [if_neg hp, if_neg (mt (hoccurs _).mp hp)]

theorem decimal_concat_brace (s : List UInt8) : decimal (s ++ [0x7D]) = decimal s := by
  have hbrace : [(0x7D : UInt8)].takeWhile isDigit = [] := by decide
  rw [decimal, decimal, List.takeWhile_append, hbrace]
  split_ifs with h
  · rw [List.append_nil, (List.takeWhile_prefix _).eq_of_length h]
  · rfl

theorem atoi_concat_brace (s : List UInt8) : atoi (s ++ [0x7D]) = atoi s := by
  have hskip : (s ++ [0x7D]).dropWhile isSpace = s.dropWhile isSpace ++ [0x7D] := by
    rw [List.dropWhile_append]
    split_ifs with h
    · rw [List.isEmpty_iff.mp h]
      decide
    · rfl
  rw [atoi, atoi, hskip]
  generalize s.dropWhile isSpace = u
  split
  · rename_i digits hu
    cases u with
    | nil => cases hu
    | cons c u =>
      obtain ⟨rfl, rfl⟩ := List.cons.inj hu
      exact congrArg (fun n : ℕ => max intMin (-(n : ℤ))) (decimal_concat_brace u)
  · rename_i digits hu
    cases u with
    | nil => cases hu
    | cons c u =>
      obtain ⟨rfl, rfl⟩ := List.cons.inj hu
      exact congrArg (fun n : ℕ => min intMax (n : ℤ)) (decimal_concat_brace u)
  · rename_i hminus hplus
    rw [decimal_concat_brace]
    split
    · exact absurd rfl (hminus _)
    · exact absurd rfl (hplus _)
    · rfl

/-- `jget_int` does not read a closing brace at the end. -/
theorem jgetInt_concat_brace (s : List UInt8) {key : List UInt8} (hkey : 0x7D ∉ key) :
    jgetInt (s ++ [0x7D]) key = jgetInt s key := by
  have hpattern : 0x7D ∉ (ascii "\"" ++ key ++ ascii "\":").take 15 := by
    intro h
    have hquote : (0x7D : UInt8) ∉ ascii "\"" := by decide
    have hclose : (0x7D : UInt8) ∉ ascii "\":" := by decide
    have hmem := List.mem_of_mem_take h
    rw [List.mem_append, List.mem_append] at hmem
    exact hmem.elim (fun h => h.elim hquote hkey) hclose
  have hne : (ascii "\"" ++ key ++ ascii "\":").take 15 ≠ [] := by
    have hquote : ascii "\"" = [0x22] := rfl
    rw [hquote]
    simp
  rw [jgetInt, jgetInt, strstr_concat hne hpattern]
  generalize (ascii "\"" ++ key ++ ascii "\":").take 15 = k
  cases hfound : strstr k s with
  | none => rfl
  | some found =>
    obtain ⟨-, -, hstarts, -⟩ := (strstr_eq_some_iff _ _ _).mp hfound
    have hlen := hstarts.length_le
    show atoi (((found ++ [0x7D]).drop k.length).dropWhile (· == 0x20)) =
      atoi ((found.drop k.length).dropWhile (· == 0x20))
    rw [List.drop_append_of_le_length hlen, List.dropWhile_append]
    split_ifs with h
    · rw [List.isEmpty_iff.mp h]
      decide
    · exact atoi_concat_brace _

theorem packageOfBody_concat_brace (s : List UInt8) :
    packageOfBody (s ++ [0x7D]) = packageOfBody s := by
  rw [packageOfBody, packageOfBody, jgetInt_concat_brace s (by decide),
    jgetInt_concat_brace s (by decide), jgetInt_concat_brace s (by decide),
    jgetInt_concat_brace s (by decide), jgetInt_concat_brace s (by decide)]

/-! ## A cut body -/

/-- The body up to the member `a`: the sliders, and a comma after each. -/
def Page.beforeFlag (p : Page) : List UInt8 :=
  0x7B :: (p.object.members.take 4).flatMap fun m => m.text ++ [0x2C]

/-- The digit of the flag. -/
def Page.flagDigit (p : Page) : UInt8 := if p.active then 0x31 else 0x30

/-- The body of a poll: the sliders, the name of the flag, its digit, the brace. -/
theorem Page.body_eq (p : Page) :
    p.body = p.beforeFlag ++ keyPattern (ascii "a") ++ [p.flagDigit] ++ [0x7D] := by
  have hdigit : intText p.flag = [p.flagDigit] := by
    rw [Page.flag, Page.flagDigit]
    cases p.active <;> decide
  simp [Page.body, Page.beforeFlag, Page.object, FlatObject.text, pollObject, moreText,
    Member.text, hdigit, keyPattern]

/-- The letter `a` stands in the name of the flag and nowhere before it. -/
theorem Page.letter_notMem_beforeFlag (p : Page) : 0x61 ∉ p.beforeFlag := by
  have hmember : ∀ m : Member, 0x61 ∉ m.key → 0x61 ∉ m.text := by
    intro m hkey
    simp only [Member.text, List.mem_cons, List.mem_append, List.mem_replicate, not_or]
    refine ⟨by decide, hkey, by decide, by decide, fun h => absurd h.2 (by decide), fun h => ?_⟩
    rcases mem_intText h with hminus | hdigit
    · exact absurd hminus (by decide)
    · exact absurd hdigit (by decide)
  have hkeys : ∀ key ∈ (p.object.members.take 4).map Member.key, (0x61 : UInt8) ∉ key := by
    show ∀ key ∈ [ascii "t", ascii "y", ascii "p", ascii "r"], (0x61 : UInt8) ∉ key
    decide
  rw [Page.beforeFlag, List.mem_cons, List.mem_flatMap]
  rintro (hbrace | ⟨m, hm, hmem⟩)
  · exact absurd hbrace (by decide)
  · rcases List.mem_append.mp hmem with htext | hcomma
    · exact hmember m (hkeys _ (List.mem_map_of_mem hm)) htext
    · exact absurd hcomma (by decide)

/-- A body cut before the digit of the flag is one without the flag. -/
theorem jgetInt_take_beforeFlag (p : Page) {j : ℕ} (hj : j ≤ p.beforeFlag.length + 4) :
    jgetInt (p.body.take j) (ascii "a") = 0 := by
  have hpattern : (ascii "\"" ++ ascii "a" ++ ascii "\":").take 15 = [0x22, 0x61, 0x22, 0x3A] := by
    decide
  rw [jgetInt, hpattern]
  cases hfound : strstr [0x22, 0x61, 0x22, 0x3A] (p.body.take j) with
  | none => rfl
  | some found =>
    obtain ⟨pre, hsplit, ⟨rest, rfl⟩, -⟩ := (strstr_eq_some_iff _ _ _).mp hfound
    have hcut : p.body.take j = (p.beforeFlag ++ keyPattern (ascii "a")).take j := by
      rw [p.body_eq, List.append_assoc (_ ++ _), List.take_append_of_le_length]
      rw [List.length_append]
      exact hj
    -- the name is found behind the sliders, so that nothing is left behind the name
    have hletter : (p.beforeFlag ++ keyPattern (ascii "a"))[pre.length + 1]? = some 0x61 := by
      have hget : ((p.beforeFlag ++ keyPattern (ascii "a")).take j)[pre.length + 1]? =
          some 0x61 := by
        rw [← hcut, hsplit]
        simp
      rw [List.getElem?_take] at hget
      split_ifs at hget
      exact hget
    have hbehind : p.beforeFlag.length ≤ pre.length := by
      by_contra hlt
      rcases lt_or_eq_of_le (Nat.succ_le_of_lt (not_le.mp hlt)) with hin | hat
      · rw [List.getElem?_append_left hin] at hletter
        exact p.letter_notMem_beforeFlag (List.mem_of_getElem? hletter)
      · rw [List.getElem?_append_right hat.ge, ← hat, Nat.sub_self] at hletter
        exact absurd hletter (by decide)
    have hlen : (p.body.take j).length ≤ p.beforeFlag.length + 4 :=
      (List.length_take_le _ _).trans hj
    have hrest : rest = [] := by
      rw [hsplit] at hlen
      simp only [List.length_append, List.length_cons, List.length_nil] at hlen
      exact List.eq_nil_of_length_eq_zero (by omega)
    rw [hrest]
    decide

/-- **A cut body is the whole command, or an inactive one.** -/
theorem packageOfBody_take (p : Page) (j : ℕ) :
    packageOfBody (p.body.take j) = packageOfBody p.body ∨
      (packageOfBody (p.body.take j)).droneActive = false := by
  have hlen : p.body.length = p.beforeFlag.length + 6 := by
    rw [p.body_eq]
    simp [keyPattern, ascii]
  by_cases hj : j ≤ p.beforeFlag.length + 4
  · refine Or.inr ?_
    show (jgetInt _ (ascii "a") != 0) = false
    rw [jgetInt_take_beforeFlag p hj]
    rfl
  · refine Or.inl ?_
    rcases lt_or_ge j p.body.length with hlt | hge
    · have hbrace : p.body = p.body.take j ++ [0x7D] := by
        have hdrop : p.body.drop j = [0x7D] := by
          rw [p.body_eq, List.drop_append_of_le_length]
          · rw [List.drop_of_length_le]
            · rfl
            · simp [keyPattern, ascii]
              omega
          · simp [keyPattern, ascii]
            omega
        rw [← hdrop, List.take_append_drop]
      conv_rhs => rw [hbrace]
      exact (packageOfBody_concat_brace _).symm
    · rw [List.take_of_length_le hge]

/-! ## A cut request -/

/-- Two streams that agree up to a place have the same blank lines up to there. -/
theorem blankLineAt_congr {s s' : List UInt8} {n : ℕ} (h : s.take n = s'.take n)
    (hn : n ≤ s.length) (hn' : n ≤ s'.length) {k : ℕ} (hk : k ≤ n) :
    BlankLineAt s k ↔ BlankLineAt s' k := by
  have htake : s.take k = s'.take k := by
    rw [← min_eq_left hk, ← List.take_take, h, List.take_take]
  rw [BlankLineAt, BlankLineAt, htake]
  exact and_congr_left fun _ => iff_of_true (hk.trans hn) (hk.trans hn')

/-- The head of a request: bytes that end with their first blank line. -/
structure RequestHead where
  bytes : List UInt8
  headEnd : HeadEnd bytes bytes.length

/-- The request of a poll: some head of the browser's, then the body. -/
def Page.request (p : Page) (head : RequestHead) : List UInt8 := head.bytes ++ p.body

/-- What a connection that delivers a request's first `n` bytes can do to the shared package:
nothing, or store what some part of the body says. -/
theorem handleClient_web_take (head : RequestHead) {body : List UInt8} (hnul : 0 ∉ body) (n : ℕ)
    (now : ℤ) (buf : ReqBuf) (web : Web) :
    (handleClient now ((head.bytes ++ body).take n) buf web).web = web ∨
      ∃ j, (handleClient now ((head.bytes ++ body).take n) buf web).web =
        handleRc now (body.take j) := by
  by_cases hpost : ∃ k, HeadEnd ((head.bytes ++ body).take n) k ∧ k ≤ reqBufSize - 1 ∧
      PostRc (((head.bytes ++ body).take n).take k)
  · obtain ⟨k, hend, hk, hpost⟩ := hpost
    -- the head that is found is the head that was sent
    have hlt : k ≤ head.bytes.length → k = head.bytes.length := by
      intro hle
      have hkn := hend.1.1
      rw [List.length_take] at hkn
      have hblank : BlankLineAt head.bytes k := by
        refine (blankLineAt_congr ?_ hend.1.1 hle le_rfl).mp hend.1
        rw [List.take_take, min_eq_left (by omega), List.take_append_of_le_length hle]
      by_contra hne
      exact head.headEnd.2 k (by omega) hblank
    have hgt : ¬ head.bytes.length < k := by
      intro hgt
      have hkn := hend.1.1
      rw [List.length_take] at hkn
      refine hend.2 _ hgt ?_
      refine (blankLineAt_congr (n := head.bytes.length) ?_ (by omega) ?_ le_rfl).mp head.headEnd.1
      · rw [List.take_take, min_eq_left (by omega), List.take_append_of_le_length le_rfl]
      · rw [List.length_take]
        omega
    obtain rfl := hlt (not_lt.mp hgt)
    have hdrop : ((head.bytes ++ body).take n).drop head.bytes.length =
        body.take (n - head.bytes.length) := by
      rw [List.drop_take, List.drop_left]
    have houtcome := congrArg Outcome.web
      (handleClient_outcome_of_postRc hend hk hpost now buf web)
    have htext : ∀ m, text (body.take m) = body.take m := fun m =>
      List.takeWhile_eq_self_iff.mpr fun b hb => by
        rw [bne_iff_ne]
        rintro rfl
        exact hnul (List.mem_of_mem_take hb)
    rw [hdrop, List.take_take, htext] at houtcome
    exact Or.inr ⟨_, houtcome⟩
  · refine Or.inl (handleClient_of_not_postRc (fun k hend hk hp => ?_) now buf web)
    exact hpost ⟨k, hend, hk, hp⟩

/-- What a poll of the page may leave in the shared package `web` at `now`. -/
inductive LeftByPoll (p : Page) (now : ℤ) (web : Web) : Web → Prop where
  | untouched : LeftByPoll p now web web
  | command : LeftByPoll p now web ⟨packageOfBody p.body, now⟩
  | inactive (rc : DataPackage) (h : rc.droneActive = false) : LeftByPoll p now web ⟨rc, now⟩

/-- **A cut poll fails safe.**  Whatever the browser's head, and wherever the request is cut ---
by the connection, by the announced length or by the end of `req_buf` --- the shared package is
left alone, or it is the page's whole command, or it is inactive. -/
theorem cut_poll (p : Page) (head : RequestHead) (n : ℕ) (now : ℤ) (buf : ReqBuf) (web : Web) :
    LeftByPoll p now web (handleClient now ((p.request head).take n) buf web).web := by
  rcases handleClient_web_take head p.body_noNul n now buf web with h | ⟨j, h⟩
  · rw [Page.request, h]
    exact .untouched
  · rw [Page.request, h, handleRc]
    rcases packageOfBody_take p j with hwhole | hinactive
    · rw [hwhole]
      exact .command
    · exact .inactive _ hinactive

end DroneFirmware
