import DroneFirmware.CText.Decimal

/-!
# Formatting into an array

`snprintf` stores as much of its output as fits, with a NUL after it, and returns the length of
the whole output, stored or not.  A caller that goes on with the returned length is right
exactly when nothing was cut off.

* `CharArray`: an array of a fixed size.
* `snprintf_of_fits`: an output that fits with its NUL is stored whole.
* `ascii_ofList`: the bytes of a literal, character by character.
-/

namespace DroneFirmware
namespace CText

/-! ## Arrays -/

variable {n : ℕ}

/-- `char buf[n]`. -/
structure CharArray (n : ℕ) where
  bytes : List UInt8
  length_eq : bytes.length = n

/-- An array of zeros. -/
def CharArray.zero (n : ℕ) : CharArray n := ⟨List.replicate n 0, List.length_replicate⟩

/-- The bytes `l` stored at the start of the array, as far as they fit. -/
def CharArray.store (l : List UInt8) (b : CharArray n) : CharArray n :=
  ⟨(l ++ b.bytes.drop l.length).take n, by
    rw [List.length_take, List.length_append, List.length_drop, b.length_eq]
    omega⟩

theorem CharArray.bytes_store {l : List UInt8} (h : l.length ≤ n) (b : CharArray n) :
    (b.store l).bytes = l ++ b.bytes.drop l.length := by
  refine List.take_of_length_le ?_
  rw [List.length_append, List.length_drop, b.length_eq]
  omega

/-! ## `snprintf` -/

/-- `snprintf(buf, sizeof(buf), ...)`, for a call whose format and arguments make `out`. -/
def snprintf (out : List UInt8) (b : CharArray n) : ℤ × CharArray n :=
  (out.length, if n = 0 then b else b.store (out.take (n - 1) ++ [0]))

/-- The output was stored whole: the returned length is that of the string in the array, and
it is less than the array's. -/
structure Printed (out : List UInt8) (r : ℤ × CharArray n) : Prop where
  ret : r.1 = out.length
  lt : r.1 < n
  text : CText.text r.2.bytes = out
  /-- The bytes that a caller finds at the returned length. -/
  take : r.2.bytes.take out.length = out

theorem Printed.isPrefix {out : List UInt8} {r : ℤ × CharArray n} (h : Printed out r) :
    out <+: r.2.bytes := List.prefix_iff_eq_take.mpr h.take.symm

theorem text_of_noNul {l : List UInt8} (h : 0 ∉ l) : text l = l := by
  rw [text, List.takeWhile_eq_self_iff]
  intro b hb
  rw [bne_iff_ne]
  rintro rfl
  exact h hb

/-- **An output that fits with its NUL is stored whole.** -/
theorem snprintf_of_fits {out : List UInt8} (hfits : out.length < n) (hnul : 0 ∉ out)
    (b : CharArray n) : Printed out (snprintf out b) := by
  have hwhole : out.take (n - 1) = out := List.take_of_length_le (by omega)
  have hbytes : (snprintf out b).2.bytes = out ++ 0 :: b.bytes.drop (out.length + 1) := by
    have hlen : (out ++ [0]).length = out.length + 1 := by simp
    rw [snprintf, if_neg (by omega), hwhole, CharArray.bytes_store (by omega), hlen]
    simp
  refine ⟨rfl, by simpa [snprintf] using hfits, ?_, ?_⟩
  · rw [hbytes, text_append_nul, text_of_noNul hnul]
  · rw [hbytes, List.take_left]

/-! ## Literals -/

/-- The bytes of a literal.  A literal unifies with `String.ofList` of its characters. -/
theorem ascii_ofList (l : List Char) :
    ascii (String.ofList l) = l.map fun c => UInt8.ofNat c.toNat := by
  rw [ascii, String.toList_ofList]

theorem length_ascii_le {l : List Char} {k : ℕ} (h : l.length ≤ k) :
    (ascii (String.ofList l)).length ≤ k := by
  rwa [ascii_ofList, List.length_map]

theorem forall_mem_ascii {p : UInt8 → Bool} {l : List Char}
    (h : l.all (fun c => p (UInt8.ofNat c.toNat)) = true) :
    ∀ b ∈ ascii (String.ofList l), p b = true := by
  rw [ascii_ofList]
  exact List.forall_mem_map.mpr (List.all_eq_true.mp h)

end CText
end DroneFirmware
