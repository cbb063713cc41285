import ClassGraph.Text.Utf8

/-!
# The order of texts is the order of their bytes

Texts are compared character by character. Where they are stored as bytes, they can be compared byte
by byte instead: UTF-8 is made so that both give the same order (`lt_iff_encode_lt`).

A code is written as a first byte and some following bytes. The first byte grows with the code, over
all widths (`leadByte_mono`), and tells the width; the following bytes are the rest of the code in
base 64, most significant first (`following_lt`).
-/

set_option autoImplicit false

namespace ClassGraph.Text.Utf8

/-! ## Codes as digits -/

/-- How many bytes follow the first byte of a code. -/
def width (v : Nat) : Nat :=
  if v ≤ 0x7f then 0 else if v ≤ 0x7ff then 1 else if v ≤ 0xffff then 2 else 3

/-- What is left of a code without its last `k` digits in base 64. -/
def leading (v : Nat) : Nat → Nat
  | 0 => v
  | k + 1 => leading (v / 64) k

/-- The last `k` digits of a code in base 64, as following bytes. -/
def following (v : Nat) : Nat → List UInt8
  | 0 => []
  | k + 1 => following (v / 64) k ++ [UInt8.ofNat (v % 64 + 0x80)]

/-- The mark in the first byte of a code with `k` following bytes. -/
def leadMark : Nat → Nat
  | 0 => 0
  | 1 => 0xc0
  | 2 => 0xe0
  | _ => 0xf0

/-- The first byte of a code. -/
def leadByte (v : Nat) : Nat := leading v (width v) + leadMark (width v)

theorem width_cases (v : Nat) :
    (v ≤ 0x7f ∧ width v = 0) ∨ (0x7f < v ∧ v ≤ 0x7ff ∧ width v = 1)
      ∨ (0x7ff < v ∧ v ≤ 0xffff ∧ width v = 2) ∨ (0xffff < v ∧ width v = 3) := by
  unfold width
  split
  · omega
  · split
    · omega
    · split <;> omega

theorem leadByte_cases (v : Nat) :
    (v ≤ 0x7f ∧ leadByte v = v) ∨ (0x7f < v ∧ v ≤ 0x7ff ∧ leadByte v = v / 64 + 0xc0)
      ∨ (0x7ff < v ∧ v ≤ 0xffff ∧ leadByte v = v / 64 / 64 + 0xe0)
      ∨ (0xffff < v ∧ leadByte v = v / 64 / 64 / 64 + 0xf0) := by
  unfold leadByte
  rcases width_cases v with ⟨h, hw⟩ | ⟨h, h', hw⟩ | ⟨h, h', hw⟩ | ⟨h, hw⟩
  · rw [hw]
    exact .inl ⟨h, rfl⟩
  · rw [hw]
    exact .inr (.inl ⟨h, h', rfl⟩)
  · rw [hw]
    exact .inr (.inr (.inl ⟨h, h', rfl⟩))
  · rw [hw]
    exact .inr (.inr (.inr ⟨h, rfl⟩))

theorem leadByte_lt {v : Nat} (hv : v < 0x110000) : leadByte v < 256 := by
  have := leadByte_cases v
  omega

theorem leadByte_mono {v w : Nat} (hlt : v < w) (hw : w < 0x110000) : leadByte v ≤ leadByte w := by
  have := leadByte_cases v
  have := leadByte_cases w
  omega

/-- The first byte tells the width. -/
theorem width_eq_of_leadByte {v w : Nat} (hv : v < 0x110000) (hw : w < 0x110000)
    (h : leadByte v = leadByte w) : width v = width w := by
  have := leadByte_cases v
  have := leadByte_cases w
  have := width_cases v
  have := width_cases w
  omega

theorem following_lt {k v w : Nat} (hlt : v < w) (hlead : leading v k = leading w k)
    (x y : List UInt8) : following v k ++ x < following w k ++ y := by
  induction k generalizing v w x y with
  | zero => exact absurd hlead (Nat.ne_of_lt hlt)
  | succ k ih =>
    rw [following, following, List.append_assoc, List.append_assoc]
    rcases Nat.lt_or_ge (v / 64) (w / 64) with hmore | hless
    · exact ih hmore hlead _ _
    · -- All digits but the last agree, so the last one decides.
      have hsame : v / 64 = w / 64 := by omega
      have hlast : UInt8.ofNat (v % 64 + 0x80) < UInt8.ofNat (w % 64 + 0x80) := by
        rw [UInt8.lt_iff_toNat_lt, UInt8.toNat_ofNat', UInt8.toNat_ofNat']
        omega
      rw [hsame]
      exact List.append_left_lt (List.cons_lt_cons_iff.mpr (.inl hlast))

/-! ## Characters and texts -/

theorem toNat_lt_of_char (c : Char) : c.toNat < 0x110000 := by
  rcases c.valid with h | h
  · exact Nat.lt_trans h (by decide)
  · exact h.2

theorem encodeChar_eq (c : Char) : String.utf8EncodeChar c
    = UInt8.ofNat (leadByte c.toNat) :: following c.toNat (width c.toNat) := by
  delta String.utf8EncodeChar Char.toNat
  dsimp only
  have hvalid := toNat_lt_of_char c
  unfold Char.toNat at hvalid
  generalize c.val.toNat = v at *
  have hlead := leadByte_cases v
  rcases width_cases v with ⟨h, hw⟩ | ⟨h, h', hw⟩ | ⟨h, h', hw⟩ | ⟨h, hw⟩
  · have hbyte : leadByte v = v := by omega
    rw [if_pos h, hw, hbyte]
    rfl
  · have hbyte : leadByte v = v / 64 % 0x20 + 0xc0 := by omega
    rw [if_neg (Nat.not_le.mpr h), if_pos h', hw, hbyte]
    rfl
  · have hbyte : leadByte v = v / 4096 % 0x10 + 0xe0 := by omega
    rw [if_neg (by omega), if_neg (Nat.not_le.mpr h), if_pos h', hw, hbyte]
    rfl
  · have hbyte : leadByte v = v / 262144 % 0x08 + 0xf0 := by omega
    have hthird : v / 4096 = v / 64 / 64 := by omega
    rw [if_neg (by omega), if_neg (by omega), if_neg (Nat.not_le.mpr h), hw, hbyte, hthird]
    rfl

theorem encodeChar_append_lt {c d : Char} (h : c < d) (x y : List UInt8) :
    String.utf8EncodeChar c ++ x < String.utf8EncodeChar d ++ y := by
  have hlt : c.toNat < d.toNat := UInt32.lt_iff_toNat_lt.mp h
  have hc := toNat_lt_of_char c
  have hd := toNat_lt_of_char d
  rw [encodeChar_eq, encodeChar_eq, List.cons_append, List.cons_append, List.cons_lt_cons_iff]
  rcases Nat.lt_or_eq_of_le (leadByte_mono hlt hd) with hmore | hsame
  · refine .inl (UInt8.lt_iff_toNat_lt.mpr ?_)
    rw [UInt8.toNat_ofNat', UInt8.toNat_ofNat', Nat.mod_eq_of_lt (leadByte_lt hc),
      Nat.mod_eq_of_lt (leadByte_lt hd)]
    exact hmore
  · have hwidth := width_eq_of_leadByte hc hd hsame
    refine .inr ⟨by rw [hsame], ?_⟩
    unfold leadByte at hsame
    rw [hwidth] at hsame ⊢
    exact following_lt hlt (Nat.add_right_cancel hsame) x y

theorem flatMap_encodeChar_lt {cs ds : List Char} (h : cs < ds) :
    cs.flatMap String.utf8EncodeChar < ds.flatMap String.utf8EncodeChar := by
  induction cs generalizing ds with
  | nil =>
    cases ds with
    | nil => exact absurd h (List.not_lt_nil _)
    | cons d ds =>
      rw [List.flatMap_cons, encodeChar_eq]
      exact List.nil_lt_cons _ _
  | cons c cs ih =>
    cases ds with
    | nil => exact absurd h (List.not_lt_nil _)
    | cons d ds =>
      rw [List.flatMap_cons, List.flatMap_cons]
      rcases List.cons_lt_cons_iff.mp h with hlt | ⟨rfl, hrest⟩
      · exact encodeChar_append_lt hlt _ _
      · exact List.append_left_lt (ih hrest)

/-- **Byte by byte is character by character.** -/
theorem lt_iff_encode_lt {s t : String} : s < t ↔ encode s < encode t := by
  have hmono : ∀ {s t : String}, s < t → encode s < encode t := by
    intro s t h
    exact flatMap_encodeChar_lt (String.lt_iff.mp h)
  refine ⟨hmono, fun h => Decidable.byContradiction fun hnot => ?_⟩
  have hle : t ≤ s := String.not_lt.mp hnot
  by_cases heq : s = t
  · rw [heq] at h
    exact List.lt_irrefl _ h
  · have hgt : t < s := Decidable.byContradiction fun hnot' =>
      heq (String.le_antisymm (String.not_lt.mp hnot') hle)
    exact List.lt_asymm h (hmono hgt)

end ClassGraph.Text.Utf8
