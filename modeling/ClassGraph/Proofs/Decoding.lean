import ClassGraph.Proofs.ByteOrder
import Mathlib.Algebra.GroupWithZero.Nat
import Mathlib.Tactic.SplitIfs

/-!
# Bytes that are text

Reading bytes takes one character after the other. A character is taken exactly if its own bytes stand
in front (`next_eq_some_iff`): each range of first bytes tells how many digits follow, and which second
bytes would make a code too small for its width or no character at all (`Lead.Fits.isCode`).

So **bytes are text exactly if they are the bytes of one** (`decode?_eq_some_iff`), and what is shown
for the bytes of a text is that text (`decodeLossy_encode`). Bytes that are not text are shown too, but
then different bytes may be shown alike.
-/

set_option autoImplicit false

namespace ClassGraph.Text.Utf8

/-! ## Digits -/

/-- The first of the last `k + 1` digits of a code, as a following byte. -/
def digit (v k : Nat) : Nat := v / 64 ^ k % 64 + 0x80

/-- The following bytes, from the front. -/
theorem following_succ (v k : Nat) :
    following v (k + 1) = UInt8.ofNat (digit v k) :: following v k := by
  induction k generalizing v with
  | zero => simp [following, digit]
  | succ k ih =>
    have hdigit : digit (v / 64) k = digit v (k + 1) := by
      rw [digit, digit, Nat.div_div_eq_div_mul, ← Nat.pow_succ']
    rw [following, ih, hdigit]
    rfl

theorem toNat_digit (v k : Nat) : (UInt8.ofNat (digit v k)).toNat = digit v k := by
  rw [UInt8.toNat_ofNat', Nat.mod_eq_of_lt]
  unfold digit
  omega

/-- The digits of a code are read off again, if the first of them is in range. -/
theorem continue?_following (code v k : Nat) {low high : Nat} (rest : List UInt8)
    (h : k = 0 ∨ (low ≤ digit v (k - 1) ∧ digit v (k - 1) ≤ high)) :
    continue? code k low high (following v k ++ rest) = (some (code * 64 ^ k + v % 64 ^ k), rest) := by
  induction k generalizing code low high with
  | zero => simp [continue?, following, Nat.mod_one]
  | succ k ih =>
    have hfirst : low ≤ digit v k ∧ digit v k ≤ high := h.resolve_left (Nat.succ_ne_zero k)
    have hnext : k = 0 ∨ (0x80 ≤ digit v (k - 1) ∧ digit v (k - 1) ≤ 0xBF) := by
      unfold digit
      omega
    have hcode : (code * 64 + (digit v k - 0x80)) * 64 ^ k + v % 64 ^ k
        = code * 64 ^ (k + 1) + v % 64 ^ (k + 1) := by
      rw [digit, Nat.add_sub_cancel, Nat.mod_pow_succ, Nat.add_mul, Nat.mul_assoc, ← Nat.pow_succ',
        Nat.mul_comm (v / 64 ^ k % 64), Nat.succ_eq_add_one]
      omega
    rw [following_succ, List.cons_append, continue?, toNat_digit, if_pos hfirst, ih _ hnext, hcode]

/-- What is read as a code has its digits in front, and a first one in range. -/
theorem eq_following_of_continue? {code k low high v : Nat} {bytes rest : List UInt8}
    (hlow : k = 0 ∨ 0x80 ≤ low) (hhigh : high ≤ 0xBF)
    (h : continue? code k low high bytes = (some v, rest)) :
    bytes = following v k ++ rest ∧ v / 64 ^ k = code ∧
      (k = 0 ∨ (low ≤ digit v (k - 1) ∧ digit v (k - 1) ≤ high)) := by
  induction k generalizing code low high bytes with
  | zero =>
    rw [continue?] at h
    cases h
    exact ⟨rfl, by simp, .inl rfl⟩
  | succ k ih =>
    cases bytes with
    | nil =>
      rw [continue?] at h
      cases h
    | cons b bytes =>
      rw [continue?] at h
      split at h
      · next hrange =>
        obtain ⟨rfl, hcode, -⟩ := ih (.inr (Nat.le_refl _)) (Nat.le_refl _) h
        have hdigit : digit v k = b.toNat := by
          rw [digit, hcode]
          omega
        refine ⟨?_, ?_, .inr ?_⟩
        · rw [following_succ, hdigit, UInt8.ofNat_toNat, List.cons_append]
        · rw [Nat.pow_succ, ← Nat.div_div_eq_div_mul, hcode]
          omega
        · rw [Nat.add_sub_cancel, hdigit]
          exact hrange
      · cases h

theorem length_continue?_le (code k low high : Nat) (bytes : List UInt8) :
    (continue? code k low high bytes).2.length ≤ bytes.length := by
  induction k generalizing code low high bytes with
  | zero => exact Nat.le_refl _
  | succ k ih =>
    cases bytes with
    | nil => exact Nat.le_refl _
    | cons b bytes =>
      rw [continue?]
      split
      · exact Nat.le_trans (ih _ _ _ bytes) (Nat.le_succ _)
      · exact Nat.le_refl _

/-! ## One character -/

/-- A number that is the code of a character. -/
def IsCode (v : Nat) : Prop := v < 0xD800 ∨ (0xDFFF < v ∧ v < 0x110000)

/-- A code has what a first byte says: its share, and a first digit in range. -/
def Lead.Fits (l : Lead) (v : Nat) : Prop :=
  v / 64 ^ l.following = l.bits ∧ (l.following = 0 ∨
    (l.low ≤ digit v (l.following - 1) ∧ digit v (l.following - 1) ≤ l.high))

/-- A code that fits a first byte is the code of a character, and its first byte is that one. -/
theorem Lead.Fits.isCode {b v : Nat} {l : Lead} (hl : lead? b = some l) (h : l.Fits v) :
    IsCode v ∧ leadByte v = b ∧ width v = l.following := by
  have hlead := leadByte_cases v
  have hwidth := width_cases v
  unfold Lead.Fits digit at h
  unfold IsCode
  -- One case for each range of first bytes.
  unfold lead? at hl
  split_ifs at hl <;> obtain rfl := Option.some.inj hl <;> dsimp only at h ⊢ <;> omega

/-- The code of a character fits its first byte. -/
theorem exists_lead? {v : Nat} (h : IsCode v) : ∃ l, lead? (leadByte v) = some l ∧ l.Fits v := by
  have hlead := leadByte_cases v
  unfold IsCode at h
  unfold lead?
  split_ifs
  all_goals first
    | refine ⟨_, rfl, ?_⟩
      dsimp only [Lead.Fits, digit]
      omega
    | omega

theorem lead?_range {b : Nat} {l : Lead} (hl : lead? b = some l) :
    (l.following = 0 ∨ 0x80 ≤ l.low) ∧ l.high ≤ 0xBF := by
  unfold lead? at hl
  split_ifs at hl <;> obtain rfl := Option.some.inj hl <;> dsimp only <;> omega

theorem toNat_ofNat {v : Nat} (h : IsCode v) : (Char.ofNat v).toNat = v := by
  have hchar : Char.ofNat v = Char.ofNatAux v h := dif_pos h
  rw [hchar]
  rfl

/-- **A character is taken exactly if its bytes stand in front.** -/
theorem next_eq_some_iff {b : UInt8} {bytes rest : List UInt8} {c : Char} :
    next b bytes = (some c, rest) ↔ b :: bytes = String.utf8EncodeChar c ++ rest := by
  rw [encodeChar_eq, List.cons_append, List.cons.injEq]
  unfold next
  constructor
  · intro h
    split at h
    · cases h
    · next l hl =>
      obtain ⟨hcode, rfl⟩ := Prod.mk.inj h
      obtain ⟨v, hv, rfl⟩ := Option.map_eq_some_iff.mp hcode
      obtain ⟨hlow, hhigh⟩ := lead?_range hl
      obtain ⟨hbytes, hbits, hrange⟩ := eq_following_of_continue? hlow hhigh (Prod.ext hv rfl)
      obtain ⟨hcode, hb, hwidth⟩ := Lead.Fits.isCode hl ⟨hbits, hrange⟩
      rw [toNat_ofNat hcode, hb, hwidth, UInt8.ofNat_toNat]
      exact ⟨rfl, hbytes⟩
  · rintro ⟨rfl, rfl⟩
    have hcode : IsCode c.toNat := c.valid
    obtain ⟨l, hl, hfits⟩ := exists_lead? hcode
    obtain ⟨-, -, hwidth⟩ := hfits.isCode hl
    have hbyte : (UInt8.ofNat (leadByte c.toNat)).toNat = leadByte c.toNat := by
      rw [UInt8.toNat_ofNat', Nat.mod_eq_of_lt (leadByte_lt (toNat_lt_of_char c))]
    rw [hbyte, hl]
    dsimp only
    rw [hwidth, continue?_following _ _ _ _ hfits.2, ← hfits.1, Nat.div_add_mod', Option.map_some,
      Char.ofNat_toNat]

theorem length_next_le (b : UInt8) (bytes : List UInt8) :
    (next b bytes).2.length ≤ bytes.length := by
  unfold next
  split
  · exact Nat.le_refl _
  · exact length_continue?_le _ _ _ _ _

/-! ## All characters -/

theorem charsUpTo_cons (fuel : Nat) (b : UInt8) (bytes : List UInt8) :
    charsUpTo (fuel + 1) (b :: bytes) = (next b bytes).1 :: charsUpTo fuel (next b bytes).2 :=
  rfl

/-- Any two bounds give the same characters, if neither is smaller than what is read. -/
theorem charsUpTo_congr {m n : Nat} {bytes : List UInt8} (hm : bytes.length ≤ m)
    (hn : bytes.length ≤ n) : charsUpTo m bytes = charsUpTo n bytes := by
  induction m generalizing bytes n with
  | zero =>
    obtain rfl := List.eq_nil_of_length_eq_zero (Nat.le_zero.mp hm)
    cases n <;> rfl
  | succ m ih =>
    cases bytes with
    | nil => cases n <;> rfl
    | cons b bytes =>
      cases n with
      | zero => exact absurd hn (Nat.not_succ_le_zero _)
      | succ n =>
        have hrest := length_next_le b bytes
        rw [charsUpTo_cons, charsUpTo_cons, ih (Nat.le_trans hrest (Nat.le_of_succ_le_succ hm))
          (Nat.le_trans hrest (Nat.le_of_succ_le_succ hn))]

theorem chars_cons (b : UInt8) (bytes : List UInt8) :
    chars (b :: bytes) = (next b bytes).1 :: chars (next b bytes).2 := by
  unfold chars
  rw [List.length_cons, charsUpTo_cons, charsUpTo_congr (length_next_le b bytes) (Nat.le_refl _)]

/-- **Bytes are read as characters exactly if they are the bytes of these.** -/
theorem chars_eq_map_some_iff {bytes : List UInt8} {cs : List Char} :
    chars bytes = cs.map some ↔ bytes = cs.flatMap String.utf8EncodeChar := by
  induction cs generalizing bytes with
  | nil =>
    cases bytes with
    | nil => exact ⟨fun _ => rfl, fun _ => rfl⟩
    | cons b bytes =>
      rw [chars_cons]
      constructor <;> intro h <;> cases h
  | cons c cs ih =>
    cases bytes with
    | nil =>
      rw [List.flatMap_cons, encodeChar_eq]
      constructor <;> intro h <;> cases h
    | cons b bytes =>
      rw [chars_cons, List.map_cons, List.cons.injEq, ih, List.flatMap_cons, ← next_eq_some_iff,
        Prod.ext_iff]

theorem chars_encode (s : String) : chars (encode s) = s.toList.map some :=
  chars_eq_map_some_iff.mpr rfl

/-- The bytes of a text are shown as that text. -/
@[simp] theorem decodeLossy_encode (s : String) : decodeLossy (encode s) = s := by
  have hchars : (s.toList.map some).map (fun c : Option Char => c.getD '�') = s.toList := by
    rw [List.map_map]
    exact List.map_id s.toList
  unfold decodeLossy
  rw [chars_encode, hchars, String.ofList_toList]

theorem encode_inj {s t : String} : encode s = encode t ↔ s = t := by
  refine ⟨fun h => ?_, fun h => h ▸ rfl⟩
  rw [← decodeLossy_encode s, h, decodeLossy_encode]

/-- **Bytes are text exactly if they are the bytes of one.** -/
theorem decode?_eq_some_iff {bytes : List UInt8} {s : String} :
    decode? bytes = some s ↔ bytes = encode s := by
  unfold decode?
  constructor
  · intro h
    split at h
    · next hall =>
      refine chars_eq_map_some_iff.mp ?_
      rw [← Option.some.inj h, decodeLossy, String.toList_ofList, List.map_map]
      refine (List.map_id _).symm.trans (List.map_congr_left fun c hc => ?_)
      obtain ⟨x, rfl⟩ := Option.isSome_iff_exists.mp (List.all_eq_true.mp hall c hc)
      rfl
    · cases h
  · rintro rfl
    rw [decodeLossy_encode, if_pos]
    rw [chars_encode, List.all_map]
    exact List.all_eq_true.mpr fun _ _ => rfl

@[simp] theorem decode?_encode (s : String) : decode? (encode s) = some s :=
  decode?_eq_some_iff.mpr rfl

end ClassGraph.Text.Utf8
