import ClassGraph.Json.Writer
import ClassGraph.Proofs.JsonText
import ClassGraph.Proofs.Shortest

/-!
# What is written is one line of JSON

A value without blanks is written into one line, whatever texts it holds: `write` puts down no
control character (`printable_write`), since inside strings they are escaped and nowhere else does
one come up. And what is written is JSON, for **every** value, doubles included: the reader that gets
past a value takes exactly what is written for it (`takes_passValue`).

The doubles are why this file looks at numbers as a grammar has them, a whole part, a fraction and an
exponent. A whole part does not start with a zero unless it is zero, so the digits of a double must
not (`shortest_digits_pos`).
-/

set_option autoImplicit false

namespace ClassGraph.Json

open Decimal Read

/-! ## Numbers -/

/-- Nothing but decimal digits. -/
def AllDigits (cs : List Char) : Prop := ∀ c ∈ cs, c.isDigit = true

/-- A whole part: zero, or digits that do not start with zero. -/
def IsWhole (cs : List Char) : Prop :=
  cs = ['0'] ∨ ∃ d ds, cs = d :: ds ∧ d ≠ '0' ∧ AllDigits (d :: ds)

/-- A point and digits, or nothing. -/
def IsFraction (cs : List Char) : Prop :=
  cs = [] ∨ ∃ ds, cs = '.' :: ds ∧ ds ≠ [] ∧ AllDigits ds

/-- An exponent with its sign, or nothing. -/
def IsExponent (cs : List Char) : Prop :=
  cs = [] ∨ ∃ sign d ds, cs = 'e' :: sign :: d :: ds ∧ (sign = '+' ∨ sign = '-')
    ∧ AllDigits (d :: ds)

/-- A number without a sign. -/
def IsUnsigned (cs : List Char) : Prop :=
  ∃ whole fraction exponent, IsWhole whole ∧ IsFraction fraction ∧ IsExponent exponent
    ∧ cs = whole ++ (fraction ++ exponent)

/-- A number, perhaps behind a minus. -/
def IsNumber (cs : List Char) : Prop := IsUnsigned cs ∨ ∃ ds, cs = '-' :: ds ∧ IsUnsigned ds

@[simp] theorem allDigits_nil : AllDigits [] := fun _ hc => nomatch hc

@[simp] theorem allDigits_cons {c : Char} {cs : List Char} :
    AllDigits (c :: cs) ↔ c.isDigit = true ∧ AllDigits cs :=
  List.forall_mem_cons

@[simp] theorem allDigits_append {cs ds : List Char} :
    AllDigits (cs ++ ds) ↔ AllDigits cs ∧ AllDigits ds :=
  List.forall_mem_append

theorem allDigits_replicate_zero (n : Nat) : AllDigits (List.replicate n '0') := by
  intro c hc
  rw [List.eq_of_mem_replicate hc]
  rfl

theorem allDigits_toDigits (n : Nat) : AllDigits (Nat.toDigits 10 n) :=
  fun _ hc => Nat.isDigit_of_mem_toDigits (by omega) (by omega) hc

theorem isUnsigned_of_whole {cs : List Char} (h : IsWhole cs) : IsUnsigned cs :=
  ⟨cs, [], [], h, .inl rfl, .inl rfl, by simp⟩

/-- A natural number is written without zeros in front. -/
theorem isUnsigned_toDigits (n : Nat) : IsUnsigned (Nat.toDigits 10 n) := by
  apply isUnsigned_of_whole
  by_cases hn : n = 0
  · subst hn
    exact .inl (Nat.toDigits_zero 10)
  · obtain ⟨d, ds, htext, hd, hdigit, hds, -⟩ := toDigits_of_pos (Nat.pos_of_ne_zero hn)
    exact .inr ⟨d, ds, htext, hd, allDigits_cons.mpr ⟨hdigit, hds⟩⟩

theorem isNumber_writeInt (n : Int) : IsNumber (writeInt n) := by
  rw [writeInt]
  split
  · exact .inr ⟨_, rfl, isUnsigned_toDigits _⟩
  · exact .inl (isUnsigned_toDigits _)

theorem isExponent_writeExponent (n : Int) : IsExponent (writeExponent n) := by
  have hdigits := allDigits_toDigits n.natAbs
  obtain ⟨d, ds, htext, -⟩ := toDigits_eq_cons n.natAbs
  rw [htext] at hdigits
  refine .inr ?_
  rw [writeExponent, writeInt, htext]
  split
  · exact ⟨'-', d, ds, rfl, .inr rfl, hdigits⟩
  · exact ⟨'+', d, ds, rfl, .inl rfl, hdigits⟩

/-- Digits that do not start with zero make a number wherever the point is put. -/
theorem isUnsigned_writeDigits {d : Char} {ds : List Char} (hzero : d ≠ '0')
    (hdigits : AllDigits (d :: ds)) (point : Int) : IsUnsigned (writeDigits (d :: ds) point) := by
  obtain ⟨hd, hds⟩ := allDigits_cons.mp hdigits
  have hwhole : ∀ cs, AllDigits cs → IsWhole (d :: cs) :=
    fun cs hcs => .inr ⟨d, cs, rfl, hzero, allDigits_cons.mpr ⟨hd, hcs⟩⟩
  unfold writeDigits
  dsimp only
  split
  · -- The point stands behind all digits.
    have hzeros := allDigits_append.mpr ⟨hds, allDigits_replicate_zero (point.toNat - (d :: ds).length)⟩
    exact ⟨_, ['.', '0'], [], hwhole _ hzeros, .inr ⟨['0'], rfl, by simp, by simp⟩, .inl rfl, by simp⟩
  · split
    · next hlong hpoint =>
      -- The point stands among the digits, behind the first at least.
      obtain ⟨n, hn⟩ : ∃ n, point.toNat = n + 1 := ⟨point.toNat - 1, by omega⟩
      have hlength : n < ds.length := by
        simp only [List.length_cons] at hlong
        omega
      rw [hn, List.take_succ_cons, List.drop_succ_cons]
      refine ⟨d :: ds.take n, '.' :: ds.drop n, [], hwhole _ ?_, .inr ⟨_, rfl, ?_, ?_⟩, .inl rfl,
        by simp⟩
      · exact fun c hc => hds c (List.mem_of_mem_take hc)
      · simpa using hlength
      · exact fun c hc => hds c (List.mem_of_mem_drop hc)
    · split
      · -- The point stands before all digits.
        have hzeros := allDigits_append.mpr ⟨allDigits_replicate_zero (-point).toNat, hdigits⟩
        exact ⟨['0'], _, [], .inl rfl, .inr ⟨_, rfl, by simp, hzeros⟩, .inl rfl, by simp⟩
      · -- The point stands behind the first digit, if there are more, and an exponent follows.
        have hexponent := isExponent_writeExponent (point - 1)
        cases ds with
        | nil => exact ⟨[d], [], _, hwhole [] allDigits_nil, .inl rfl, hexponent, rfl⟩
        | cons e ds =>
          exact ⟨[d], '.' :: e :: ds, _, hwhole [] allDigits_nil, .inr ⟨_, rfl, by simp, hds⟩,
            hexponent, rfl⟩

/-- A double is written as a number, since its shortest digits do not start with zero. -/
theorem isNumber_writeFloat (x : Float) : IsNumber (writeFloat x) := by
  have hunsigned : IsUnsigned (if (Binary.ofFloat x).mantissa = 0 then ['0', '.', '0']
      else writeDigits (Nat.toDigits 10 (shortest (Binary.ofFloat x)).digits)
        ((Nat.toDigits 10 (shortest (Binary.ofFloat x)).digits).length
          + (shortest (Binary.ofFloat x)).exponent)) := by
    split
    · exact ⟨['0'], ['.', '0'], [], .inl rfl, .inr ⟨['0'], rfl, by simp, by simp⟩, .inl rfl, rfl⟩
    · next hmantissa =>
      have hpos := shortest_digits_pos (Nat.pos_of_ne_zero hmantissa) (Binary.exponent_ofFloat x)
      obtain ⟨d, ds, htext, hd, hdigit, hds, -⟩ := toDigits_of_pos hpos
      rw [htext]
      exact isUnsigned_writeDigits hd (allDigits_cons.mpr ⟨hdigit, hds⟩) _
  rw [writeFloat]
  dsimp only
  split
  · exact .inr ⟨_, rfl, hunsigned⟩
  · exact .inl hunsigned

theorem isNumber_write (n : Number) : IsNumber n.write := by
  cases n with
  | int n => exact isNumber_writeInt n
  | float x => exact isNumber_writeFloat x

/-! ## One line -/

/-- There is no control character, so no line break. -/
def Printable (cs : List Char) : Prop := ∀ c ∈ cs, 32 ≤ c.toNat

@[simp] theorem printable_nil : Printable [] := fun _ hc => nomatch hc

@[simp] theorem printable_cons {c : Char} {cs : List Char} :
    Printable (c :: cs) ↔ 32 ≤ c.toNat ∧ Printable cs :=
  List.forall_mem_cons

@[simp] theorem printable_append {cs ds : List Char} :
    Printable (cs ++ ds) ↔ Printable cs ∧ Printable ds :=
  List.forall_mem_append

theorem AllDigits.printable {cs : List Char} (h : AllDigits cs) : Printable cs := by
  intro c hc
  have hdigit := h c hc
  simp only [Char.isDigit, Bool.and_eq_true, decide_eq_true_eq] at hdigit
  have hzero : 48 ≤ c.toNat := UInt32.le_iff_toNat_le.mp hdigit.1
  omega

theorem IsUnsigned.printable {cs : List Char} (h : IsUnsigned cs) : Printable cs := by
  obtain ⟨whole, fraction, exponent, hwhole, hfraction, hexponent, rfl⟩ := h
  simp only [printable_append]
  refine ⟨?_, ?_, ?_⟩
  · rcases hwhole with rfl | ⟨d, ds, rfl, -, hds⟩
    · simp
    · exact hds.printable
  · rcases hfraction with rfl | ⟨ds, rfl, -, hds⟩
    · simp
    · simpa using hds.printable
  · rcases hexponent with rfl | ⟨sign, d, ds, rfl, rfl | rfl, hds⟩
    · simp
    · simpa using hds.printable
    · simpa using hds.printable

theorem IsNumber.printable {cs : List Char} (h : IsNumber cs) : Printable cs := by
  rcases h with h | ⟨ds, rfl, h⟩
  · exact h.printable
  · simpa using h.printable

/-- Control characters are escaped, and no escape has one. -/
theorem printable_escapeChar (c : Char) : Printable (escapeChar c) := by
  rcases escapeChar_shapes c with ⟨hself, -, -, hcontrol⟩ | ⟨d, hd, hescape, -⟩ | ⟨hescape, hcontrol⟩
  · rw [hself]
    simpa using hcontrol
  · rw [hescape]
    simp only [List.mem_cons, List.not_mem_nil, or_false] at hd
    rcases hd with rfl | rfl | rfl | rfl | rfl | rfl | rfl <;> simp
  · have hcode : ∀ n < 32, (hex4 n).all (fun c => 32 ≤ c.toNat) = true := by decide
    rw [hescape]
    simpa [Printable] using List.all_eq_true.mp (hcode _ hcontrol)

theorem printable_writeString (s : String) : Printable (writeString s) := by
  have hchars : Printable (s.toList.flatMap escapeChar) := by
    intro c hc
    obtain ⟨d, -, hd⟩ := List.mem_flatMap.mp hc
    exact printable_escapeChar d c hd
  simp [writeString, hchars]

mutual

/-- **No control character is written.** -/
theorem printable_write : ∀ v : Json, Printable (write v)
  | .null => by simp [write]
  | .bool b => by cases b <;> simp [write, writeBool]
  | .num n => (isNumber_write n).printable
  | .str s => printable_writeString s
  | .arr [] => by simp [write]
  | .arr (x :: xs) => by simp [write, printable_write x, printable_writeItems xs]
  | .obj [] => by simp [write]
  | .obj ((k, v) :: ms) => by
    simp [write, printable_writeString k, printable_write v, printable_writeMembers ms]

theorem printable_writeItems : ∀ xs : List Json, Printable (writeItems xs)
  | [] => by simp [writeItems]
  | x :: xs => by simp [writeItems, printable_write x, printable_writeItems xs]

theorem printable_writeMembers : ∀ ms : List (String × Json), Printable (writeMembers ms)
  | [] => by simp [writeMembers]
  | (k, v) :: ms => by
    simp [writeMembers, printable_writeString k, printable_write v, printable_writeMembers ms]

end

/-- A value is written into one line. -/
theorem newline_notMem_compact (v : Json) : '\n' ∉ v.compact.toList := by
  intro hc
  rw [compact, String.toList_ofList] at hc
  exact absurd (printable_write v '\n' hc) (by decide)

/-! ## Passing over what is written -/

namespace Read

section

variable {rest : List Char}

/-- What comes after the digits of a whole part is not another one. -/
theorem notDigit_head {fraction exponent : List Char} (hfraction : IsFraction fraction)
    (hexponent : IsExponent exponent) (hrest : EndsNumber rest) :
    ∀ c ∈ (fraction ++ exponent ++ rest).head?, c.isDigit = false := by
  rcases hfraction with rfl | ⟨ds, rfl, -, -⟩
  · rcases hexponent with rfl | ⟨sign, d, ds, rfl, -, -⟩
    · exact fun c hc => (hrest c hc).1
    · rintro c ⟨⟩
      rfl
  · rintro c ⟨⟩
    rfl

/-- An exponent is passed over up to its last digit. -/
theorem takes_passExponent {sign d : Char} {ds : List Char} (hsign : sign = '+' ∨ sign = '-')
    (hds : AllDigits (d :: ds)) (hrest : EndsNumber rest) :
    Takes passExponent ('e' :: sign :: d :: ds) () rest := by
  obtain ⟨hd, hds⟩ := allDigits_cons.mp hds
  have hstop : ∀ c ∈ rest.head?, c.isDigit = false := fun c hc => (hrest c hc).1
  refine (takes_skip 'e' _).bind_cons ((takes_peek _).bind_nil ?_)
  dsimp only
  rw [List.cons_append, List.head?_cons, if_pos (by simpa using hsign)]
  refine (takes_skip sign _).bind_cons ((takes_next d _).bind_cons ?_)
  dsimp only
  rw [if_pos hd]
  exact (takes_digits hds hstop).bind_all (takes_pure _ _)

/-- What follows the whole part is passed over: the fraction if there is one, and the exponent. -/
theorem takes_passAfterDigits {fraction exponent : List Char} (hfraction : IsFraction fraction)
    (hexponent : IsExponent exponent) (hrest : EndsNumber rest) :
    Takes passAfterDigits (fraction ++ exponent) () rest := by
  refine (takes_peek _).bind_nil ?_
  rcases hfraction with rfl | ⟨ds, rfl, hne, hds⟩
  · rcases hexponent with rfl | ⟨sign, d, ds, rfl, hsign, hds⟩
    · split
      · next h => exact absurd rfl (hrest _ h).2.1
      · next h => exact absurd rfl (hrest _ h).2.2.1
      · next h => exact absurd rfl (hrest _ h).2.2.2
      · exact takes_pure _ _
    · exact takes_passExponent hsign hds hrest
  · have hstop := notDigit_head (.inl rfl) hexponent hrest
    refine (takes_skip '.' _).bind_cons ((takes_digits hds hstop).bind ?_)
    rw [if_neg (by simpa using hne)]
    refine (takes_peek _).bind_nil ?_
    rcases hexponent with rfl | ⟨sign, d, ds, rfl, hsign, hds⟩
    · split
      · next h => exact absurd rfl (hrest _ h).2.2.1
      · next h => exact absurd rfl (hrest _ h).2.2.2
      · exact takes_pure _ _
    · exact takes_passExponent hsign hds hrest

/-- **A number is passed over**, if what follows cannot go on with it. -/
theorem takes_passNumber {cs : List Char} (h : IsUnsigned cs) (hrest : EndsNumber rest) :
    Takes passNumber cs () rest := by
  obtain ⟨whole, fraction, exponent, hwhole, hfraction, hexponent, rfl⟩ := h
  have hstop := notDigit_head hfraction hexponent hrest
  have hafter := takes_passAfterDigits hfraction hexponent hrest
  rcases hwhole with rfl | ⟨d, ds, rfl, hzero, hds⟩
  · refine (takes_next '0' _).bind_cons ?_
    dsimp only
    rw [if_pos rfl]
    refine (takes_peek _).bind_nil ?_
    split
    · next d hd =>
      rw [hstop d hd]
      exact hafter
    · exact hafter
  · obtain ⟨hd, hds⟩ := allDigits_cons.mp hds
    refine (takes_next d _).bind_cons ?_
    dsimp only
    rw [if_neg hzero, if_pos hd]
    exact (takes_digits hds hstop).bind hafter

/-- One character after the other is passed over, escaped or not, up to the quote. -/
theorem takes_passStringUpTo (cs : List Char) (fuel : Nat) (hfuel : cs.length < fuel) :
    Takes (passStringUpTo fuel) (cs.flatMap escapeChar ++ ['"']) () rest := by
  induction cs generalizing fuel with
  | nil =>
    obtain ⟨fuel, rfl⟩ := Nat.exists_eq_succ_of_ne_zero (Nat.ne_of_gt hfuel)
    refine (takes_peek _).bind_nil ?_
    exact takes_skip '"' rest
  | cons c cs ih =>
    obtain ⟨fuel, rfl⟩ := Nat.exists_eq_succ_of_ne_zero (Nat.ne_of_gt (Nat.zero_lt_of_lt hfuel))
    have hlater := ih fuel (Nat.lt_of_succ_lt_succ hfuel)
    rw [List.flatMap_cons, List.append_assoc]
    refine (takes_peek _).bind_nil ?_
    rcases escapeChar_cases c with ⟨hself, hquote, hslash, hcontrol⟩ | ⟨es, hescape, htakes⟩
    · rw [hself, List.cons_append, List.cons_append, List.head?_cons]
      dsimp only
      rw [if_neg hquote, if_neg hslash, if_neg hcontrol]
      exact (takes_skip c _).bind_cons hlater
    · rw [hescape, List.cons_append, List.cons_append, List.head?_cons]
      dsimp only
      rw [if_neg (by decide), if_pos rfl]
      exact (takes_skip '\\' _).bind_cons ((htakes _).2.bind hlater)

theorem takes_passString (s : String) :
    Takes passString (s.toList.flatMap escapeChar ++ ['"']) () rest := by
  intro p
  have hlength := length_le_length_flatMap_escapeChar s.toList
  refine takes_passStringUpTo s.toList _ ?_ p
  simp only [List.length_append]
  omega

end

theorem head_of_isUnsigned {cs : List Char} (h : IsUnsigned cs) :
    ∃ c ds, cs = c :: ds ∧ c.isDigit = true := by
  obtain ⟨whole, fraction, exponent, hwhole, -, -, rfl⟩ := h
  rcases hwhole with rfl | ⟨d, ds, rfl, -, hds⟩
  · exact ⟨_, _, rfl, rfl⟩
  · exact ⟨_, _, rfl, (allDigits_cons.mp hds).1⟩

/-- What is written starts with its token. -/
theorem write_head (v : Json) : ∃ c ds, write v = c :: ds ∧ isBlank c = false ∧ c ≠ ']' := by
  match v with
  | .null => exact ⟨_, _, rfl, by decide, by decide⟩
  | .bool b => cases b <;> exact ⟨_, _, rfl, by decide, by decide⟩
  | .num n =>
    rcases isNumber_write n with h | ⟨ds, htext, -⟩
    · obtain ⟨c, ds, htext, hdigit⟩ := head_of_isUnsigned h
      exact ⟨c, ds, htext, isBlank_of_isDigit hdigit, ne_of_isDigit hdigit rfl⟩
    · exact ⟨_, _, htext, by decide, by decide⟩
  | .str s => exact ⟨_, _, rfl, by decide, by decide⟩
  | .arr [] => exact ⟨_, _, rfl, by decide, by decide⟩
  | .arr (x :: xs) => exact ⟨_, _, rfl, by decide, by decide⟩
  | .obj [] => exact ⟨_, _, rfl, by decide, by decide⟩
  | .obj (m :: ms) => exact ⟨_, _, rfl, by decide, by decide⟩

theorem length_write_pos (v : Json) : 0 < (write v).length := by
  obtain ⟨c, ds, htext, -⟩ := write_head v
  rw [htext]
  exact Nat.succ_pos _

theorem length_writeItems_pos (xs : List Json) : 0 < (writeItems xs).length := by
  cases xs <;> exact Nat.succ_pos _

theorem length_writeMembers_pos (ms : List (String × Json)) : 0 < (writeMembers ms).length := by
  cases ms <;> exact Nat.succ_pos _

section

variable (rest : List Char)

/-- Behind an item comes a comma or the end of the list, which ends a number. -/
theorem endsNumber_writeItems (xs : List Json) : EndsNumber (writeItems xs ++ rest) := by
  cases xs with
  | nil => exact endsNumber_cons (.inr (.inr (.inl rfl))) rest
  | cons x xs => exact endsNumber_cons (.inr (.inl rfl)) _

theorem endsNumber_writeMembers (ms : List (String × Json)) :
    EndsNumber (writeMembers ms ++ rest) := by
  cases ms with
  | nil => exact endsNumber_cons (.inr (.inr (.inr rfl))) rest
  | cons m ms => exact endsNumber_cons (.inr (.inl rfl)) _

theorem takes_passValueUpTo_null (fuel : Nat) :
    Takes (passValueUpTo (fuel + 1)) ['n', 'u', 'l', 'l'] () rest := by
  rw [passValueUpTo]
  refine (takes_peekToken blanks_nil (by decide) _).bind_nil ?_
  dsimp only
  rw [if_pos rfl]
  exact (takes_skip 'n' _).bind_cons (takes_word _ rest)

theorem takes_passValueUpTo_bool (fuel : Nat) (b : Bool) :
    Takes (passValueUpTo (fuel + 1)) (writeBool b) () rest := by
  rw [passValueUpTo]
  cases b with
  | true =>
    refine (takes_peekToken blanks_nil (by decide) _).bind_nil ?_
    dsimp only
    rw [if_neg (by decide), if_pos rfl]
    exact (takes_skip 't' _).bind_cons (takes_word _ rest)
  | false =>
    refine (takes_peekToken blanks_nil (by decide) _).bind_nil ?_
    dsimp only
    rw [if_neg (by decide), if_neg (by decide), if_pos rfl]
    exact (takes_skip 'f' _).bind_cons (takes_word _ rest)

theorem takes_passValueUpTo_str (fuel : Nat) (s : String) :
    Takes (passValueUpTo (fuel + 1)) (writeString s) () rest := by
  rw [passValueUpTo]
  refine (takes_peekToken blanks_nil (by decide) _).bind_nil ?_
  dsimp only
  rw [if_neg (by decide), if_neg (by decide), if_neg (by decide), if_neg (by decide),
    if_neg (by decide), if_pos rfl]
  exact (takes_skip '"' _).bind_cons (takes_passString s)

variable {rest} in
theorem takes_passValueUpTo_num (fuel : Nat) (n : Number) (hrest : EndsNumber rest) :
    Takes (passValueUpTo (fuel + 1)) n.write () rest := by
  rw [passValueUpTo]
  rcases isNumber_write n with hnumber | ⟨ds, htext, hnumber⟩
  · have hpass := takes_passNumber hnumber hrest
    obtain ⟨c, ds, htext, hdigit⟩ := head_of_isUnsigned hnumber
    rw [htext] at hpass ⊢
    refine (takes_peekToken blanks_nil (isBlank_of_isDigit hdigit) _).bind_nil ?_
    dsimp only
    rw [if_neg (ne_of_isDigit hdigit rfl), if_neg (ne_of_isDigit hdigit rfl),
      if_neg (ne_of_isDigit hdigit rfl), if_neg (ne_of_isDigit hdigit rfl), if_pos hdigit]
    exact hpass
  · rw [htext]
    refine (takes_peekToken blanks_nil (by decide) _).bind_nil ?_
    dsimp only
    rw [if_neg (by decide), if_neg (by decide), if_neg (by decide), if_pos rfl]
    exact (takes_skip '-' _).bind_cons (takes_passNumber hnumber hrest)

/-- A list is over at its bracket, whether or not anything came before. -/
theorem takes_passItemsUpTo_end (fuel : Nat) (first : Bool) :
    Takes (passItemsUpTo (fuel + 1) first) [']'] () rest := by
  rw [passItemsUpTo]
  refine (takes_peekToken blanks_nil (by decide) _).bind_nil ?_
  dsimp only
  rw [if_pos rfl]
  exact takes_skip _ rest

theorem takes_passMembersUpTo_end (fuel : Nat) (first : Bool) :
    Takes (passMembersUpTo (fuel + 1) first) ['\x7d'] () rest := by
  rw [passMembersUpTo]
  refine (takes_peekToken blanks_nil (by decide) _).bind_nil ?_
  dsimp only
  rw [if_pos rfl]
  exact takes_skip _ rest

end

/-- **What is written is passed over in so many steps as it has characters**: a value, the items of a
    list and the members of an object, from the first one on and from a comma on. -/
structure Passes (fuel : Nat) : Prop where
  value : ∀ v rest, (write v).length ≤ fuel → EndsNumber rest →
    Takes (passValueUpTo fuel) (write v) () rest
  firstItem : ∀ x xs rest, (write x ++ writeItems xs).length ≤ fuel →
    Takes (passItemsUpTo fuel true) (write x ++ writeItems xs) () rest
  items : ∀ xs rest, (writeItems xs).length ≤ fuel →
    Takes (passItemsUpTo fuel false) (writeItems xs) () rest
  firstMember : ∀ k v ms rest,
    (writeString k ++ ':' :: (write v ++ writeMembers ms)).length ≤ fuel →
    Takes (passMembersUpTo fuel true) (writeString k ++ ':' :: (write v ++ writeMembers ms)) () rest
  members : ∀ ms rest, (writeMembers ms).length ≤ fuel →
    Takes (passMembersUpTo fuel false) (writeMembers ms) () rest

section

variable {fuel : Nat} (h : Passes fuel)
include h

/-- An item and those behind it: both are shorter than all of them, so the bound is large enough. -/
theorem Passes.itemsFrom (x : Json) (xs : List Json) (rest : List Char)
    (hfuel : (write x ++ writeItems xs).length ≤ fuel + 1) :
    Takes (do passValueUpTo fuel; passItemsUpTo fuel false) (write x ++ writeItems xs) () rest := by
  have hx := length_write_pos x
  have hxs := length_writeItems_pos xs
  rw [List.length_append] at hfuel
  exact (h.value x _ (by omega) (endsNumber_writeItems rest xs)).bind (h.items xs rest (by omega))

/-- One step more for the first item, which has no comma in front. -/
theorem Passes.firstItem_succ (x : Json) (xs : List Json) (rest : List Char)
    (hfuel : (write x ++ writeItems xs).length ≤ fuel + 1) :
    Takes (passItemsUpTo (fuel + 1) true) (write x ++ writeItems xs) () rest := by
  have hlater := h.itemsFrom x xs rest hfuel
  obtain ⟨c, ds, htext, hblank, hc⟩ := write_head x
  rw [passItemsUpTo]
  rw [htext] at hlater ⊢
  refine (takes_peekToken blanks_nil hblank _).bind_nil ?_
  dsimp only
  rw [if_neg hc, if_pos rfl]
  exact hlater

/-- One step more for further items: a comma and an item, or the end. -/
theorem Passes.items_succ (xs : List Json) (rest : List Char)
    (hfuel : (writeItems xs).length ≤ fuel + 1) :
    Takes (passItemsUpTo (fuel + 1) false) (writeItems xs) () rest := by
  cases xs with
  | nil => exact takes_passItemsUpTo_end rest fuel false
  | cons x xs =>
    have hlater := h.itemsFrom x xs rest (Nat.le_of_succ_le hfuel)
    rw [passItemsUpTo]
    refine (takes_peekToken blanks_nil (by decide) _).bind_nil ?_
    dsimp only
    rw [if_neg (by decide), if_neg (by decide), if_pos rfl]
    exact (takes_skip ',' _).bind_cons hlater

/-- A member and those behind it, from the quote of its key on. -/
theorem Passes.membersFrom (k : String) (v : Json) (ms : List (String × Json)) (rest : List Char)
    (hfuel : (writeString k ++ ':' :: (write v ++ writeMembers ms)).length ≤ fuel + 1) :
    Takes (do skip; passString; colon; passValueUpTo fuel; passMembersUpTo fuel false)
      (writeString k ++ ':' :: (write v ++ writeMembers ms)) () rest := by
  simp only [List.length_append, List.length_cons] at hfuel
  have hvalue := h.value v _ (by omega) (endsNumber_writeMembers rest ms)
  have hmembers := h.members ms rest (by omega)
  refine (takes_skip '"' _).bind_cons ((takes_passString k).bind ?_)
  exact (takes_colon blanks_nil _).bind_cons (hvalue.bind hmembers)

theorem Passes.firstMember_succ (k : String) (v : Json) (ms : List (String × Json))
    (rest : List Char)
    (hfuel : (writeString k ++ ':' :: (write v ++ writeMembers ms)).length ≤ fuel + 1) :
    Takes (passMembersUpTo (fuel + 1) true) (writeString k ++ ':' :: (write v ++ writeMembers ms)) ()
      rest := by
  rw [passMembersUpTo]
  refine (takes_peekToken blanks_nil (by decide) _).bind_nil ?_
  dsimp only
  rw [if_neg (by decide), if_neg (by decide), if_neg (by decide)]
  refine (takes_peekToken blanks_nil (by decide) _).bind_nil ?_
  dsimp only
  rw [if_neg (by decide)]
  exact h.membersFrom k v ms rest hfuel

/-- One step more for further members. A comma must not be the last thing. -/
theorem Passes.members_succ (ms : List (String × Json)) (rest : List Char)
    (hfuel : (writeMembers ms).length ≤ fuel + 1) :
    Takes (passMembersUpTo (fuel + 1) false) (writeMembers ms) () rest := by
  cases ms with
  | nil => exact takes_passMembersUpTo_end rest fuel false
  | cons m ms =>
    have hlater := h.membersFrom m.1 m.2 ms rest (Nat.le_of_succ_le hfuel)
    rw [passMembersUpTo]
    refine (takes_peekToken blanks_nil (by decide) _).bind_nil ?_
    dsimp only
    rw [if_neg (by decide), if_neg (by decide), if_pos (by decide)]
    refine (takes_skip ',' _).bind_cons ((takes_peekToken blanks_nil (by decide) _).bind_nil ?_)
    dsimp only
    rw [if_neg (by decide)]
    exact hlater

theorem Passes.arr_succ (xs : List Json) (rest : List Char)
    (hfuel : (write (.arr xs)).length ≤ fuel + 1) :
    Takes (passValueUpTo (fuel + 1)) (write (.arr xs)) () rest := by
  have hitems : ∃ cs, write (.arr xs) = '[' :: cs ∧ Takes (passItemsUpTo fuel true) cs () rest := by
    cases xs with
    | nil =>
      obtain ⟨fuel, rfl⟩ := Nat.exists_eq_succ_of_ne_zero
        (Nat.ne_of_gt (Nat.le_of_succ_le_succ hfuel))
      exact ⟨_, rfl, takes_passItemsUpTo_end rest fuel true⟩
    | cons x xs => exact ⟨_, rfl, h.firstItem x xs rest (Nat.le_of_succ_le_succ hfuel)⟩
  obtain ⟨cs, htext, hitems⟩ := hitems
  rw [htext, passValueUpTo]
  refine (takes_peekToken blanks_nil (by decide) _).bind_nil ?_
  dsimp only
  rw [if_neg (by decide), if_neg (by decide), if_neg (by decide), if_neg (by decide),
    if_neg (by decide), if_neg (by decide), if_pos rfl]
  exact (takes_skip '[' _).bind_cons hitems

theorem Passes.obj_succ (ms : List (String × Json)) (rest : List Char)
    (hfuel : (write (.obj ms)).length ≤ fuel + 1) :
    Takes (passValueUpTo (fuel + 1)) (write (.obj ms)) () rest := by
  have hmembers : ∃ cs, write (.obj ms) = '\x7b' :: cs
      ∧ Takes (passMembersUpTo fuel true) cs () rest := by
    cases ms with
    | nil =>
      obtain ⟨fuel, rfl⟩ := Nat.exists_eq_succ_of_ne_zero
        (Nat.ne_of_gt (Nat.le_of_succ_le_succ hfuel))
      exact ⟨_, rfl, takes_passMembersUpTo_end rest fuel true⟩
    | cons m ms => exact ⟨_, rfl, h.firstMember m.1 m.2 ms rest (Nat.le_of_succ_le_succ hfuel)⟩
  obtain ⟨cs, htext, hmembers⟩ := hmembers
  rw [htext, passValueUpTo]
  refine (takes_peekToken blanks_nil (by decide) _).bind_nil ?_
  dsimp only
  rw [if_neg (by decide), if_neg (by decide), if_neg (by decide), if_neg (by decide),
    if_neg (by decide), if_neg (by decide), if_neg (by decide), if_pos rfl]
  exact (takes_skip '\x7b' _).bind_cons hmembers

/-- One step more for a value, one case per constructor. -/
theorem Passes.value_succ (v : Json) (rest : List Char) (hfuel : (write v).length ≤ fuel + 1)
    (hrest : EndsNumber rest) : Takes (passValueUpTo (fuel + 1)) (write v) () rest := by
  cases v with
  | null => exact takes_passValueUpTo_null rest fuel
  | bool b => exact takes_passValueUpTo_bool rest fuel b
  | num n => exact takes_passValueUpTo_num fuel n hrest
  | str s => exact takes_passValueUpTo_str rest fuel s
  | arr xs => exact h.arr_succ xs rest hfuel
  | obj ms => exact h.obj_succ ms rest hfuel

end

/-- By induction on the bound: every step looks at something shorter. -/
theorem passes (fuel : Nat) : Passes fuel := by
  induction fuel with
  | zero =>
    -- Nothing that is written is empty.
    constructor
    · exact fun v rest hfuel => absurd (length_write_pos v) (by omega)
    · exact fun x xs rest hfuel => absurd (length_writeItems_pos xs) (by
        rw [List.length_append] at hfuel
        omega)
    · exact fun xs rest hfuel => absurd (length_writeItems_pos xs) (by omega)
    · exact fun k v ms rest hfuel => absurd hfuel (by simp)
    · exact fun ms rest hfuel => absurd (length_writeMembers_pos ms) (by omega)
  | succ fuel ih =>
    exact ⟨ih.value_succ, ih.firstItem_succ, ih.items_succ, ih.firstMember_succ, ih.members_succ⟩

/-- **Everything that is written is passed over**, by the reader of values of which nothing is asked
    but that they are JSON. -/
theorem takes_passValue (v : Json) {rest : List Char} (hrest : EndsNumber rest) :
    Takes passValue (write v) () rest := by
  intro p
  have hlength : (write v).length ≤ 2 * (write v ++ rest).length + 2 := by
    rw [List.length_append]
    omega
  exact (passes _).value v rest hlength hrest p

end Read

/-- The text is JSON: one value, and nothing but blanks around it. -/
def IsJson (text : String) : Prop := fromText (fun _ => passValue) text = .ok ()

/-- **What is written for a value is JSON.** -/
theorem isJson_compact (v : Json) : IsJson v.compact := by
  have htext : v.compact.toList = write v ++ [] := by
    rw [compact, String.toList_ofList, List.append_nil]
  exact fromText_of_takes htext blanks_nil (takes_passValue v (endsNumber_of_blanks blanks_nil))

end ClassGraph.Json
