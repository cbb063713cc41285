import ClassGraph.Json.Reader

/-!
# What readers take off a text

A reader moves along a text and gives a value, and what it does depends on the text only.
`Takes r cs a rest` says that `r` takes exactly `cs` off a text that goes on with `rest`, and gives
`a`; where in the text it stands makes no difference. Readers that follow each other take texts that
follow each other (`Takes.bind`), so a reader is followed along a text the way it is written.

The file goes as far as the tokens: every string is taken from the text that is written for it
(`takes_string`), whatever has to be escaped in it, and every integer of 64 bits from its digits
(`takes_number`), unless a digit or the rest of another number follows.
-/

set_option autoImplicit false

namespace ClassGraph.Json.Read

variable {α β : Type}

/-- The reader takes `cs` off a text that goes on with `rest`, and gives `a`. -/
def Takes (r : Read α) (cs : List Char) (a : α) (rest : List Char) : Prop :=
  ∀ p, ∃ p', r ⟨cs ++ rest, p⟩ = .ok a ⟨rest, p'⟩

/-! ## Readers in a row -/

theorem takes_pure (a : α) (rest : List Char) : Takes (pure a) [] a rest :=
  fun p => ⟨p, rfl⟩

theorem Takes.bind {r : Read α} {f : α → Read β} {cs ds rest : List Char} {a : α} {b : β}
    (hr : Takes r cs a (ds ++ rest)) (hf : Takes (f a) ds b rest) :
    Takes (r >>= f) (cs ++ ds) b rest := by
  intro p
  obtain ⟨p', hp⟩ := hr p
  obtain ⟨p'', hp'⟩ := hf p'
  refine ⟨p'', ?_⟩
  rw [← List.append_assoc] at hp
  show EStateM.bind r f _ = _
  rw [EStateM.bind, hp]
  exact hp'

section

variable {r : Read α} {f : α → Read β} {c : Char} {cs rest : List Char} {a : α} {b : β}

/-- The first reader only looks. -/
theorem Takes.bind_nil (hr : Takes r [] a (cs ++ rest)) (hf : Takes (f a) cs b rest) :
    Takes (r >>= f) cs b rest :=
  hr.bind hf

/-- The first reader takes one character. -/
theorem Takes.bind_cons (hr : Takes r [c] a (cs ++ rest)) (hf : Takes (f a) cs b rest) :
    Takes (r >>= f) (c :: cs) b rest :=
  hr.bind hf

/-- The first reader takes everything. -/
theorem Takes.bind_all (hr : Takes r cs a rest) (hf : Takes (f a) [] b rest) :
    Takes (r >>= f) cs b rest := by
  rw [← List.append_nil cs]
  exact hr.bind hf

end

theorem takes_skip (c : Char) (rest : List Char) : Takes skip [c] () rest :=
  fun p => ⟨p.after c, rfl⟩

theorem takes_next (c : Char) (rest : List Char) : Takes next [c] (some c) rest :=
  fun p => ⟨p.after c, rfl⟩

theorem takes_peek (rest : List Char) : Takes peek [] rest.head? rest :=
  fun p => ⟨p, rfl⟩

/-- Nothing but blanks. -/
def Blanks (ws : List Char) : Prop := ∀ c ∈ ws, isBlank c = true

theorem blanks_nil : Blanks [] := fun _ hc => nomatch hc

theorem dropBlanks_append {ws : List Char} (hws : Blanks ws) (rest : List Char) (p : Position) :
    ∃ p', dropBlanks (ws ++ rest) p = dropBlanks rest p' := by
  induction ws generalizing p with
  | nil => exact ⟨p, rfl⟩
  | cons c ws ih =>
    obtain ⟨p', hp⟩ := ih (fun d hd => hws d (List.mem_cons_of_mem c hd)) (p.after c)
    refine ⟨p', ?_⟩
    rw [List.cons_append, dropBlanks, if_pos (hws c List.mem_cons_self), hp]

/-- The next token is seen behind the blanks. -/
theorem takes_peekToken {ws : List Char} (hws : Blanks ws) {c : Char} (hc : isBlank c = false)
    (rest : List Char) : Takes peekToken ws (some c) (c :: rest) := by
  intro p
  obtain ⟨p', hp⟩ := dropBlanks_append hws (c :: rest) p
  refine ⟨p', ?_⟩
  simp only [peekToken, hp, dropBlanks, hc]
  rfl

theorem takes_peekToken_nil {ws : List Char} (hws : Blanks ws) : Takes peekToken ws none [] := by
  intro p
  obtain ⟨p', hp⟩ := dropBlanks_append hws [] p
  refine ⟨p', ?_⟩
  simp only [peekToken, hp, dropBlanks]
  rfl

theorem takes_word : ∀ (w : List Char) (rest : List Char), Takes (word w) w () rest
  | [], rest => takes_pure () rest
  | c :: w, rest => by
    refine (takes_next c (w ++ rest)).bind ?_
    dsimp only
    rw [if_pos rfl]
    exact takes_word w rest

/-! ## Strings -/

theorem takes_hexEscape {n : Nat} (hn : n < 32) (rest : List Char) :
    Takes hexEscape (hex4 n) n rest := by
  have hvalue : ∀ n < 32, hex4 n = ['0', '0', (n / 16).digitChar, (n % 16).digitChar]
      ∧ hexValue? '0' '0' (n / 16).digitChar (n % 16).digitChar = some n := by
    decide
  obtain ⟨hdigits, hvalue⟩ := hvalue n hn
  intro p
  refine ⟨⟨p.line, p.column + 4⟩, ?_⟩
  rw [hdigits]
  simp only [hexEscape, List.cons_append, List.nil_append, hvalue]

theorem takes_nextInString (c : Char) (rest : List Char) : Takes nextInString [c] c rest :=
  (takes_next c rest).bind_all (takes_pure c rest)

theorem takes_simpleEscape {c d : Char} (h : simpleEscape? d = some c) (rest : List Char) :
    Takes escape [d] c rest := by
  refine (takes_nextInString d rest).bind_all ?_
  simp only [h]
  exact takes_pure c rest

theorem takes_codeEscape {c : Char} (h : c.toNat < 32) (rest : List Char) :
    Takes escape ('u' :: hex4 c.toNat) c rest := by
  refine (takes_nextInString 'u' (hex4 c.toNat ++ rest)).bind_cons ?_
  have hu : simpleEscape? 'u' = none := by decide
  simp only [hu, if_true]
  refine (takes_hexEscape h rest).bind_all ?_
  -- A code below 32 is no half of a pair.
  rw [if_neg (by omega), if_neg (by omega), Char.ofNat_toNat]
  exact takes_pure c rest

theorem takes_passSimpleEscape {c d : Char} (h : simpleEscape? d = some c) (rest : List Char) :
    Takes passEscape [d] () rest := by
  refine (takes_nextInString d rest).bind_all ?_
  simp only [h, Option.isSome_some, if_true]
  exact takes_pure () rest

theorem takes_passCodeEscape {n : Nat} (h : n < 32) (rest : List Char) :
    Takes passEscape ('u' :: hex4 n) () rest := by
  refine (takes_nextInString 'u' (hex4 n ++ rest)).bind_cons ?_
  have hu : simpleEscape? 'u' = none := by decide
  simp only [hu, Option.isSome_none, Bool.false_eq_true, if_false, if_true]
  exact (takes_hexEscape h rest).bind_all (takes_pure () rest)

/-- A character is written as itself, or as a backslash and a letter, or as a backslash and its
    code. -/
theorem escapeChar_shapes (c : Char) :
    (escapeChar c = [c] ∧ c ≠ '"' ∧ c ≠ '\\' ∧ ¬ c.toNat < 32) ∨
    (∃ d ∈ ['"', '\\', 'n', 'r', 't', 'b', 'f'], escapeChar c = ['\\', d]
      ∧ simpleEscape? d = some c) ∨
    (escapeChar c = '\\' :: 'u' :: hex4 c.toNat ∧ c.toNat < 32) := by
  by_cases hc : c ∈ ['"', '\\', '\n', '\r', '\t', Char.ofNat 8, Char.ofNat 12]
  · simp only [List.mem_cons, List.not_mem_nil, or_false] at hc
    rcases hc with rfl | rfl | rfl | rfl | rfl | rfl | rfl <;>
      exact .inr (.inl ⟨_, by decide, rfl, rfl⟩)
  · simp only [List.mem_cons, List.not_mem_nil, or_false, not_or] at hc
    obtain ⟨hquote, hslash, hline, hreturn, htab, hback, hfeed⟩ := hc
    rw [escapeChar, if_neg hquote, if_neg hslash, if_neg hline, if_neg hreturn, if_neg htab,
      if_neg hback, if_neg hfeed]
    by_cases hcontrol : c.toNat < 32
    · rw [if_pos hcontrol]
      exact .inr (.inr ⟨rfl, hcontrol⟩)
    · rw [if_neg hcontrol]
      exact .inl ⟨rfl, hquote, hslash, hcontrol⟩

/-- What is written behind a backslash is read as an escape, and passed over as one. -/
theorem escapeChar_cases (c : Char) :
    (escapeChar c = [c] ∧ c ≠ '"' ∧ c ≠ '\\' ∧ ¬ c.toNat < 32) ∨
    ∃ es, escapeChar c = '\\' :: es
      ∧ ∀ rest, Takes escape es c rest ∧ Takes passEscape es () rest := by
  rcases escapeChar_shapes c with hself | ⟨d, -, hescape, hd⟩ | ⟨hescape, hcontrol⟩
  · exact .inl hself
  · exact .inr ⟨_, hescape, fun rest => ⟨takes_simpleEscape hd rest, takes_passSimpleEscape hd rest⟩⟩
  · exact .inr ⟨_, hescape,
      fun rest => ⟨takes_codeEscape hcontrol rest, takes_passCodeEscape hcontrol rest⟩⟩

theorem takes_stringUpTo (cs : List Char) (fuel : Nat) (hfuel : cs.length < fuel)
    (acc rest : List Char) :
    Takes (stringUpTo fuel acc) (cs.flatMap escapeChar ++ ['"'])
      (String.ofList (acc.reverse ++ cs)) rest := by
  induction cs generalizing fuel acc with
  | nil =>
    obtain ⟨fuel, rfl⟩ : ∃ n, fuel = n + 1 := ⟨fuel - 1, by simp at hfuel; omega⟩
    refine (takes_next '"' rest).bind_all ?_
    dsimp only
    rw [if_pos rfl, List.append_nil]
    exact takes_pure _ rest
  | cons c cs ih =>
    obtain ⟨fuel, rfl⟩ : ∃ n, fuel = n + 1 := ⟨fuel - 1, by simp at hfuel; omega⟩
    have hlater := ih fuel (by simpa using hfuel) (c :: acc)
    rw [List.reverse_cons, List.append_assoc, List.singleton_append] at hlater
    rw [List.flatMap_cons, List.append_assoc]
    rcases escapeChar_cases c with ⟨hself, hquote, hslash, hcontrol⟩ | ⟨es, hescape, htakes⟩
    · rw [hself]
      refine (takes_next c _).bind_cons ?_
      dsimp only
      rw [if_neg hquote, if_neg hslash, if_neg hcontrol]
      exact hlater
    · rw [hescape, List.cons_append]
      refine (takes_next '\\' _).bind_cons ?_
      dsimp only
      rw [if_neg (by decide), if_pos rfl]
      exact (htakes _).1.bind hlater

theorem length_le_length_flatMap_escapeChar (cs : List Char) :
    cs.length ≤ (cs.flatMap escapeChar).length := by
  induction cs with
  | nil => exact Nat.le_refl 0
  | cons c cs ih =>
    have hc : 0 < (escapeChar c).length := by
      rcases escapeChar_cases c with ⟨hself, -⟩ | ⟨es, hescape, -⟩
      · rw [hself]
        exact Nat.zero_lt_one
      · rw [hescape]
        exact Nat.succ_pos _
    rw [List.flatMap_cons, List.length_append, List.length_cons]
    omega

/-- **Every string is taken from the text that is written for it**, after its opening quote. -/
theorem takes_string (s : String) (rest : List Char) :
    Takes string (s.toList.flatMap escapeChar ++ ['"']) s rest := by
  intro p
  have hlength := length_le_length_flatMap_escapeChar s.toList
  have hfuel : s.toList.length < (s.toList.flatMap escapeChar ++ ['"'] ++ rest).length + 1 := by
    simp only [List.length_append]
    omega
  have h := takes_stringUpTo s.toList _ hfuel [] rest p
  rw [List.reverse_nil, List.nil_append, String.ofList_toList] at h
  exact h

/-! ## Integers -/

/-- What may follow a number that ends here. -/
def EndsNumber (rest : List Char) : Prop :=
  ∀ c ∈ rest.head?, c.isDigit = false ∧ c ≠ '.' ∧ c ≠ 'e' ∧ c ≠ 'E'

theorem ne_of_isDigit {c d : Char} (hc : c.isDigit = true) (hd : d.isDigit = false) : c ≠ d := by
  rintro rfl
  rw [hc] at hd
  cases hd

theorem takes_digits {ds rest : List Char} (hds : ∀ d ∈ ds, d.isDigit = true)
    (hrest : ∀ c ∈ rest.head?, c.isDigit = false) : Takes digits ds ds rest := by
  intro p
  have htake : (ds ++ rest).takeWhile Char.isDigit = ds := by
    rw [List.takeWhile_append_of_pos hds]
    cases rest with
    | nil => simp
    | cons c rest => simp [hrest c rfl]
  have hdrop : (ds ++ rest).dropWhile Char.isDigit = rest := by
    rw [List.dropWhile_append_of_pos hds]
    cases rest with
    | nil => simp
    | cons c rest => simp [hrest c rfl]
  exact ⟨ds.foldl Position.after p, by simp only [digits, htake, hdrop]⟩

theorem le_ofDigitChars (ds : List Char) (n : Nat) : n ≤ Nat.ofDigitChars 10 ds n := by
  induction ds generalizing n with
  | nil => exact Nat.le_refl n
  | cons d ds ih =>
    rw [Nat.ofDigitChars_cons]
    exact Nat.le_trans (by omega) (ih _)

/-- Digits are taken into the significand as long as it fits, and if their value fits, all are. -/
theorem takeDigits_eq {ds : List Char} {n : Nat} (h : Nat.ofDigitChars 10 ds n < Word.bound) :
    takeDigits n ds = (Nat.ofDigitChars 10 ds n, []) := by
  induction ds generalizing n with
  | nil => rfl
  | cons d ds ih =>
    rw [Nat.ofDigitChars_cons, Nat.mul_comm] at h ⊢
    have hfits : n * 10 + digitValue d < Word.bound := Nat.lt_of_le_of_lt (le_ofDigitChars ds _) h
    rw [takeDigits, if_pos hfits]
    exact ih h

theorem takes_afterDigits (negative : Bool) (n : Nat) {rest : List Char} (hrest : EndsNumber rest) :
    Takes (afterDigits negative n 0) [] (integer negative n) rest := by
  refine (takes_peek rest).bind_nil ?_
  split
  · next h => exact absurd rfl (hrest _ h).2.1
  · next h => exact absurd rfl (hrest _ h).2.2.1
  · next h => exact absurd rfl (hrest _ h).2.2.2
  · rw [if_pos rfl]
    exact takes_pure _ rest

theorem head?_toDigits_ne_zero {n : Nat} (h : 0 < n) : (Nat.toDigits 10 n).head? ≠ some '0' := by
  induction n using Nat.strongRecOn with
  | ind n ih =>
    by_cases hn : n < 10
    · have hdigit : ∀ n < 10, 0 < n → n.digitChar ≠ '0' := by decide
      rw [Nat.toDigits_of_lt_base hn]
      simpa using hdigit n hn h
    · have hfront := ih (n / 10) (by omega) (by omega)
      obtain ⟨c, cs, hc⟩ := List.exists_cons_of_ne_nil (Nat.toDigits_ne_nil (n := n / 10) (b := 10))
      rw [Nat.toDigits_of_base_le (by omega) (by omega)]
      rw [hc] at hfront ⊢
      exact hfront

/-- A number above zero is written as a digit that is not zero, and digits that go on with it. -/
theorem toDigits_of_pos {n : Nat} (h : 0 < n) :
    ∃ d ds, Nat.toDigits 10 n = d :: ds ∧ d ≠ '0' ∧ d.isDigit = true
      ∧ (∀ c ∈ ds, c.isDigit = true) ∧ Nat.ofDigitChars 10 ds (digitValue d) = n := by
  have hhead := head?_toDigits_ne_zero h
  have hvalue := Nat.ofDigitChars_ten_toDigits (n := n)
  have hdigit : ∀ c ∈ Nat.toDigits 10 n, c.isDigit = true :=
    fun c hc => Nat.isDigit_of_mem_toDigits (by omega) (by omega) hc
  cases hn : Nat.toDigits 10 n with
  | nil => exact absurd hn Nat.toDigits_ne_nil
  | cons d ds =>
    rw [hn] at hhead hvalue hdigit
    rw [Nat.ofDigitChars_cons, Nat.mul_zero, Nat.zero_add] at hvalue
    exact ⟨d, ds, rfl, by simpa using hhead, hdigit d List.mem_cons_self,
      fun c hc => hdigit c (List.mem_cons_of_mem d hc), hvalue⟩

/-- **Every number below `2 ^ 64` is taken from its digits.** -/
theorem takes_number (negative : Bool) {n : Nat} (hn : n < Word.bound) {rest : List Char}
    (hrest : EndsNumber rest) :
    Takes (number negative) (Nat.toDigits 10 n) (integer negative n) rest := by
  have hstop : ∀ c ∈ rest.head?, c.isDigit = false := fun c hc => (hrest c hc).1
  by_cases hzero : n = 0
  · subst hzero
    rw [Nat.toDigits_zero]
    refine (takes_next '0' rest).bind_all ?_
    dsimp only
    rw [if_pos rfl]
    refine (takes_peek rest).bind_nil ?_
    cases rest with
    | nil => exact takes_afterDigits negative 0 hrest
    | cons c rest =>
      simp only [List.head?_cons, hstop c rfl]
      exact takes_afterDigits negative 0 hrest
  · obtain ⟨d, ds, hdigits, hd, hdigit, hds, hvalue⟩ := toDigits_of_pos (Nat.pos_of_ne_zero hzero)
    rw [hdigits]
    refine (takes_next d _).bind_cons ?_
    dsimp only
    rw [if_neg hd, if_pos hdigit]
    refine (takes_digits hds hstop).bind_all ?_
    rw [takeDigits_eq (hvalue ▸ hn), hvalue]
    exact takes_afterDigits negative n hrest

end ClassGraph.Json.Read
