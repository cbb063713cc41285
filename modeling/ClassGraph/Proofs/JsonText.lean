import ClassGraph.Proofs.JsonScan

/-!
# Texts of a value

A value can be written in many layouts: blanks may stand around every bracket, comma and colon.
`IsText d v cs` says that `cs` is one of the texts of `v`, for values without doubles whose brackets
are nested less than `d` deep.

**Every text of a value is read as that value** (`parse_of_hasText`), and the two layouts that are
written, compact and pretty, are texts of it (`hasText_compact`, `hasText_pretty`). Nothing is
claimed of doubles.
-/

set_option autoImplicit false

namespace ClassGraph.Json

open Read

/-! ## The texts of a value -/

/-- Texts with commas between them, and blanks around. `first` tells that no comma comes before. -/
inductive Separated {α : Type} (R : α → List Char → Prop) : Bool → List α → List Char → Prop
  | nil (first : Bool) {ws : List Char} (h : Blanks ws) : Separated R first [] ws
  | first {a : α} {as : List α} {ws cs ds : List Char} (hws : Blanks ws) (ha : R a cs)
      (has : Separated R false as ds) : Separated R true (a :: as) (ws ++ (cs ++ ds))
  | next {a : α} {as : List α} {ws ws' cs ds : List Char} (hws : Blanks ws) (hws' : Blanks ws')
      (ha : R a cs) (has : Separated R false as ds) :
      Separated R false (a :: as) (ws ++ ',' :: (ws' ++ (cs ++ ds)))

/-- A name, a colon and a text of the value, with blanks around the colon. -/
def MemberText (R : Json → List Char → Prop) (m : String × Json) (cs : List Char) : Prop :=
  ∃ ws ws' ds, Blanks ws ∧ Blanks ws' ∧ R m.2 ds
    ∧ cs = writeString m.1 ++ (ws ++ ':' :: (ws' ++ ds))

/-- `cs` is a text of the value, which holds no double and is nested less than `d` deep. -/
def IsText : Nat → Json → List Char → Prop
  | 0, _, _ => False
  | _ + 1, .null, cs => cs = ['n', 'u', 'l', 'l']
  | _ + 1, .bool b, cs => cs = writeBool b
  | _ + 1, .num (.int n), cs => -(Word.signedBound : Int) ≤ n ∧ n < Word.bound ∧ cs = writeInt n
  | _ + 1, .num (.float _), _ => False
  | _ + 1, .str s, cs => cs = writeString s
  | d + 1, .arr xs, cs =>
    0 < d ∧ ∃ ds, Separated (IsText d) true xs ds ∧ cs = '[' :: (ds ++ [']'])
  | d + 1, .obj ms, cs =>
    0 < d ∧ ∃ ds, Separated (MemberText (IsText d)) true ms ds ∧ cs = '\x7b' :: (ds ++ ['\x7d'])

/-- The text is a text of the value, with blanks before and after, that is not nested too deep. -/
def HasText (v : Json) (text : String) : Prop :=
  ∃ ws cs ws', Blanks ws ∧ Blanks ws' ∧ IsText maxDepth v cs ∧ text.toList = ws ++ (cs ++ ws')

namespace Read

variable {α : Type}

/-! ## Brackets, commas and colons -/

theorem takes_endList (rest : List Char) : Takes endList [']'] () rest := by
  refine (takes_peekToken blanks_nil (by decide) _).bind_nil ?_
  dsimp only
  rw [if_pos rfl]
  exact takes_skip _ rest

theorem takes_endObject (rest : List Char) : Takes endObject ['\x7d'] () rest := by
  refine (takes_peekToken blanks_nil (by decide) _).bind_nil ?_
  dsimp only
  rw [if_pos rfl]
  exact takes_skip _ rest

theorem takes_colon {ws : List Char} (hws : Blanks ws) (rest : List Char) :
    Takes colon (ws ++ [':']) () rest := by
  refine (takes_peekToken hws (by decide) _).bind ?_
  dsimp only
  rw [if_pos rfl]
  exact takes_skip _ rest

theorem takes_memberName (name : String) (rest : List Char) :
    Takes memberName (writeString name) name rest :=
  (takes_skip '"' _).bind_cons (takes_string name rest)

section

variable {ws ws' : List Char} {c : Char}

theorem takes_hasItem_end (first : Bool) (hws : Blanks ws) (rest : List Char) :
    Takes (hasItem first) ws false (']' :: rest) := by
  refine (takes_peekToken hws (by decide) _).bind_all ?_
  dsimp only
  rw [if_pos rfl]
  exact takes_pure _ _

theorem takes_hasItem_first (hws : Blanks ws) (hblank : isBlank c = false) (hc : c ≠ ']')
    (rest : List Char) : Takes (hasItem true) ws true (c :: rest) := by
  refine (takes_peekToken hws hblank _).bind_all ?_
  dsimp only
  rw [if_neg hc, if_pos rfl]
  exact takes_pure _ _

theorem takes_hasItem_next (hws : Blanks ws) (hws' : Blanks ws') (hblank : isBlank c = false)
    (hc : c ≠ ']') (rest : List Char) :
    Takes (hasItem false) (ws ++ ',' :: ws') true (c :: rest) := by
  refine (takes_peekToken hws (by decide) _).bind ?_
  dsimp only
  rw [if_neg (by decide), if_neg (by decide), if_pos rfl]
  refine (takes_skip ',' _).bind_cons ?_
  refine (takes_peekToken hws' hblank _).bind_all ?_
  dsimp only
  rw [if_neg hc]
  exact takes_pure _ _

theorem takes_hasMember_end (first : Bool) (hws : Blanks ws) (rest : List Char) :
    Takes (hasMember first) ws false ('\x7d' :: rest) := by
  refine (takes_peekToken hws (by decide) _).bind_all ?_
  dsimp only
  rw [if_pos rfl]
  exact takes_pure _ _

theorem takes_hasMember_first (hws : Blanks ws) (rest : List Char) :
    Takes (hasMember true) ws true ('"' :: rest) := by
  refine (takes_peekToken hws (by decide) _).bind_all ?_
  dsimp only
  rw [if_neg (by decide), if_pos rfl, if_pos rfl]
  exact takes_pure _ _

theorem takes_hasMember_next (hws : Blanks ws) (hws' : Blanks ws') (rest : List Char) :
    Takes (hasMember false) (ws ++ ',' :: ws') true ('"' :: rest) := by
  refine (takes_peekToken hws (by decide) _).bind ?_
  dsimp only
  rw [if_neg (by decide), if_neg (by decide), if_pos rfl]
  refine (takes_skip ',' _).bind_cons ?_
  refine (takes_peekToken hws' (by decide) _).bind_all ?_
  dsimp only
  rw [if_pos rfl]
  exact takes_pure _ _

end

/-! ## Lists -/

theorem endsNumber_cons {c : Char} (hc : isBlank c = true ∨ c = ',' ∨ c = ']' ∨ c = '\x7d')
    (rest : List Char) : EndsNumber (c :: rest) := by
  simp only [isBlank, Bool.or_eq_true, decide_eq_true_eq, or_assoc] at hc
  intro d hd
  cases hd
  rcases hc with rfl | rfl | rfl | rfl | rfl | rfl | rfl <;> decide

/-- What comes after an item ends a number: a blank, a comma, or the closing bracket. -/
theorem endsNumber_of_separated {R : α → List Char → Prop} {as : List α} {cs : List Char}
    (h : Separated R false as cs) {close : Char} (hclose : close = ']' ∨ close = '\x7d')
    (rest : List Char) : EndsNumber (cs ++ close :: rest) := by
  cases h with
  | nil _ hws =>
    cases cs with
    | nil => exact endsNumber_cons (.inr (.inr hclose)) rest
    | cons c cs => exact endsNumber_cons (.inl (hws c List.mem_cons_self)) _
  | @next _ _ ws _ _ _ hws _ _ _ =>
    cases ws with
    | nil => exact endsNumber_cons (.inr (.inl rfl)) _
    | cons c ws => exact endsNumber_cons (.inl (hws c List.mem_cons_self)) _

/-- There is at most one item more than there are commas. -/
theorem length_le_of_separated {R : α → List Char → Prop} {first : Bool} {as : List α}
    {cs : List Char} (h : Separated R first as cs) : as.length ≤ cs.length + first.toNat := by
  induction h with
  | nil first _ => exact Nat.zero_le _
  | first _ _ _ ih =>
    simp only [List.length_cons, List.length_append, Bool.toNat_false, Bool.toNat_true] at ih ⊢
    omega
  | next _ _ _ _ ih =>
    simp only [List.length_cons, List.length_append, Bool.toNat_false] at ih ⊢
    omega

/-- The step takes each of the texts, as the first one and behind a comma, and stops at the closing
    bracket. -/
structure StepTakes (step : Bool → Read (Option α)) (R : α → List Char → Prop) (close : Char) :
    Prop where
  bracket : close = ']' ∨ close = '\x7d'
  stop : ∀ first ws rest, Blanks ws → Takes (step first) ws none (close :: rest)
  first : ∀ a cs ws rest, R a cs → Blanks ws → EndsNumber rest →
    Takes (step true) (ws ++ cs) (some a) rest
  next : ∀ a cs ws ws' rest, R a cs → Blanks ws → Blanks ws' → EndsNumber rest →
    Takes (step false) (ws ++ ',' :: (ws' ++ cs)) (some a) rest

section

variable {R : α → List Char → Prop} {step : Bool → Read (Option α)} {close : Char} {as : List α}
  {cs : List Char}

theorem takes_repeatUpTo (hstep : StepTakes step R close) {first : Bool}
    (h : Separated R first as cs) (fuel : Nat) (hfuel : as.length < fuel) (acc : List α)
    (rest : List Char) :
    Takes (repeatUpTo step fuel first acc) cs (acc.reverse ++ as) (close :: rest) := by
  induction h generalizing fuel acc with
  | nil first hws =>
    obtain ⟨fuel, rfl⟩ := Nat.exists_eq_succ_of_ne_zero (Nat.ne_of_gt hfuel)
    refine (hstep.stop first _ rest hws).bind_all ?_
    rw [List.append_nil]
    exact takes_pure _ _
  | @first a as ws cs ds hws ha has ih =>
    obtain ⟨fuel, rfl⟩ := Nat.exists_eq_succ_of_ne_zero (Nat.ne_of_gt (Nat.zero_lt_of_lt hfuel))
    have hlater := ih fuel (Nat.lt_of_succ_lt_succ hfuel) (a :: acc)
    rw [List.reverse_cons, List.append_assoc, List.singleton_append] at hlater
    have hends := endsNumber_of_separated has hstep.bracket rest
    rw [← List.append_assoc]
    exact (hstep.first a cs ws _ ha hws hends).bind hlater
  | @next a as ws ws' cs ds hws hws' ha has ih =>
    obtain ⟨fuel, rfl⟩ := Nat.exists_eq_succ_of_ne_zero (Nat.ne_of_gt (Nat.zero_lt_of_lt hfuel))
    have hlater := ih fuel (Nat.lt_of_succ_lt_succ hfuel) (a :: acc)
    rw [List.reverse_cons, List.append_assoc, List.singleton_append] at hlater
    have hends := endsNumber_of_separated has hstep.bracket rest
    have htext : ws ++ ',' :: (ws' ++ (cs ++ ds)) = (ws ++ ',' :: (ws' ++ cs)) ++ ds := by simp
    rw [htext]
    exact (hstep.next a cs ws ws' _ ha hws hws' hends).bind hlater

/-- **A repeated step takes separated texts.** It has steps enough, because every item but one comes
    with a comma. -/
theorem takes_repeated (hstep : StepTakes step R close) (h : Separated R true as cs)
    (rest : List Char) : Takes (repeated step) cs as (close :: rest) := by
  intro p
  have hlength := length_le_of_separated h
  have hfuel : as.length < (cs ++ close :: rest).length + 1 := by
    simp only [List.length_append, List.length_cons, Bool.toNat_true] at hlength ⊢
    omega
  exact takes_repeatUpTo hstep h _ hfuel [] rest p

end

/-- An item of a list, read by `r`. -/
theorem stepTakes_item {R : α → List Char → Prop} {r : Read α}
    (hhead : ∀ a cs, R a cs → ∃ c ds, cs = c :: ds ∧ isBlank c = false ∧ c ≠ ']')
    (hr : ∀ a cs rest, R a cs → EndsNumber rest → Takes r cs a rest) :
    StepTakes (fun first => do if ← hasItem first then return some (← r) else return none) R ']'
    where
  bracket := .inl rfl
  stop first ws rest hws := (takes_hasItem_end first hws rest).bind_all (takes_pure _ _)
  first a cs ws rest ha hws hends := by
    obtain ⟨c, ds, rfl, hblank, hc⟩ := hhead a cs ha
    refine (takes_hasItem_first hws hblank hc (ds ++ rest)).bind ?_
    exact (hr a _ rest ha hends).bind_all (takes_pure _ _)
  next a cs ws ws' rest ha hws hws' hends := by
    obtain ⟨c, ds, rfl, hblank, hc⟩ := hhead a cs ha
    have htext : ws ++ ',' :: (ws' ++ c :: ds) = (ws ++ ',' :: ws') ++ c :: ds := by simp
    rw [htext]
    refine (takes_hasItem_next hws hws' hblank hc (ds ++ rest)).bind ?_
    exact (hr a _ rest ha hends).bind_all (takes_pure _ _)

/-- A named item of an object, name and value read by `body`. -/
theorem stepTakes_named {R : α → List Char → Prop} (body : Read (Option α))
    (hhead : ∀ a cs, R a cs → ∃ tail, cs = '"' :: tail)
    (hbody : ∀ a cs rest, R a cs → EndsNumber rest → Takes body cs (some a) rest) :
    StepTakes (fun first => do if ← hasMember first then body else return none) R '\x7d' where
  bracket := .inr rfl
  stop first ws rest hws := (takes_hasMember_end first hws rest).bind_all (takes_pure _ _)
  first a cs ws rest ha hws hends := by
    obtain ⟨tail, rfl⟩ := hhead a cs ha
    refine (takes_hasMember_first hws (tail ++ rest)).bind ?_
    exact hbody a _ rest ha hends
  next a cs ws ws' rest ha hws hws' hends := by
    obtain ⟨tail, rfl⟩ := hhead a cs ha
    have htext : ws ++ ',' :: (ws' ++ '"' :: tail) = (ws ++ ',' :: ws') ++ '"' :: tail := by simp
    rw [htext]
    refine (takes_hasMember_next hws hws' (tail ++ rest)).bind ?_
    exact hbody a _ rest ha hends

/-- The name, the colon and the value of a member, which is read by `r`. -/
theorem takes_member {β : Type} {R : Json → List Char → Prop} {r : Read β} {m : String × Json}
    {b : β} {cs rest : List Char} (hm : MemberText R m cs)
    (hr : ∀ ws ds, R m.2 ds → Blanks ws → Takes r (ws ++ ds) b rest) :
    Takes (do
      let name ← memberName
      colon
      return some (name, ← r)) cs (some (m.1, b)) rest := by
  obtain ⟨ws, ws', ds, hws, hws', hv, rfl⟩ := hm
  have htext : ws ++ ':' :: (ws' ++ ds) = (ws ++ [':']) ++ (ws' ++ ds) := by simp
  rw [htext]
  refine (takes_memberName m.1 _).bind ((takes_colon hws _).bind ?_)
  exact (hr ws' ds hv hws').bind_all (takes_pure _ _)

theorem memberText_head {R : Json → List Char → Prop} {m : String × Json} {cs : List Char}
    (hm : MemberText R m cs) : ∃ tail, cs = '"' :: tail := by
  obtain ⟨_, _, _, -, -, -, rfl⟩ := hm
  exact ⟨_, rfl⟩

/-- A member of an object, with its value read by `r`. -/
theorem stepTakes_member {R : Json → List Char → Prop} {r : Read Json}
    (hr : ∀ v ws cs rest, R v cs → Blanks ws → EndsNumber rest → Takes r (ws ++ cs) v rest) :
    StepTakes
      (fun first => do
        if ← hasMember first then
          let name ← memberName
          colon
          return some (name, ← r)
        else return none)
      (MemberText R) '\x7d' :=
  stepTakes_named _ (fun _ _ => memberText_head) fun m _ rest hm hends =>
    takes_member hm fun ws ds hv hws => hr m.2 ws ds rest hv hws hends

/-! ## Values -/

theorem toDigits_eq_cons (n : Nat) : ∃ c cs, Nat.toDigits 10 n = c :: cs ∧ c.isDigit = true := by
  obtain ⟨c, cs, hc⟩ := List.exists_cons_of_ne_nil (Nat.toDigits_ne_nil (n := n) (b := 10))
  have hmem : c ∈ Nat.toDigits 10 n := hc ▸ List.mem_cons_self
  exact ⟨c, cs, hc, Nat.isDigit_of_mem_toDigits (by omega) (by omega) hmem⟩

theorem isBlank_of_isDigit {c : Char} (h : c.isDigit = true) : isBlank c = false := by
  simp only [isBlank, Bool.or_eq_false_iff, decide_eq_false_iff_not]
  exact ⟨⟨⟨ne_of_isDigit h rfl, ne_of_isDigit h rfl⟩, ne_of_isDigit h rfl⟩, ne_of_isDigit h rfl⟩

/-- An integer is written as a minus and digits or as digits alone, and is taken from them. -/
theorem takes_writeInt {n : Int} (hlow : -(Word.signedBound : Int) ≤ n) (hhigh : n < Word.bound)
    {rest : List Char} (hends : EndsNumber rest) :
    (∃ ds, writeInt n = '-' :: ds ∧ Takes (number true) ds (.int n) rest) ∨
    ∃ c ds, writeInt n = c :: ds ∧ c.isDigit = true
      ∧ Takes (number false) (c :: ds) (.int n) rest := by
  have hsigned : Word.signedBound < Word.bound := by decide
  have hfits : n.natAbs < Word.bound := by omega
  rw [writeInt]
  by_cases hneg : n < 0
  · have hvalue : integer true n.natAbs = .int n := by
      have hsmall : ¬(n.natAbs = 0 ∨ Word.signedBound < n.natAbs) := by omega
      rw [integer, if_pos rfl, if_neg hsmall]
      congr 1
      omega
    rw [if_pos hneg]
    exact .inl ⟨_, rfl, hvalue ▸ takes_number true hfits hends⟩
  · have hvalue : integer false n.natAbs = .int n := by
      rw [integer, if_neg (by decide)]
      congr 1
      omega
    obtain ⟨c, ds, hdigits, hdigit⟩ := toDigits_eq_cons n.natAbs
    rw [if_neg hneg]
    exact .inr ⟨c, ds, hdigits, hdigit, hdigits ▸ hvalue ▸ takes_number false hfits hends⟩

/-- The text of a value starts with its token. -/
theorem isText_head {d : Nat} {v : Json} {cs : List Char} (h : IsText d v cs) :
    ∃ c ds, cs = c :: ds ∧ isBlank c = false ∧ c ≠ ']' := by
  cases d with
  | zero => exact h.elim
  | succ d =>
    cases v with
    | null => exact ⟨_, _, h, by decide, by decide⟩
    | bool b => cases b <;> exact ⟨_, _, h, by decide, by decide⟩
    | num n =>
      cases n with
      | int n =>
        obtain ⟨-, -, rfl⟩ := h
        rw [writeInt]
        split
        · exact ⟨_, _, rfl, by decide, by decide⟩
        · obtain ⟨c, ds, hc, hdigit⟩ := toDigits_eq_cons n.natAbs
          exact ⟨c, ds, hc, isBlank_of_isDigit hdigit, ne_of_isDigit hdigit rfl⟩
      | float x => exact h.elim
    | str s => exact ⟨_, _, h, by decide, by decide⟩
    | arr xs =>
      obtain ⟨-, ds, -, hcs⟩ := h
      exact ⟨_, _, hcs, by decide, by decide⟩
    | obj ms =>
      obtain ⟨-, ds, -, hcs⟩ := h
      exact ⟨_, _, hcs, by decide, by decide⟩

section

variable {ws rest : List Char} (hws : Blanks ws) (d : Nat)
include hws

theorem takes_value_null : Takes (value (d + 1)) (ws ++ ['n', 'u', 'l', 'l']) .null rest := by
  refine (takes_peekToken hws (by decide) _).bind ?_
  dsimp only
  rw [if_pos rfl]
  exact (takes_skip 'n' _).bind_cons ((takes_word _ rest).bind_all (takes_pure _ _))

theorem takes_value_bool (b : Bool) :
    Takes (value (d + 1)) (ws ++ writeBool b) (.bool b) rest := by
  cases b with
  | true =>
    refine (takes_peekToken hws (by decide) _).bind ?_
    dsimp only
    rw [if_neg (by decide), if_pos rfl]
    exact (takes_skip 't' _).bind_cons ((takes_word _ rest).bind_all (takes_pure _ _))
  | false =>
    refine (takes_peekToken hws (by decide) _).bind ?_
    dsimp only
    rw [if_neg (by decide), if_neg (by decide), if_pos rfl]
    exact (takes_skip 'f' _).bind_cons ((takes_word _ rest).bind_all (takes_pure _ _))

theorem takes_value_str (s : String) :
    Takes (value (d + 1)) (ws ++ writeString s) (.str s) rest := by
  refine (takes_peekToken hws (by decide) _).bind ?_
  dsimp only
  rw [if_neg (by decide), if_neg (by decide), if_neg (by decide), if_neg (by decide),
    if_neg (by decide), if_pos rfl]
  exact (takes_skip '"' _).bind_cons ((takes_string s rest).bind_all (takes_pure _ _))

theorem takes_value_int {n : Int} (hlow : -(Word.signedBound : Int) ≤ n) (hhigh : n < Word.bound)
    (hends : EndsNumber rest) : Takes (value (d + 1)) (ws ++ writeInt n) (.num (.int n)) rest := by
  rcases takes_writeInt hlow hhigh hends with ⟨ds, htext, hnumber⟩ | ⟨c, ds, htext, hdigit, hnumber⟩
  · rw [htext]
    refine (takes_peekToken hws (by decide) _).bind ?_
    dsimp only
    rw [if_neg (by decide), if_neg (by decide), if_neg (by decide), if_pos rfl]
    exact (takes_skip '-' _).bind_cons (hnumber.bind_all (takes_pure _ _))
  · rw [htext]
    refine (takes_peekToken hws (isBlank_of_isDigit hdigit) _).bind ?_
    dsimp only
    rw [if_neg (ne_of_isDigit hdigit rfl), if_neg (ne_of_isDigit hdigit rfl),
      if_neg (ne_of_isDigit hdigit rfl), if_neg (ne_of_isDigit hdigit rfl), if_pos hdigit]
    exact hnumber.bind_all (takes_pure _ _)

end

/-- **Every text of a value is read as the value,** behind blanks, and nothing more is taken. -/
theorem takes_value (d : Nat) {v : Json} {ws cs rest : List Char} (h : IsText d v cs)
    (hws : Blanks ws) (hends : EndsNumber rest) : Takes (value d) (ws ++ cs) v rest := by
  induction d generalizing v ws cs rest with
  | zero => exact h.elim
  | succ d ih =>
    cases v with
    | null => exact h ▸ takes_value_null hws d
    | bool b => exact h ▸ takes_value_bool hws d b
    | num n =>
      cases n with
      | int n =>
        obtain ⟨hlow, hhigh, rfl⟩ := h
        exact takes_value_int hws d hlow hhigh hends
      | float x => exact h.elim
    | str s => exact h ▸ takes_value_str hws d s
    | arr xs =>
      obtain ⟨hd, ds, hxs, rfl⟩ := h
      have hstep := stepTakes_item (r := value d) (fun _ _ => isText_head)
        (fun _ _ _ ha hends => ih ha blanks_nil hends)
      refine (takes_peekToken hws (by decide) _).bind ?_
      dsimp only
      rw [if_neg (by decide), if_neg (by decide), if_neg (by decide), if_neg (by decide),
        if_neg (by decide), if_neg (by decide), if_pos rfl, if_neg (Nat.ne_of_gt hd)]
      refine (takes_skip '[' _).bind_cons ((takes_repeated hstep hxs rest).bind ?_)
      exact (takes_endList rest).bind_all (takes_pure _ _)
    | obj ms =>
      obtain ⟨hd, ds, hms, rfl⟩ := h
      have hstep := stepTakes_member (r := value d) (fun _ _ _ _ hv hws hends => ih hv hws hends)
      refine (takes_peekToken hws (by decide) _).bind ?_
      dsimp only
      rw [if_neg (by decide), if_neg (by decide), if_neg (by decide), if_neg (by decide),
        if_neg (by decide), if_neg (by decide), if_neg (by decide), if_pos rfl,
        if_neg (Nat.ne_of_gt hd)]
      refine (takes_skip '\x7b' _).bind_cons ((takes_repeated hstep hms rest).bind ?_)
      exact (takes_endObject rest).bind_all (takes_pure _ _)

end Read

theorem endsNumber_of_blanks {ws : List Char} (h : Blanks ws) : EndsNumber ws := by
  cases ws with
  | nil => exact fun _ hc => nomatch hc
  | cons c ws => exact endsNumber_cons (.inl (h c List.mem_cons_self)) ws

/-- A reader that takes a text up to the blanks at its end reads the whole text. -/
theorem fromText_of_takes {α : Type} {r : Nat → Read α} {a : α} {text : String}
    {cs ws : List Char} (htext : text.toList = cs ++ ws) (hws : Blanks ws)
    (h : Takes (r maxDepth) cs a ws) : fromText r text = .ok a := by
  have hend : Takes atEnd ws () [] := (takes_peekToken_nil hws).bind_all (takes_pure () [])
  have hread : Takes (do let a ← r maxDepth; atEnd; pure a) (cs ++ ws) a [] := by
    refine Takes.bind ?_ (hend.bind_all (takes_pure a []))
    rw [List.append_nil]
    exact h
  obtain ⟨p, hp⟩ := hread ⟨1, 0⟩
  rw [List.append_nil, ← htext] at hp
  rw [fromText, Cursor.start, hp]

/-- **Every text of a value is read as that value.** -/
theorem parse_of_hasText {v : Json} {text : String} (h : v.HasText text) :
    Json.parse text = .ok v := by
  obtain ⟨ws, cs, ws', hws, hws', hcs, htext⟩ := h
  rw [← List.append_assoc] at htext
  exact fromText_of_takes htext hws' (takes_value maxDepth hcs hws (endsNumber_of_blanks hws'))

/-! ## Layouts -/

/-- The value holds no double, its integers have 64 bits, and it is nested less than `d` deep. -/
def Fits : Nat → Json → Prop
  | 0, _ => False
  | _ + 1, .num (.int n) => -(Word.signedBound : Int) ≤ n ∧ n < Word.bound
  | _ + 1, .num (.float _) => False
  | d + 1, .arr xs => 0 < d ∧ ∀ x ∈ xs, Fits d x
  | d + 1, .obj ms => 0 < d ∧ ∀ m ∈ ms, Fits d m.2
  | _ + 1, _ => True

section

variable {d : Nat}

@[simp] theorem fits_bool (b : Bool) : Fits (d + 1) (.bool b) := trivial

@[simp] theorem fits_str (s : String) : Fits (d + 1) (.str s) := trivial

@[simp] theorem fits_nat {n : Nat} : Fits (d + 1) (.nat n) ↔ n < Word.bound := by
  show _ ≤ _ ∧ _ < _ ↔ _
  omega

@[simp] theorem fits_int {n : Int} :
    Fits (d + 1) (.int n) ↔ -(Word.signedBound : Int) ≤ n ∧ n < Word.bound :=
  Iff.rfl

@[simp] theorem fits_arr {xs : List Json} : Fits (d + 2) (.arr xs) ↔ ∀ x ∈ xs, Fits (d + 1) x :=
  and_iff_right (Nat.succ_pos d)

@[simp] theorem fits_obj {ms : List (String × Json)} :
    Fits (d + 2) (.obj ms) ↔ ∀ m ∈ ms, Fits (d + 1) m.2 :=
  and_iff_right (Nat.succ_pos d)

end

/-- A layout of items, the first one behind `ws`, every other one behind a comma and `ws`, and the
    closing bracket behind `ws'`. `after` writes what comes after an item. -/
structure Layout {α : Type} (text : α → List Char) (after : List α → List Char) (ws ws' : List Char)
    (close : Char) : Prop where
  blanks : Blanks ws
  blanks' : Blanks ws'
  nil : after [] = ws' ++ [close]
  cons : ∀ a as, after (a :: as) = ',' :: (ws ++ (text a ++ after as))

section

variable {α : Type} {R : α → List Char → Prop} {text : α → List Char} {after : List α → List Char}
  {ws ws' : List Char} {close : Char} (l : Layout text after ws ws' close)
include l

theorem Layout.separated_after (as : List α) (has : ∀ a ∈ as, R a (text a)) :
    ∃ ds, Separated R false as ds ∧ after as = ds ++ [close] := by
  induction as with
  | nil => exact ⟨ws', .nil false l.blanks', l.nil⟩
  | cons a as ih =>
    obtain ⟨ds, hds, hafter⟩ := ih fun b hb => has b (List.mem_cons_of_mem a hb)
    refine ⟨_, .next blanks_nil l.blanks (has a List.mem_cons_self) hds, ?_⟩
    rw [l.cons, hafter]
    simp

theorem Layout.separated (a : α) (as : List α) (has : ∀ b ∈ a :: as, R b (text b)) :
    ∃ ds, Separated R true (a :: as) ds ∧ ws ++ (text a ++ after as) = ds ++ [close] := by
  obtain ⟨ds, hds, hafter⟩ := l.separated_after as fun b hb => has b (List.mem_cons_of_mem a hb)
  refine ⟨_, .first l.blanks (has a List.mem_cons_self) hds, ?_⟩
  rw [hafter]
  simp

end

theorem isText_write (d : Nat) (v : Json) (h : Fits d v) : IsText d v (write v) := by
  induction d generalizing v with
  | zero => exact h.elim
  | succ d ih =>
    have hitems : Layout write writeItems [] [] ']' :=
      ⟨blanks_nil, blanks_nil, rfl, fun _ _ => rfl⟩
    have hmembers :
        Layout (fun m => writeString m.1 ++ ':' :: write m.2) writeMembers [] [] '\x7d' :=
      ⟨blanks_nil, blanks_nil, rfl, fun _ _ => by simp [writeMembers]⟩
    match v, h with
    | .null, _ => exact rfl
    | .bool _, _ => exact rfl
    | .num (.int _), h => exact ⟨h.1, h.2, rfl⟩
    | .str _, _ => exact rfl
    | .arr [], h => exact ⟨h.1, [], .nil true blanks_nil, rfl⟩
    | .arr (x :: xs), h =>
      obtain ⟨ds, hds, htext⟩ := hitems.separated x xs fun y hy => ih y (h.2 y hy)
      exact ⟨h.1, ds, hds, congrArg _ htext⟩
    | .obj [], h => exact ⟨h.1, [], .nil true blanks_nil, rfl⟩
    | .obj (m :: ms), h =>
      have hms : ∀ m' ∈ m :: ms,
          MemberText (IsText d) m' (writeString m'.1 ++ ':' :: write m'.2) :=
        fun m' hm' => ⟨[], [], _, blanks_nil, blanks_nil, ih m'.2 (h.2 m' hm'), rfl⟩
      obtain ⟨ds, hds, htext⟩ := hmembers.separated m ms hms
      refine ⟨h.1, ds, hds, ?_⟩
      rw [← htext]
      simp [write]

theorem blanks_newLine (level : Nat) : Blanks (newLine level) := by
  intro c hc
  rcases List.mem_cons.mp hc with rfl | hc
  · decide
  · rw [(List.mem_replicate.mp hc).2]
    decide

theorem isText_writePretty (d level : Nat) (v : Json) (h : Fits d v) :
    IsText d v (writePretty level v) := by
  induction d generalizing level v with
  | zero => exact h.elim
  | succ d ih =>
    have hspace : Blanks [' '] := by simp [Blanks, isBlank]
    have hitems : Layout (writePretty (level + 1)) (writePrettyItems level) (newLine (level + 1))
        (newLine level) ']' :=
      ⟨blanks_newLine _, blanks_newLine _, rfl, fun _ _ => rfl⟩
    have hmembers : Layout (fun m => writeString m.1 ++ ':' :: ' ' :: writePretty (level + 1) m.2)
        (writePrettyMembers level) (newLine (level + 1)) (newLine level) '\x7d' :=
      ⟨blanks_newLine _, blanks_newLine _, rfl, fun _ _ => by simp [writePrettyMembers]⟩
    match v, h with
    | .null, _ => exact rfl
    | .bool _, _ => exact rfl
    | .num (.int _), h => exact ⟨h.1, h.2, rfl⟩
    | .str _, _ => exact rfl
    | .arr [], h => exact ⟨h.1, [], .nil true blanks_nil, rfl⟩
    | .arr (x :: xs), h =>
      obtain ⟨ds, hds, htext⟩ := hitems.separated x xs fun y hy => ih (level + 1) y (h.2 y hy)
      exact ⟨h.1, ds, hds, congrArg _ htext⟩
    | .obj [], h => exact ⟨h.1, [], .nil true blanks_nil, rfl⟩
    | .obj (m :: ms), h =>
      have hms : ∀ m' ∈ m :: ms, MemberText (IsText d) m'
          (writeString m'.1 ++ ':' :: ' ' :: writePretty (level + 1) m'.2) :=
        fun m' hm' => ⟨[], [' '], _, blanks_nil, hspace, ih (level + 1) m'.2 (h.2 m' hm'), rfl⟩
      obtain ⟨ds, hds, htext⟩ := hmembers.separated m ms hms
      refine ⟨h.1, ds, hds, ?_⟩
      rw [← htext]
      simp [writePretty]

/-- A text without blanks around. -/
theorem hasText_ofList {v : Json} {cs : List Char} (h : IsText maxDepth v cs) :
    v.HasText (String.ofList cs) :=
  ⟨[], cs, [], blanks_nil, blanks_nil, h, by simp⟩

theorem hasText_compact {v : Json} (h : v.Fits maxDepth) : v.HasText v.compact :=
  hasText_ofList (isText_write maxDepth v h)

theorem hasText_pretty {v : Json} (h : v.Fits maxDepth) : v.HasText v.pretty :=
  hasText_ofList (isText_writePretty maxDepth 0 v h)

end ClassGraph.Json
