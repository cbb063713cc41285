import ClassGraph.Proofs.JsonText
import ClassGraph.Proofs.Table
import Mathlib.Data.List.Forall2

/-!
# What typed readers make of the texts of a value

A typed reader is not a reader of values with a conversion behind it: it goes along the text on its
own and builds its result on the way. `Reads r v a` says that **`r` makes `a` of every text of `v`**,
in any layout and at any depth, and takes nothing more off the text than that.

Each way of building a reader out of others has one lemma here, which says the same of the reader
that is built: lists, tables, records and variants. A type is then followed through its reader part
by part, and never as a text.
-/

set_option autoImplicit false

namespace ClassGraph.Json

open Read

/-- Texts in a row are texts of other things, one by one. -/
theorem Separated.of_forall₂ {α β : Type} {R : α → List Char → Prop} {S : β → List Char → Prop}
    {first : Bool} {as : List α} {bs : List β} {cs : List Char} (h : Separated R first as cs)
    (hab : List.Forall₂ (fun a b => ∀ cs, R a cs → S b cs) as bs) : Separated S first bs cs := by
  induction h generalizing bs with
  | nil first hws =>
    cases hab
    exact .nil first hws
  | first hws ha _ ih =>
    cases hab with
    | cons hb hbs => exact .first hws (hb _ ha) (ih hbs)
  | next hws hws' ha _ ih =>
    cases hab with
    | cons hb hbs => exact .next hws hws' (hb _ ha) (ih hbs)

namespace Read

variable {α β : Type}

/-! ## Brackets around a reader -/

section

variable {r body : Read α} {close : Read Unit} {a : α} {c : Char} {cs ds rest : List Char}

theorem Takes.placed (h : Takes r cs a rest) : Takes (placed r) cs a rest := by
  intro p
  obtain ⟨p', hp⟩ := h p
  exact ⟨p', by simp only [Read.placed, hp]⟩

theorem Takes.closedBy (hbody : Takes body cs a (ds ++ rest)) (hclose : Takes close ds () rest) :
    Takes (closedBy body close) (cs ++ ds) a rest := by
  intro p
  obtain ⟨p', hp⟩ := hbody p
  obtain ⟨p'', hp'⟩ := hclose p'
  rw [← List.append_assoc] at hp
  exact ⟨p'', by simp only [Read.closedBy, hp, hp']⟩

theorem Takes.map (f : α → β) (h : Takes r cs a rest) : Takes (f <$> r) cs (f a) rest := by
  intro p
  obtain ⟨p', hp⟩ := h p
  refine ⟨p', ?_⟩
  show EStateM.map f r _ = _
  rw [EStateM.map, hp]

/-- One level less is left inside a bracket, and there has to be one. -/
theorem takes_entering {body : Nat → Read α} {d : Nat} (hd : 0 < d)
    (h : Takes (body d) cs a rest) : Takes (entering (d + 1) body) (c :: cs) a rest := by
  cases d with
  | zero => exact absurd hd (Nat.lt_irrefl 0)
  | succ d => exact (takes_skip c _).bind_cons h

/-- What a reader does may depend on the text that is left. -/
theorem takes_get {f : Cursor → Read α}
    (h : ∀ s : Cursor, s.rest = cs ++ rest → Takes (f s) cs a rest) :
    Takes (do let s ← get; f s) cs a rest :=
  fun p => h ⟨cs ++ rest, p⟩ rfl p

theorem takes_token (hws : Blanks ds) (hc : isBlank c = false) (rest : List Char) :
    Takes token ds c (c :: rest) :=
  (takes_peekToken hws hc rest).bind_all (takes_pure _ _)

end

/-- **The reader makes `a` of every text of the value**, behind blanks. -/
def Reads (r : Nat → Read α) (v : Json) (a : α) : Prop :=
  ∀ d ws cs rest, IsText d v cs → Blanks ws → EndsNumber rest → Takes (r d) (ws ++ cs) a rest

theorem Reads.map {r : Nat → Read α} {v : Json} {a : α} (f : α → β) (h : Reads r v a) :
    Reads (fun d => f <$> r d) v (f a) :=
  fun d ws cs rest hcs hws hends => (h d ws cs rest hcs hws hends).map f

/-- A text that a reader makes something of is read as that. -/
theorem fromText_of_reads {r : Nat → Read α} {v : Json} {a : α} (h : Reads r v a) {text : String}
    (htext : v.HasText text) : fromText r text = .ok a := by
  obtain ⟨ws, cs, ws', hws, hws', hcs, htext⟩ := htext
  rw [← List.append_assoc] at htext
  exact fromText_of_takes htext hws' (h maxDepth ws cs ws' hcs hws (endsNumber_of_blanks hws'))

/-! ## Scalars -/

theorem reads_text (s : String) : Reads (fun _ => text) (.str s) s := by
  intro d ws cs rest hcs hws _
  cases d with
  | zero => exact hcs.elim
  | succ d =>
    cases hcs
    refine Takes.placed ((takes_token hws (by decide) _).bind ?_)
    rw [if_pos rfl]
    exact (takes_skip '"' _).bind_cons (takes_string s rest)

theorem reads_bool (b : Bool) : Reads (fun _ => bool) (.bool b) b := by
  intro d ws cs rest hcs hws _
  cases d with
  | zero => exact hcs.elim
  | succ d =>
    cases hcs
    cases b with
    | true =>
      refine Takes.placed ((takes_token hws (by decide) _).bind ?_)
      rw [if_pos rfl]
      exact (takes_skip 't' _).bind_cons ((takes_word _ rest).bind_all (takes_pure _ _))
    | false =>
      refine Takes.placed ((takes_token hws (by decide) _).bind ?_)
      rw [if_neg (by decide), if_pos rfl]
      exact (takes_skip 'f' _).bind_cons ((takes_word _ rest).bind_all (takes_pure _ _))

theorem reads_numberBy (expected : String) {convert : Number → Except Cause α} {n : Int} {a : α}
    (h : convert (.int n) = .ok a) :
    Reads (fun _ => numberBy expected convert) (.num (.int n)) a := by
  intro d ws cs rest hcs hws hends
  cases d with
  | zero => exact hcs.elim
  | succ d =>
    obtain ⟨hlow, hhigh, rfl⟩ := hcs
    rcases takes_writeInt hlow hhigh hends with
      ⟨ds, htext, hnumber⟩ | ⟨c, ds, htext, hdigit, hnumber⟩
    · rw [htext]
      refine Takes.placed ((takes_token hws (by decide) _).bind ?_)
      dsimp only
      rw [if_pos rfl]
      refine (takes_skip '-' _).bind_cons (hnumber.bind_all ?_)
      rw [h]
      exact takes_pure a rest
    · rw [htext]
      refine Takes.placed ((takes_token hws (isBlank_of_isDigit hdigit) _).bind ?_)
      dsimp only
      rw [if_neg (ne_of_isDigit hdigit rfl), if_pos hdigit]
      refine hnumber.bind_all ?_
      rw [h]
      exact takes_pure a rest

theorem reads_count (n : Nat) : Reads (fun _ => count) (.nat n) n := by
  refine reads_numberBy "usize" ?_
  rw [Number.toCount, if_pos (Int.natCast_nonneg n)]
  rfl

theorem reads_signed {n : Int} (h : n < Word.signedBound) : Reads (fun _ => signed) (.int n) n := by
  refine reads_numberBy "i64" ?_
  rw [Number.toSigned, if_pos h]

/-! ## Lists and tables -/

theorem reads_listOf {r : Nat → Read α} {vs : List Json} {as : List α}
    (h : List.Forall₂ (Reads r) vs as) : Reads (listOf r) (.arr vs) as := by
  intro d ws cs rest hcs hws _
  cases d with
  | zero => exact hcs.elim
  | succ d =>
    obtain ⟨hd, ds, hvs, rfl⟩ := hcs
    -- An item is any text of a value of which the reader makes it.
    have hstep := stepTakes_item (R := fun a cs => ∃ v, Reads r v a ∧ IsText d v cs) (r := r d)
      (fun _ _ ⟨_, _, hv⟩ => isText_head hv)
      (fun _ cs rest ⟨_, hr, hv⟩ hends => hr d [] cs rest hv blanks_nil hends)
    have has : Separated (fun a cs => ∃ v, Reads r v a ∧ IsText d v cs) true as ds :=
      hvs.of_forall₂ (h.imp fun v _ hr _ hv => ⟨v, hr, hv⟩)
    refine Takes.placed ((takes_token hws (by decide) _).bind ?_)
    rw [if_pos rfl]
    exact takes_entering hd ((takes_repeated hstep has rest).closedBy (takes_endList rest))

/-- The member has the name of the entry and is read as its value. -/
def ReadsMember (r : Nat → Read α) (m : String × Json) (e : String × α) : Prop :=
  m.1 = e.1 ∧ Reads r m.2 e.2

theorem reads_tableOf {r : Nat → Read α} {ms : List (String × Json)} {es : List (String × α)}
    (h : List.Forall₂ (ReadsMember r) ms es) : Reads (tableOf r) (.obj ms) (Table.ofList es) := by
  intro d ws cs rest hcs hws _
  cases d with
  | zero => exact hcs.elim
  | succ d =>
    obtain ⟨hd, ds, hms, rfl⟩ := hcs
    have hstep := stepTakes_named
      (R := fun e cs => ∃ m, ReadsMember r m e ∧ MemberText (IsText d) m cs)
      (do
        let name ← memberName
        colon
        return some (name, ← r d))
      (fun _ _ ⟨_, _, hm⟩ => memberText_head hm)
      (fun e cs rest ⟨m, hr, hm⟩ hends => by
        have htakes := takes_member hm fun ws ds hv hws => hr.2 d ws ds rest hv hws hends
        rw [hr.1] at htakes
        exact htakes)
    have hes : Separated (fun e cs => ∃ m, ReadsMember r m e ∧ MemberText (IsText d) m cs) true es ds :=
      hms.of_forall₂ (h.imp fun m _ hr _ hm => ⟨m, hr, hm⟩)
    refine Takes.placed ((takes_token hws (by decide) _).bind ?_)
    rw [if_pos rfl]
    refine takes_entering hd (Takes.closedBy ?_ (takes_endObject rest))
    exact (takes_repeated hstep hes rest).map Table.ofList

/-! ## Records -/

/-- The member is a field, and is read as the entry. -/
def ReadsField (fields : List (String × (Nat → Read β))) (m : String × Json) (e : String × β) :
    Prop :=
  ∃ r, fields.find? (·.1 = m.1) = some (m.1, r) ∧ ReadsMember r m e

/-- The text up to the first name is taken by asking for a member. -/
theorem separated_cons_member {R : Json → List Char → Prop} {first : Bool} {m : String × Json}
    {ms : List (String × Json)} {cs : List Char} (h : Separated (MemberText R) first (m :: ms) cs) :
    ∃ lead ds es, cs = lead ++ (ds ++ es) ∧ MemberText R m ds ∧ Separated (MemberText R) false ms es
      ∧ ∀ rest, Takes (hasMember first) lead true (ds ++ rest) := by
  cases h with
  | first hws hm hms =>
    refine ⟨_, _, _, rfl, hm, hms, fun rest => ?_⟩
    obtain ⟨tail, rfl⟩ := memberText_head hm
    exact takes_hasMember_first hws _
  | @next _ _ ws ws' ds es hws hws' hm hms =>
    refine ⟨ws ++ ',' :: ws', ds, es, by simp, hm, hms, fun rest => ?_⟩
    obtain ⟨tail, rfl⟩ := memberText_head hm
    exact takes_hasMember_next hws hws' _

theorem takes_recordMembersUpTo {fields : List (String × (Nat → Read β))} {d : Nat}
    {ms : List (String × Json)} {es : List (String × β)}
    (hes : List.Forall₂ (ReadsField fields) ms es) {first : Bool} {cs : List Char}
    (h : Separated (MemberText (IsText d)) first ms cs) (fuel : Nat) (hfuel : ms.length < fuel)
    (seen : List (String × β)) (hnodup : ((es.reverse ++ seen).map Prod.fst).Nodup)
    (rest : List Char) :
    Takes (recordMembersUpTo fields d fuel first seen) cs (es.reverse ++ seen) ('\x7d' :: rest) := by
  induction hes generalizing first cs fuel seen with
  | nil =>
    obtain ⟨fuel, rfl⟩ := Nat.exists_eq_succ_of_ne_zero (Nat.ne_of_gt hfuel)
    cases h with
    | nil _ hws => exact (takes_hasMember_end first hws rest).bind_all (takes_pure seen _)
  | @cons m e ms es hm hes ih =>
    obtain ⟨fuel, rfl⟩ := Nat.exists_eq_succ_of_ne_zero (Nat.ne_of_gt (Nat.zero_lt_of_lt hfuel))
    obtain ⟨lead, ds, more, rfl, ⟨ws, ws', vs, hws, hws', hv, rfl⟩, hms, hlead⟩ :=
      separated_cons_member h
    obtain ⟨r, hfind, hname, hr⟩ := hm
    have hmore : (es.reverse ++ e :: seen) = (e :: es).reverse ++ seen := by simp
    rw [← hmore] at hnodup ⊢
    have hnew : lookupIn? m.1 seen = none := by
      rw [Table.lookupIn?_eq_none_iff, hname]
      intro hseen
      rw [List.map_append, List.map_cons] at hnodup
      exact (List.nodup_cons.mp (List.nodup_append.mp hnodup).2.1).1 hseen
    have hlater := ih hms fuel (Nat.lt_of_succ_lt_succ hfuel) (e :: seen) hnodup
    have hvalue := hr d ws' vs _ hv hws' (endsNumber_of_separated hms (.inr rfl) rest)
    have htext : writeString m.1 ++ (ws ++ ':' :: (ws' ++ vs)) ++ more
        = writeString m.1 ++ ((ws ++ [':']) ++ (ws' ++ vs ++ more)) := by simp
    have hlead' := hlead (more ++ '\x7d' :: rest)
    rw [← List.append_assoc] at hlead'
    refine hlead'.bind ?_
    rw [htext]
    refine (takes_memberName m.1 _).bind ?_
    simp only [hfind, hnew]
    refine (takes_colon hws _).bind (hvalue.bind ?_)
    rw [hname]
    exact hlater

/-- **A record is read if each of its members is**, and the values make the record. -/
theorem reads_record (name : String) {fields : List (String × (Nat → Read β))}
    {finish : List (String × β) → Except Cause α} {ms : List (String × Json)}
    (es : List (String × β)) {a : α} (hes : List.Forall₂ (ReadsField fields) ms es)
    (hnodup : (es.map Prod.fst).Nodup) (hfinish : finish es.reverse = .ok a) :
    Reads (record name fields finish) (.obj ms) a := by
  intro d ws cs rest hcs hws _
  cases d with
  | zero => exact hcs.elim
  | succ d =>
    obtain ⟨hd, ds, hms, rfl⟩ := hcs
    have hseen : ((es.reverse ++ []).map Prod.fst).Nodup := by
      rw [List.append_nil, List.map_reverse]
      exact (List.reverse_perm _).nodup_iff.mpr hnodup
    have hlength := length_le_of_separated hms
    refine Takes.placed ((takes_token hws (by decide) _).bind ?_)
    dsimp only
    rw [if_neg (by decide), if_pos rfl]
    refine takes_entering hd (Takes.closedBy (takes_get fun s hs => ?_) (takes_endObject rest))
    have hfuel : ms.length < s.rest.length + 1 := by
      rw [hs]
      simp only [List.length_append, List.length_cons, Bool.toNat_true] at hlength ⊢
      omega
    refine (takes_recordMembersUpTo hes hms _ hfuel [] hseen rest).bind_all ?_
    rw [List.append_nil, hfinish]
    exact takes_pure a _

/-! ## Variants -/

section

variable {known : List String} {bare : String → Except Cause α} {withValue : String → Nat → Read α}
  {name : String} {a : α}

theorem takes_variantName (hknown : known.contains name = true) {ws : List Char} (hws : Blanks ws)
    (rest : List Char) : Takes (variantName known) (ws ++ writeString name) name rest := by
  refine Takes.placed ((takes_token hws (by decide) _).bind ?_)
  rw [if_pos rfl]
  refine (takes_skip '"' _).bind_cons ((takes_string name rest).bind_all ?_)
  rw [if_pos hknown]
  exact takes_pure name rest

theorem reads_variant_bare (hknown : known.contains name = true) (hbare : bare name = .ok a) :
    Reads (variant known bare withValue) (.str name) a := by
  intro d ws cs rest hcs hws _
  cases d with
  | zero => exact hcs.elim
  | succ d =>
    cases hcs
    refine (takes_token hws (by decide) _).bind ?_
    rw [if_neg (by decide), if_pos rfl]
    refine (takes_variantName hknown blanks_nil rest).bind_all ?_
    rw [hbare]
    exact takes_pure a rest

theorem reads_variant_withValue (hknown : known.contains name = true) {v : Json}
    (hv : Reads (withValue name) v a) :
    Reads (variant known bare withValue) (.obj [(name, v)]) a := by
  intro d ws cs rest hcs hws _
  cases d with
  | zero => exact hcs.elim
  | succ d =>
    obtain ⟨hd, ds, hms, rfl⟩ := hcs
    -- The only member stands between blanks: its name, the colon and its value.
    obtain ⟨ws₁, ws₂, ws₃, vs, ws₄, hws₁, hws₂, hws₃, hvs, hws₄, htext⟩ : ∃ ws₁ ws₂ ws₃ vs ws₄,
        Blanks ws₁ ∧ Blanks ws₂ ∧ Blanks ws₃ ∧ IsText d v vs ∧ Blanks ws₄ ∧ ds ++ ['\x7d']
          = ws₁ ++ writeString name ++ (ws₂ ++ [':'] ++ (ws₃ ++ vs ++ (ws₄ ++ ['\x7d']))) := by
      cases hms with
      | first hws₁ hm hnil =>
        obtain ⟨ws₂, ws₃, vs, hws₂, hws₃, hvs, rfl⟩ := hm
        cases hnil with
        | nil _ hws₄ => exact ⟨_, _, _, _, _, hws₁, hws₂, hws₃, hvs, hws₄, by simp⟩
    have hends : EndsNumber (ws₄ ++ ['\x7d'] ++ rest) := by
      rw [List.append_assoc]
      exact endsNumber_of_separated (R := IsText d) (.nil false hws₄) (.inr rfl) rest
    refine (takes_token hws (by decide) _).bind ?_
    rw [if_pos rfl]
    refine takes_entering hd ?_
    rw [htext]
    refine (takes_variantName hknown hws₁ _).bind ((takes_colon hws₂ _).bind ?_)
    refine (hv d ws₃ vs _ hvs hws₃ hends).bind ?_
    refine (takes_peekToken hws₄ (by decide) rest).bind ?_
    exact (takes_skip '\x7d' rest).bind_all (takes_pure a rest)

end

end Read

end ClassGraph.Json
