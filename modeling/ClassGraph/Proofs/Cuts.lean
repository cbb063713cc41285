import ClassGraph.Proofs.Lines

/-!
# Texts cut at separators

A text is cut at the leftmost separator, then what is left of it is cut again. With separators of more
than one character this is not the same as cutting wherever one of them stands: in `a:::b` the first
two colons divide, and the third belongs to the second piece.

`CutAt` says this for any separators. Every text can be cut (`exists_cutAt`), in one way as far as the
separators of packages go: replacing the double colons by dots and splitting at the dots is cutting at
both (`splitAt_colonsToDots`), and replacing alone is cutting at the double colons and joining with dots
(`isReplaced_iff`).
-/

set_option autoImplicit false

namespace ClassGraph.Text

/-! ## Cutting -/

/-- No separator starts in `before`, when `rest` follows. -/
def ClearOf (seps : List (List Char)) (before rest : List Char) : Prop :=
  ∀ k < before.length, ∀ sep ∈ seps, ¬ sep <+: (before ++ rest).drop k

/-- `pieces` are what is left of the text when it is cut at the leftmost separator, and so on behind
    it. -/
inductive CutAt (seps : List (List Char)) : List Char → List (List Char) → Prop where
  | whole {cs : List Char} (hclear : ClearOf seps cs []) : CutAt seps cs [cs]
  | cut {before sep rest : List Char} {pieces : List (List Char)} (hsep : sep ∈ seps)
      (hclear : ClearOf seps before (sep ++ rest)) (hrest : CutAt seps rest pieces) :
      CutAt seps (before ++ sep ++ rest) (before :: pieces)

variable {seps : List (List Char)}

theorem clearOf_nil (rest : List Char) : ClearOf seps [] rest := fun _ hk =>
  absurd hk (Nat.not_lt_zero _)

theorem clearOf_cons_iff {c : Char} {before rest : List Char} :
    ClearOf seps (c :: before) rest ↔
      (∀ sep ∈ seps, ¬ sep <+: c :: (before ++ rest)) ∧ ClearOf seps before rest := by
  constructor
  · intro h
    exact ⟨h 0 (Nat.zero_lt_succ _), fun k hk => h (k + 1) (Nat.succ_lt_succ hk)⟩
  · rintro ⟨hhead, hrest⟩ k hk
    cases k with
    | zero => exact hhead
    | succ k => exact hrest k (Nat.lt_of_succ_lt_succ hk)

theorem ClearOf.notMem {c : Char} {before rest : List Char} (h : ClearOf seps before rest)
    (hc : [c] ∈ seps) : c ∉ before := by
  induction before with
  | nil => exact List.not_mem_nil
  | cons d before ih =>
    obtain ⟨hhead, htail⟩ := clearOf_cons_iff.mp h
    intro hmem
    rcases List.mem_cons.mp hmem with rfl | hmem
    · exact hhead [c] hc ⟨before ++ rest, rfl⟩
    · exact ih htail hmem

theorem CutAt.ne_nil {cs : List Char} {pieces : List (List Char)} (h : CutAt seps cs pieces) :
    pieces ≠ [] := by
  cases h with
  | whole _ => exact List.cons_ne_nil _ _
  | cut _ _ _ => exact List.cons_ne_nil _ _

theorem CutAt.start {sep rest : List Char} {pieces : List (List Char)} (hsep : sep ∈ seps)
    (h : CutAt seps rest pieces) : CutAt seps (sep ++ rest) ([] :: pieces) :=
  .cut hsep (clearOf_nil _) h

/-- A text that can be cut can be cut with one more character in front, if no separator starts there. -/
theorem CutAt.exists_cons {c : Char} {cs : List Char} {pieces : List (List Char)}
    (hc : ∀ sep ∈ seps, ¬ sep <+: c :: cs) (h : CutAt seps cs pieces) :
    ∃ pieces', CutAt seps (c :: cs) pieces' := by
  cases h with
  | whole hclear =>
    refine ⟨_, .whole (clearOf_cons_iff.mpr ⟨?_, hclear⟩)⟩
    rwa [List.append_nil]
  | @cut before sep rest pieces hsep hclear hrest =>
    have hclear' : ClearOf seps (c :: before) (sep ++ rest) := by
      refine clearOf_cons_iff.mpr ⟨?_, hclear⟩
      rwa [← List.append_assoc]
    exact ⟨_, .cut hsep hclear' hrest⟩

/-- **Every text can be cut.** -/
theorem exists_cutAt (hne : [] ∉ seps) (cs : List Char) : ∃ pieces, CutAt seps cs pieces := by
  -- Behind a separator the text is shorter, whatever its length.
  induction hn : cs.length using Nat.strongRecOn generalizing cs with
  | ind n ih =>
    cases cs with
    | nil => exact ⟨_, .whole (clearOf_nil [])⟩
    | cons c cs =>
      by_cases hstart : ∃ sep ∈ seps, sep <+: c :: cs
      · obtain ⟨sep, hsep, rest, hrest⟩ := hstart
        have hpos : 0 < sep.length := List.length_pos_iff.mpr fun h => hne (h ▸ hsep)
        have hlength : sep.length + rest.length = n := by rw [← hn, ← hrest, List.length_append]
        obtain ⟨pieces, hpieces⟩ := ih rest.length (by omega) rest rfl
        exact ⟨[] :: pieces, hrest ▸ hpieces.start hsep⟩
      · obtain ⟨pieces, hpieces⟩ := ih cs.length (by rw [← hn, List.length_cons]; omega) cs rfl
        exact hpieces.exists_cons fun sep hsep h => hstart ⟨sep, hsep, h⟩

/-! ## Double colons -/

theorem colonsToDots_colons (cs : List Char) :
    colonsToDots (':' :: ':' :: cs) = '.' :: colonsToDots cs := by
  rw [colonsToDots]

theorem colonsToDots_cons {c : Char} {cs : List Char} (h : ¬ [':', ':'] <+: c :: cs) :
    colonsToDots (c :: cs) = c :: colonsToDots cs := by
  rw [colonsToDots]
  rintro rest rfl rfl
  exact h ⟨rest, rfl⟩

theorem not_colons_prefix_of_ne {c : Char} {cs : List Char} (h : c ≠ ':') :
    ¬ [':', ':'] <+: c :: cs := by
  rintro ⟨rest, hrest⟩
  exact h (List.cons.inj hrest).1.symm

/-- Text in which no double colon starts stays as it is. -/
theorem ClearOf.colonsToDots_append {before rest : List Char} (h : ClearOf seps before rest)
    (hseps : [':', ':'] ∈ seps) : colonsToDots (before ++ rest) = before ++ colonsToDots rest := by
  induction before with
  | nil => rfl
  | cons c before ih =>
    obtain ⟨hhead, htail⟩ := clearOf_cons_iff.mp h
    rw [List.cons_append, colonsToDots_cons (hhead _ hseps), ih htail, List.cons_append]

theorem ClearOf.colonsToDots_eq {cs : List Char} (h : ClearOf seps cs [])
    (hseps : [':', ':'] ∈ seps) : colonsToDots cs = cs := by
  have hcs := h.colonsToDots_append hseps
  rwa [List.append_nil, colonsToDots, List.append_nil] at hcs

/-- The text up to a separator goes over as it is, and the separator becomes a dot. -/
theorem colonsToDots_cut {before sep rest : List Char} (hsep : sep ∈ [[':', ':'], ['.']])
    (hclear : ClearOf seps before (sep ++ rest)) (hseps : [':', ':'] ∈ seps) :
    colonsToDots (before ++ sep ++ rest) = before ++ '.' :: colonsToDots rest := by
  rw [List.append_assoc, hclear.colonsToDots_append hseps]
  rcases List.mem_cons.mp hsep with rfl | hsep
  · exact congrArg (before ++ ·) (colonsToDots_colons rest)
  · obtain rfl := List.mem_singleton.mp hsep
    exact congrArg (before ++ ·) (colonsToDots_cons (not_colons_prefix_of_ne (by decide)))

/-- **Replacing the double colons and splitting at the dots is cutting at both.** -/
theorem splitAt_colonsToDots {cs : List Char} {pieces : List (List Char)}
    (h : CutAt [[':', ':'], ['.']] cs pieces) : splitAt '.' (colonsToDots cs) = pieces := by
  induction h with
  | whole hclear =>
    rw [hclear.colonsToDots_eq (by simp), splitAt_of_notMem (hclear.notMem (by simp))]
  | cut hsep hclear _ ih =>
    rw [colonsToDots_cut hsep hclear (by simp), splitAt_append (hclear.notMem (by simp)), ih]

/-! ## Replacing -/

/-- `t` is `s` with every `old`, leftmost first, replaced by `new`. -/
def IsReplaced (old new s t : String) : Prop :=
  ∃ pieces, CutAt [old.toList] s.toList pieces ∧ t = joinWith new (pieces.map String.ofList)

/-- The text with dots for its double colons. -/
def withDots (s : String) : String := String.ofList (colonsToDots s.toList)

theorem joinWith_dots {cs : List Char} {pieces : List (List Char)} (h : CutAt [[':', ':']] cs pieces) :
    joinWith "." (pieces.map String.ofList) = String.ofList (colonsToDots cs) := by
  induction h with
  | whole hclear =>
    rw [hclear.colonsToDots_eq (by simp)]
    rfl
  | @cut before sep rest pieces hsep hclear hrest ih =>
    have hmore : pieces.map String.ofList ≠ [] := by simpa using hrest.ne_nil
    have hsep' : sep ∈ [[':', ':'], ['.']] := List.mem_append_left [['.']] hsep
    have hdot : String.ofList ('.' :: colonsToDots rest) = "." ++ String.ofList (colonsToDots rest) :=
      String.toList_inj.mp (by simp)
    rw [colonsToDots_cut hsep' hclear (by simp), List.map_cons, joinWith_cons hmore, ih,
      String.append_assoc, String.ofList_append, hdot]

theorem isReplaced_iff {s t : String} : IsReplaced "::" "." s t ↔ t = withDots s := by
  constructor
  · rintro ⟨pieces, hpieces, rfl⟩
    exact joinWith_dots hpieces
  · rintro rfl
    have hne : [] ∉ [[':', ':']] := by decide
    obtain ⟨pieces, hpieces⟩ := exists_cutAt hne s.toList
    exact ⟨pieces, hpieces, (joinWith_dots hpieces).symm⟩

/-! ## What replacing leaves as it is -/

theorem colonsToDots_eq_nil_iff {cs : List Char} : colonsToDots cs = [] ↔ cs = [] := by
  fun_cases colonsToDots cs with
  | case1 rest => simp
  | case2 c rest hstart => simp
  | case3 => simp

theorem head?_colonsToDots {c : Char} {cs : List Char} (h : c ∈ (colonsToDots cs).head?) :
    c = '.' ∨ c ∈ cs.head? := by
  cases cs with
  | nil => exact Or.inr h
  | cons d cs =>
    by_cases hstart : [':', ':'] <+: d :: cs
    · obtain ⟨rest, hrest⟩ := hstart
      rw [← hrest] at h
      exact Or.inl (Option.some.inj h).symm
    · rw [colonsToDots_cons hstart] at h
      exact Or.inr h

theorem mem_getLast?_cons_iff {c d : Char} {ds : List Char} :
    c ∈ (d :: ds).getLast? ↔ (ds = [] ∧ c = d) ∨ c ∈ ds.getLast? := by
  cases ds with
  | nil => simp [eq_comm]
  | cons e ds => simp [List.getLast?_cons_cons]

theorem getLast?_colonsToDots {c : Char} {cs : List Char} (h : c ∈ (colonsToDots cs).getLast?) :
    c = '.' ∨ c ∈ cs.getLast? := by
  fun_induction colonsToDots cs with
  | case1 rest ih =>
    rcases mem_getLast?_cons_iff.mp h with ⟨-, rfl⟩ | h
    · exact Or.inl rfl
    · refine (ih h).imp_right fun hc => ?_
      exact mem_getLast?_cons_iff.mpr (Or.inr (mem_getLast?_cons_iff.mpr (Or.inr hc)))
  | case2 d rest hstart ih =>
    rcases mem_getLast?_cons_iff.mp h with ⟨hnil, rfl⟩ | h
    · exact Or.inr (mem_getLast?_cons_iff.mpr (Or.inl ⟨colonsToDots_eq_nil_iff.mp hnil, rfl⟩))
    · exact (ih h).imp_right fun hc => mem_getLast?_cons_iff.mpr (Or.inr hc)
  | case3 => exact Or.inr h

/-- A colon that is left over stands in front of no other, so that nothing is replaced twice. -/
theorem colonsToDots_idem (cs : List Char) : colonsToDots (colonsToDots cs) = colonsToDots cs := by
  fun_induction colonsToDots cs with
  | case1 rest ih => rw [colonsToDots_cons (not_colons_prefix_of_ne (by decide)), ih]
  | case2 c rest hstart ih =>
    have hstart' : ¬ [':', ':'] <+: c :: colonsToDots rest := by
      rintro ⟨after, hafter⟩
      obtain ⟨rfl, hrest⟩ := List.cons.inj hafter
      have hhead : ':' ∈ rest.head? := by
        refine (head?_colonsToDots ?_).resolve_left (by decide)
        rw [← hrest]
        rfl
      obtain ⟨tail, rfl⟩ := List.head?_eq_some_iff.mp hhead
      exact hstart tail rfl rfl
    rw [colonsToDots_cons hstart', ih]
  | case3 => rfl

theorem clearOf_of_notMem {before : List Char} (h : ':' ∉ before) (rest : List Char) :
    ClearOf [[':', ':']] before rest := by
  induction before with
  | nil => exact clearOf_nil rest
  | cons c before ih =>
    rw [List.mem_cons, not_or] at h
    refine clearOf_cons_iff.mpr ⟨fun sep hsep => ?_, ih h.2⟩
    rw [List.mem_singleton.mp hsep]
    exact not_colons_prefix_of_ne (Ne.symm h.1)

theorem colonsToDots_append_left {before : List Char} (h : ':' ∉ before) (cs : List Char) :
    colonsToDots (before ++ cs) = before ++ colonsToDots cs :=
  (clearOf_of_notMem h cs).colonsToDots_append (by simp)

theorem colonsToDots_append_right {after : List Char} (h : ':' ∉ after) (cs : List Char) :
    colonsToDots (cs ++ after) = colonsToDots cs ++ after := by
  fun_induction colonsToDots cs with
  | case1 rest ih => exact congrArg ('.' :: ·) ih
  | case2 c rest hstart ih =>
    -- A double colon that starts here would have to reach into `after`.
    have hstart' : ¬ [':', ':'] <+: c :: (rest ++ after) := by
      rintro ⟨tail, htail⟩
      obtain ⟨rfl, hrest⟩ := List.cons.inj htail
      cases rest with
      | nil =>
        refine h ?_
        rw [List.nil_append] at hrest
        rw [← hrest]
        exact List.mem_cons_self
      | cons d rest => exact hstart rest rfl (congrArg (· :: rest) (List.cons.inj hrest).1.symm)
    rw [List.cons_append, colonsToDots_cons hstart', ih, List.cons_append]
  | case3 => exact (clearOf_of_notMem h []).colonsToDots_eq (by simp)

end ClassGraph.Text
