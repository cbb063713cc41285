import ClassGraph.Proofs.SelfCoupling

/-!
# A class under the name of its file

A receiver may be written with the extension of a source file, `Foo.rs` for `Foo`, and should still
be the class `Foo`. The extension is taken off after lower-casing, so two lower-case forms of one name
are compared: that of `Foo` alone, and that of `Foo` in front of `.rs`.

Case maps look at one character at a time, with one exception: a capital sigma is lower-cased by its
place in the word. A dot does not end a word, so in front of an extension no sigma is a final one.
Hence **a class is taken for another one under the name of its file exactly when its name ends in a
final sigma** (`isInterClass_fileName_iff`): `ΑΣ` alone is `ας`, and in `ΑΣ.cs` it is `ασ`
(`isInterClass_final_sigma`).
-/

set_option autoImplicit false

namespace ClassGraph

namespace Text

/-! ## Lower case in context -/

/-- Is the character skipped when looking for a cased neighbour? -/
def isIgnorable (c : Char) : Bool := inIntervals caseIgnorableTable c.toNat

/-- The lower-case form of a character between two texts, the first with its nearest character first. -/
def lowerAt (before : List Char) (c : Char) (after : List Char) : List Char :=
  if c = 'Σ' then [if casedAhead before && !casedAhead after then 'ς' else 'σ']
  else if c = 'İ' then ['i', Char.ofNat 0x307]
  else [lowerChar c]

/-- The lower-case form of a text between two others. -/
def lowerBetween (before : List Char) : List Char → List Char → List Char
  | [], _ => []
  | c :: rest, after => lowerAt before c (rest ++ after) ++ lowerBetween (c :: before) rest after

theorem lowerFrom_append (before cs after : List Char) :
    lowerFrom before (cs ++ after)
      = lowerBetween before cs after ++ lowerFrom (cs.reverse ++ before) after := by
  induction cs generalizing before with
  | nil => rfl
  | cons c rest ih =>
    rw [List.cons_append, lowerFrom, ih, lowerBetween, List.append_assoc, List.reverse_cons,
      List.append_assoc]
    rfl

theorem lowerFrom_eq_lowerBetween (before cs : List Char) :
    lowerFrom before cs = lowerBetween before cs [] := by
  have h := lowerFrom_append before cs []
  rw [List.append_nil] at h
  rw [h, lowerFrom, List.append_nil]

theorem lowerBetween_ne_nil {cs : List Char} (h : cs ≠ []) (before after : List Char) :
    lowerBetween before cs after ≠ [] := by
  cases cs with
  | nil => exact absurd rfl h
  | cons c rest =>
    intro hnil
    have himage : lowerAt before c (rest ++ after) = [] := (List.append_eq_nil_iff.mp hnil).1
    unfold lowerAt at himage
    split at himage
    · cases himage
    · split at himage <;> cases himage

theorem casedAhead_cons (c : Char) (cs : List Char) :
    casedAhead (c :: cs) = if isIgnorable c then casedAhead cs else inIntervals casedTable c.toNat := by
  unfold isIgnorable
  cases h : inIntervals caseIgnorableTable c.toNat with
  | true => simp [casedAhead, h]
  | false => simp [casedAhead, h]

/-- A text is skipped as a whole if all its characters are; else what follows it is not looked at. -/
theorem casedAhead_append (cs after : List Char) :
    casedAhead (cs ++ after) = if cs.all isIgnorable then casedAhead after else casedAhead cs := by
  induction cs with
  | nil => simp
  | cons c rest ih =>
    rw [List.cons_append, casedAhead_cons, casedAhead_cons, ih]
    by_cases hc : isIgnorable c = true
    · simp [hc]
    · simp [hc]

theorem casedAhead_of_ignorable {cs : List Char} (h : cs.all isIgnorable = true) :
    casedAhead cs = false := by
  have happend := casedAhead_append cs []
  rw [List.append_nil, if_pos h] at happend
  exact happend

/-! ## Final sigmas -/

/-- The text, after `before`, ends in a capital sigma that ends its word: the nearest character before
    it that is not skipped is a cased one, and all characters behind it are skipped. -/
def EndsInSigma (before cs : List Char) : Prop :=
  ∃ front back, cs = front ++ 'Σ' :: back ∧ casedAhead (front.reverse ++ before) = true ∧
    back.all isIgnorable = true

theorem not_endsInSigma_nil (before : List Char) : ¬ EndsInSigma before [] := by
  rintro ⟨front, back, h, -⟩
  simp at h

theorem endsInSigma_cons {before : List Char} {c : Char} {rest : List Char} :
    EndsInSigma before (c :: rest) ↔
      (c = 'Σ' ∧ casedAhead before = true ∧ rest.all isIgnorable = true)
        ∨ EndsInSigma (c :: before) rest := by
  constructor
  · rintro ⟨front, back, h, hcased, hback⟩
    cases front with
    | nil =>
      obtain ⟨rfl, rfl⟩ := List.cons.inj h
      exact .inl ⟨rfl, hcased, hback⟩
    | cons d front =>
      obtain ⟨rfl, rfl⟩ := List.cons.inj h
      rw [List.reverse_cons, List.append_assoc] at hcased
      exact .inr ⟨front, back, rfl, hcased, hback⟩
  · rintro (⟨rfl, hcased, hrest⟩ | ⟨front, back, rfl, hcased, hback⟩)
    · exact ⟨[], rest, rfl, hcased, hrest⟩
    · refine ⟨c :: front, back, rfl, ?_, hback⟩
      rw [List.reverse_cons, List.append_assoc]
      exact hcased

/-- Whether a text ends in a final sigma is found in one pass. -/
instance decidableEndsInSigma : (before cs : List Char) → Decidable (EndsInSigma before cs)
  | before, [] => .isFalse (not_endsInSigma_nil before)
  | before, c :: rest =>
    have := decidableEndsInSigma (c :: before) rest
    decidable_of_iff _ endsInSigma_cons.symm

section Followed

variable {before after : List Char} (hafter : casedAhead after = true)
include hafter

/-- What follows a character decides its form only for a sigma, and only if nothing but skipped
    characters stands between. -/
theorem lowerAt_append_eq_iff {c : Char} {rest : List Char} :
    lowerAt before c (rest ++ after) = lowerAt before c rest
      ↔ ¬ (c = 'Σ' ∧ casedAhead before = true ∧ rest.all isIgnorable = true) := by
  unfold lowerAt
  by_cases hc : c = 'Σ'
  · rw [if_pos hc, if_pos hc, casedAhead_append]
    by_cases hrest : rest.all isIgnorable = true
    · -- Alone the sigma ends the text; in front of `after` a cased character follows it.
      rw [if_pos hrest, casedAhead_of_ignorable hrest, hafter]
      cases hbefore : casedAhead before with
      | false => simp
      | true => simp [hc, hrest]
    · rw [if_neg hrest]
      exact iff_of_true rfl fun h => hrest h.2.2
  · rw [if_neg hc, if_neg hc]
    exact iff_of_true rfl fun h => hc h.1

/-- **In front of a cased character, a text has the lower-case form that it has alone exactly when it
    does not end in a final sigma.** -/
theorem lowerBetween_eq_iff {cs : List Char} :
    lowerBetween before cs after = lowerBetween before cs [] ↔ ¬ EndsInSigma before cs := by
  induction cs generalizing before with
  | nil => exact iff_of_true rfl (not_endsInSigma_nil before)
  | cons c rest ih =>
    -- A form may be another one, but it never has another length, so forms can be compared one by one.
    have hlength : (lowerAt before c (rest ++ after)).length = (lowerAt before c rest).length := by
      unfold lowerAt
      split
      · rfl
      · rfl
    rw [endsInSigma_cons, not_or, ← ih, ← lowerAt_append_eq_iff hafter, lowerBetween, lowerBetween,
      List.append_nil]
    constructor
    · intro h
      exact List.append_inj h hlength
    · rintro ⟨himage, hrest⟩
      rw [himage, hrest]

end Followed

/-! ## Letters of extensions -/

theorem toList_toLower (s : String) : s.toLower.toList = s.toList.map Char.toLower :=
  String.toList_map

theorem toNat_lt_of_toLower {c : Char} (h : c.toLower.toNat < 128) : c.toNat < 128 := by
  by_cases hupper : c.val ≥ 'A'.val ∧ c.val ≤ 'Z'.val
  · have hle : c.toNat ≤ 90 := UInt32.le_iff_toNat_le.mp hupper.2
    omega
  · have hsame : c.toLower = c := dif_neg hupper
    rwa [hsame] at h

theorem lowerFrom_of_ascii {cs : List Char} (h : ∀ c ∈ cs, c.toNat < 128) (before : List Char) :
    lowerFrom before cs = cs.map Char.toLower := by
  induction cs generalizing before with
  | nil => rfl
  | cons c rest ih =>
    have hc : c.toNat < 128 := h c List.mem_cons_self
    have hsigma : c ≠ 'Σ' := by
      rintro rfl
      exact absurd hc (by decide)
    have hdotted : c ≠ 'İ' := by
      rintro rfl
      exact absurd hc (by decide)
    rw [lowerFrom, if_neg hsigma, if_neg hdotted, lowerChar, if_pos hc,
      ih fun x hx => h x (List.mem_cons_of_mem c hx)]
    rfl

/-- Letters are cased and not skipped. -/
theorem casedAhead_cons_of_letter {c : Char} (hlow : 97 ≤ c.toLower.toNat)
    (hhigh : c.toLower.toNat ≤ 122) (rest : List Char) : casedAhead (c :: rest) = true := by
  have hall : ∀ n < 128, 97 ≤ (Char.ofNat n).toLower.toNat → (Char.ofNat n).toLower.toNat ≤ 122 →
      inIntervals caseIgnorableTable n = false ∧ inIntervals casedTable n = true := by
    decide +kernel
  have hascii : c.toNat < 128 := toNat_lt_of_toLower (by omega)
  have hletter := hall c.toNat hascii
  rw [Char.ofNat_toNat] at hletter
  obtain ⟨hkeep, hcased⟩ := hletter hlow hhigh
  have hstop : ¬ isIgnorable c = true := by
    rw [isIgnorable, hkeep]
    decide
  rw [casedAhead_cons, if_neg hstop]
  exact hcased

end Text

/-! ## Extensions -/

section Extension

variable {extension : String} (h : extension.toLower ∈ sourceExtensions)
include h

theorem letter_of_extension {c : Char} (hc : c ∈ extension.toList) :
    97 ≤ c.toLower.toNat ∧ c.toLower.toNat ≤ 122 := by
  have hall : sourceExtensions.all (fun e => e.toList.all fun c => 97 ≤ c.toNat && c.toNat ≤ 122)
      = true := by decide
  have hlower : c.toLower ∈ extension.toLower.toList := by
    rw [Text.toList_toLower]
    exact List.mem_map_of_mem hc
  simpa using List.all_eq_true.mp (List.all_eq_true.mp hall _ h) _ hlower

theorem lowerFrom_dot_extension (before : List Char) :
    Text.lowerFrom before ('.' :: extension.toList) = '.' :: extension.toLower.toList := by
  have hascii : ∀ c ∈ '.' :: extension.toList, c.toNat < 128 := by
    intro c hc
    rcases List.mem_cons.mp hc with rfl | hc
    · decide
    · have hletter := letter_of_extension h hc
      exact Text.toNat_lt_of_toLower (by omega)
  rw [Text.lowerFrom_of_ascii hascii, Text.toList_toLower]
  rfl

theorem casedAhead_dot_extension : Text.casedAhead ('.' :: extension.toList) = true := by
  have hdot : Text.isIgnorable '.' = true := by decide +kernel
  rw [Text.casedAhead_cons, if_pos hdot]
  cases hchars : extension.toList with
  | nil =>
    -- No extension is empty.
    have hempty : extension.toLower = "" := by
      rw [← String.toList_eq_nil_iff, Text.toList_toLower, hchars]
      rfl
    rw [hempty] at h
    exact absurd h (by decide)
  | cons c rest =>
    have hc : c ∈ extension.toList := hchars ▸ List.mem_cons_self
    obtain ⟨hlow, hhigh⟩ := letter_of_extension h hc
    exact Text.casedAhead_cons_of_letter hlow hhigh rest

/-- The lower-case form of a file's name is that of the class in front of the extension. -/
theorem lowercase_fileName (name : String) :
    Text.lowercase (name ++ "." ++ extension)
      = String.ofList (Text.lowerBetween [] name.toList ('.' :: extension.toList)) ++ "."
        ++ extension.toLower := by
  have hchars : (name ++ "." ++ extension).toList = name.toList ++ '.' :: extension.toList := by simp
  rw [Text.lowercase, hchars, Text.lowerFrom_append, lowerFrom_dot_extension h, ← String.toList_inj]
  simp

end Extension

/-- **A class is taken for another one under the name of its file exactly when its name ends in a
    final sigma**, whatever the extension and the case of its letters. -/
theorem isInterClass_fileName_iff {name extension : String} (hname : name ≠ "")
    (hextension : extension.toLower ∈ sourceExtensions) :
    isInterClass name (name ++ "." ++ extension) = true ↔ Text.EndsInSigma [] name.toList := by
  have hchars : name.toList ≠ [] := fun h => hname (String.toList_eq_nil_iff.mp h)
  have hstem : String.ofList (Text.lowerBetween [] name.toList ('.' :: extension.toList)) ≠ "" := by
    intro hempty
    have hnil := congrArg String.toList hempty
    rw [String.toList_ofList] at hnil
    exact Text.lowerBetween_ne_nil hchars [] _ hnil
  unfold isInterClass
  rw [decide_eq_true_iff,
    normalizedLabel_eq_stem hstem hextension (lowercase_fileName hextension name), Text.lowercase,
    Text.lowerFrom_eq_lowerBetween, not_iff_comm,
    ← Text.lowerBetween_eq_iff (casedAhead_dot_extension hextension)]
  exact String.ofList_inj.symm

/-- A name with dots and sigmas, the last of them followed by a letter, keeps its class; one that ends
    in a sigma does not. -/
theorem isInterClass_fileName_sigmas :
    ("ΣΑΣ.Σb" ≠ "" ∧ "ΑΣ'" ≠ "" ∧ "jAvA".toLower ∈ sourceExtensions) ∧
    isInterClass "ΣΑΣ.Σb" ("ΣΑΣ.Σb" ++ "." ++ "jAvA") = false ∧
    isInterClass "ΑΣ'" ("ΑΣ'" ++ "." ++ "jAvA") = true := by
  have hextension : "jAvA".toLower ∈ sourceExtensions := by decide +kernel
  have hinner : "ΣΑΣ.Σb" ≠ "" := by decide
  have hfinal : "ΑΣ'" ≠ "" := by decide
  refine ⟨⟨hinner, hfinal, hextension⟩, ?_, ?_⟩
  · rw [Bool.eq_false_iff, ne_eq, isInterClass_fileName_iff hinner hextension]
    decide +kernel
  · rw [isInterClass_fileName_iff hfinal hextension]
    decide +kernel

/-- The class `ΑΣ` is taken for another one under the name of its file. -/
theorem isInterClass_final_sigma :
    "ΑΣ" ≠ "" ∧ "cs" ∈ sourceExtensions ∧ isInterClass "ΑΣ" ("ΑΣ" ++ "." ++ "cs") = true := by
  decide +kernel

end ClassGraph
