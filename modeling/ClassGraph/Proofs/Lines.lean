import ClassGraph.Text.Pieces
import Mathlib.Data.List.Basic

/-!
# Texts of lines

Lines without newlines are found again in a text that is made of them (`splitAt_joinWith`), so such a
text has one list of lines.
-/

set_option autoImplicit false

namespace ClassGraph.Text

section

variable {α : Type} [DecidableEq α] {sep : α}

theorem splitAt_of_notMem {cs : List α} (h : sep ∉ cs) : splitAt sep cs = [cs] := by
  induction cs with
  | nil => rfl
  | cons c cs ih =>
    rw [List.mem_cons, not_or] at h
    rw [splitAt, if_neg (Ne.symm h.1), ih h.2]

theorem splitAt_append {cs : List α} (h : sep ∉ cs) (rest : List α) :
    splitAt sep (cs ++ sep :: rest) = cs :: splitAt sep rest := by
  induction cs with
  | nil => simp [splitAt]
  | cons c cs ih =>
    rw [List.mem_cons, not_or] at h
    rw [List.cons_append, splitAt, if_neg (Ne.symm h.1), ih h.2]

end

theorem joinWith_cons {sep : String} {l : String} {ls : List String} (hne : ls ≠ []) :
    joinWith sep (l :: ls) = l ++ sep ++ joinWith sep ls := by
  cases ls with
  | nil => exact absurd rfl hne
  | cons m ls => rfl

theorem joinWith_append {sep : String} {ls ms : List String} (hls : ls ≠ []) (hms : ms ≠ []) :
    joinWith sep (ls ++ ms) = joinWith sep ls ++ sep ++ joinWith sep ms := by
  induction ls with
  | nil => exact absurd rfl hls
  | cons l ls ih =>
    by_cases hrest : ls = []
    · subst hrest
      exact joinWith_cons hms
    · have hmore : ls ++ ms ≠ [] := by simp [hrest]
      rw [List.cons_append, joinWith_cons hmore, ih hrest, joinWith_cons hrest]
      simp only [String.append_assoc]

theorem joinWith_ne_empty {sep l : String} (hl : l ≠ "") (ls : List String) :
    joinWith sep (l :: ls) ≠ "" := by
  cases ls with
  | nil => exact hl
  | cons m ls =>
    rw [joinWith_cons (List.cons_ne_nil m ls)]
    simp [hl]

/-- Lines without newlines are found again in their text. -/
theorem splitAt_joinWith {ls : List String} (hne : ls ≠ []) (h : ∀ l ∈ ls, '\n' ∉ l.toList) :
    splitAt '\n' (joinWith "\n" ls).toList = ls.map String.toList := by
  induction ls with
  | nil => exact absurd rfl hne
  | cons l ls ih =>
    have hl : '\n' ∉ l.toList := h l List.mem_cons_self
    by_cases hls : ls = []
    · subst hls
      exact splitAt_of_notMem hl
    · have hjoin : (joinWith "\n" (l :: ls)).toList
          = l.toList ++ '\n' :: (joinWith "\n" ls).toList := by
        rw [joinWith_cons hls, String.toList_append, String.toList_append, List.append_assoc]
        rfl
      rw [hjoin, splitAt_append hl, ih hls fun m hm => h m (List.mem_cons_of_mem l hm), List.map_cons]

theorem joinWith_inj {ls ms : List String} (hls : ls ≠ []) (hms : ms ≠ [])
    (hl : ∀ l ∈ ls, '\n' ∉ l.toList) (hm : ∀ m ∈ ms, '\n' ∉ m.toList)
    (h : joinWith "\n" ls = joinWith "\n" ms) : ls = ms := by
  have hinj : Function.Injective String.toList := fun _ _ hchars => String.toList_inj.mp hchars
  apply List.map_injective_iff.mpr hinj
  rw [← splitAt_joinWith hls hl, h, splitAt_joinWith hms hm]

end ClassGraph.Text
