import ScopedCss.Text.Basic
import Mathlib.Logic.Function.Basic

/-! Texts are determined by their letters, so joining them is as joining rows of letters. -/
namespace ScopedCss.Text

theorem foldr_consLetter_run (s : String) (runs : List Char × List (Half × List Char)) :
    (runLetters s).foldr consLetter runs = (s.toList ++ runs.1, runs.2) := by
  unfold runLetters
  induction s.toList with
  | nil => rfl
  | cons c cs ih => simp [ih, consLetter]

theorem foldr_consLetter_rest (rest : List (Half × String)) :
    (rest.flatMap fun p => .half p.1 :: runLetters p.2).foldr consLetter ([], []) =
      ([], rest.map fun p => (p.1, p.2.toList)) := by
  induction rest with
  | nil => rfl
  | cons p rest ih =>
    rw [List.flatMap_cons, List.foldr_append, ih, List.foldr_cons, foldr_consLetter_run]
    simp [consLetter]

theorem ofLetters_letters (t : Text) : ofLetters t.letters = t := by
  obtain ⟨front, rest⟩ := t
  rw [ofLetters, letters, List.foldr_append, foldr_consLetter_rest, foldr_consLetter_run]
  simp [Function.comp_def]

theorem letters_injective : Function.Injective letters :=
  Function.LeftInverse.injective ofLetters_letters

theorem join_cons (t : Text) (ts : List Text) : join (t :: ts) = t ++ join ts :=
  letters_injective (by simp [letters_append, letters_join])

theorem join_concat (ts : List Text) (t : Text) : join (ts ++ [t]) = join ts ++ t :=
  letters_injective (by simp [letters_append, letters_join])

theorem eq_of_toString? {t : Text} {s : String} (h : t.toString? = some s) : ofString s = t := by
  obtain ⟨front, rest⟩ := t
  cases rest with
  | nil =>
    cases h
    rfl
  | cons _ _ => cases h

theorem empty_append (t : Text) : ofString "" ++ t = t :=
  letters_injective (by simp [letters_append])

theorem append_empty (t : Text) : t ++ ofString "" = t :=
  letters_injective (by simp [letters_append])

theorem append_assoc (t u v : Text) : t ++ u ++ v = t ++ (u ++ v) :=
  letters_injective (by simp [letters_append])

theorem append_right_inj {t u v : Text} : t ++ u = t ++ v ↔ u = v := by
  rw [← letters_injective.eq_iff, letters_append, letters_append, List.append_right_inj,
    letters_injective.eq_iff]

theorem append_eq_left {t u : Text} : t ++ u = t ↔ u = ofString "" := by
  conv => lhs; rhs; rw [← append_empty t]
  exact append_right_inj

end ScopedCss.Text
