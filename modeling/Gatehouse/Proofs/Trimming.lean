import Gatehouse.Text.Blank
import Mathlib.Data.List.DropRight
import Mathlib.Tactic.Lemma

/-!
# Blanks around a text

Trimming takes away the blanks around a text and nothing else: once it is done there is no more to take away,
and more blanks around a text make no difference.
-/

namespace Gatehouse.Proofs
open Text

variable {cs front back : List Char}

lemma trimStart_blanks (h : front.all isBlank = true) (cs : List Char) :
    trimStart (front ++ cs) = trimStart cs :=
  List.dropWhile_append_of_pos (List.all_eq_true.1 h)

lemma trimEnd_blanks (h : back.all isBlank = true) (cs : List Char) : trimEnd (cs ++ back) = trimEnd cs := by
  unfold trimEnd
  rw [List.reverse_append]
  exact congrArg List.reverse (trimStart_blanks (by rw [List.all_reverse]; exact h) cs.reverse)

lemma trimEnd_eq_nil (h : cs.all isBlank = true) : trimEnd cs = [] := by
  have hnil := trimEnd_blanks h []
  rw [List.nil_append] at hnil
  exact hnil

lemma trimChars_padded (hfront : front.all isBlank = true) (hback : back.all isBlank = true)
    (cs : List Char) :
    trimChars (front ++ cs ++ back) = trimChars cs := by
  unfold trimChars
  rw [List.append_assoc, trimStart_blanks hfront]
  unfold trimStart
  rw [List.dropWhile_append]
  split
  · rename_i hempty
    have hrest : (back.dropWhile isBlank).all isBlank = true :=
      List.all_eq_true.2 fun c hc => List.all_eq_true.1 hback c ((List.dropWhile_sublist isBlank).subset hc)
    rw [trimEnd_eq_nil hrest, List.isEmpty_iff.1 hempty]
    rfl
  · exact trimEnd_blanks hback (cs.dropWhile isBlank)

lemma trimChars_sublist (cs : List Char) : (trimChars cs).Sublist cs :=
  (List.rdropWhile_prefix isBlank (trimStart cs)).sublist.trans (List.dropWhile_sublist isBlank)

lemma trimStart_trimChars (cs : List Char) : trimStart (trimChars cs) = trimChars cs := by
  have hprefix : trimChars cs <+: trimStart cs := List.rdropWhile_prefix isBlank (trimStart cs)
  cases hleft : trimChars cs with
  | nil => rfl
  | cons c rest =>
    rw [hleft] at hprefix
    obtain ⟨tail, htail⟩ := hprefix
    have hkept : isBlank c = false := by
      have hhead := List.head?_dropWhile_not isBlank cs
      rw [show cs.dropWhile isBlank = c :: (rest ++ tail) from htail.symm] at hhead
      exact hhead
    exact trimStart_of_head_not_blank rest hkept

lemma trimChars_trimChars (cs : List Char) : trimChars (trimChars cs) = trimChars cs := by
  show trimEnd (trimStart (trimChars cs)) = trimChars cs
  rw [trimStart_trimChars]
  exact List.rdropWhile_idempotent isBlank (trimStart cs)

lemma head_of_trimmed (cs : List Char) {d : Char} (h : (trimChars cs).head? = some d) :
    isBlank d = false := by
  obtain ⟨rest, hrest⟩ := List.head?_eq_some_iff.1 h
  have hstart := trimStart_trimChars cs
  rw [hrest] at hstart
  cases hd : isBlank d with
  | false => rfl
  | true =>
    unfold trimStart at hstart
    rw [List.dropWhile_cons_of_pos hd] at hstart
    have hlength := congrArg List.length hstart
    have hshort := (List.dropWhile_sublist isBlank (l := rest)).length_le
    rw [List.length_cons] at hlength
    omega

/-- Nothing is trimmed away from a text exactly if there is no blank at either end. -/
lemma trimChars_eq_self_iff : trimChars cs = cs ↔
    (∀ c, cs.head? = some c → isBlank c = false) ∧ ∀ c, cs.getLast? = some c → isBlank c = false := by
  constructor
  · intro h
    have hstart := trimStart_trimChars cs
    rw [h] at hstart
    have hend : List.rdropWhile isBlank cs = cs := by
      unfold trimChars at h
      rw [hstart] at h
      exact h
    refine ⟨fun c hc => head_of_trimmed cs (by rw [h]; exact hc), fun c hc => ?_⟩
    obtain ⟨front, rfl⟩ := List.getLast?_eq_some_iff.1 hc
    have hlast := List.rdropWhile_eq_self_iff.1 hend (by simp)
    rw [List.getLast_append_singleton] at hlast
    exact Bool.eq_false_iff.2 hlast
  · rintro ⟨hhead, hlast⟩
    have hstart : trimStart cs = cs := by
      cases cs with
      | nil => rfl
      | cons c rest => exact trimStart_of_head_not_blank rest (hhead c rfl)
    unfold trimChars
    rw [hstart]
    refine List.rdropWhile_eq_self_iff.2 fun hne => ?_
    rw [hlast _ (List.getLast?_eq_some_getLast hne)]
    exact Bool.false_ne_true

lemma trim_trim (s : String) : trim (trim s) = trim s := by
  unfold trim
  rw [String.toList_ofList, trimChars_trimChars]

lemma trim_padded {front back : String} (hfront : isBlankText front = true) (hback : isBlankText back = true)
    (s : String) : trim (front ++ s ++ back) = trim s := by
  unfold trim
  rw [String.toList_append, String.toList_append, trimChars_padded hfront hback]

end Gatehouse.Proofs
