import Gatehouse.Layered.Environment
import Gatehouse.Proofs.LayeredPlaces
import Mathlib.Tactic.SplitIfs

/-!
# The names of variables

A variable is one of the program's if its name begins with the program's mark, in capital or small letters.
Lower casing goes through all of Unicode, but no letter from elsewhere passes for one of the mark's. The
name of a setting's variable is made of the mark, the section and the field, and leads to the place of this
setting and of no other.
-/

namespace Gatehouse.Proofs
open Layered Text

variable {name : String} {environment : List (String × String)} {l l' : Leaf} {c p : Char}
  {before cs ps : List Char}

def markLetters : List Char := ['s', 'n', 'i', 'p', 'l', 'y', '_']

/-- The name begins with the mark, in any letter case. -/
def Marked (name : String) : Prop := (name.toList.take 8).map Char.toUpper = "SNIPLY__".toList

instance (name : String) : Decidable (Marked name) := inferInstanceAs (Decidable (_ = _))

/-- Of all runs only the one of the Kelvin sign ends among the letters of ASCII, and beyond ASCII. -/
lemma lowercaseRuns_spec :
    ∀ r ∈ lowercaseRuns, r.2.1 < 128 ∨ 128 ≤ r.2.2.2 ∨ r = (0x212A, 0x212A, 1, 0x6B) := by
  decide +kernel

lemma toNat_ofNat_eq_or (n : Nat) : (Char.ofNat n).toNat = n ∨ (Char.ofNat n).toNat = 0 := by
  by_cases h : n.isValidChar
  · left
    rw [Char.ofNat, dif_pos h]
    rfl
  · right
    rw [Char.ofNat, dif_neg h]
    rfl

lemma toUpper_toLower (h : c.toNat < 128) : c.toLower.toUpper = c.toUpper := by
  have hall : ∀ n < 128, (Char.ofNat n).toLower.toUpper = (Char.ofNat n).toUpper := by decide
  rw [← Char.ofNat_toNat c]
  exact hall c.toNat h

/-- A character beyond ASCII has no lower case that begins with a letter of the mark, apart from the capital
I with a dot, whose dot follows. -/
lemma lowerChar_beyond_ascii (h : 128 ≤ c.toNat) :
    lowerChar c = ['i', Char.ofNat 0x307] ∨ ∃ d, lowerChar c = [d] ∧ d ∉ markLetters := by
  have hfar : ∀ {d : Char}, d.toNat = 0x6B ∨ 128 ≤ d.toNat ∨ d.toNat = 0 → d ∉ markLetters := by
    intro d hd hmem
    have hletters : ∀ p ∈ markLetters, ¬ (p.toNat = 0x6B ∨ 128 ≤ p.toNat ∨ p.toNat = 0) := by
      simp [markLetters]
    exact hletters d hmem hd
  unfold lowerChar
  rw [if_neg (by omega)]
  split_ifs with hdot
  · exact Or.inl rfl
  · right
    split
    · rename_i first last step lower hfound
      refine ⟨_, rfl, hfar ?_⟩
      have hmem := List.mem_of_find?_eq_some hfound
      have hin := List.find?_some hfound
      simp only [Bool.and_eq_true, decide_eq_true_eq] at hin
      rcases toNat_ofNat_eq_or (c.toNat - first + lower) with heq | hzero
      · rw [heq]
        rcases lowercaseRuns_spec _ hmem with hlast | hlower | hkelvin
        · simp only at hlast
          omega
        · simp only at hlower
          omega
        · simp only [Prod.mk.injEq] at hkelvin
          omega
      · exact Or.inr (Or.inr hzero)
    · exact ⟨c, rfl, hfar (Or.inr (Or.inl h))⟩

/-- A letter of the mark at the front of a lower-cased text comes from this letter, large or small. The dot
of a capital I is no letter of the mark, so a letter of the mark that follows shows that there was none. -/
lemma toUpper_of_lowerAfter (hp : p ∈ markLetters) (hps : ∀ d ∈ ps, d ∈ markLetters)
    (hlast : p = 'i' → ps ≠ []) (h : p :: ps <+: lowerAfter before (c :: cs)) :
    c.toUpper = p.toUpper ∧ ps <+: lowerAfter (c :: before) cs := by
  unfold lowerAfter at h
  split_ifs at h with hsigma
  · have hhead := (List.cons_prefix_cons.1 h).1
    have hfar : ∀ b, lowerSigma b cs ∉ markLetters := by
      intro b
      unfold lowerSigma
      split <;> decide
    exact absurd (hhead ▸ hp) (hfar before)
  · by_cases hascii : c.toNat < 128
    · have hlower : lowerChar c = [c.toLower] := if_pos hascii
      rw [hlower, List.singleton_append, List.cons_prefix_cons] at h
      rw [h.1, toUpper_toLower hascii]
      exact ⟨rfl, h.2⟩
    · rcases lowerChar_beyond_ascii (Nat.le_of_not_lt hascii) with hdot | ⟨d, hlower, hd⟩
      · rw [hdot, List.cons_append, List.cons_prefix_cons] at h
        obtain ⟨hi, hrest⟩ := h
        cases ps with
        | nil => exact absurd rfl (hlast hi)
        | cons d ps =>
          have hd := (List.cons_prefix_cons.1 hrest).1
          exact absurd (hd ▸ hps d List.mem_cons_self) (by decide)
      · rw [hlower, List.singleton_append, List.cons_prefix_cons] at h
        exact absurd (h.1 ▸ hp) hd

lemma take_toUpper_of_lowerAfter (hps : ∀ p ∈ ps, p ∈ markLetters) (hlast : ps.getLast? ≠ some 'i')
    (h : ps <+: lowerAfter before cs) : (cs.take ps.length).map Char.toUpper = ps.map Char.toUpper := by
  induction ps generalizing before cs with
  | nil => rfl
  | cons p ps ih =>
    cases cs with
    | nil => exact absurd h (by simp [lowerAfter])
    | cons c cs =>
      have hne : p = 'i' → ps ≠ [] := by
        rintro rfl rfl
        exact hlast rfl
      obtain ⟨hhead, hrest⟩ := toUpper_of_lowerAfter (hps p List.mem_cons_self)
        (fun d hd => hps d (List.mem_cons_of_mem p hd)) hne h
      have hlast' : ps.getLast? ≠ some 'i' := by
        intro hi
        rw [List.getLast?_cons, hi] at hlast
        exact hlast rfl
      rw [List.length_cons, List.take_succ_cons, List.map_cons, List.map_cons, hhead,
        ih (fun d hd => hps d (List.mem_cons_of_mem p hd)) hlast' hrest]

lemma keyOfVariable?_of_unmarked (h : ¬ Marked name) : keyOfVariable? name = none := by
  unfold keyOfVariable?
  refine if_neg fun hmark => h ?_
  have hmarkLetters : environmentMark = markLetters ++ ['_'] := rfl
  have hletters : ∀ p ∈ environmentMark, p ∈ markLetters := by simp [hmarkLetters, markLetters]
  have hlast : environmentMark.getLast? ≠ some 'i' := by decide
  exact take_toUpper_of_lowerAfter hletters hlast (List.isPrefixOf_iff_prefix.1 hmark)

/-- Variables without the mark are as good as not there. -/
lemma ofEnvironment_marked (environment : List (String × String)) :
    ofEnvironment (environment.filter fun e => Marked e.1) = ofEnvironment environment := by
  induction environment with
  | nil => rfl
  | cons e environment ih =>
    unfold ofEnvironment at ih ⊢
    by_cases h : Marked e.1
    · rw [List.filter_cons_of_pos (by simpa using h), List.filterMap_cons, List.filterMap_cons, ih]
    · rw [List.filter_cons_of_neg (by simpa using h), List.filterMap_cons, keyOfVariable?_of_unmarked h, ih]
      rfl

def capital (s : String) : String := String.ofList (s.toList.map Char.toUpper)

/-- The name of the variable of a setting: the mark, the section if there is one, and the field. -/
def variableName (l : Leaf) : String :=
  match l.home? with
  | none => "SNIPLY__" ++ capital l.field
  | some home => "SNIPLY__" ++ capital home ++ "__" ++ capital l.field

example : variableName .ttlSecs = "SNIPLY__SESSION__TTL_SECS" := by rfl

/-- The name is that of a setting's variable, in any letter case. -/
def Names (name : String) (l : Leaf) : Prop := lower name = lower (variableName l)

lemma keyOfVariable?_variableName (l : Leaf) : keyOfVariable? (variableName l) = some (leafKey l) := by
  cases l <;> rfl

lemma keyOfVariable?_of_names (h : Names name l) : keyOfVariable? name = some (leafKey l) := by
  have hlower : lowerChars name.toList = lowerChars (variableName l).toList := String.ofList_injective h
  have hkey := keyOfVariable?_variableName l
  unfold keyOfVariable? at hkey ⊢
  rw [hlower]
  exact hkey

lemma marked_of_names (h : Names name l) : Marked name := by
  refine Decidable.byContradiction fun hunmarked => ?_
  exact Option.some_ne_none _ ((keyOfVariable?_of_names h).symm.trans (keyOfVariable?_of_unmarked hunmarked))

lemma leafKey_injective (h : leafKey l = leafKey l') : l = l' := by
  have hpath := (path_leafKey l).symm.trans
    ((congrArg (fun key => Layered.Path.ofChars? key.toList) h).trans (path_leafKey l'))
  cases hhome : l.home? with
  | none =>
    cases hhome' : l'.home? with
    | none =>
      rw [hhome, hhome'] at hpath
      exact Leaf.eq_of_place (hhome.trans hhome'.symm) (Layered.Path.mk.inj (Option.some.inj hpath)).1
    | some home' =>
      rw [hhome, hhome'] at hpath
      exact absurd (Layered.Path.mk.inj (Option.some.inj hpath)).2 (by simp)
  | some home =>
    cases hhome' : l'.home? with
    | none =>
      rw [hhome, hhome'] at hpath
      exact absurd (Layered.Path.mk.inj (Option.some.inj hpath)).2 (by simp)
    | some home' =>
      rw [hhome, hhome'] at hpath
      obtain ⟨hroot, hsteps⟩ := Layered.Path.mk.inj (Option.some.inj hpath)
      have hfield := Step.child.inj (List.cons.inj hsteps).1
      exact Leaf.eq_of_place (hhome.trans ((congrArg some hroot).trans hhome'.symm)) hfield

lemma eq_of_names (h : Names name l) (h' : Names name l') : l = l' :=
  leafKey_injective (Option.some.inj ((keyOfVariable?_of_names h).symm.trans (keyOfVariable?_of_names h')))

end Gatehouse.Proofs
