import Gatehouse.Layered.Path
import Gatehouse.Proofs.SettingsLeaves
import Mathlib.Logic.Basic

/-!
# Putting a setting in its place

A key that names a setting leads to the place of that setting. What is put there is found there, and if all
sections are tables, nothing else changes: a section keeps its other fields, and one that was missing comes
in with this field alone.
-/

namespace Gatehouse.Proofs
open Layered

variable {root v : Value} {key : String} {l l' : Leaf} {s : Settings}

lemma lookup_cons (e : String × Value) (es : List (String × Value)) (key : String) :
    (e :: es).lookup key = if key = e.1 then some e.2 else es.lookup key := by
  obtain ⟨key', v⟩ := e
  by_cases h : key = key'
  · rw [if_pos h, List.lookup_cons, beq_iff_eq.2 h]
  · rw [if_neg h, List.lookup_cons, beq_eq_false_iff_ne.2 h]

lemma lookup_setEntry (es : List (String × Value)) (key key' : String) (v : Value) :
    (Value.setEntry es key v).lookup key' = if key' = key then some v else es.lookup key' := by
  induction es with
  | nil => exact lookup_cons (key, v) [] key'
  | cons e es ih =>
    unfold Value.setEntry
    by_cases he : e.1 = key
    · rw [if_pos he, lookup_cons, lookup_cons, he]
      split <;> rfl
    · rw [if_neg he, lookup_cons, lookup_cons, ih]
      by_cases h : key' = key
      · rw [if_pos h, if_pos h, if_neg fun heq => he (heq.symm.trans h)]
      · rw [if_neg h, if_neg h]

lemma get?_set (root : Value) (key key' : String) (v : Value) :
    (root.set key v).get? key' = if key' = key then some v else root.get? key' := by
  cases root with
  | table o es => exact lookup_setEntry es key key' v
  | scalar o x => exact lookup_setEntry [] key key' v
  | array o items => exact lookup_setEntry [] key key' v

lemma isTable_set (root : Value) (key : String) (v : Value) : (root.set key v).isTable = true := by
  cases root <;> rfl

def leafKey (l : Leaf) : String :=
  match l.home? with
  | none => l.field
  | some home => home ++ "." ++ l.field

/-- The values with another value in the place of a leaf. -/
def placed (root : Value) (l : Leaf) (v : Value) : Value :=
  match l.home? with
  | none => root.set l.field v
  | some home => root.set home (((root.get? home).getD Value.emptyTable).set l.field v)

lemma path_leafKey (l : Leaf) :
    Path.ofChars? (leafKey l).toList =
      match l.home? with
      | none => some ⟨l.field, []⟩
      | some home => some ⟨home, [.child l.field]⟩ := by
  cases l <;> rfl

lemma lower_field (l : Leaf) : Text.lower l.field = l.field := by
  cases l <;> decide

lemma put_scalar (root : Value) (key : String) (o : Option Origin) (x : Scalar) :
    root.put key (.scalar o x) = root.set (Text.lower key) (.scalar o x) := by
  unfold Value.put
  rfl

lemma tabular_emptyTable : Tabular Value.emptyTable := fun _ _ _ h => by cases h

lemma putKey_leafKey (h : Tabular root) (l : Leaf) (o : Option Origin) (x : Scalar) :
    root.putKey (leafKey l) (.scalar o x) = some (placed root l (.scalar o x)) := by
  have hpath := path_leafKey l
  have hfield := lower_field l
  unfold Value.putKey placed
  rw [hpath]
  cases hhome : l.home? with
  | none =>
    show some (root.put l.field (.scalar o x)) = _
    rw [put_scalar, hfield]
  | some home =>
    have hput : Value.putAt (.scalar o x) [.child l.field] ((root.get? home).getD Value.nil) =
        some (((root.get? home).getD Value.emptyTable).set l.field (.scalar o x)) := by
      show some (Value.put _ l.field (.scalar o x)) = _
      rw [put_scalar, hfield]
      cases hv : root.get? home with
      | none => rfl
      | some v =>
        rw [Option.getD_some, Option.getD_some, h home (mem_sections hhome) v hv]
        rfl
    show (Value.putAt _ _ _ >>= fun inner => pure (root.set home inner)) = _
    rw [hput]
    rfl

lemma field_of_homeless (h : l.home? = none) : l.field = "trust_proxy_headers" := by
  cases l <;> first | rfl | cases h

lemma home_ne_field {home : String} (h : l.home? = some home) (h' : l'.home? = none) : home ≠ l'.field := by
  rw [field_of_homeless h']
  rintro rfl
  exact absurd (mem_sections h) (by decide)

lemma valueAt?_placed (root : Value) (l l' : Leaf) (v : Value) :
    valueAt? (placed root l v) l' = if l' = l then some v else valueAt? root l' := by
  unfold valueAt? placed
  cases hhome : l.home? with
  | none =>
    cases hhome' : l'.home? with
    | none =>
      show (root.set l.field v).get? l'.field = _
      rw [get?_set]
      exact if_congr
        ⟨fun hfield => Leaf.eq_of_place (hhome'.trans hhome.symm) hfield, congrArg Leaf.field⟩ rfl rfl
    | some home' =>
      have hne : l' ≠ l := fun heq => Option.some_ne_none home' (hhome'.symm.trans (heq ▸ hhome))
      show ((root.set l.field v).get? home').bind _ = _
      rw [get?_set, if_neg (home_ne_field hhome' hhome), if_neg hne]
  | some home =>
    cases hhome' : l'.home? with
    | none =>
      have hne : l' ≠ l := fun heq => Option.some_ne_none home (hhome.symm.trans (heq ▸ hhome'))
      show (root.set home _).get? l'.field = _
      rw [get?_set, if_neg (home_ne_field hhome hhome').symm, if_neg hne]
    | some home' =>
      show ((root.set home _).get? home').bind _ = _
      rw [get?_set]
      by_cases heq : home' = home
      · subst heq
        rw [if_pos rfl, Option.bind_some, get?_set]
        refine if_congr
          ⟨fun hfield => Leaf.eq_of_place (hhome'.trans hhome.symm) hfield, congrArg Leaf.field⟩ rfl ?_
        show _ = (root.get? home').bind _
        cases root.get? home' <;> rfl
      · have hne : l' ≠ l := fun hl => heq (Option.some.inj (hhome'.symm.trans (hl ▸ hhome)))
        rw [if_neg heq, if_neg hne]

lemma isTable_placed (root : Value) (l : Leaf) (v : Value) : (placed root l v).isTable = true := by
  unfold placed
  split <;> exact isTable_set _ _ _

lemma tabular_set (h : Tabular root) (hv : key ∈ sections → v.isTable = true) : Tabular (root.set key v) := by
  intro home hhome w hw
  rw [get?_set] at hw
  split at hw
  · rename_i heq
    rw [← Option.some.inj hw]
    exact hv (heq ▸ hhome)
  · exact h home hhome w hw

lemma tabular_placed (h : Tabular root) (l : Leaf) (v : Value) : Tabular (placed root l v) := by
  unfold placed
  cases hhome : l.home? with
  | none =>
    refine tabular_set h fun hfield => ?_
    rw [field_of_homeless hhome] at hfield
    exact absurd hfield (by decide)
  | some home => exact tabular_set h fun _ => isTable_set _ _ _

lemma get?_redis_placed (root : Value) (l : Leaf) (v : Value) :
    (placed root l v).get? "redis" = root.get? "redis" := by
  unfold placed
  cases hhome : l.home? with
  | none =>
    show (root.set l.field v).get? "redis" = _
    rw [get?_set, field_of_homeless hhome, if_neg (by decide)]
  | some home =>
    have hne : "redis" ≠ home := by
      rintro rfl
      exact absurd (mem_sections hhome) (by decide)
    show (root.set home _).get? "redis" = _
    rw [get?_set, if_neg hne]

/-- A value in the place of a leaf sets this leaf and leaves all other settings alone. -/
lemma settings_placed {v : Value} {a : l.Carrier} (hroot : root.isTable = true) (h : Tabular root)
    (hs : Decoder.settings root = .ok s) (hv : l.decoder v = .ok a) :
    Decoder.settings (placed root l v) = .ok (l.set a s) := by
  rw [settings_eq_ok_iff hroot h] at hs
  rw [settings_eq_ok_iff (isTable_placed root l v) (tabular_placed h l v)]
  obtain ⟨hleaf, hredis⟩ := hs
  refine ⟨fun l' => ?_, ?_⟩
  · unfold ReadsLeaf
    rw [valueAt?_placed]
    by_cases heq : l' = l
    · subst heq
      rw [if_pos rfl, Leaf.get_set]
      exact hv
    · rw [if_neg heq, Leaf.get_set_of_ne heq]
      exact hleaf l'
  · unfold Reads
    rw [get?_redis_placed, Leaf.redis_set]
    exact hredis

end Gatehouse.Proofs
