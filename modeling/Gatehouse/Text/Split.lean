/-!
# Cutting text at a character

Two ways to cut: at the first occurrence only, and at every occurrence. The pieces of the second way,
joined by the character again, give the text back.
-/

namespace Gatehouse.Text

/-- The text before and after the first `sep`, if there is one. -/
def cut (sep : Char) : List Char → Option (List Char × List Char)
  | [] => none
  | c :: cs => if c = sep then some ([], cs) else (cut sep cs).map fun p => (c :: p.1, p.2)

/-- The maximal stretches without `sep`. There is always at least one, which may be empty. -/
def pieces (sep : Char) : List Char → List (List Char)
  | [] => [[]]
  | c :: cs =>
    if c = sep then [] :: pieces sep cs
    else
      match pieces sep cs with
      | [] => [[c]]
      | p :: ps => (c :: p) :: ps

theorem cut_eq_some_iff {sep : Char} {cs a b : List Char} :
    cut sep cs = some (a, b) ↔ cs = a ++ sep :: b ∧ sep ∉ a := by
  induction cs generalizing a with
  | nil => simp [cut]
  | cons c cs ih =>
    by_cases hc : c = sep
    · subst hc
      cases a with
      | nil => simp [cut]
      | cons d a =>
        simp only [cut, if_pos, Option.some.injEq, Prod.mk.injEq, List.cons_append, List.cons.injEq,
          List.mem_cons, not_or]
        constructor
        · rintro ⟨h, -⟩
          cases h
        · rintro ⟨⟨h, -⟩, hne, -⟩
          exact absurd h hne
    · cases a with
      | nil => simp [cut, hc]
      | cons d a =>
        simp only [cut, if_neg hc, Option.map_eq_some_iff, Prod.mk.injEq, List.cons.injEq,
          List.cons_append, List.mem_cons, not_or]
        constructor
        · rintro ⟨p, hp, ⟨rfl, rfl⟩, rfl⟩
          obtain ⟨h1, h2⟩ := ih.1 hp
          exact ⟨⟨rfl, h1⟩, fun e => hc e.symm, h2⟩
        · rintro ⟨⟨rfl, h1⟩, -, h2⟩
          exact ⟨(a, b), ih.2 ⟨h1, h2⟩, ⟨rfl, rfl⟩, rfl⟩

theorem pieces_ne_nil (sep : Char) (cs : List Char) : pieces sep cs ≠ [] := by
  cases cs with
  | nil => simp [pieces]
  | cons c cs =>
    simp only [pieces]
    split
    · simp
    · split <;> simp

theorem pieces_of_not_mem {sep : Char} {cs : List Char} (h : sep ∉ cs) : pieces sep cs = [cs] := by
  induction cs with
  | nil => rfl
  | cons c cs ih =>
    have hc : c ≠ sep := fun e => h (by simp [e])
    have hcs : sep ∉ cs := fun hm => h (List.mem_cons_of_mem _ hm)
    simp [pieces, hc, ih hcs]

theorem pieces_append_cons {sep : Char} {a : List Char} (b : List Char) (h : sep ∉ a) :
    pieces sep (a ++ sep :: b) = a :: pieces sep b := by
  induction a with
  | nil => simp [pieces]
  | cons c a ih =>
    have hc : c ≠ sep := fun e => h (by simp [e])
    have ha : sep ∉ a := fun hm => h (List.mem_cons_of_mem _ hm)
    simp [pieces, hc, ih ha]

end Gatehouse.Text
