/-!
# Blanks

The characters with the Unicode property White_Space, and text without blanks at either end. Trimming
is stated on lists of characters, where its laws are short; on strings it is the same function.
-/

namespace Gatehouse.Text

/-- The property White_Space. It holds neither of U+200B nor of U+FEFF nor of U+001C. -/
def isBlank (c : Char) : Bool :=
  (0x9 ≤ c.toNat && c.toNat ≤ 0xD) || c.toNat == 0x20 || c.toNat == 0x85 || c.toNat == 0xA0 ||
  c.toNat == 0x1680 || (0x2000 ≤ c.toNat && c.toNat ≤ 0x200A) || c.toNat == 0x2028 ||
  c.toNat == 0x2029 || c.toNat == 0x202F || c.toNat == 0x205F || c.toNat == 0x3000

def trimStart (cs : List Char) : List Char := cs.dropWhile isBlank

def trimEnd (cs : List Char) : List Char := (cs.reverse.dropWhile isBlank).reverse

def trimChars (cs : List Char) : List Char := trimEnd (trimStart cs)

def trim (s : String) : String := String.ofList (trimChars s.toList)

/-- A text that holds nothing but blanks. -/
def isBlankText (s : String) : Bool := s.toList.all isBlank

theorem trimStart_of_head_not_blank {c : Char} (cs : List Char) (h : isBlank c = false) :
    trimStart (c :: cs) = c :: cs := by
  simp [trimStart, h]

theorem trimChars_of_no_blank {cs : List Char} (h : ∀ c ∈ cs, isBlank c = false) :
    trimChars cs = cs := by
  have unchanged : ∀ ds : List Char, (∀ c ∈ ds, isBlank c = false) → ds.dropWhile isBlank = ds := by
    intro ds hds
    cases ds with
    | nil => rfl
    | cons d ds => simp [hds d (by simp)]
  simp only [trimChars, trimStart, trimEnd, unchanged cs h]
  rw [unchanged cs.reverse (fun c hc => h c (List.mem_reverse.1 hc)), List.reverse_reverse]

theorem trimChars_eq_nil_iff {cs : List Char} : trimChars cs = [] ↔ cs.all isBlank := by
  have gone : ∀ ds : List Char, ds.dropWhile isBlank = [] ↔ ds.all isBlank := by
    intro ds
    induction ds with
    | nil => simp
    | cons d ds ih => by_cases hd : isBlank d <;> simp_all
  simp only [trimChars, trimStart, trimEnd, List.reverse_eq_nil_iff, gone, List.all_reverse]
  induction cs with
  | nil => simp
  | cons c cs ih =>
    by_cases hc : isBlank c
    · rw [List.dropWhile_cons_of_pos hc]
      simpa [hc] using ih
    · rw [List.dropWhile_cons_of_neg (by simpa using hc)]

theorem trim_eq_empty_iff {s : String} : trim s = "" ↔ isBlankText s := by
  rw [isBlankText, ← trimChars_eq_nil_iff, trim, ← String.toList_inj, String.toList_ofList]
  simp

end Gatehouse.Text
