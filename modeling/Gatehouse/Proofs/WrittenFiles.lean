import Gatehouse.Proofs.JsonReading
import Gatehouse.Proofs.LayeredPlaces
import Gatehouse.Proofs.WholeNumerals
import Gatehouse.Settings.Load

/-!
# Settings written in a file

A file of one line can give any setting of a section any text, and any whole number below 2 ^ 63. The line
is the key of the setting, an equals sign, and the value as it is spelled: a text by the codes of its
characters, a number by its digits.
-/

namespace Gatehouse.Proofs
open Toml

variable {l : Leaf} {home : String} {v : Toml.Value} {literal cs rest : List Char} {c : Char} {n : Nat}

/-- A line that gives a setting a value. -/
def assignment (l : Leaf) (literal : List Char) : List Char := (leafKey l).toList ++ '=' :: literal

lemma key?_assignment (hhome : l.home? = some home) (literal : List Char) :
    key? (assignment l literal) = some ([home, l.field], '=' :: literal) := by
  cases l <;> cases hhome <;> rfl

lemma assignment_eq_cons (l : Leaf) (literal : List Char) :
    ∃ c cs, assignment l literal = c :: cs ∧ c ∉ [' ', '\t', '#', '\n', '\r', '[', Char.ofNat 0xFEFF] := by
  cases l <;> exact ⟨_, _, rfl, by decide⟩

lemma skipBlanks_of_head (hc : c ∉ [' ', '\t']) (cs : List Char) : skipBlanks (c :: cs) = c :: cs := by
  simp only [List.mem_cons, List.not_mem_nil, or_false, not_or] at hc
  have hblank : Toml.isBlank c = false := by
    rw [Toml.isBlank, Bool.or_eq_false_iff, beq_eq_false_iff_ne, beq_eq_false_iff_ne]
    exact hc
  unfold skipBlanks
  rw [List.dropWhile_cons, hblank]
  rfl

lemma skipLines_of_head (hc : c ∉ [' ', '\t', '#', '\n', '\r']) (fuel : Nat) (cs : List Char) :
    skipLines (fuel + 1) (c :: cs) = c :: cs := by
  simp only [List.mem_cons, List.not_mem_nil, or_false, not_or] at hc
  obtain ⟨hspace, htab, hcomment, hfeed, hreturn⟩ := hc
  have hblanks := skipBlanks_of_head (c := c) (by simp [hspace, htab]) cs
  have hskip : skipComment (c :: cs) = c :: cs := by
    unfold skipComment
    split
    · rename_i heq
      exact absurd (List.cons.inj heq).1 hcomment
    · rfl
  have hnewline : newline? (c :: cs) = none := by
    unfold newline?
    split
    · rename_i heq
      exact absurd (List.cons.inj heq).1 hfeed
    · rename_i heq
      exact absurd (List.cons.inj heq).1 hreturn
    · rfl
  unfold skipLines
  rw [hblanks, hskip, hnewline]

lemma line?_assignment (hhome : l.home? = some home) (hblanks : skipBlanks literal = literal)
    (hliteral : value? nestingLimit literal = some (v, [])) :
    Reading.line? ⟨[], []⟩ (assignment l literal) =
      some (⟨[(home, .table true true [(l.field, .value v)])], []⟩, []) := by
  have hmember : member? (value? nestingLimit) (assignment l literal) = some ([home, l.field], v, []) := by
    unfold member?
    rw [key?_assignment hhome]
    show (value? nestingLimit (skipBlanks literal)).bind _ = _
    rw [hblanks, hliteral]
    rfl
  obtain ⟨c, cs, heq, hc⟩ := assignment_eq_cons l literal
  rw [heq] at hmember ⊢
  unfold Reading.line?
  split
  · rename_i heq'
    exact absurd (by rw [(List.cons.inj heq').1]; decide) hc
  · rename_i heq'
    exact absurd (by rw [(List.cons.inj heq').1]; decide) hc
  · rw [hmember]
    rfl

lemma document?_assignment (hhome : l.home? = some home) (hblanks : skipBlanks literal = literal)
    (hliteral : value? nestingLimit literal = some (v, [])) :
    document? (assignment l literal) = some [(home, .table [(l.field, v)])] := by
  have hline := line?_assignment hhome hblanks hliteral
  obtain ⟨c, cs, heq, hc⟩ := assignment_eq_cons l literal
  rw [heq] at hline ⊢
  simp only [List.mem_cons, List.not_mem_nil, or_false, not_or] at hc
  obtain ⟨hspace, htab, hcomment, hfeed, hreturn, _, hmark⟩ := hc
  have hlines : Reading.lines? ⟨[], []⟩ ((c :: cs).length + 1) (c :: cs) =
      some ⟨[(home, .table true true [(l.field, .value v)])], []⟩ := by
    unfold Reading.lines?
    rw [skipLines_of_head (by simp [hspace, htab, hcomment, hfeed, hreturn])]
    split
    · rename_i heq'
      cases heq'
    · rename_i heq'
      exact absurd (List.cons.inj heq').1 hcomment
    · rw [hline]
      rfl
  unfold document?
  have hcode : ¬ c.toNat = 0xFEFF := fun h => hmark (by rw [← Char.ofNat_toNat c, h])
  dsimp only
  rw [if_neg hcode, hlines]
  rfl

/-- Digits of base 16, the high ones first. -/
def codeDigits : (width : Nat) → Nat → List Char
  | 0, _ => []
  | width + 1, n => Text.hexDigit (n / 16 ^ width) :: codeDigits width (n % 16 ^ width)

def spelledChar (c : Char) : List Char := '\\' :: 'U' :: codeDigits 8 c.toNat

/-- A text between quotes, each character by its code. -/
def textLiteral (text : String) : List Char := '"' :: (text.toList.flatMap spelledChar ++ ['"'])

lemma foldlM_codeDigits (width : Nat) {n : Nat} (hn : n < 16 ^ width) (m : Nat) :
    (codeDigits width n).foldlM (fun m c => (Text.hexValue? c).map (m * 16 + ·)) m =
      some (m * 16 ^ width + n) := by
  induction width generalizing n m with
  | zero =>
    rw [Nat.pow_zero, Nat.lt_one_iff] at hn
    rw [hn, Nat.pow_zero, Nat.mul_one]
    rfl
  | succ width ih =>
    have hdigit : n / 16 ^ width < 16 := Nat.div_lt_of_lt_mul (by rwa [Nat.pow_succ] at hn)
    have hrest : n % 16 ^ width < 16 ^ width := Nat.mod_lt _ (by positivity)
    rw [codeDigits, List.foldlM_cons, hexValue?_hexDigit hdigit]
    show (codeDigits width (n % 16 ^ width)).foldlM _ (m * 16 + n / 16 ^ width) = _
    rw [ih hrest, Nat.add_mul, Nat.mul_assoc, Nat.pow_succ', Nat.add_assoc, Nat.div_add_mod']

lemma scalar?_toNat (c : Char) : scalar? c.toNat = some c := by
  have hvalid : c.toNat < 0xD800 ∨ (0xDFFF < c.toNat ∧ c.toNat < 0x110000) := c.valid
  unfold scalar?
  rw [if_pos hvalid, Char.ofNat_toNat]

lemma escape?_spelledChar (c : Char) (rest : List Char) :
    escape? ('U' :: (codeDigits 8 c.toNat ++ rest)) = some (c, rest) := by
  have hsmall : c.toNat < 16 ^ 8 := by
    have hvalid : c.toNat < 0xD800 ∨ (0xDFFF < c.toNat ∧ c.toNat < 0x110000) := c.valid
    omega
  have hcode : hexCode? (codeDigits 8 c.toNat) = some c.toNat := by
    unfold hexCode?
    rw [foldlM_codeDigits 8 hsmall, Nat.zero_mul, Nat.zero_add]
  show (hexCode? (codeDigits 8 c.toNat)).bind (fun code => (scalar? code).bind fun c => some (c, rest)) = _
  rw [hcode, Option.bind_some, scalar?_toNat]
  rfl

lemma basicFrom_spelled (cs read : List Char) (fuel : Nat) (hfuel : cs.length < fuel) :
    basicFrom read fuel (cs.flatMap spelledChar ++ ['"']) = some (read.reverse ++ cs, []) := by
  induction cs generalizing read fuel with
  | nil =>
    obtain ⟨fuel, rfl⟩ := Nat.exists_eq_add_of_lt hfuel
    show some (read.reverse, []) = _
    rw [List.append_nil]
  | cons c cs ih =>
    obtain ⟨fuel, rfl⟩ :=
      Nat.exists_eq_succ_of_ne_zero (Nat.ne_of_gt (Nat.lt_of_le_of_lt (Nat.zero_le _) hfuel))
    rw [List.flatMap_cons, List.append_assoc]
    show (escape? ('U' :: (codeDigits 8 c.toNat ++ (cs.flatMap spelledChar ++ ['"'])))).bind _ = _
    rw [escape?_spelledChar, Option.bind_some]
    show basicFrom (c :: read) fuel _ = _
    rw [ih (c :: read) fuel (Nat.lt_of_succ_lt_succ hfuel), List.reverse_cons, List.append_assoc]
    rfl

lemma length_le_spelled (cs : List Char) : cs.length ≤ (cs.flatMap spelledChar).length := by
  induction cs with
  | nil => exact Nat.le_refl 0
  | cons c cs ih =>
    rw [List.flatMap_cons, List.length_append, List.length_cons, Nat.add_comm]
    exact Nat.add_le_add (Nat.succ_le_succ (Nat.zero_le _)) ih

lemma value?_textLiteral (text : String) :
    value? nestingLimit (textLiteral text) = some (.text text, []) := by
  have hstring : string? (textLiteral text) = some (text.toList, []) := by
    unfold textLiteral
    have hfuel : text.toList.length < (text.toList.flatMap spelledChar ++ ['"']).length + 1 := by
      have hle := length_le_spelled text.toList
      rw [List.length_append]
      omega
    have hspelled := basicFrom_spelled text.toList [] _ hfuel
    cases htext : text.toList with
    | nil => rfl
    | cons c cs =>
      rw [htext] at hspelled
      exact hspelled
  show (string? (textLiteral text)).map (fun p => (Value.text (String.ofList p.1), p.2)) = _
  rw [hstring]
  exact congrArg (fun s => some (Value.text s, [])) String.ofList_toList

section Digits

variable (hdigits : ∀ d ∈ cs, Text.isDigit d = true)
include hdigits

lemma mark?_of_digits {mark : Char} (hmark : Text.isDigit mark = false) : mark? mark cs = none := by
  cases cs with
  | nil => rfl
  | cons d cs =>
    refine if_neg fun heq => ?_
    rw [← heq, hdigits d List.mem_cons_self] at hmark
    cases hmark

/-- Digits are no date and no time: a mark is missing behind the first field. -/
lemma datetime?_of_digits : datetime? cs = none := by
  have hfield : ∀ (width low high : Nat) (mark : Char), Text.isDigit mark = false →
      ∀ p ∈ fixed? width low high cs, mark? mark p.2 = none := by
    intro width low high mark hmark p hp
    obtain ⟨m, _, hp⟩ := Option.bind_eq_some_iff.1 hp
    split at hp
    · obtain rfl := Option.some.inj hp
      exact mark?_of_digits (fun d hd => hdigits d (List.mem_of_mem_drop hd)) hmark
    · cases hp
  have hdate : date? cs = none := by
    unfold date?
    cases hyear : fixed? 4 0 9999 cs with
    | none => rfl
    | some p =>
      show (mark? '-' p.2).bind _ = none
      rw [hfield 4 0 9999 '-' rfl p hyear]
      rfl
  have htime : timeOfDay? cs = none := by
    unfold timeOfDay?
    cases hhour : fixed? 2 0 23 cs with
    | none => rfl
    | some p =>
      show (mark? ':' p.2).bind _ = none
      rw [hfield 2 0 23 ':' rfl p hhour]
      rfl
  unfold datetime?
  rw [hdate]
  exact htime

lemma groupedFrom_of_digits (read : List Char) :
    groupedFrom Text.isDigit read cs = (read.reverse ++ cs, []) := by
  induction cs generalizing read with
  | nil => exact congrArg (·, []) (List.append_nil _).symm
  | cons d cs ih =>
    have hd := hdigits d List.mem_cons_self
    unfold groupedFrom
    split
    · rename_i heq
      rw [(List.cons.inj heq).1] at hd
      cases hd
    · rename_i heq
      cases heq
      rw [if_pos hd, ih (fun e he => hdigits e (List.mem_cons_of_mem d he)), List.reverse_cons,
        List.append_assoc]
      rfl
    · rename_i heq
      cases heq

end Digits

lemma sign_of_digit (hc : Text.isDigit c = true) (cs : List Char) : sign (c :: cs) = ([], c :: cs) := by
  unfold sign
  split
  · rename_i heq
    rw [(List.cons.inj heq).1] at hc
    cases hc
  · rename_i heq
    rw [(List.cons.inj heq).1] at hc
    cases hc
  · rfl

lemma decimalInteger?_of_digits (hc : Text.isDigit c = true) (hzero : c ≠ '0')
    (hcs : ∀ d ∈ cs, Text.isDigit d = true) :
    decimalInteger? (c :: cs) = some (c :: cs, []) := by
  unfold decimalInteger?
  rw [sign_of_digit hc]
  dsimp only
  split
  · rename_i heq
    exact absurd (List.cons.inj heq).1 hzero
  · show (if Text.isDigit c = true then some (groupedFrom Text.isDigit [c] cs) else none).map _ = _
    rw [if_pos hc, groupedFrom_of_digits hcs]
    rfl

lemma numberOrTime?_of_digits (hc : Text.isDigit c = true) (hzero : c ≠ '0')
    (hcs : ∀ d ∈ cs, Text.isDigit d = true) {k : Int} (hread : Text.int64? (c :: cs) = some k) :
    numberOrTime? (c :: cs) = some (.integer k, []) := by
  have hinteger := decimalInteger?_of_digits hc hzero hcs
  have hfloat : decimalFloat? (c :: cs) = none := by
    unfold decimalFloat?
    rw [hinteger]
    rfl
  have hspecial : specialFloat? (c :: cs) = none := by
    unfold specialFloat?
    rw [sign_of_digit hc]
    dsimp only
    split
    · rename_i heq
      rw [(List.cons.inj heq).1] at hc
      cases hc
    · rename_i heq
      rw [(List.cons.inj heq).1] at hc
      cases hc
    · rfl
  have hwhole : integer? (c :: cs) = some (k, []) := by
    unfold integer?
    split
    · rename_i heq
      exact absurd (List.cons.inj heq).1 hzero
    · rename_i heq
      exact absurd (List.cons.inj heq).1 hzero
    · rename_i heq
      exact absurd (List.cons.inj heq).1 hzero
    · rw [hinteger]
      show (Text.int64? (c :: cs)).bind _ = _
      rw [hread]
      rfl
  unfold numberOrTime?
  rw [datetime?_of_digits (List.forall_mem_cons.2 ⟨hc, hcs⟩), hfloat, hspecial, hwhole]
  rfl

lemma value?_decimal (hn : n < Nat.pow 2 63) :
    value? nestingLimit (Text.decimal n) = some (.integer n, []) := by
  rcases Nat.eq_zero_or_pos n with rfl | hpos
  · rfl
  obtain ⟨c, cs, hdigits, hzero⟩ := decimal_of_pos hpos
  have hread := int64?_decimal n
  have hall : ∀ d ∈ c :: cs, Text.isDigit d = true := fun d hd => Text.isDigit_of_mem_decimal (hdigits ▸ hd)
  obtain ⟨hc, hcs⟩ := List.forall_mem_cons.1 hall
  rw [if_pos hn, hdigits] at hread
  rw [hdigits]
  have hne : ∀ mark : Char, Text.isDigit mark = false → c ≠ mark := by
    rintro mark hmark rfl
    rw [hc] at hmark
    cases hmark
  show (if c = '"' ∨ c = '\'' then _ else if c = '[' then _ else if c = '\x7b' then _ else
    if c = '+' ∨ c = '-' ∨ Text.isDigit c then numberOrTime? (c :: cs) else _) = _
  rw [if_neg (not_or.2 ⟨hne '"' rfl, hne '\'' rfl⟩), if_neg (hne '[' rfl), if_neg (hne '\x7b' rfl),
    if_pos (Or.inr (Or.inr hc)), numberOrTime?_of_digits hc hzero hcs hread]

/-- The file holds a single value, in the place of a setting. -/
def HoldsOnly (file : String) (l : Leaf) (x : Layered.Scalar) : Prop :=
  ∃ home, l.home? = some home ∧
    Settings.fileEntries (some file) = .ok [(home, .table (some .file) [(l.field, .scalar (some .file) x)])]

lemma fileEntries_assignment (hhome : l.home? = some home) (hblanks : skipBlanks literal = literal)
    (hliteral : value? nestingLimit literal = some (v, [])) :
    Settings.fileEntries (some (String.ofList (assignment l literal))) =
      .ok [(home, .table (some .file) [(l.field, Layered.Value.ofToml v)])] := by
  have hmark : Settings.skipByteOrderMark (assignment l literal) = assignment l literal := by
    obtain ⟨c, cs, heq, hc⟩ := assignment_eq_cons l literal
    rw [heq]
    refine if_neg fun h => hc ?_
    rw [← Char.ofNat_toNat c, h]
    decide
  unfold Settings.fileEntries
  dsimp only
  rw [String.toList_ofList, hmark, document?_assignment hhome hblanks hliteral]
  rfl

lemma exists_holdsOnly_text (hhome : l.home? = some home) (text : String) :
    ∃ file, HoldsOnly file l (.text text) :=
  ⟨_, home, hhome, fileEntries_assignment hhome (skipBlanks_of_head (by decide) _) (value?_textLiteral text)⟩

lemma exists_holdsOnly_integer (hhome : l.home? = some home) (hn : n < Nat.pow 2 63) :
    ∃ file, HoldsOnly file l (.integer n) := by
  refine ⟨_, home, hhome, fileEntries_assignment hhome ?_ (value?_decimal hn)⟩
  obtain ⟨c, cs, hdigits, hc⟩ := decimal_eq_cons n
  rw [hdigits]
  refine skipBlanks_of_head (fun hmem => ?_) cs
  simp only [List.mem_cons, List.not_mem_nil, or_false] at hmem
  rcases hmem with rfl | rfl <;> cases hc

end Gatehouse.Proofs
