import Gatehouse.Json.Reader
import Gatehouse.Json.Writer
import Mathlib.Data.List.TakeWhile
import Mathlib.Tactic.IntervalCases
import Mathlib.Tactic.Lemma
import Mathlib.Tactic.SplitIfs

/-!
# Reading JSON back

The writer of JSON goes down a value. The reader is two machines, one from characters to tokens and one from
tokens to values, with a stack of what is still open. Between the two stand the tokens of a value: the first
machine finds them in what is written, whatever follows, and the second makes the value of them on top of
any stack. So a value is read back, however deep it nests and whatever characters its strings hold, if its
strings are texts and its numbers are numerals.
-/

namespace Gatehouse.Proofs
open Json Text

variable {v : Json} {items : List Json} {members : List (Option (List Char) × Json)} {tokens : List Token}
  {s s' : Reading × List Token} {c : Char} {cs rest digits letters : List Char}

/-- All strings are texts, and all numbers are numerals. -/
inductive Spelled : Json → Prop where
  | null : Spelled .null
  | bool (b : Bool) : Spelled (.bool b)
  | num {digits : List Char} (hdigits : isNumber digits = true) : Spelled (.num digits)
  | str (cs : List Char) : Spelled (.str (some cs))
  | arr {items : List Json} (hitems : ∀ v ∈ items, Spelled v) : Spelled (.arr items)
  | obj {members : List (Option (List Char) × Json)} (hkeys : ∀ m ∈ members, m.1.isSome = true)
      (hvalues : ∀ m ∈ members, Spelled m.2) : Spelled (.obj members)

mutual

def tokensOfValue : Json → List Token
  | .null => [.word .null]
  | .bool b => [.word (.bool b)]
  | .num digits => [.num digits]
  | .str text => [.str text]
  | .arr items => .openBracket :: tokensOfItems items
  | .obj members => .openBrace :: tokensOfMembers members

/-- The tokens of the items of an array and of its end. -/
def tokensOfItems : List Json → List Token
  | [] => [.closeBracket]
  | [v] => tokensOfValue v ++ [.closeBracket]
  | v :: w :: rest => tokensOfValue v ++ .comma :: tokensOfItems (w :: rest)

/-- The tokens of the members of an object and of its end. -/
def tokensOfMembers : List (Option (List Char) × Json) → List Token
  | [] => [.closeBrace]
  | [(key, v)] => .str key :: .colon :: (tokensOfValue v ++ [.closeBrace])
  | (key, v) :: m :: rest => .str key :: .colon :: (tokensOfValue v ++ .comma :: tokensOfMembers (m :: rest))

end

/-- The machine makes a value of its tokens and leaves what is open as it is. -/
def Made (v : Json) : Prop := ∀ stack, (tokensOfValue v).foldlM step (.value, stack) = some (.after v, stack)

/-- Where an array might end or go on, a value is read as anywhere else. -/
lemma foldlM_valueOrEnd (v : Json) (items : List Json) (stack : List Frame) :
    (tokensOfItems (v :: items)).foldlM step (.valueOrEnd, .arr [] :: stack) =
      (tokensOfItems (v :: items)).foldlM step (.value, .arr [] :: stack) := by
  cases items <;> cases v <;> rfl

/-- An array in the middle is completed by the items that are left. -/
lemma foldlM_tokensOfItems (hv : Made v) (hitems : ∀ w ∈ items, Made w) (done : List Json)
    (stack : List Frame) :
    (tokensOfItems (v :: items)).foldlM step (.value, .arr done :: stack) =
      some (.after (.arr (done.reverse ++ v :: items)), stack) := by
  -- On the items behind the first one, for any that are done: each comma takes one from here to there.
  induction items generalizing v done with
  | nil =>
    rw [tokensOfItems, List.foldlM_append, hv]
    show some (Expects.after (.arr (v :: done).reverse), stack) = _
    rw [List.reverse_cons]
  | cons w items ih =>
    obtain ⟨hw, hitems⟩ := List.forall_mem_cons.1 hitems
    rw [tokensOfItems, List.foldlM_append, hv]
    show (tokensOfItems (w :: items)).foldlM step (.value, .arr (v :: done) :: stack) = _
    rw [ih hw hitems, List.reverse_cons, List.append_assoc]
    rfl

lemma foldlM_tokensOfMembers (key : Option (List Char)) (hv : Made v) (hmembers : ∀ m ∈ members, Made m.2)
    (done : List (Option (List Char) × Json)) (stack : List Frame) :
    (tokensOfMembers ((key, v) :: members)).foldlM step (.key, .obj done :: stack) =
      some (.after (.obj (done.reverse ++ (key, v) :: members)), stack) := by
  induction members generalizing key v done with
  | nil =>
    rw [tokensOfMembers]
    show (tokensOfValue v ++ [Token.closeBrace]).foldlM step (.value, .member done key :: stack) = _
    rw [List.foldlM_append, hv]
    show some (Expects.after (.obj ((key, v) :: done).reverse), stack) = _
    rw [List.reverse_cons]
  | cons m members ih =>
    obtain ⟨hm, hmembers⟩ := List.forall_mem_cons.1 hmembers
    rw [tokensOfMembers]
    show (tokensOfValue v ++ .comma :: tokensOfMembers (m :: members)).foldlM step
      (.value, .member done key :: stack) = _
    rw [List.foldlM_append, hv]
    show (tokensOfMembers (m :: members)).foldlM step (.key, .obj ((key, v) :: done) :: stack) = _
    rw [ih m.1 hm hmembers, List.reverse_cons, List.append_assoc]
    rfl

lemma made_of_spelled (h : Spelled v) : Made v := by
  induction h with
  | null => exact fun stack => rfl
  | bool b => exact fun stack => rfl
  | num _ => exact fun stack => rfl
  | str cs => exact fun stack => rfl
  | @arr items _ ih =>
    intro stack
    cases items with
    | nil => rfl
    | cons w items =>
      obtain ⟨hw, hitems⟩ := List.forall_mem_cons.1 ih
      rw [tokensOfValue]
      -- Behind the bracket the array might end at once, so the machine is not where an item is due.
      show (tokensOfItems (w :: items)).foldlM step (.valueOrEnd, .arr [] :: stack) = _
      rw [foldlM_valueOrEnd]
      exact foldlM_tokensOfItems hw hitems [] stack
  | @obj members _ _ ih =>
    intro stack
    cases members with
    | nil => rfl
    | cons m members =>
      obtain ⟨hm, hmembers⟩ := List.forall_mem_cons.1 ih
      have hmade := foldlM_tokensOfMembers m.1 hm hmembers [] stack
      rw [tokensOfValue]
      show (tokensOfMembers (m :: members)).foldlM step (.keyOrEnd, .obj [] :: stack) = _
      cases members with
      | nil => exact hmade
      | cons u members => exact hmade

/-! ### From characters to tokens -/

/-- What the machine makes of the token that it is in the middle of when the text ends. -/
def completed : Reading × List Token → Option (List Token)
  | (.between, tokens) => some tokens
  | (.word letters, tokens) => endWord tokens letters
  | (.num digits, tokens) => endNumber tokens digits
  | _ => none

/-- All tokens in reverse, when there is a text still to be read. -/
def lexed (s : Reading × List Token) (cs : List Char) : Option (List Token) :=
  ((cs.map some).foldlM advance s).bind completed

lemma tokens?_eq (cs : List Char) : tokens? (cs.map some) = (lexed (.between, []) cs).map List.reverse := by
  unfold tokens? lexed
  cases (cs.map some).foldlM advance (.between, []) with
  | none => rfl
  | some s =>
    obtain ⟨reading, tokens⟩ := s
    cases reading with
    | between => rfl
    | word letters => cases hword : endWord tokens letters <;> simp [completed, hword]
    | num digits => cases hnum : endNumber tokens digits <;> simp [completed, hnum]
    | str units => rfl
    | escape units => rfl
    | code units missing value => rfl

lemma lexed_cons (s : Reading × List Token) (c : Char) (cs : List Char) :
    lexed s (c :: cs) = (advance s (some c)).bind fun s' => lexed s' cs := by
  unfold lexed
  rw [List.map_cons, List.foldlM_cons, Option.bind_eq_bind, Option.bind_assoc]

lemma lexed_append (h : (cs.map some).foldlM advance s = some s') (rest : List Char) :
    lexed s (cs ++ rest) = lexed s' rest := by
  unfold lexed
  rw [List.map_append, List.foldlM_append, h]
  rfl

lemma hexValue?_hexDigit {n : Nat} (h : n < 16) : hexValue? (hexDigit n) = some n := by
  interval_cases n <;> rfl

/-- However a character is written in a string, it is read as that character. -/
lemma foldlM_escapeChar (c : Char) (units : List StringUnit) (tokens : List Token) :
    ((escapeChar c).map some).foldlM advance (.str units, tokens) =
      some (.str (.char c :: units), tokens) := by
  have hcode : ∀ {n : Nat}, c.toNat = n → c = Char.ofNat n := by
    rintro n rfl
    exact (Char.ofNat_toNat c).symm
  unfold escapeChar
  split_ifs with hquote hslash h8 h9 h10 h12 h13 hcontrol
  · rw [hquote]
    rfl
  · rw [hslash]
    rfl
  · rw [hcode h8]
    rfl
  · rw [hcode h9]
    rfl
  · rw [hcode h10]
    rfl
  · rw [hcode h12]
    rfl
  · rw [hcode h13]
    rfl
  -- A control character without a letter of its own, by its code in four digits.
  · have hhigh := hexValue?_hexDigit (show c.toNat / 16 < 16 by omega)
    have hlow := hexValue?_hexDigit (show c.toNat % 16 < 16 by omega)
    have hvalue : (0 * 16 + c.toNat / 16) * 16 + c.toNat % 16 = c.toNat := by omega
    have hwhole : ¬ (0xD800 ≤ c.toNat ∧ c.toNat ≤ 0xDFFF) := by omega
    show ([some (hexDigit (c.toNat / 16)), some (hexDigit (c.toNat % 16))].foldlM advance
      (.code units 2 0, tokens)) = _
    simp only [List.foldlM_cons, List.foldlM_nil, advance, hhigh, hlow, Option.bind_eq_bind,
      Option.bind_some, hvalue, if_neg hwhole, Char.ofNat_toNat, Option.pure_def]
  · show ((if c = '"' then _ else if c = '\\' then _ else if c.toNat < 32 then _ else _ : Option _)).bind
      _ = _
    rw [if_neg hquote, if_neg hslash, if_neg hcontrol]
    rfl

lemma foldlM_escaped (cs : List Char) (units : List StringUnit) (tokens : List Token) :
    ((cs.flatMap escapeChar).map some).foldlM advance (.str units, tokens) =
      some (.str (cs.reverse.map StringUnit.char ++ units), tokens) := by
  induction cs generalizing units with
  | nil => rfl
  | cons c cs ih =>
    rw [List.flatMap_cons, List.map_append, List.foldlM_append, foldlM_escapeChar]
    show ((cs.flatMap escapeChar).map some).foldlM advance (.str (.char c :: units), tokens) = _
    rw [ih, List.reverse_cons, List.map_append, List.append_assoc]
    rfl

lemma textOfUnits_chars (cs known : List Char) :
    textOfUnits known (cs.map StringUnit.char) = some (cs.reverse ++ known) := by
  induction cs generalizing known with
  | nil => rfl
  | cons c cs ih =>
    rw [List.map_cons, textOfUnits, ih, List.reverse_cons, List.append_assoc]
    rfl

lemma lexed_writeText (cs : List Char) (tokens : List Token) (rest : List Char) :
    lexed (.between, tokens) (writeText cs ++ rest) = lexed (.between, .str (some cs) :: tokens) rest := by
  have htext : textOfUnits [] (cs.reverse.map StringUnit.char ++ []) = some cs := by
    rw [List.append_nil, textOfUnits_chars, List.reverse_reverse, List.append_nil]
  unfold writeText
  rw [List.append_assoc, List.cons_append]
  show lexed (.str [], tokens) (cs.flatMap escapeChar ++ ('"' :: rest)) = _
  rw [lexed_append (foldlM_escaped cs [] tokens), ← htext]
  rfl

/-- Nothing that a word or a number could go on with. -/
def Breaks (rest : List Char) : Prop :=
  ∀ c, rest.head? = some c → isNumberPart c = false ∧ isWordPart c = false

lemma breaks_nil : Breaks [] := by
  intro c hc
  cases hc

lemma breaks_cons (hnumber : isNumberPart c = false) (hword : isWordPart c = false) : Breaks (c :: rest) := by
  intro d hd
  cases hd
  exact ⟨hnumber, hword⟩

lemma lexed_of_ended {ended : Option (List Token)} (hend : completed s = ended)
    (hstep : ∀ c, rest.head? = some c → advance s (some c) = ended.bind fun tokens => begin tokens c) :
    lexed s rest = ended.bind fun tokens => lexed (.between, tokens) rest := by
  cases rest with
  | nil => exact hend.trans (Option.bind_fun_some _).symm
  | cons c rest =>
    rw [lexed_cons, hstep c rfl, Option.bind_assoc]
    exact congrArg _ (funext fun tokens => (lexed_cons (.between, tokens) c rest).symm)

lemma lexed_word (h : Breaks rest) :
    lexed (.word letters, tokens) rest = (endWord tokens letters).bind fun tokens =>
      lexed (.between, tokens) rest := by
  refine lexed_of_ended rfl fun c hc => if_neg ?_
  rw [(h c hc).2]
  exact Bool.false_ne_true

lemma lexed_num (h : Breaks rest) :
    lexed (.num digits, tokens) rest = (endNumber tokens digits).bind fun tokens =>
      lexed (.between, tokens) rest := by
  refine lexed_of_ended rfl fun c hc => if_neg ?_
  rw [(h c hc).1]
  exact Bool.false_ne_true

lemma isNumberPart_of_isDigit (h : isDigit c = true) : isNumberPart c = true := by
  unfold isNumberPart
  rw [h]
  rfl

lemma numberParts_of_dropDigits (h : ∀ d ∈ dropDigits cs, isNumberPart d = true) :
    ∀ d ∈ cs, isNumberPart d = true := by
  intro d hd
  rw [← List.takeWhile_append_dropWhile (p := isDigit) (l := cs)] at hd
  rcases List.mem_append.1 hd with hd | hd
  · exact isNumberPart_of_isDigit (List.mem_takeWhile_imp hd)
  · exact h d hd

lemma numberParts_of_endsInDigits (h : endsInDigits cs = true) : ∀ d ∈ cs, isNumberPart d = true := by
  simp only [endsInDigits, Bool.and_eq_true, List.isEmpty_iff] at h
  refine numberParts_of_dropDigits ?_
  rw [h.2]
  exact fun d hd => absurd hd List.not_mem_nil

lemma numberParts_of_isExponent (h : isExponent cs = true) : ∀ d ∈ cs, isNumberPart d = true := by
  cases cs with
  | nil => exact fun d hd => absurd hd List.not_mem_nil
  | cons c cs =>
    unfold isExponent at h
    rw [Bool.and_eq_true, Bool.or_eq_true, beq_iff_eq, beq_iff_eq] at h
    obtain ⟨hletter, hdigits⟩ := h
    have hfirst : isNumberPart c = true := by
      rcases hletter with rfl | rfl <;> rfl
    refine List.forall_mem_cons.2 ⟨hfirst, ?_⟩
    split at hdigits
    · exact List.forall_mem_cons.2 ⟨rfl, numberParts_of_endsInDigits hdigits⟩
    · exact List.forall_mem_cons.2 ⟨rfl, numberParts_of_endsInDigits hdigits⟩
    · exact numberParts_of_endsInDigits hdigits

lemma numberParts_of_isFractionAndExponent (h : isFractionAndExponent cs = true) :
    ∀ d ∈ cs, isNumberPart d = true := by
  unfold isFractionAndExponent at h
  split at h
  · rw [Bool.and_eq_true] at h
    have hrest := numberParts_of_dropDigits (numberParts_of_isExponent h.2)
    exact List.forall_mem_cons.2 ⟨rfl, List.forall_mem_cons.2 ⟨isNumberPart_of_isDigit h.1, hrest⟩⟩
  · exact numberParts_of_isExponent h

lemma numberParts_of_isUnsignedNumber (h : isUnsignedNumber cs = true) :
    ∃ d ds, cs = d :: ds ∧ isDigit d = true ∧ ∀ e ∈ ds, isNumberPart e = true := by
  unfold isUnsignedNumber at h
  split at h
  · exact ⟨_, _, rfl, rfl, numberParts_of_isFractionAndExponent h⟩
  · rw [Bool.and_eq_true] at h
    exact ⟨_, _, rfl, h.1, numberParts_of_dropDigits (numberParts_of_isFractionAndExponent h.2)⟩
  · cases h

/-- A numeral begins with a digit or a sign and goes on with what can stand in a number. -/
lemma numberParts_of_isNumber (h : isNumber digits = true) :
    ∃ d ds, digits = d :: ds ∧ (isDigit d = true ∨ d = '-') ∧ ∀ e ∈ ds, isNumberPart e = true := by
  unfold isNumber at h
  split at h
  · obtain ⟨d, ds, rfl, hd, hds⟩ := numberParts_of_isUnsignedNumber h
    exact ⟨'-', d :: ds, rfl, Or.inr rfl, List.forall_mem_cons.2 ⟨isNumberPart_of_isDigit hd, hds⟩⟩
  · obtain ⟨d, ds, rfl, hd, hds⟩ := numberParts_of_isUnsignedNumber h
    exact ⟨d, ds, rfl, Or.inl hd, hds⟩

lemma begin_number (h : isDigit c = true ∨ c = '-') (tokens : List Token) :
    begin tokens c = some (.num [c], tokens) := by
  rcases h with hdigit | rfl
  · have hne : ∀ d, isDigit d = false → c ≠ d := by
      rintro d hd rfl
      rw [hdigit] at hd
      cases hd
    have hpart := isNumberPart_of_isDigit hdigit
    simp [begin, isJsonBlank, hpart, hne ' ' rfl, hne '\t' rfl, hne '\n' rfl, hne '\r' rfl, hne '\x7b' rfl,
      hne '\x7d' rfl, hne '[' rfl, hne ']' rfl, hne ':' rfl, hne ',' rfl, hne '"' rfl, hne 'e' rfl]
  · rfl

lemma foldlM_numberParts (h : ∀ d ∈ cs, isNumberPart d = true) (digits : List Char) (tokens : List Token) :
    (cs.map some).foldlM advance (.num digits, tokens) = some (.num (cs.reverse ++ digits), tokens) := by
  induction cs generalizing digits with
  | nil => rfl
  | cons c cs ih =>
    obtain ⟨hc, hcs⟩ := List.forall_mem_cons.1 h
    have hstep : advance (.num digits, tokens) (some c) = some (.num (c :: digits), tokens) := if_pos hc
    rw [List.map_cons, List.foldlM_cons, hstep, Option.bind_eq_bind, Option.bind_some, ih hcs,
      List.reverse_cons, List.append_assoc]
    rfl

lemma lexed_numeral (h : isNumber digits = true) (hrest : Breaks rest) (tokens : List Token) :
    lexed (.between, tokens) (digits ++ rest) = lexed (.between, .num digits :: tokens) rest := by
  obtain ⟨c, cs, rfl, hfirst, hparts⟩ := numberParts_of_isNumber h
  have hend : endNumber tokens (cs.reverse ++ [c]) = some (.num (c :: cs) :: tokens) := by
    unfold endNumber
    rw [← List.reverse_cons, List.reverse_reverse, if_pos h]
  rw [List.cons_append, lexed_cons]
  show (begin tokens c).bind _ = _
  rw [begin_number hfirst, Option.bind_some, lexed_append (foldlM_numberParts hparts [c] tokens),
    lexed_num hrest, hend]
  rfl

/-- The machine finds the tokens of a value in what is written, if what follows is set off. -/
def Found (v : Json) : Prop :=
  ∀ tokens rest, Breaks rest →
    lexed (.between, tokens) (write v ++ rest) = lexed (.between, (tokensOfValue v).reverse ++ tokens) rest

lemma lexed_writeItems (hv : Found v) (hitems : ∀ w ∈ items, Found w) (tokens : List Token)
    (rest : List Char) :
    lexed (.between, tokens) (writeItems (v :: items) ++ rest) =
      lexed (.between, (tokensOfItems (v :: items)).reverse ++ tokens) rest := by
  -- A comma or a bracket follows each item, and sets it off.
  induction items generalizing v tokens with
  | nil =>
    rw [writeItems, tokensOfItems, List.append_assoc, List.singleton_append, hv _ _ (breaks_cons rfl rfl),
      List.reverse_append, List.append_assoc]
    rfl
  | cons w items ih =>
    obtain ⟨hw, hitems⟩ := List.forall_mem_cons.1 hitems
    rw [writeItems, tokensOfItems, List.append_assoc, List.cons_append, hv _ _ (breaks_cons rfl rfl)]
    show lexed (.between, .comma :: ((tokensOfValue v).reverse ++ tokens))
      (writeItems (w :: items) ++ rest) = _
    rw [ih hw hitems]
    simp only [List.reverse_append, List.reverse_cons, List.append_assoc, List.cons_append, List.nil_append]

lemma lexed_writeMembers (key : List Char) (hv : Found v) (hkeys : ∀ m ∈ members, m.1.isSome = true)
    (hmembers : ∀ m ∈ members, Found m.2) (tokens : List Token) (rest : List Char) :
    lexed (.between, tokens) (writeMembers ((some key, v) :: members) ++ rest) =
      lexed (.between, (tokensOfMembers ((some key, v) :: members)).reverse ++ tokens) rest := by
  induction members generalizing key v tokens with
  | nil =>
    rw [writeMembers, tokensOfMembers, Option.getD_some, List.append_assoc, List.append_assoc,
      lexed_writeText]
    show lexed (.between, .colon :: .str (some key) :: tokens) (write v ++ '\x7d' :: rest) = _
    rw [hv _ _ (breaks_cons rfl rfl)]
    simp only [List.reverse_append, List.reverse_cons, List.append_assoc, List.cons_append, List.nil_append]
    rfl
  | cons m members ih =>
    obtain ⟨_, w⟩ := m
    obtain ⟨hkey, hkeys'⟩ := List.forall_mem_cons.1 hkeys
    obtain ⟨hw, hmembers'⟩ := List.forall_mem_cons.1 hmembers
    obtain ⟨k, rfl⟩ := Option.isSome_iff_exists.1 hkey
    rw [writeMembers, tokensOfMembers, Option.getD_some, List.append_assoc, List.append_assoc,
      lexed_writeText]
    show lexed (.between, .colon :: .str (some key) :: tokens)
      (write v ++ ',' :: (writeMembers ((some k, w) :: members) ++ rest)) = _
    rw [hv _ _ (breaks_cons rfl rfl)]
    show lexed (.between, .comma :: ((tokensOfValue v).reverse ++ .colon :: .str (some key) :: tokens)) _ = _
    rw [ih k hw hkeys' hmembers']
    simp only [List.reverse_append, List.reverse_cons, List.append_assoc, List.cons_append, List.nil_append]

lemma found_of_spelled (h : Spelled v) : Found v := by
  induction h with
  | null =>
    intro tokens rest hrest
    show lexed (.word "null".toList.reverse, tokens) rest = _
    rw [lexed_word hrest]
    rfl
  | bool b =>
    intro tokens rest hrest
    cases b with
    | true =>
      show lexed (.word "true".toList.reverse, tokens) rest = _
      rw [lexed_word hrest]
      rfl
    | false =>
      show lexed (.word "false".toList.reverse, tokens) rest = _
      rw [lexed_word hrest]
      rfl
  | num hdigits =>
    intro tokens rest hrest
    rw [write]
    exact lexed_numeral hdigits hrest tokens
  | str cs =>
    intro tokens rest _
    rw [write]
    exact lexed_writeText cs tokens rest
  | @arr items _ ih =>
    intro tokens rest _
    cases items with
    | nil => rfl
    | cons w items =>
      obtain ⟨hw, hitems⟩ := List.forall_mem_cons.1 ih
      rw [write, tokensOfValue, List.reverse_cons, List.append_assoc]
      exact lexed_writeItems hw hitems (.openBracket :: tokens) rest
  | @obj members hkeys _ ih =>
    intro tokens rest _
    cases members with
    | nil => rfl
    | cons m members =>
      obtain ⟨_, w⟩ := m
      obtain ⟨hkey, hkeys'⟩ := List.forall_mem_cons.1 hkeys
      obtain ⟨hw, hmembers⟩ := List.forall_mem_cons.1 ih
      obtain ⟨k, rfl⟩ := Option.isSome_iff_exists.1 hkey
      rw [write, tokensOfValue, List.reverse_cons, List.append_assoc]
      exact lexed_writeMembers k hw hkeys' hmembers (.openBrace :: tokens) rest

/-- A value is read back from what is written. -/
theorem ofText?_compact (h : Spelled v) : ofText? (compact v) = some v := by
  have htokens : tokens? ((write v).map some) = some (tokensOfValue v) := by
    have hfound := found_of_spelled h [] [] breaks_nil
    rw [List.append_nil, List.append_nil] at hfound
    rw [tokens?_eq, hfound]
    exact congrArg some (List.reverse_reverse _)
  have hvalue : ofTokens? (tokensOfValue v) = some v := by
    unfold ofTokens?
    rw [made_of_spelled h]
    rfl
  unfold ofText? compact read?
  rw [String.toList_ofList, htokens]
  exact hvalue

end Gatehouse.Proofs
