import Gatehouse.Proofs.HeaderText
import Gatehouse.Session.Cookie
import Mathlib.Data.List.DropRight

/-!
# Cookies of other names

All applications of a site share one header for their cookies. Its bytes are pairs between semicolons,
whatever they spell. Which session is read depends on the pairs of one name alone, and only on those in
headers that read as text: a byte that is none, anywhere in a header, hides every pair in it.
-/

namespace Gatehouse.Proofs
open Http Text

variable {c : CookieConfig} {hs hs' : Headers} {name : String} {value piece : List UInt8}

/-- The blanks that a header can hold. -/
def isBlankByte (b : UInt8) : Bool := b == 0x20 || b == 0x09

def trimBytes (bs : List UInt8) : List UInt8 := (bs.dropWhile isBlankByte).rdropWhile isBlankByte

/-- The name and the value of a cookie, on either side of the first equals sign. -/
def bytePair? (piece : List UInt8) : Option (List UInt8 × List UInt8) :=
  let pair := trimBytes piece
  if 0x3D ∈ pair then some (pair.takeWhile (· != 0x3D), (pair.dropWhile (· != 0x3D)).drop 1) else none

/-- The pairs of a cookie header. -/
def bytePairs (value : List UInt8) : List (List UInt8 × List UInt8) :=
  (value.splitOn 0x3B).filterMap bytePair?

/-- The pairs of a name in cookie headers, in order. -/
def pairsNamed (name : String) (values : List (List UInt8)) : List (List UInt8 × List UInt8) :=
  values.flatMap fun value => (bytePairs value).filter fun p => p.1 = valueOfText name

/-- The cookie headers that hold nothing but visible ASCII, blanks and tabs. -/
def legibleCookies (hs : Headers) : List (List UInt8) :=
  (hs.values "cookie").filter fun value => value.all isTextByte

def charOf (b : UInt8) : Char := Char.ofNat b.toNat

lemma toNat_charOf (b : UInt8) : (charOf b).toNat = b.toNat := by
  have hsize := b.toNat_lt
  unfold charOf Char.ofNat
  rw [dif_pos (Or.inl (by omega))]
  rfl

lemma charOf_inj {a b : UInt8} : charOf a = charOf b ↔ a = b := by
  rw [← Char.toNat_inj, toNat_charOf, toNat_charOf, UInt8.toNat_inj]

lemma isBlank_charOf {b : UInt8} (h : isTextByte b = true) : isBlank (charOf b) = isBlankByte b := by
  have hcode : 32 ≤ b.toNat ∧ b.toNat ≤ 126 ∨ b.toNat = 9 := by
    simp only [isTextByte, Bool.or_eq_true, Bool.and_eq_true, decide_eq_true_eq, beq_iff_eq,
      UInt8.le_iff_toNat_le, ← UInt8.toNat_inj] at h
    exact h
  rw [Bool.eq_iff_iff]
  simp only [isBlank, isBlankByte, toNat_charOf, Bool.or_eq_true, Bool.and_eq_true,
    decide_eq_true_eq, beq_iff_eq, ← UInt8.toNat_inj]
  show _ ↔ b.toNat = 32 ∨ b.toNat = 9
  omega

lemma pieces_map_charOf (sep : UInt8) (value : List UInt8) :
    pieces (charOf sep) (value.map charOf) = (value.splitOn sep).map (List.map charOf) := by
  induction value with
  | nil => rfl
  | cons b value ih =>
    rw [List.map_cons, pieces, ih, List.splitOn_cons_eq_if_modifyHead]
    by_cases hb : b = sep
    · rw [if_pos (charOf_inj.2 hb), if_pos (beq_iff_eq.2 hb)]
      rfl
    · rw [if_neg fun h => hb (charOf_inj.1 h), if_neg fun h => hb (beq_iff_eq.1 h)]
      cases hsplit : value.splitOn sep with
      | nil => exact absurd hsplit (List.splitOn_ne_nil sep value)
      | cons p ps => rfl

lemma mem_of_mem_splitOn {sep b : UInt8} (hpiece : piece ∈ value.splitOn sep) (hb : b ∈ piece) :
    b ∈ value := by
  induction value generalizing piece with
  | nil =>
    rw [List.splitOn_nil, List.mem_singleton] at hpiece
    rw [hpiece] at hb
    exact hb
  | cons a value ih =>
    rw [List.splitOn_cons_eq_if_modifyHead] at hpiece
    split at hpiece
    · rcases List.mem_cons.1 hpiece with rfl | hpiece
      · cases hb
      · exact List.mem_cons_of_mem a (ih hpiece hb)
    · cases hsplit : value.splitOn sep with
      | nil => exact absurd hsplit (List.splitOn_ne_nil sep value)
      | cons p ps =>
        rw [hsplit] at hpiece ih
        rcases List.mem_cons.1 hpiece with rfl | hpiece
        · rcases List.mem_cons.1 hb with rfl | hb
          · exact List.mem_cons_self
          · exact List.mem_cons_of_mem a (ih List.mem_cons_self hb)
        · exact List.mem_cons_of_mem a (ih (List.mem_cons_of_mem p hpiece) hb)

lemma dropWhile_map_charOf (h : value.all isTextByte = true) :
    (value.map charOf).dropWhile isBlank = (value.dropWhile isBlankByte).map charOf := by
  induction value with
  | nil => rfl
  | cons b value ih =>
    rw [List.all_cons, Bool.and_eq_true] at h
    rw [List.map_cons, List.dropWhile_cons, List.dropWhile_cons, isBlank_charOf h.1]
    split
    · exact ih h.2
    · rfl

lemma trimBytes_sublist (value : List UInt8) : (trimBytes value).Sublist value :=
  (List.rdropWhile_prefix isBlankByte _).sublist.trans (List.dropWhile_sublist isBlankByte)

lemma all_of_sublist {part : List UInt8} (h : value.all isTextByte = true) (hsub : part.Sublist value) :
    part.all isTextByte = true :=
  List.all_eq_true.2 fun b hb => List.all_eq_true.1 h b (hsub.subset hb)

lemma trimChars_map_charOf (h : value.all isTextByte = true) :
    trimChars (value.map charOf) = (trimBytes value).map charOf := by
  have hrest := all_of_sublist h (List.dropWhile_sublist isBlankByte)
  unfold trimChars trimStart trimEnd trimBytes List.rdropWhile
  rw [dropWhile_map_charOf h, ← List.map_reverse,
    dropWhile_map_charOf (by rw [List.all_reverse]; exact hrest), List.map_reverse]

lemma cut_map_charOf (sep : UInt8) (value : List UInt8) :
    cut (charOf sep) (value.map charOf) =
      if sep ∈ value then
        some ((value.takeWhile (· != sep)).map charOf, ((value.dropWhile (· != sep)).drop 1).map charOf)
      else none := by
  induction value with
  | nil => rfl
  | cons b value ih =>
    rw [List.map_cons, cut, ih]
    by_cases hb : b = sep
    · simp [hb]
    · have hb' : ¬ charOf b = charOf sep := fun h => hb (charOf_inj.1 h)
      rw [if_neg hb', List.takeWhile_cons_of_pos (by simpa using hb),
        List.dropWhile_cons_of_pos (by simpa using hb)]
      by_cases hmem : sep ∈ value
      · rw [if_pos hmem, if_pos (List.mem_cons_of_mem b hmem)]
        rfl
      · rw [if_neg hmem, if_neg fun h => (List.mem_cons.1 h).elim (fun heq => hb heq.symm) hmem]
        rfl

def charPair (p : List UInt8 × List UInt8) : List Char × List Char := (p.1.map charOf, p.2.map charOf)

lemma pair?_map_charOf (h : piece.all isTextByte = true) :
    CookieConfig.pair? (piece.map charOf) = (bytePair? piece).map charPair := by
  have hcut := cut_map_charOf 0x3D (trimBytes piece)
  unfold CookieConfig.pair? bytePair?
  rw [trimChars_map_charOf h]
  dsimp only
  refine hcut.trans ?_
  split <;> rfl

lemma name_eq_iff {bs : List UInt8} (h : bs.all isTextByte = true) (name : String) :
    bs.map charOf = name.toList ↔ bs = valueOfText name := by
  have htext : textOfValue? bs = some (bs.map charOf) := if_pos h
  constructor
  · intro hname
    rw [hname] at htext
    have hbytes := (textOfValue?_eq_some_iff.1 htext).1
    rw [String.ofList_toList] at hbytes
    exact hbytes
  · rintro rfl
    rw [textOfValue?_valueOfText] at htext
    split at htext
    · exact (Option.some.inj htext).symm
    · cases htext

lemma pairs_map_charOf (h : value.all isTextByte = true) :
    CookieConfig.pairs (value.map charOf) = (bytePairs value).map charPair := by
  have hpiece : ∀ piece ∈ value.splitOn 0x3B,
      CookieConfig.pair? (piece.map charOf) = (bytePair? piece).map charPair := by
    intro piece hpiece
    exact pair?_map_charOf
      (List.all_eq_true.2 fun b hb => List.all_eq_true.1 h b (mem_of_mem_splitOn hpiece hb))
  unfold CookieConfig.pairs bytePairs
  rw [show pieces ';' (value.map charOf) = _ from pieces_map_charOf 0x3B value, List.filterMap_map,
    List.map_filterMap]
  exact List.filterMap_congr hpiece

lemma text_of_mem_bytePairs {p : List UInt8 × List UInt8} (h : value.all isTextByte = true)
    (hp : p ∈ bytePairs value) :
    p.1.all isTextByte = true := by
  obtain ⟨piece, hpiece, hpair⟩ := List.mem_filterMap.1 hp
  have htext : piece.all isTextByte = true :=
    List.all_eq_true.2 fun b hb => List.all_eq_true.1 h b (mem_of_mem_splitOn hpiece hb)
  unfold bytePair? at hpair
  dsimp only at hpair
  split at hpair
  · cases hpair
    exact all_of_sublist htext ((List.takeWhile_sublist _).trans (trimBytes_sublist piece))
  · cases hpair

lemma filter_pairs (h : value.all isTextByte = true) (name : String) :
    (CookieConfig.pairs (value.map charOf)).filter (fun p => p.1 = name.toList) =
      ((bytePairs value).filter fun p => p.1 = valueOfText name).map charPair := by
  rw [pairs_map_charOf h, List.filter_map]
  refine congrArg _ (List.filter_congr fun p hp => ?_)
  exact decide_eq_decide.2 (name_eq_iff (text_of_mem_bytePairs h hp) name)

lemma filterMap_textOfValue? (values : List (List UInt8)) :
    values.filterMap textOfValue? = (values.filter fun value => value.all isTextByte).map
      (List.map charOf) := by
  induction values with
  | nil => rfl
  | cons value values ih =>
    by_cases htext : value.all isTextByte = true
    · have hread : textOfValue? value = some (value.map charOf) := if_pos htext
      rw [List.filterMap_cons_some hread, List.filter_cons_of_pos (by exact htext), List.map_cons, ih]
    · have hread : textOfValue? value = none := if_neg htext
      rw [List.filterMap_cons_none hread, List.filter_cons_of_neg (by exact htext), ih]

/-- Of all pairs in the cookie headers, the reader finds those of its name in the headers that read as text.
-/
lemma filter_cookies (hs : Headers) (name : String) :
    (((hs.values "cookie").filterMap textOfValue?).flatMap CookieConfig.pairs).filter
      (fun p => p.1 = name.toList) =
      (pairsNamed name (legibleCookies hs)).map charPair := by
  have hvalue : ∀ value ∈ legibleCookies hs,
      (CookieConfig.pairs (value.map charOf)).filter (fun p => p.1 = name.toList) =
        ((bytePairs value).filter fun p => p.1 = valueOfText name).map charPair :=
    fun value hvalue => filter_pairs (List.mem_filter.1 hvalue).2 name
  rw [filterMap_textOfValue?, List.flatMap_map, List.filter_flatMap, pairsNamed, List.map_flatMap]
  unfold legibleCookies at hvalue ⊢
  rw [List.flatMap_def, List.map_congr_left hvalue, ← List.flatMap_def]

/-- Which session is read is settled by the pairs of one name in the headers that read as text. -/
lemma read_congr (h : pairsNamed c.name (legibleCookies hs) = pairsNamed c.name (legibleCookies hs')) :
    c.read hs = c.read hs' := by
  unfold CookieConfig.read
  dsimp only
  rw [← List.head?_filter, ← List.head?_filter, filter_cookies, filter_cookies, h]

/-- Every cookie header with a pair of a name reads as text. -/
def InText (name : String) (hs : Headers) : Prop :=
  ∀ value ∈ hs.values "cookie", pairsNamed name [value] ≠ [] → value.all isTextByte = true

instance (name : String) (hs : Headers) : Decidable (InText name hs) :=
  inferInstanceAs
    (Decidable (∀ value ∈ hs.values "cookie", pairsNamed name [value] ≠ [] → value.all isTextByte = true))

lemma pairsNamed_legible (h : InText name hs) :
    pairsNamed name (legibleCookies hs) = pairsNamed name (hs.values "cookie") := by
  unfold InText at h
  unfold legibleCookies
  generalize hs.values "cookie" = values at h ⊢
  induction values with
  | nil => rfl
  | cons value values ih =>
    have hrest := ih fun v hv => h v (List.mem_cons_of_mem value hv)
    have hfirst := h value List.mem_cons_self
    unfold pairsNamed at hrest hfirst ⊢
    rw [List.flatMap_singleton] at hfirst
    by_cases htext : value.all isTextByte = true
    · rw [List.filter_cons_of_pos (by exact htext), List.flatMap_cons, List.flatMap_cons, hrest]
    · rw [List.filter_cons_of_neg (by exact htext), List.flatMap_cons, hrest,
        not_ne_iff.1 fun hsome => htext (hfirst hsome), List.nil_append]

/-- Requests from which the same pairs of the cookie's name can be read are taken for the same session,
whatever other pairs they bring along. Only cookie headers of visible ASCII, blanks and tabs count, so if
every header with a pair of the name is one, then those pairs are all that matters: pairs of other names may
come, go and change anywhere, with any bytes at all in the headers without a pair of the name. -/
theorem other_cookies_ignored (c : CookieConfig) (hs hs' : Headers) :
    (pairsNamed c.name (legibleCookies hs) = pairsNamed c.name (legibleCookies hs') →
      c.read hs = c.read hs') ∧
      (InText c.name hs → InText c.name hs' →
        pairsNamed c.name (hs.values "cookie") = pairsNamed c.name (hs'.values "cookie") →
        c.read hs = c.read hs') := by
  refine ⟨read_congr, fun h h' hsame => read_congr ?_⟩
  rw [pairsNamed_legible h, pairsNamed_legible h', hsame]

def cookieTexts (texts : List String) : Headers := texts.map fun t => ⟨"cookie", valueOfText t⟩

/-- Two requests of one session, the second one with cookies of other applications around its pair, and with
a cookie header that is no text. -/
theorem other_cookies_ignored_crowded :
    let c := CookieConfig.ofSettings {}
    let hs := cookieTexts ["sniply_session=ses_1"]
    let hs' :=
      cookieTexts ["sniply_sessio=é; x", "theme=dark; \tsniply_session=ses_1 ;sniply_session_2=ses_2"]
    pairsNamed c.name (legibleCookies hs) = pairsNamed c.name (legibleCookies hs') ∧
      InText c.name hs ∧ InText c.name hs' ∧
        pairsNamed c.name (hs.values "cookie") = pairsNamed c.name (hs'.values "cookie") ∧
        c.read hs = c.read hs' ∧
          c.read hs' = some "ses_1" := by
  intro c hs hs'
  have hlegible : pairsNamed c.name (legibleCookies hs) =
    pairsNamed c.name (legibleCookies hs') := by decide +kernel
  have hintext : InText c.name hs ∧ InText c.name hs' := by decide +kernel
  have hsame : pairsNamed c.name (hs.values "cookie") =
    pairsNamed c.name (hs'.values "cookie") := by decide +kernel
  have hread := (other_cookies_ignored c hs hs').1 hlegible
  have hfirst : c.read hs = some "ses_1" := by decide +kernel
  exact ⟨hlegible, hintext.1, hintext.2, hsame, (other_cookies_ignored c hs hs').2 hintext.1 hintext.2 hsame,
    hread.symm.trans hfirst⟩

/-- One more pair of another name, and the session is not found any more, if the value of that pair has a
letter beyond ASCII. -/
theorem foreign_byte_hides_session :
    let c := CookieConfig.ofSettings {}
    let hs := cookieTexts ["sniply_session=ses_1"]
    let hs' := cookieTexts ["sniply_session=ses_1; theme=é"]
    (∀ d ∈ c.name.toList, 0x21 ≤ d.toNat ∧ d.toNat ≤ 0x7E ∧ d ∉ [';', '=']) ∧
      (∀ value ∈ hs'.values "cookie", value.all isValueByte = true) ∧
      (hs'.values "cookie").flatMap bytePairs =
        (hs.values "cookie").flatMap bytePairs ++ [(valueOfText "theme", valueOfText "é")] ∧
      pairsNamed c.name (hs.values "cookie") = pairsNamed c.name (hs'.values "cookie") ∧
      c.read hs = some "ses_1" ∧ c.read hs' = none := by
  intro c hs hs'
  have hname : c.name.toList.all (fun d => 0x21 ≤ d.toNat ∧ d.toNat ≤ 0x7E ∧ d ∉ [';', '=']) = true := by
    decide +kernel
  refine ⟨fun d hd => ?_, by decide +kernel⟩
  exact of_decide_eq_true (List.all_eq_true.1 hname d hd)

end Gatehouse.Proofs
