import Gatehouse.Proofs.HeaderText
import Gatehouse.Proofs.HttpDates
import Gatehouse.Proofs.SessionLedger
import Gatehouse.Proofs.SettingsChecks
import Gatehouse.Proofs.Trimming
import Gatehouse.Session.Cookie
import Gatehouse.Text.Hex

/-!
# Cookies that can be read back

A cookie can be written if no setting of it holds a control. Whether it can be read back is another matter,
and for the settings to pass their checks is not enough: the name may hold what ends a name, or be no text
for the reader at all.
-/

namespace Gatehouse.Proofs
open Http Text

variable {c : CookieConfig} {value : String} {expiresAt now : Instant}

/-- Text that a header can carry. -/
def Sendable (s : String) : Prop := s.toList.all isValueChar = true

instance (s : String) : Decidable (Sendable s) := inferInstanceAs (Decidable (_ = true))

/-- A cookie with settings that a header can carry. -/
structure Renderable (c : CookieConfig) : Prop where
  name : Sendable c.name
  path : Sendable c.path
  domain : ∀ d, c.domain = some d → Sendable d

lemma sendable_append (a b : String) : Sendable (a ++ b) ↔ Sendable a ∧ Sendable b := by
  unfold Sendable
  rw [String.toList_append, List.all_append, Bool.and_eq_true]

/-- Visible ASCII and blanks, without the semicolon. -/
def isPlainChar (d : Char) : Bool := 0x20 ≤ d.toNat && d.toNat ≤ 0x7E && d != ';'

def PlainText (s : String) : Prop := s.toList.all isPlainChar = true

instance (s : String) : Decidable (PlainText s) := inferInstanceAs (Decidable (_ = true))

lemma plain_spec {d : Char} (h : isPlainChar d = true) :
    isTextChar d = true ∧ isValueChar d = true ∧ d ≠ ';' := by
  simp only [isPlainChar, Bool.and_eq_true, decide_eq_true_eq, bne_iff_ne] at h
  refine ⟨?_, ?_, h.2⟩
  · simp only [isTextChar, Bool.or_eq_true, Bool.and_eq_true, decide_eq_true_eq]
    exact Or.inl h.1
  · simp only [isValueChar, Bool.or_eq_true, Bool.and_eq_true, decide_eq_true_eq, bne_iff_ne]
    exact Or.inl ⟨h.1.1, by omega⟩

/-- The space is the only blank in plain text. -/
lemma isBlank_of_plain {d : Char} (h : isPlainChar d = true) (hne : d ≠ ' ') : isBlank d = false := by
  have hcode : d.toNat ≠ 32 := fun heq => hne (Char.toNat_inj.1 heq)
  simp only [isPlainChar, Bool.and_eq_true, decide_eq_true_eq] at h
  rw [Bool.eq_false_iff]
  intro hblank
  simp only [isBlank, Bool.or_eq_true, Bool.and_eq_true, decide_eq_true_eq, beq_iff_eq] at hblank
  omega

lemma sendable_of_plainText {s : String} (h : PlainText s) : Sendable s :=
  List.all_eq_true.2 fun d hd => (plain_spec (List.all_eq_true.1 h d hd)).2.1

lemma plainText_append (a b : String) : PlainText (a ++ b) ↔ PlainText a ∧ PlainText b := by
  unfold PlainText
  rw [String.toList_append, List.all_append, Bool.and_eq_true]

lemma plainText_of_digits {cs : List Char} (h : ∀ d ∈ cs, isDigit d = true) :
    PlainText (String.ofList cs) := by
  unfold PlainText
  rw [String.toList_ofList, List.all_eq_true]
  intro d hd
  have hdigit := h d hd
  simp only [isDigit, Bool.and_eq_true, decide_eq_true_eq] at hdigit
  have hlow : 48 ≤ d.toNat := hdigit.1
  have hhigh : d.toNat ≤ 57 := hdigit.2
  have hother : d ≠ ';' := by
    rintro rfl
    exact absurd hhigh (by decide)
  simp only [isPlainChar, Bool.and_eq_true, decide_eq_true_eq, bne_iff_ne]
  exact ⟨⟨by omega, by omega⟩, hother⟩

lemma plainText_padded (width n : Nat) : PlainText (String.ofList (padded width n)) :=
  plainText_of_digits fun _ => isDigit_of_mem_padded

lemma plainText_decimal (n : Nat) : PlainText (String.ofList (decimal n)) :=
  plainText_of_digits fun _ => isDigit_of_mem_decimal

lemma plainText_yearText (y : Int) : PlainText (String.ofList (Time.yearText y)) := by
  have hdigits := plainText_padded 4
  unfold PlainText at hdigits ⊢
  simp only [String.toList_ofList] at hdigits ⊢
  unfold Time.yearText
  split
  · exact hdigits _
  · split
    · rw [List.all_cons, hdigits]
      rfl
    · rw [List.all_cons, hdigits]
      rfl

lemma plainText_clockText (n extra : Nat) : PlainText (String.ofList (Time.clockText n extra)) := by
  have hdigits := plainText_padded 2
  unfold PlainText at hdigits ⊢
  simp only [String.toList_ofList] at hdigits ⊢
  simp only [Time.clockText, List.all_append, List.all_cons, hdigits]
  rfl

lemma plainText_httpDate (t : Instant) : PlainText (Time.httpDate t) := by
  have hweekday : PlainText (Time.weekday t.dayNumber).shortName := by
    cases Time.weekday t.dayNumber <;> decide
  have hmonth : ∀ m, PlainText (Time.monthShortName m) := by
    intro m
    unfold Time.monthShortName
    split <;> decide
  unfold Time.httpDate
  simp only [plainText_append, hweekday, hmonth, plainText_padded, plainText_yearText,
    plainText_clockText, true_and, and_true]
  decide

def domainAttribute (c : CookieConfig) : String :=
  match c.domain with
  | some d => "; Domain=" ++ d
  | none => ""

/-- The attributes of a cookie after its age. -/
def furtherAttributes (c : CookieConfig) : String :=
  "; HttpOnly" ++ domainAttribute c ++ (if c.secure then "; Secure" else "") ++ "; SameSite=" ++
    CookieConfig.sameSiteText c.sameSite

lemma text_eq (c : CookieConfig) (value : String) (expiresAt : Instant) (n : Nat) :
    c.text value expiresAt n =
      c.name ++ "=" ++ value ++ "; Path=" ++ c.path ++ "; Expires=" ++ Time.httpDate expiresAt ++
        "; Max-Age=" ++ String.ofList (decimal n) ++ furtherAttributes c := by
  unfold CookieConfig.text furtherAttributes domainAttribute
  cases c.domain <;> simp only [String.append_assoc]

lemma sendable_furtherAttributes_iff :
    Sendable (furtherAttributes c) ↔ ∀ d, c.domain = some d → Sendable d := by
  have hsecure : Sendable (if c.secure then "; Secure" else "") := by split <;> decide
  have hsameSite : Sendable (CookieConfig.sameSiteText c.sameSite) := by cases c.sameSite <;> decide
  have hconstant : Sendable "; HttpOnly" ∧ Sendable "; Domain=" ∧ Sendable "; SameSite=" ∧
    Sendable "" := by decide
  unfold furtherAttributes domainAttribute
  cases c.domain with
  | none => simp [sendable_append, hsecure, hsameSite, hconstant]
  | some d => simp [sendable_append, hsecure, hsameSite, hconstant]

lemma sendable_text_iff (expiresAt : Instant) (n : Nat) :
    Sendable (c.text value expiresAt n) ↔ Renderable c ∧ Sendable value := by
  have hconstant : Sendable "=" ∧ Sendable "; Path=" ∧ Sendable "; Expires=" ∧
    Sendable "; Max-Age=" := by decide
  rw [text_eq]
  simp only [sendable_append, sendable_furtherAttributes_iff, hconstant,
    sendable_of_plainText (plainText_httpDate _), sendable_of_plainText (plainText_decimal _), and_true]
  exact ⟨fun ⟨⟨⟨hname, hvalue⟩, hpath⟩, hd⟩ => ⟨⟨hname, hpath, hd⟩, hvalue⟩,
    fun ⟨⟨hname, hpath, hd⟩, hvalue⟩ => ⟨⟨⟨hname, hvalue⟩, hpath⟩, hd⟩⟩

/-- How long a cookie lasts, in whole seconds. -/
def ageOf (expiresAt now : Instant) : Nat := (expiresAt.since now).toNat / Span.perSecond

lemma write_eq (c : CookieConfig) (value : String) (expiresAt now : Instant) :
    c.write value expiresAt now =
      if Sendable (c.text value expiresAt (ageOf expiresAt now)) then
        some (c.text value expiresAt (ageOf expiresAt now))
      else none := rfl

lemma write_ne_none_iff : c.write value expiresAt now ≠ none ↔ Renderable c ∧ Sendable value := by
  rw [write_eq, ← sendable_text_iff expiresAt (ageOf expiresAt now)]
  split <;> simp_all

lemma write_eq_some {v : String} (h : c.write value expiresAt now = some v) :
    v = c.text value expiresAt (ageOf expiresAt now) := by
  rw [write_eq] at h
  split at h
  · exact (Option.some.inj h).symm
  · cases h

lemma write_of_renderable (hc : Renderable c) (hvalue : Sendable value) (expiresAt now : Instant) :
    c.write value expiresAt now = some (c.text value expiresAt (ageOf expiresAt now)) := by
  rw [write_eq, if_pos ((sendable_text_iff _ _).2 ⟨hc, hvalue⟩)]

/-! ### Reading -/

/-- The pair of a cookie in front of its attributes. -/
def frontPart (v : String) : String := String.ofList (v.toList.takeWhile (· ≠ ';'))

def cookieHeader (text : String) : Header := ⟨"cookie", valueOfText text⟩

lemma toList_frontPart (v : String) : (frontPart v).toList = v.toList.takeWhile (· ≠ ';') :=
  String.toList_ofList

lemma not_mem_frontPart (v : String) : ';' ∉ (frontPart v).toList := by
  intro h
  rw [toList_frontPart] at h
  have hother := List.mem_takeWhile_imp h
  simp at hother

lemma takeWhile_before_semicolon {cs : List Char} (h : ';' ∉ cs) (rest : List Char) :
    (cs ++ ';' :: rest).takeWhile (· ≠ ';') = cs := by
  have hpos : ∀ d ∈ cs, decide (d ≠ ';') = true := by
    intro d hd
    refine decide_eq_true fun heq => h ?_
    rw [← heq]
    exact hd
  rw [List.takeWhile_append_of_pos hpos]
  exact List.append_nil cs

lemma frontPart_text (hname : ';' ∉ c.name.toList) (hvalue : ';' ∉ value.toList) (n : Nat) :
    (frontPart (c.text value expiresAt n)).toList = c.name.toList ++ '=' :: value.toList := by
  have hpair : ';' ∉ c.name.toList ++ '=' :: value.toList := by
    rw [List.mem_append, List.mem_cons, not_or, not_or]
    exact ⟨hname, by decide, hvalue⟩
  obtain ⟨rest, hrest⟩ : ∃ rest, (c.text value expiresAt n).toList =
      (c.name.toList ++ '=' :: value.toList) ++ ';' :: rest := by
    rw [text_eq]
    simp only [String.toList_append, List.append_assoc]
    exact ⟨_, rfl⟩
  rw [toList_frontPart, hrest, takeWhile_before_semicolon hpair]

lemma pairs_single {front : List Char} (h : ';' ∉ front) :
    CookieConfig.pairs front = (CookieConfig.pair? front).toList := by
  unfold CookieConfig.pairs
  rw [pieces_of_not_mem h, List.filterMap_cons]
  cases CookieConfig.pair? front <;> rfl

lemma read_single {front : String} (hsingle : ';' ∉ front.toList) (id : String) :
    c.read [cookieHeader front] = some id ↔
      front.toList.all isTextChar = true ∧
        ∃ v, CookieConfig.pair? front.toList = some (c.name.toList, v) ∧ trimChars v = id.toList ∧
          trimChars v ≠ [] := by
  have hvalues : Headers.values [cookieHeader front] "cookie" = [valueOfText front] := rfl
  unfold CookieConfig.read
  rw [hvalues, List.filterMap_cons, textOfValue?_valueOfText]
  by_cases htext : front.toList.all isTextChar = true
  · rw [if_pos htext]
    simp only [List.filterMap_nil, List.flatMap_cons, List.flatMap_nil, List.append_nil, pairs_single hsingle,
      htext, true_and]
    cases CookieConfig.pair? front.toList with
    | none => simp
    | some p =>
      obtain ⟨name, v⟩ := p
      have hread : String.ofList (trimChars v) = id ↔ trimChars v = id.toList := by
        rw [← String.toList_inj, String.toList_ofList]
      by_cases hname : name = c.name.toList
      · simp [hname, hread, and_comm]
      · simp [hname]
  · rw [if_neg htext]
    exact iff_of_false (fun h => by cases h) fun h => htext h.1

/-- A name that a cookie can be found by. -/
structure Readable (name : String) : Prop where
  text : name.toList.all isTextChar = true
  whole : '=' ∉ name.toList ∧ ';' ∉ name.toList
  tight : ∀ d, name.toList.head? = some d → isBlank d = false

/-- The identifier of a session, given the digits of its token. -/
def sessionId (digits : List Char) : String := "ses_" ++ String.ofList digits

/-- Digits, letters, and a few signs that are no separators. -/
def isWordChar (d : Char) : Bool := (48 ≤ d.toNat && d.toNat ≤ 57) || (65 ≤ d.toNat && d.toNat ≤ 122)

lemma isWordChar_of_hex {d : Char} (h : hexValue? d ≠ none) : isWordChar d = true := by
  simp only [isWordChar, Bool.or_eq_true, Bool.and_eq_true, decide_eq_true_eq]
  unfold hexValue? at h
  split at h
  · rename_i hdigit
    exact Or.inl hdigit
  split at h
  · rename_i hlower
    have hfrom : 97 ≤ d.toNat := hlower.1
    have hto : d.toNat ≤ 102 := hlower.2
    exact Or.inr ⟨by omega, by omega⟩
  split at h
  · rename_i hupper
    have hto : d.toNat ≤ 70 := hupper.2
    exact Or.inr ⟨hupper.1, by omega⟩
  · exact absurd rfl h

lemma wordChar_spec {d : Char} (h : isWordChar d = true) :
    isTextChar d = true ∧ isValueChar d = true ∧ isBlank d = false ∧ d ≠ ';' := by
  have hplain : isPlainChar d = true ∧ d ≠ ' ' := by
    have hother : d ≠ ';' ∧ d ≠ ' ' := by
      refine ⟨?_, ?_⟩ <;> rintro rfl <;> revert h <;> decide
    simp only [isWordChar, Bool.or_eq_true, Bool.and_eq_true, decide_eq_true_eq] at h
    simp only [isPlainChar, Bool.and_eq_true, decide_eq_true_eq, bne_iff_ne]
    exact ⟨⟨⟨by omega, by omega⟩, hother.1⟩, hother.2⟩
  obtain ⟨htext, hvalue, hother⟩ := plain_spec hplain.1
  exact ⟨htext, hvalue, isBlank_of_plain hplain.1 hplain.2, hother⟩

lemma wordChar_of_sessionId {digits : List Char} (hdigits : ∀ d ∈ digits, hexValue? d ≠ none) :
    ∀ d ∈ (sessionId digits).toList, isWordChar d = true := by
  intro d hd
  unfold sessionId at hd
  simp only [String.toList_append, String.toList_ofList, List.mem_append] at hd
  rcases hd with hd | hd
  · have hfront : "ses_".toList.all isWordChar = true := by decide
    exact List.all_eq_true.1 hfront d hd
  · exact isWordChar_of_hex (hdigits d hd)

lemma readable_of_pair {front v : List Char} {name : String} (hname : name.toList ≠ [])
    (htext : front.all isTextChar = true) (hsingle : ';' ∉ front)
    (hpair : CookieConfig.pair? front = some (name.toList, v)) : Readable name := by
  obtain ⟨htrim, hequals⟩ := cut_eq_some_iff.1 hpair
  have hsub : ∀ d ∈ name.toList, d ∈ front := by
    intro d hd
    refine (trimChars_sublist front).subset ?_
    rw [htrim]
    exact List.mem_append_left _ hd
  refine ⟨List.all_eq_true.2 fun d hd => List.all_eq_true.1 htext d (hsub d hd),
    ⟨hequals, fun hd => hsingle (hsub _ hd)⟩, fun d hd => head_of_trimmed front ?_⟩
  rw [htrim, List.head?_append_of_ne_nil _ hname]
  exact hd

lemma trimChars_pair {name : String} {v : List Char} (hname : name.toList ≠ []) (hread : Readable name)
    (hblank : ∀ d ∈ v, isBlank d = false) :
    trimChars (name.toList ++ '=' :: v) = name.toList ++ '=' :: v := by
  refine trimChars_eq_self_iff.2 ⟨fun d hd => hread.tight d ?_, fun d hd => ?_⟩
  · rw [List.head?_append_of_ne_nil _ hname] at hd
    exact hd
  · rw [List.getLast?_append_of_ne_nil _ (List.cons_ne_nil _ _)] at hd
    rcases List.mem_cons.1 (List.mem_of_getLast? hd) with rfl | hd
    · rfl
    · exact hblank d hd

lemma pair?_of_readable {name : String} {v : List Char} (hname : name.toList ≠ []) (hread : Readable name)
    (hblank : ∀ d ∈ v, isBlank d = false) :
    CookieConfig.pair? (name.toList ++ '=' :: v) = some (name.toList, v) := by
  unfold CookieConfig.pair?
  rw [trimChars_pair hname hread hblank]
  exact cut_eq_some_iff.2 ⟨rfl, hread.whole.1⟩

/-- A value without blanks and semicolons is read back under every name that can be read, and under no
other. -/
lemma read_frontPart_iff {id : String} (hid : id.toList ≠ [])
    (hword : ∀ d ∈ id.toList, isWordChar d = true) (n : Nat) (hname : c.name.toList ≠ []) :
    c.read [cookieHeader (frontPart (c.text id expiresAt n))] = some id ↔ Readable c.name := by
  have hblank : ∀ d ∈ id.toList, isBlank d = false := fun d hd => (wordChar_spec (hword d hd)).2.2.1
  have hsemicolon : ';' ∉ id.toList := fun hd => (wordChar_spec (hword _ hd)).2.2.2 rfl
  have htextual : id.toList.all isTextChar = true :=
    List.all_eq_true.2 fun d hd => (wordChar_spec (hword d hd)).1
  rw [read_single (not_mem_frontPart _)]
  constructor
  · rintro ⟨htext, v, hpair, _, _⟩
    exact readable_of_pair hname htext (not_mem_frontPart _) hpair
  · intro hread
    have htrim : trimChars id.toList = id.toList := trimChars_of_no_blank hblank
    rw [frontPart_text hread.whole.2 hsemicolon n]
    refine ⟨?_, id.toList, pair?_of_readable hname hread hblank, htrim, ?_⟩
    · rw [List.all_append, List.all_cons, hread.text, htextual]
      rfl
    · rw [htrim]
      exact hid

lemma sendable_of_word {s : String} (h : ∀ d ∈ s.toList, isWordChar d = true) : Sendable s :=
  List.all_eq_true.2 fun d hd => (wordChar_spec (h d hd)).2.1

lemma newSession_sendable {w : World} (htokens : ∀ n bytes, Sendable (w.tokens.text n bytes))
    (p : SessionPolicy) (userId role : String) (expiresAt : Instant) :
    Sendable (newSession p w userId role expiresAt).id :=
  (sendable_append _ _).2 ⟨by decide, htokens _ _⟩

lemma countedTokens_word (n bytes : Nat) :
    ∀ d ∈ (countedTokens.text n bytes).toList, isWordChar d = true := by
  intro d hd
  have hd : d ∈ (String.ofList (List.replicate (n + 1) 'a')).toList := hd
  rw [String.toList_ofList] at hd
  rw [List.eq_of_mem_replicate hd]
  rfl

lemma name_ofSettings {settings : CookieSettings} (h : isBlankText settings.name = false) :
    (CookieConfig.ofSettings settings).name = settings.name ∧ settings.name.toList ≠ [] := by
  have hne : settings.name ≠ "" := by
    intro hempty
    rw [hempty] at h
    cases h
  exact ⟨if_neg hne, fun hnil => hne (String.toList_inj.1 hnil)⟩

lemma renderable_ofSettings_iff {settings : CookieSettings} (h : isBlankText settings.name = false) :
    Renderable (CookieConfig.ofSettings settings) ↔ Sendable settings.name ∧ Sendable settings.path ∧
      ∀ d, settings.domain = some d → isBlankText d = false → Sendable d := by
  have hname := (name_ofSettings h).1
  have hpath : Sendable (CookieConfig.ofSettings settings).path ↔ Sendable settings.path := by
    show Sendable (if settings.path = "" then "/" else settings.path) ↔ _
    split
    · rename_i hempty
      rw [hempty]
      exact iff_of_true (by decide) (by decide)
    · exact Iff.rfl
  have hdomain : ∀ d, (CookieConfig.ofSettings settings).domain = some d ↔
      settings.domain = some d ∧ isBlankText d = false := by
    intro d
    show settings.domain.filter _ = some d ↔ _
    rw [Option.filter_eq_some_iff, Bool.not_eq_true']
  constructor
  · rintro ⟨hn, hp, hd⟩
    exact ⟨hname ▸ hn, hpath.1 hp, fun d hd' hblank => hd d ((hdomain d).2 ⟨hd', hblank⟩)⟩
  · rintro ⟨hn, hp, hd⟩
    exact ⟨hname.symm ▸ hn, hpath.2 hp, fun d hd' => hd d ((hdomain d).1 hd').1 ((hdomain d).1 hd').2⟩

/-- Under settings that pass the checks the cookie of a session can be written exactly if its name, its path
and its domain, if that is not blank, hold no controls but tabs. What is written is read back as the
identifier of the session exactly if the name is visible ASCII with blanks or tabs, without an equals sign
or a semicolon, and does not begin with a blank. -/
theorem session_cookie_read_iff (settings : Settings) (digits : List Char) (expiresAt now : Instant)
    (hvalid : settings.validate = .ok ()) (hdigits : ∀ d ∈ digits, hexValue? d ≠ none) :
    let cookie := CookieConfig.ofSettings settings.cookie
    (cookie.write (sessionId digits) expiresAt now ≠ none ↔
      Sendable settings.cookie.name ∧ Sendable settings.cookie.path ∧
        ∀ d, settings.cookie.domain = some d → isBlankText d = false → Sendable d) ∧
    ∀ v, cookie.write (sessionId digits) expiresAt now = some v →
      (cookie.read [cookieHeader (frontPart v)] = some (sessionId digits) ↔
        Readable settings.cookie.name) := by
  intro cookie
  have hnamed := (checked_of_validate hvalid).named
  obtain ⟨hname, hnonempty⟩ := name_ofSettings hnamed
  have hword := wordChar_of_sessionId hdigits
  have hid : (sessionId digits).toList ≠ [] := by
    unfold sessionId
    rw [String.toList_append]
    exact List.cons_ne_nil _ _
  constructor
  · rw [write_ne_none_iff, and_iff_left (sendable_of_word hword)]
    exact renderable_ofSettings_iff hnamed
  · intro v hv
    rw [write_eq_some hv, ← hname]
    exact read_frontPart_iff hid hword _ (by rw [hname]; exact hnonempty)

/-- The cookie of the default settings is read back. -/
theorem session_cookie_read_by_default :
    let cookie := CookieConfig.ofSettings ({} : Settings).cookie
    ({} : Settings).validate = .ok () ∧ (∀ d ∈ "0aF".toList, hexValue? d ≠ none) ∧
      ∃ v, cookie.write (sessionId "0aF".toList) (atSecond 3600) (atSecond 0) = some v ∧
        cookie.read [cookieHeader (frontPart v)] = some (sessionId "0aF".toList) := by
  intro cookie
  have hvalid : ({} : Settings).validate = .ok () := by decide
  have hdigits : ∀ d ∈ "0aF".toList, hexValue? d ≠ none := by
    have hall : "0aF".toList.all (fun d => hexValue? d ≠ none) = true := by decide
    exact fun d hd => of_decide_eq_true (List.all_eq_true.1 hall d hd)
  obtain ⟨hwrite, hread⟩ :=
    session_cookie_read_iff {} "0aF".toList (atSecond 3600) (atSecond 0) hvalid hdigits
  have hsendable : Sendable "sniply_session" ∧ Sendable "/" ∧
      ∀ d, (none : Option String) = some d → isBlankText d = false → Sendable d :=
    ⟨by decide, by decide, fun d hd => by cases hd⟩
  obtain ⟨v, hv⟩ := Option.ne_none_iff_exists'.1 (hwrite.2 hsendable)
  have hreadable : Readable "sniply_session" := by
    refine ⟨by decide, by decide, fun d hd => ?_⟩
    cases hd
    rfl
  exact ⟨hvalid, hdigits, v, hv, (hread v hv).2 hreadable⟩

def equalsSettings : Settings := { cookie := { name := "a=b" } }

def controlSettings : Settings := { cookie := { path := "\n" } }

/-- Settings may pass the checks though their cookie is not found by its name, or cannot be written at all. -/
theorem session_cookie_unreadable :
    equalsSettings.validate = .ok () ∧ controlSettings.validate = .ok () ∧
      (∃ v,
        (CookieConfig.ofSettings equalsSettings.cookie).write "ses_00" (atSecond 3600) (atSecond 0) = some v ∧
        (CookieConfig.ofSettings equalsSettings.cookie).read [cookieHeader (frontPart v)] = none) ∧
      (CookieConfig.ofSettings controlSettings.cookie).write "ses_00" (atSecond 3600) (atSecond 0) =
        none := by
  have hrenderable : Renderable (CookieConfig.ofSettings equalsSettings.cookie) :=
    ⟨by decide, by decide, fun d hd => by cases hd⟩
  have hwritten :=
    write_of_renderable hrenderable (by decide : Sendable "ses_00") (atSecond 3600) (atSecond 0)
  exact ⟨by decide, by decide, ⟨_, hwritten, by decide +kernel⟩, by decide +kernel⟩

end Gatehouse.Proofs
