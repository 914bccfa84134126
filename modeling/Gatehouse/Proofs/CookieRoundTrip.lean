import Gatehouse.Proofs.CookieText

/-!
# The session cookie among others

A cookie is written as one text, and read from the pairs of all cookies that a request brings along. Taken
apart at its semicolons the text gives the pair and the attributes it was made of. And wherever the pair
comes to stand among other cookies, its value is found by the name, as long as no other pair has that name.
-/

namespace Gatehouse.Proofs
open Http Text

variable {c : CookieConfig} {hs : Headers} {texts fields : List String} {a b value : String}
  {expiresAt : Instant}

/-- What a text is made of between semicolons, without the blanks around each. -/
def fieldsOf (v : String) : List String :=
  (pieces ';' v.toList).map fun piece => String.ofList (trimChars piece)

/-- Text that is not changed by taking a text apart that it is a field of. -/
structure Intact (s : String) : Prop where
  whole : ';' ∉ s.toList
  tight : trimChars s.toList = s.toList

instance (s : String) : Decidable (Intact s) :=
  decidable_of_iff (';' ∉ s.toList ∧ trimChars s.toList = s.toList)
    ⟨fun h => ⟨h.1, h.2⟩, fun h => ⟨h.whole, h.tight⟩⟩

lemma fieldsOf_intact (h : Intact a) : fieldsOf a = [a] := by
  unfold fieldsOf
  rw [pieces_of_not_mem h.whole, List.map_singleton, h.tight, String.ofList_toList]

lemma fieldsOf_blank (v : String) : fieldsOf (" " ++ v) = fieldsOf v := by
  have htext : (" " ++ v).toList = ' ' :: v.toList := by
    rw [String.toList_append]
    rfl
  unfold fieldsOf
  rw [htext, pieces, if_neg (by decide)]
  cases hv : pieces ';' v.toList with
  | nil => exact absurd hv (pieces_ne_nil ';' _)
  | cons p ps =>
    have htrim : trimChars ([' '] ++ p ++ []) = trimChars p := trimChars_padded (by decide) rfl p
    rw [List.append_nil] at htrim
    exact congrArg (fun p => String.ofList p :: _) htrim

lemma fieldsOf_append (h : Intact a) (v : String) : fieldsOf (a ++ "; " ++ v) = a :: fieldsOf v := by
  have htext : (a ++ "; " ++ v).toList = a.toList ++ ';' :: (" " ++ v).toList := by
    simp only [String.toList_append, List.append_assoc]
    rfl
  rw [← fieldsOf_blank v]
  unfold fieldsOf
  rw [htext, pieces_append_cons _ h.whole, List.map_cons, h.tight, String.ofList_toList]

lemma fieldsOf_intercalate (hfields : fields ≠ []) (h : ∀ f ∈ fields, Intact f) :
    fieldsOf ("; ".intercalate fields) = fields := by
  induction fields with
  | nil => exact absurd rfl hfields
  | cons f rest ih =>
    have hf : Intact f := h f List.mem_cons_self
    cases rest with
    | nil => exact fieldsOf_intact hf
    | cons g rest =>
      rw [String.intercalate_cons_cons, fieldsOf_append hf]
      exact congrArg (f :: ·) (ih (List.cons_ne_nil g rest) fun f' hf' => h f' (List.mem_cons_of_mem f hf'))

lemma intact_append (ha : Intact a) (hb : Intact b) : Intact (a ++ b) := by
  obtain ⟨hhead, hlast⟩ := trimChars_eq_self_iff.1 ha.tight
  obtain ⟨hhead', hlast'⟩ := trimChars_eq_self_iff.1 hb.tight
  refine ⟨?_, ?_⟩
  · rw [String.toList_append, List.mem_append, not_or]
    exact ⟨ha.whole, hb.whole⟩
  · rw [String.toList_append, trimChars_eq_self_iff, List.head?_append, List.getLast?_append]
    refine ⟨fun d hd => ?_, fun d hd => ?_⟩
    · rcases Option.or_eq_some_iff.1 hd with hd | ⟨_, hd⟩
      · exact hhead d hd
      · exact hhead' d hd
    · rcases Option.or_eq_some_iff.1 hd with hd | ⟨_, hd⟩
      · exact hlast' d hd
      · exact hlast d hd

lemma intact_of_plainText {s : String} (hplain : PlainText s) (hhead : s.toList.head? ≠ some ' ')
    (hlast : s.toList.getLast? ≠ some ' ') : Intact s := by
  have hall := List.all_eq_true.1 hplain
  refine ⟨fun hmem => absurd (hall ';' hmem) (by decide),
    trimChars_eq_self_iff.2 ⟨fun d hd => ?_, fun d hd => ?_⟩⟩
  · refine isBlank_of_plain (hall d (List.mem_of_mem_head? hd)) ?_
    rintro rfl
    exact hhead hd
  · refine isBlank_of_plain (hall d (List.mem_of_getLast? hd)) ?_
    rintro rfl
    exact hlast hd

/-- Visible ASCII. -/
def isVisible (d : Char) : Bool := 0x21 ≤ d.toNat && d.toNat ≤ 0x7E

/-- A cookie that can be written and found by its name. Its path and its domain hold no semicolon, and no
blank at either end, so that each stays one attribute. -/
structure Tidy (c : CookieConfig) : Prop where
  renderable : Renderable c
  named : Readable c.name
  path : Intact c.path
  domain : ∀ d, c.domain = some d → Intact d

/-- The attributes of a cookie, in order. -/
def attributes (c : CookieConfig) (expiresAt : Instant) (age : Nat) : List String :=
  ["Path=" ++ c.path, "Expires=" ++ Time.httpDate expiresAt, "Max-Age=" ++ String.ofList (decimal age),
    "HttpOnly"] ++
    (c.domain.map fun d => "Domain=" ++ d).toList ++ (if c.secure then ["Secure"] else []) ++
    ["SameSite=" ++ CookieConfig.sameSiteText c.sameSite]

lemma text_eq_intercalate (c : CookieConfig) (value : String) (expiresAt : Instant) (age : Nat) :
    c.text value expiresAt age = "; ".intercalate
      ((c.name ++ "=" ++ value) :: attributes c expiresAt age) := by
  rw [text_eq, ← String.toList_inj]
  unfold attributes furtherAttributes domainAttribute
  cases c.domain <;> cases c.secure <;> simp [String.intercalate_cons_cons, String.toList_append]

lemma intact_httpDate (t : Instant) : Intact (Time.httpDate t) := by
  have hday : ∀ day : Time.Weekday, day.shortName.toList ≠ [] ∧ day.shortName.toList.head? ≠ some ' ' := by
    intro day
    cases day <;> decide
  obtain ⟨hne, hhead⟩ := hday (Time.weekday t.dayNumber)
  refine intact_of_plainText (plainText_httpDate t) ?_ ?_
  · unfold Time.httpDate
    simp only [String.toList_append, List.append_assoc]
    rw [List.head?_append_of_ne_nil _ hne]
    exact hhead
  · unfold Time.httpDate
    rw [String.toList_append, List.getLast?_append_of_ne_nil _ (by decide)]
    decide

lemma intact_decimal (n : Nat) : Intact (String.ofList (decimal n)) := by
  have hspace : ' ' ∉ decimal n := fun h => absurd (isDigit_of_mem_decimal h) (by decide)
  refine intact_of_plainText (plainText_decimal n) ?_ ?_
  · rw [String.toList_ofList]
    exact fun h => hspace (List.mem_of_mem_head? h)
  · rw [String.toList_ofList]
    exact fun h => hspace (List.mem_of_getLast? h)

lemma intact_attributes (hc : Tidy c) (expiresAt : Instant) (age : Nat) :
    ∀ f ∈ attributes c expiresAt age, Intact f := by
  have hdomain : ∀ f ∈ (c.domain.map fun d => "Domain=" ++ d).toList, Intact f := by
    intro f hf
    obtain ⟨d, hd, rfl⟩ := Option.map_eq_some_iff.1 (Option.mem_toList.1 hf)
    exact intact_append (by decide) (hc.domain d hd)
  have hsecure : ∀ f ∈ (if c.secure then ["Secure"] else []), Intact f := by
    intro f hf
    split at hf
    · rw [List.mem_singleton.1 hf]
      decide
    · cases hf
  have hsameSite : Intact ("SameSite=" ++ CookieConfig.sameSiteText c.sameSite) := by
    cases c.sameSite <;> decide
  unfold attributes
  simp only [List.forall_mem_append, List.forall_mem_cons, List.not_mem_nil, false_implies,
    implies_true, and_true]
  exact ⟨⟨⟨⟨intact_append (by decide) hc.path, intact_append (by decide) (intact_httpDate expiresAt),
    intact_append (by decide) (intact_decimal age), by decide⟩, hdomain⟩, hsecure⟩, hsameSite⟩

lemma fieldsOf_text (hc : Tidy c) (hpair : Intact (c.name ++ "=" ++ value))
    (expiresAt : Instant) (age : Nat) :
    fieldsOf (c.text value expiresAt age) = (c.name ++ "=" ++ value) :: attributes c expiresAt age := by
  rw [text_eq_intercalate]
  refine fieldsOf_intercalate (List.cons_ne_nil _ _) fun f hf => ?_
  rcases List.mem_cons.1 hf with rfl | hf
  · exact hpair
  · exact intact_attributes hc expiresAt age f hf

lemma name_ne_nil (c : CookieConfig) : c.name.toList ≠ [] := by
  unfold CookieConfig.name
  split
  · decide
  · rename_i hne
    exact fun hnil => hne (String.toList_inj.1 hnil)

lemma toList_pair (name value : String) :
    (name ++ "=" ++ value).toList = name.toList ++ '=' :: value.toList := by
  rw [String.toList_append, String.toList_append, List.append_assoc]
  rfl

lemma intact_pair (hname : Readable c.name) (hwhole : ';' ∉ value.toList)
    (hblank : ∀ d ∈ value.toList, isBlank d = false) : Intact (c.name ++ "=" ++ value) := by
  refine ⟨?_, ?_⟩
  · rw [toList_pair, List.mem_append, List.mem_cons, not_or, not_or]
    exact ⟨hname.whole.2, by decide, hwhole⟩
  · rw [toList_pair]
    exact trimChars_pair (name_ne_nil c) hname hblank

lemma clear_of_renderable (hc : Renderable c) : c.clear = some (c.text "" .epoch 0) := by
  have hsendable : Sendable (c.text "" .epoch 0) := (sendable_text_iff .epoch 0).2 ⟨hc, by decide⟩
  unfold CookieConfig.clear CookieConfig.headerText?
  exact if_pos hsendable

/-- The texts that the cookie headers of a request hold. -/
structure Carries (hs : Headers) (texts : List String) : Prop where
  values : hs.values "cookie" = texts.map valueOfText
  text : ∀ t ∈ texts, t.toList.all isTextChar = true

/-- A pair stands among those in the cookie headers of a request, with any blanks around it, and no other of
them has the name of the cookie in front of its first equals sign. -/
structure Among (c : CookieConfig) (texts : List String) (pair : String) : Prop where
  present : ∃ t ∈ texts, ∃ piece ∈ pieces ';' t.toList, trimChars piece = pair.toList
  others : ∀ t ∈ texts, ∀ piece ∈ pieces ';' t.toList,
    trimChars piece = pair.toList ∨ ∀ p ∈ cut '=' (trimChars piece), p.1 ≠ c.name.toList

lemma find?_of_unique {α : Type} {p : α → Bool} {l : List α} {x : α} (hx : x ∈ l) (hp : p x = true)
    (hunique : ∀ y ∈ l, p y = true → y = x) : l.find? p = some x := by
  cases hfound : l.find? p with
  | none => exact absurd hp (List.find?_eq_none.1 hfound x hx)
  | some y => rw [hunique y (List.mem_of_find?_eq_some hfound) (List.find?_some hfound)]

lemma textOfValue?_of_carries (h : Carries hs texts) :
    (hs.values "cookie").filterMap textOfValue? = texts.map String.toList := by
  rw [h.values, List.filterMap_map, ← List.filterMap_eq_map]
  refine List.filterMap_congr fun t ht => ?_
  show textOfValue? (valueOfText t) = some t.toList
  rw [textOfValue?_valueOfText, if_pos (h.text t ht)]

lemma read_among (hcarries : Carries hs texts) (hname : '=' ∉ c.name.toList)
    (hamong : Among c texts (c.name ++ "=" ++ value)) :
    c.read hs = if trimChars value.toList = [] then none else some (trim value) := by
  have hfound : (((hs.values "cookie").filterMap textOfValue?).flatMap CookieConfig.pairs).find?
      (fun p => p.1 = c.name.toList) = some (c.name.toList, value.toList) := by
    rw [textOfValue?_of_carries hcarries]
    refine find?_of_unique ?_ (decide_eq_true rfl) fun y hy hmatch => ?_
    · obtain ⟨t, ht, piece, hpiece, htrim⟩ := hamong.present
      rw [toList_pair] at htrim
      exact List.mem_flatMap.2 ⟨t.toList, List.mem_map_of_mem ht,
        List.mem_filterMap.2 ⟨piece, hpiece, cut_eq_some_iff.2 ⟨htrim, hname⟩⟩⟩
    · obtain ⟨_, htext, hpair⟩ := List.mem_flatMap.1 hy
      obtain ⟨t, ht, rfl⟩ := List.mem_map.1 htext
      obtain ⟨piece, hpiece, hcut⟩ := List.mem_filterMap.1 hpair
      rcases hamong.others t ht piece hpiece with hsame | hother
      · have hcut' : CookieConfig.pair? piece = some (c.name.toList, value.toList) := by
          rw [toList_pair] at hsame
          exact cut_eq_some_iff.2 ⟨hsame, hname⟩
        exact Option.some.inj (hcut.symm.trans hcut')
      · exact absurd (of_decide_eq_true hmatch) (hother y hcut)
  unfold CookieConfig.read
  dsimp only
  rw [hfound]
  rfl

lemma plain_of_visible {d : Char} (h : isVisible d = true) (hother : d ≠ ';') :
    isPlainChar d = true ∧ d ≠ ' ' := by
  simp only [isVisible, Bool.and_eq_true, decide_eq_true_eq] at h
  simp only [isPlainChar, Bool.and_eq_true, decide_eq_true_eq, bne_iff_ne]
  refine ⟨⟨⟨by omega, h.2⟩, hother⟩, ?_⟩
  rintro rfl
  exact absurd h.1 (by decide)

/-- A cookie with tidy settings can be written with every identifier of visible ASCII without a semicolon,
and also to take an identifier back. What is written is the pair of the name and the identifier, or of the
name and nothing, with all attributes behind it. Wherever that pair stands among the cookies of a request,
if no other has its name, the identifier is read, or none. -/
theorem session_cookie_round_trip (c : CookieConfig) (id : String) (expiresAt now : Instant) (hc : Tidy c)
    (hid : id ≠ "") (hvisible : ∀ d ∈ id.toList, isVisible d = true ∧ d ≠ ';') :
    (∃ v, c.write id expiresAt now = some v ∧
        fieldsOf v = (c.name ++ "=" ++ id) :: attributes c expiresAt (ageOf expiresAt now)) ∧
      (∃ v, c.clear = some v ∧ fieldsOf v = (c.name ++ "=") :: attributes c .epoch 0) ∧
      ∀ hs texts, Carries hs texts →
        (Among c texts (c.name ++ "=" ++ id) → c.read hs = some id) ∧
          (Among c texts (c.name ++ "=") → c.read hs = none) := by
  have hplain : ∀ d ∈ id.toList, isPlainChar d = true ∧ d ≠ ' ' := fun d hd =>
    plain_of_visible (hvisible d hd).1 (hvisible d hd).2
  have hsendable : Sendable id := sendable_of_plainText (List.all_eq_true.2 fun d hd => (hplain d hd).1)
  have hblank : ∀ d ∈ id.toList, isBlank d = false :=
    fun d hd => isBlank_of_plain (hplain d hd).1 (hplain d hd).2
  have hpair : Intact (c.name ++ "=" ++ id) :=
    intact_pair hc.named (fun hmem => (hvisible ';' hmem).2 rfl) hblank
  have hnothing : Intact (c.name ++ "=" ++ "") := intact_pair hc.named (by decide) fun d hd => by cases hd
  have hempty : c.name ++ "=" ++ "" = c.name ++ "=" := String.append_empty
  have hcleared := fieldsOf_text hc hnothing .epoch 0
  rw [hempty] at hcleared
  refine ⟨⟨_, write_of_renderable hc.renderable hsendable expiresAt now, fieldsOf_text hc hpair expiresAt _⟩,
    ⟨_, clear_of_renderable hc.renderable, hcleared⟩, fun hs texts hcarries => ⟨?_, ?_⟩⟩
  · intro hamong
    have htrim : trimChars id.toList = id.toList := trimChars_of_no_blank hblank
    rw [read_among hcarries hc.named.whole.1 hamong, trim, htrim, String.ofList_toList]
    exact if_neg fun hnil => hid (String.toList_inj.1 hnil)
  · intro hamong
    rw [← hempty] at hamong
    rw [read_among hcarries hc.named.whole.1 hamong]
    exact if_pos rfl

def crowdedCookie : CookieConfig where
  rawName := "sid"
  rawPath := "/app"
  domain := some "sniply.dev"
  secure := true
  sameSite := .lax

/-- Cookies whose names resemble the name of the session's, before and behind a pair and in other headers. -/
def crowdedTexts (pair : String) : List String :=
  ["sid_=7; flag", "xsid=1; \t" ++ pair ++ "  ; si=a=b", "sidx=sid=2"]

theorem session_cookie_round_trip_crowded :
    (∃ v, crowdedCookie.write "ses_0a" (atSecond 60) (atSecond 0) = some v ∧
        fieldsOf v =
          ["sid=ses_0a", "Path=/app", "Expires=Thu, 01 Jan 1970 00:01:00 GMT", "Max-Age=60", "HttpOnly",
          "Domain=sniply.dev", "Secure", "SameSite=Lax"]) ∧
      crowdedCookie.read (⟨"accept", []⟩ :: (crowdedTexts "sid=ses_0a").map cookieHeader) = some "ses_0a" ∧
      crowdedCookie.read (⟨"accept", []⟩ :: (crowdedTexts "sid=").map cookieHeader) = none := by
  have hnamed : Readable crowdedCookie.name := by
    refine ⟨by decide, by decide, fun d hd => ?_⟩
    cases hd
    rfl
  have hdomain : ∀ d, crowdedCookie.domain = some d → d = "sniply.dev" :=
    fun d hd => (Option.some.inj hd).symm
  have htidy : Tidy crowdedCookie := by
    refine ⟨⟨by decide, by decide, fun d hd => ?_⟩, hnamed, by decide, fun d hd => ?_⟩
    · rw [hdomain d hd]
      decide
    · rw [hdomain d hd]
      decide
  have hvisible : ∀ d ∈ "ses_0a".toList, isVisible d = true ∧ d ≠ ';' := by
    have hall : "ses_0a".toList.all (fun d => isVisible d ∧ d ≠ ';') = true := by decide
    exact fun d hd => of_decide_eq_true (List.all_eq_true.1 hall d hd)
  have hcarries : ∀ pair, (crowdedTexts pair).all (fun t => t.toList.all isTextChar) = true →
      Carries (⟨"accept", []⟩ :: (crowdedTexts pair).map cookieHeader) (crowdedTexts pair) := by
    intro pair htext
    exact ⟨rfl, List.all_eq_true.1 htext⟩
  have hamong : Among crowdedCookie (crowdedTexts "sid=ses_0a") "sid=ses_0a" := ⟨by decide, by decide⟩
  have hamong' : Among crowdedCookie (crowdedTexts "sid=") "sid=" := ⟨by decide, by decide⟩
  obtain ⟨hwritten, _, hread⟩ :=
    session_cookie_round_trip crowdedCookie "ses_0a" (atSecond 60) (atSecond 0) htidy (by decide) hvisible
  exact ⟨hwritten, (hread _ _ (hcarries _ (by decide))).1 hamong,
    (hread _ _ (hcarries _ (by decide))).2 hamong'⟩

end Gatehouse.Proofs
