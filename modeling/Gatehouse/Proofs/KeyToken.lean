import Gatehouse.Proofs.HeaderText
import Gatehouse.Proofs.Trimming
import Gatehouse.Service.Credential
import Gatehouse.Token

/-!
# Where the token of an API key stands

A token stands in the header that is meant for it, or behind `Bearer` in an authorization, and only the
first header of each name is looked at. This is a grammar of texts, and the reader accepts exactly what it
derives. What is read has no blanks around it, so to trim it once more, as those do who look it up, changes
nothing.
-/

namespace Gatehouse.Proofs
open Http Text Credential

variable {hs : Headers} {name t scheme front back : String} {cs : List Char}

/-- The first header of a name holds a text of visible ASCII, blanks and tabs. -/
structure Leads (hs : Headers) (name text : String) : Prop where
  first : (hs.values name).head? = some (valueOfText text)
  legible : text.toList.all isTextChar = true

/-- A token in the header that is meant for it, with any blanks around it. -/
def InOwnHeader (hs : Headers) (t : String) : Prop :=
  ∃ text, Leads hs "x-api-key" text ∧ trim text = t ∧ t ≠ ""

/-- The word `bearer` in any letter case. -/
def IsBearer (scheme : String) : Prop := scheme.toList.map Char.toLower = "bearer".toList

instance (scheme : String) : Decidable (IsBearer scheme) := inferInstanceAs (Decidable (_ = _))

/-- A token in an authorization, behind the word `bearer` and the first blank. -/
def InAuthorization (hs : Headers) (t : String) : Prop :=
  ∃ text scheme rest, Leads hs "authorization" text ∧ trim text = scheme ++ " " ++ rest ∧
    ' ' ∉ scheme.toList ∧ IsBearer scheme ∧ trim rest = t ∧ t ≠ ""

lemma firstText?_eq_some_iff : hs.firstText? name = some cs ↔ Leads hs name (String.ofList cs) := by
  unfold Headers.firstText?
  rw [Option.bind_eq_some_iff]
  constructor
  · rintro ⟨value, hvalue, htext⟩
    obtain ⟨rfl, hlegible⟩ := textOfValue?_eq_some_iff.1 htext
    refine ⟨hvalue, ?_⟩
    rw [String.toList_ofList]
    exact hlegible
  · rintro ⟨hfirst, hlegible⟩
    rw [String.toList_ofList] at hlegible
    exact ⟨_, hfirst, textOfValue?_eq_some_iff.2 ⟨rfl, hlegible⟩⟩

lemma ofList_ne_empty_iff : String.ofList cs ≠ "" ↔ cs ≠ [] := by
  rw [ne_eq, ← String.toList_inj, String.toList_ofList]
  rfl

lemma dedicatedToken?_eq_some_iff : dedicatedToken? hs = some cs ↔ InOwnHeader hs (String.ofList cs) := by
  unfold dedicatedToken?
  constructor
  · intro h
    obtain ⟨text, htext, h⟩ := Option.bind_eq_some_iff.1 h
    dsimp only at h
    split at h
    · cases h
    · rename_i hne
      obtain rfl := Option.some.inj h
      refine ⟨String.ofList text, firstText?_eq_some_iff.1 htext, ?_, ofList_ne_empty_iff.2 hne⟩
      rw [trim, String.toList_ofList]
  · rintro ⟨text, hleads, htrim, hne⟩
    rw [trim, String.ofList_inj] at htrim
    have htext : hs.firstText? "x-api-key" = some text.toList :=
      firstText?_eq_some_iff.2 (by rw [String.ofList_toList]; exact hleads)
    rw [htext, Option.bind_eq_bind, Option.bind_some, htrim]
    exact if_neg (ofList_ne_empty_iff.1 hne)

lemma toList_scheme (scheme rest : String) :
    (scheme ++ " " ++ rest).toList = scheme.toList ++ ' ' :: rest.toList := by
  rw [String.toList_append, String.toList_append, List.append_assoc]
  rfl

lemma bearerToken?_eq_some_iff : bearerToken? hs = some cs ↔ InAuthorization hs (String.ofList cs) := by
  unfold bearerToken?
  constructor
  · intro h
    obtain ⟨text, htext, h⟩ := Option.bind_eq_some_iff.1 h
    obtain ⟨⟨scheme, rest⟩, hcut, h⟩ := Option.bind_eq_some_iff.1 h
    obtain ⟨hsplit, hfirst⟩ := cut_eq_some_iff.1 hcut
    dsimp only at h
    split at h
    · rename_i hboth
      obtain rfl := Option.some.inj h
      refine ⟨String.ofList text, String.ofList scheme, String.ofList rest,
        firstText?_eq_some_iff.1 htext, ?_, ?_, ?_, ?_, ofList_ne_empty_iff.2 hboth.2⟩
      · rw [← String.toList_inj, toList_scheme]
        simp only [trim, String.toList_ofList]
        exact hsplit
      · rw [String.toList_ofList]
        exact hfirst
      · unfold IsBearer
        rw [String.toList_ofList]
        exact hboth.1
      · rw [trim, String.toList_ofList]
    · cases h
  · rintro ⟨text, scheme, rest, hleads, hsplit, hfirst, hscheme, htrim, hne⟩
    have htext : hs.firstText? "authorization" = some text.toList :=
      firstText?_eq_some_iff.2 (by rw [String.ofList_toList]; exact hleads)
    have hcut : cut ' ' (trimChars text.toList) = some (scheme.toList, rest.toList) := by
      rw [← String.toList_inj, toList_scheme, trim, String.toList_ofList] at hsplit
      exact cut_eq_some_iff.2 ⟨hsplit, hfirst⟩
    rw [trim, String.ofList_inj] at htrim
    rw [htext, Option.bind_eq_bind, Option.bind_some, hcut, Option.bind_eq_bind, Option.bind_some]
    dsimp only
    rw [htrim]
    exact if_pos ⟨hscheme, ofList_ne_empty_iff.1 hne⟩

lemma dedicatedToken?_eq_none_iff : dedicatedToken? hs = none ↔ ¬ ∃ t, InOwnHeader hs t := by
  rw [← not_iff_not, not_not]
  refine Option.ne_none_iff_exists'.trans ?_
  constructor
  · rintro ⟨cs, hcs⟩
    exact ⟨_, dedicatedToken?_eq_some_iff.1 hcs⟩
  · rintro ⟨t, ht⟩
    exact ⟨t.toList, dedicatedToken?_eq_some_iff.2 (by rw [String.ofList_toList]; exact ht)⟩

lemma apiKeyToken?_eq_some_iff :
    apiKeyToken? hs = some t ↔ InOwnHeader hs t ∨ (¬ ∃ t', InOwnHeader hs t') ∧ InAuthorization hs t := by
  have hspelled : apiKeyToken? hs = some t ↔ (dedicatedToken? hs).or (bearerToken? hs) = some t.toList := by
    unfold apiKeyToken?
    rw [Option.map_eq_some_iff]
    constructor
    · rintro ⟨cs, hcs, rfl⟩
      rw [hcs, String.toList_ofList]
    · exact fun h => ⟨_, h, String.ofList_toList⟩
  rw [hspelled, Option.or_eq_some_iff, dedicatedToken?_eq_some_iff, dedicatedToken?_eq_none_iff,
    bearerToken?_eq_some_iff, String.ofList_toList]

/-- A token that a header can carry and that nothing is trimmed away from. -/
structure Presentable (t : String) : Prop where
  named : t ≠ ""
  tight : trim t = t
  legible : t.toList.all isTextChar = true

/-- Spaces and tabs. -/
def Padding (s : String) : Prop := s.toList.all (fun d => d = ' ' || d = '\t') = true

instance (s : String) : Decidable (Padding s) := inferInstanceAs (Decidable (_ = true))

lemma padding_spec (h : Padding front) : isBlankText front = true ∧ front.toList.all isTextChar = true := by
  have hone : ∀ d ∈ front.toList, isBlank d = true ∧ isTextChar d = true := by
    intro d hd
    have hd' := List.all_eq_true.1 h d hd
    simp only [Bool.or_eq_true, decide_eq_true_eq] at hd'
    rcases hd' with rfl | rfl <;> decide
  exact ⟨List.all_eq_true.2 fun d hd => (hone d hd).1, List.all_eq_true.2 fun d hd => (hone d hd).2⟩

/-- A letter of the word `bearer` is no blank, in either case. -/
lemma bearer_spec (h : IsBearer scheme) :
    scheme.toList ≠ [] ∧ ∀ d ∈ scheme.toList, isBlank d = false ∧ isTextChar d = true := by
  refine ⟨fun hnil => ?_, fun d hd => ?_⟩
  · unfold IsBearer at h
    rw [hnil] at h
    cases h
  · have hlower : d.toLower ∈ "bearer".toList := h ▸ List.mem_map_of_mem hd
    have hletters : "bearer".toList.all (fun e => isBlank e = false ∧ isTextChar e = true) = true := by decide
    unfold Char.toLower at hlower
    split at hlower
    · rename_i hupper
      have hfrom : 65 ≤ d.toNat := hupper.1
      have hto : d.toNat ≤ 90 := hupper.2
      simp only [isBlank, isTextChar, Bool.or_eq_true, Bool.or_eq_false_iff, Bool.and_eq_true,
        Bool.and_eq_false_iff, decide_eq_true_eq, decide_eq_false_iff_not, beq_eq_false_iff_ne]
      omega
    · exact of_decide_eq_true (List.all_eq_true.1 hletters d hlower)

/-- An authorization as it may be written: any letter case, and any blanks in front of it and around the
token. -/
def authorization (lead scheme front t back : String) : String :=
  lead ++ (scheme ++ " " ++ (front ++ t)) ++ back

lemma trim_authorization {lead : String} (ht : Presentable t) (hscheme : IsBearer scheme)
    (hlead : Padding lead) (hback : Padding back) :
    trim (authorization lead scheme front t back) = scheme ++ " " ++ (front ++ t) := by
  obtain ⟨hne, hletters⟩ := bearer_spec hscheme
  have htight := ht.tight
  have hnonempty : t.toList ≠ [] := fun hnil => ht.named (String.toList_inj.1 hnil)
  rw [trim, ← String.toList_inj, String.toList_ofList] at htight
  unfold authorization
  rw [trim_padded (padding_spec hlead).1 (padding_spec hback).1, trim, ← String.toList_inj,
    String.toList_ofList, toList_scheme, String.toList_append]
  refine trimChars_eq_self_iff.2 ⟨fun d hd => ?_, fun d hd => ?_⟩
  · rw [List.head?_append_of_ne_nil _ hne] at hd
    exact (hletters d (List.mem_of_mem_head? hd)).1
  · rw [List.getLast?_append_of_ne_nil _ (List.cons_ne_nil _ _), ← List.cons_append,
      List.getLast?_append_of_ne_nil _ hnonempty] at hd
    exact (trimChars_eq_self_iff.1 htight).2 d hd

lemma presentable_of_trim {text : String} (hlegible : text.toList.all isTextChar = true)
    (htrim : trim text = t) (hne : t ≠ "") : Presentable t where
  named := hne
  tight := by rw [← htrim, trim_trim]
  legible := by
    rw [← htrim, trim, String.toList_ofList, List.all_eq_true]
    exact fun d hd => List.all_eq_true.1 hlegible d ((trimChars_sublist text.toList).subset hd)

lemma presentable_of_read (h : apiKeyToken? hs = some t) : Presentable t := by
  rcases apiKeyToken?_eq_some_iff.1 h with ⟨text, hleads, htrim, hne⟩ |
    ⟨_, text, scheme, rest, hleads, hsplit, _, _, htrim, hne⟩
  · exact presentable_of_trim hleads.legible htrim hne
  · refine presentable_of_trim (List.all_eq_true.2 fun d hd => ?_) htrim hne
    rw [← String.toList_inj, toList_scheme, trim, String.toList_ofList] at hsplit
    have hrest : d ∈ trimChars text.toList := by
      rw [hsplit]
      exact List.mem_append_right _ (List.mem_cons_of_mem _ hd)
    exact List.all_eq_true.1 hleads.legible d ((trimChars_sublist text.toList).subset hrest)

lemma ends_of_presentable (ht : Presentable t) {d : Char}
    (hd : t.toList.head? = some d ∨ t.toList.getLast? = some d) :
    isBlank d = false := by
  have htight := ht.tight
  rw [trim, ← String.toList_inj, String.toList_ofList] at htight
  obtain ⟨hhead, hlast⟩ := trimChars_eq_self_iff.1 htight
  exact hd.elim (hhead d) (hlast d)

lemma inOwnHeader_of_padded (ht : Presentable t) (hfront : Padding front) (hback : Padding back)
    (hfirst : (hs.values "x-api-key").head? = some (valueOfText (front ++ t ++ back))) :
    InOwnHeader hs t := by
  refine ⟨front ++ t ++ back, ⟨hfirst, ?_⟩, ?_, ht.named⟩
  · simp only [String.toList_append, List.all_append, (padding_spec hfront).2,
      (padding_spec hback).2, ht.legible]
    rfl
  · rw [trim_padded (padding_spec hfront).1 (padding_spec hback).1, ht.tight]

lemma inAuthorization_of_padded {lead : String} (ht : Presentable t) (hscheme : IsBearer scheme)
    (hlead : Padding lead) (hfront : Padding front) (hback : Padding back)
    (hfirst : (hs.values "authorization").head? =
      some (valueOfText (authorization lead scheme front t back))) :
    InAuthorization hs t := by
  have hletters := (bearer_spec hscheme).2
  refine ⟨_, scheme, front ++ t, ⟨hfirst, ?_⟩, trim_authorization ht hscheme hlead hback,
    fun hspace => ?_, hscheme, ?_, ht.named⟩
  · have hall : scheme.toList.all isTextChar = true := List.all_eq_true.2 fun d hd => (hletters d hd).2
    simp only [authorization, String.toList_append, List.all_append, (padding_spec hlead).2,
      (padding_spec hfront).2, (padding_spec hback).2, ht.legible, hall]
    rfl
  · exact absurd (hletters ' ' hspace).1 (by decide)
  · have hpadded : trim (front ++ t ++ "") = trim t := trim_padded (padding_spec hfront).1 rfl t
    rw [String.append_empty, ht.tight] at hpadded
    exact hpadded

/-- A token is read from a request exactly if it is what the first header meant for it holds between blanks,
or if that header holds none and it stands in the first authorization, behind the word `bearer` in any
letter case and a blank. What is read is not empty and has no blank at either end, so that it stays as it is
when it is trimmed once more to be looked up. And every such token is read from both places alike, whatever
blanks there are around it. -/
theorem api_key_token_exact (hs : Headers) :
    (∀ t, apiKeyToken? hs = some t ↔ InOwnHeader hs t ∨ (¬ ∃ t', InOwnHeader hs t') ∧ InAuthorization hs t) ∧
      (∀ t, apiKeyToken? hs = some t → t ≠ "" ∧
        (∀ d, t.toList.head? = some d ∨ t.toList.getLast? = some d → isBlank d = false) ∧ trim t = t ∧
          tokenHash t = Crypto.sha256Hex t) ∧
      ∀ t scheme lead front back,
        Presentable t → IsBearer scheme → Padding lead → Padding front → Padding back →
        ((hs.values "x-api-key").head? = some (valueOfText (front ++ t ++ back)) → apiKeyToken? hs = some t) ∧
          ((¬ ∃ t', InOwnHeader hs t') →
            (hs.values "authorization").head? = some (valueOfText (authorization lead scheme front t back)) →
              apiKeyToken? hs = some t) := by
  refine ⟨fun t => apiKeyToken?_eq_some_iff, fun t hread => ?_,
    fun t scheme lead front back ht hscheme hlead hfront hback => ⟨fun hfirst => ?_, fun hnone hfirst => ?_⟩⟩
  · have ht := presentable_of_read hread
    refine ⟨ht.named, fun d hd => ends_of_presentable ht hd, ht.tight, ?_⟩
    rw [tokenHash, ht.tight]
  · exact apiKeyToken?_eq_some_iff.2 (Or.inl (inOwnHeader_of_padded ht hfront hback hfirst))
  · exact apiKeyToken?_eq_some_iff.2
      (Or.inr ⟨hnone, inAuthorization_of_padded ht hscheme hlead hfront hback hfirst⟩)

/-- A header of its own with a token between a tab and a space. -/
def ownHeaders : Headers :=
  [⟨"x-api-key", valueOfText "\tsk_a b "⟩, ⟨"authorization", valueOfText "Bearer sk_c"⟩]

/-- Nothing but blanks where the token should stand, and the token in the first one of two authorizations. -/
def bearerHeaders : Headers :=
  [⟨"x-api-key", valueOfText " \t"⟩, ⟨"authorization", valueOfText " bEArer  \tsk_a b "⟩,
    ⟨"x-api-key", valueOfText "sk_c"⟩, ⟨"authorization", valueOfText "Bearer sk_d"⟩]

theorem api_key_token_exact_padded :
    apiKeyToken? ownHeaders = some "sk_a b" ∧ apiKeyToken? bearerHeaders = some "sk_a b" ∧
      trim "sk_a b" = "sk_a b" ∧ InAuthorization bearerHeaders "sk_a b" := by
  have ht : Presentable "sk_a b" := ⟨by decide, by decide, by decide⟩
  have hscheme : IsBearer "bEArer" := by decide
  have hnone : ¬ ∃ t', InOwnHeader bearerHeaders t' := dedicatedToken?_eq_none_iff.1 (by decide +kernel)
  have hown :=
    ((api_key_token_exact ownHeaders).2.2 "sk_a b" "bEArer" " " "\t" " " ht hscheme (by decide) (by decide)
      (by decide)).1 rfl
  have hbearer :=
    ((api_key_token_exact bearerHeaders).2.2 "sk_a b" "bEArer" " " " \t" " " ht hscheme (by decide)
      (by decide) (by decide)).2 hnone rfl
  have htight := ((api_key_token_exact ownHeaders).2.1 "sk_a b" hown).2.2.1
  have hplace := (((api_key_token_exact bearerHeaders).1 "sk_a b").1 hbearer).resolve_left
    fun h => hnone ⟨_, h⟩
  exact ⟨hown, hbearer, htight, hplace.2⟩

end Gatehouse.Proofs
