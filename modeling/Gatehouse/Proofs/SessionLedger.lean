import Gatehouse.Proofs.SessionInvariant
import Mathlib.Logic.Function.Basic

/-!
# The ledger of sessions

What a store of sessions holds can be read off what was done to it: under every identifier there is the
session that was filed last, unless it was taken out since. The store may have lost such a session, but only
once it is of no use any more. So a look-up answers as the ledger says, and it does not matter when the
store was purged.
-/

namespace Gatehouse.Proofs
open SessionPolicy

variable {p : SessionPolicy} {st : SessionStore} {w : World} {now t : Instant} {s : Session} {id : String}
  {kept : String → Option Session}

/-- A session is of use up to its end, as long as the store has not let go of it. -/
def Lasts (s : Session) (t : Instant) : Prop :=
  t ≤ s.expiresAt ∧ ∃ evictAt, evictionOf? s = some evictAt ∧ t < evictAt

lemma lasts_earlier (hle : now ≤ t) (hs : Lasts s t) : Lasts s now := by
  obtain ⟨hend, evictAt, hevict, hlt⟩ := hs
  exact ⟨instant_le_trans hle hend, evictAt, hevict, instant_lt_of_le_of_lt hle hlt⟩

/-- Outside of leap seconds a session lasts until its end, and at its end too if that is less than a second
after the last refresh. -/
lemma lasts_iff (hlast : s.lastRefreshedAt.leap = false) (hends : s.expiresAt.leap = false)
    (ht : t.leap = false) (hdated : evictionOf? s ≠ none) :
    Lasts s t ↔ t ≤ s.expiresAt ∧
      t.nanos < max s.expiresAt.nanos (s.lastRefreshedAt.nanos + 1000000000) := by
  obtain ⟨evictAt, hevict⟩ := Option.ne_none_iff_exists'.1 hdated
  obtain ⟨hleap, hnanos⟩ := evictionOf?_ordinary hlast hends hevict
  have hlt : t < evictAt ↔ t.nanos < max s.expiresAt.nanos (s.lastRefreshedAt.nanos + 1000000000) := by
    rw [Instant.lt_iff_nanos_lt ht hleap, hnanos]
  unfold Lasts
  rw [← hlt, hevict]
  constructor
  · rintro ⟨hend, _, heq, hkept⟩
    cases heq
    exact ⟨hend, hkept⟩
  · rintro ⟨hend, hkept⟩
    exact ⟨hend, evictAt, rfl, hkept⟩

/-- A ledger that a store agrees with at an instant. A blank identifier is never looked up, so nothing is
said about it. -/
structure Ledger (p : SessionPolicy) (st : SessionStore) (now : Instant) (kept : String → Option Session) :
    Prop where
  filed : StoreFiled p st
  known : ∀ id e, Text.isBlankText id = false → st.get? id = some e → kept id = some e.session
  present : ∀ id s, Text.isBlankText id = false → kept id = some s → Lasts s now → st.get? id ≠ none

lemma ledger_empty (p : SessionPolicy) (now : Instant) : Ledger p Table.empty now fun _ => none where
  filed := fun id e he => by cases he
  known := fun id e _ he => by cases he
  present := fun id s _ hs => by cases hs

lemma ledger_later (h : Ledger p st now kept) (hle : now ≤ t) : Ledger p st t kept where
  filed := h.filed
  known := h.known
  present := fun id s hid hs hlasts => h.present id s hid hs (lasts_earlier hle hlasts)

lemma ledger_insert {evictAt : Instant} (h : Ledger p st now kept) (hs : Bounded p s)
    (hevict : evictionOf? s = some evictAt) :
    Ledger p (st.insert s.id ⟨s, evictAt⟩) now (Function.update kept s.id (some s)) := by
  refine ⟨storeFiled_insert h.filed hs hevict, fun id e hid he => ?_, fun id s' hid hs' hlasts => ?_⟩
  · rw [Table.get?_insert] at he
    rw [Function.update_apply]
    split at he
    · rename_i heq
      cases he
      rw [if_pos heq]
    · rename_i hne
      rw [if_neg hne]
      exact h.known id e hid he
  · rw [Table.get?_insert]
    rw [Function.update_apply] at hs'
    split
    · exact Option.some_ne_none _
    · rename_i hne
      rw [if_neg hne] at hs'
      exact h.present id s' hid hs' hlasts

lemma ledger_erase (h : Ledger p st now kept) (id : String) :
    Ledger p (st.erase id) now (Function.update kept id none) := by
  refine ⟨storeFiled_erase h.filed id, fun id' e hid he => ?_, fun id' s hid hs hlasts => ?_⟩
  · rw [Table.get?_erase] at he
    split at he
    · cases he
    · rename_i hne
      rw [Function.update_apply, if_neg hne]
      exact h.known id' e hid he
  · rw [Function.update_apply] at hs
    split at hs
    · cases hs
    · rename_i hne
      rw [Table.get?_erase, if_neg hne]
      exact h.present id' s hid hs hlasts

lemma ledger_discard (h : Ledger p st now kept) (hdead : ∀ s, kept id = some s → ¬ Lasts s now) :
    Ledger p (st.erase id) now kept := by
  refine ⟨storeFiled_erase h.filed id, fun id' e hid he => ?_, fun id' s hid hs hlasts => ?_⟩
  · rw [Table.get?_erase] at he
    split at he
    · cases he
    · exact h.known id' e hid he
  · have hne : id' ≠ id := by
      rintro rfl
      exact hdead s hs hlasts
    rw [Table.get?_erase, if_neg hne]
    exact h.present id' s hid hs hlasts

lemma ledger_purge (h : Ledger p st now kept) : Ledger p (st.purgeExpired now) now kept := by
  refine ⟨storeFiled_purge h.filed now, fun id e hid he => ?_, fun id s hid hs hlasts => ?_⟩
  · rw [SessionStore.get?_purgeExpired, Option.filter_eq_some_iff] at he
    exact h.known id e hid he.1
  · obtain ⟨e, he⟩ := Option.ne_none_iff_exists'.1 (h.present id s hid hs hlasts)
    obtain rfl : e.session = s := Option.some.inj ((h.known id e hid he).symm.trans hs)
    obtain ⟨_, evictAt, hevict, hlt⟩ := hlasts
    obtain rfl : e.evictAt = evictAt := Option.some.inj ((h.filed id e he).evicted.symm.trans hevict)
    rw [SessionStore.get?_purgeExpired, he, Option.filter_some, if_pos (decide_eq_true hlt)]
    exact Option.some_ne_none e

lemma ledger_blank (h : Ledger p st now kept) (hblank : Text.isBlankText id = true) (found : Option Session) :
    Ledger p st now (Function.update kept id found) := by
  have hne : ∀ id', Text.isBlankText id' = false → id' ≠ id := by
    rintro id' hid rfl
    rw [hblank] at hid
    cases hid
  refine ⟨h.filed, fun id' e hid he => ?_, fun id' s hid hs hlasts => ?_⟩
  · rw [Function.update_apply, if_neg (hne id' hid)]
    exact h.known id' e hid he
  · rw [Function.update_apply, if_neg (hne id' hid)] at hs
    exact h.present id' s hid hs hlasts

lemma issued_not_blank (token : String) : Text.isBlankText ("ses_" ++ token) = false := by
  unfold Text.isBlankText
  rw [String.toList_append, List.all_append]
  rfl

lemma pastMaxAge?_of_bounded (hs : Bounded p s) (t : Instant) : p.pastMaxAge? s t ≠ none := by
  unfold SessionPolicy.pastMaxAge? Session.exceedsMaxAge?
  by_cases hmax : p.maxAge = 0
  · rw [if_pos hmax]
    exact Option.some_ne_none false
  · obtain ⟨limit, hlimit, _⟩ := hs.capped hmax
    rw [if_neg hmax, hlimit]
    exact Option.some_ne_none (decide (limit < t))

lemma pastMaxAge?_of_le_expiresAt (hs : Bounded p s) (hle : t ≤ s.expiresAt) :
    p.pastMaxAge? s t = some false := by
  refine pastMaxAge?_of_le fun hmax => ?_
  obtain ⟨limit, hlimit, hend⟩ := hs.capped hmax
  exact ⟨limit, hlimit, instant_le_trans hle hend⟩

lemma get_of_lasts (h : Ledger p w.sessions w.now kept) (hid : Text.isBlankText id = false)
    (hs : kept id = some s) (hlasts : Lasts s w.now) :
    w.perform (p.get id).run = (some (.ok s), w) := by
  obtain ⟨e, he⟩ := Option.ne_none_iff_exists'.1 (h.present id s hid hs hlasts)
  obtain rfl : e.session = s := Option.some.inj ((h.known id e hid he).symm.trans hs)
  have hfiled := h.filed id e he
  obtain ⟨hend, evictAt, hevict, hlt⟩ := hlasts
  obtain rfl : e.evictAt = evictAt := Option.some.inj (hfiled.evicted.symm.trans hevict)
  have hpast := pastMaxAge?_of_le_expiresAt hfiled.bounded hend
  have hexpired : e.session.isExpired w.now = false := decide_eq_false (instant_not_lt.2 hend)
  simp only [perform_get, hid, he, if_pos hlt, hpast, hexpired, Bool.or_false, Bool.false_eq_true, if_false]

lemma get_of_not_lasts (h : Ledger p w.sessions w.now kept) (hid : Text.isBlankText id = false)
    (hdead : ∀ s, kept id = some s → ¬ Lasts s w.now) :
    w.perform (p.get id).run = (some (.error .notFound), dropSession w id) := by
  simp only [perform_get, hid, Bool.false_eq_true, if_false]
  cases hget : w.sessions.get? id with
  | none =>
    simp only [dropSession, Table.erase_of_get?_eq_none hget]
  | some e =>
    have hfiled := h.filed id e hget
    simp only
    by_cases hlt : w.now < e.evictAt
    · have hexpired : e.session.isExpired w.now = true := by
        refine decide_eq_true (instant_not_le.1 fun hend => ?_)
        exact hdead e.session (h.known id e hid hget) ⟨hend, e.evictAt, hfiled.evicted, hlt⟩
      obtain ⟨past, hpast⟩ := Option.ne_none_iff_exists'.1 (pastMaxAge?_of_bounded hfiled.bounded w.now)
      simp only [if_pos hlt, hpast, hexpired, Bool.or_true, if_true, hfiled.own]
    · rw [if_neg hlt]

/-- Sessions last an hour, and every refresh is due. -/
def hourPolicy : SessionPolicy where
  ttl := Span.ofSecs 3600
  maxAge := 0
  refreshBefore := 0
  idBytes := 32
  csrfBytes := 32

def countedTokens : TokenSource where
  text := fun n _ => String.ofList (List.replicate (n + 1) 'a')

lemma countedTokens_fresh (n bytes n' bytes' : Nat)
    (h : countedTokens.text n bytes = countedTokens.text n' bytes') : n = n' := by
  have hlength := congrArg (fun s : String => s.toList.length) h
  simpa only [countedTokens, String.toList_ofList, List.length_replicate, Nat.add_right_cancel_iff]
    using hlength

lemma countedTokens_ne (n bytes : Nat) : countedTokens.text n bytes ≠ "" := by
  intro h
  have hlength := congrArg (fun s : String => s.toList.length) h
  simp [countedTokens] at hlength

end Gatehouse.Proofs
