import Gatehouse.Proofs.InstantOrder
import Gatehouse.Proofs.JsonReading
import Gatehouse.Proofs.TimestampReading
import Gatehouse.Session.Codec
import Gatehouse.Web.Messages
import Mathlib.Data.List.Nodup

/-!
# Records kept as JSON

Sessions are kept as JSON, and responses are sent as it. Whoever reads such a text has the record that was
written: the fields are told apart by their names, texts may hold any characters, and instants keep their
nanoseconds over the whole range. A text that came from elsewhere may be written differently, but only once.
Leap seconds are left out.
-/

namespace Gatehouse.Proofs
open Json

variable {α : Type} {write : α → Json} {read : Json → Option α} {a : α}
  {members : List (String × Json)} {t : Instant}

lemma spelled_text (s : String) : Spelled (.text s) := .str s.toList

lemma spelled_instant (t : Instant) : Spelled (.instant t) := .str (Time.timestampChars t)

lemma spelled_record (h : ∀ m ∈ members, Spelled m.2) : Spelled (.record members) := by
  refine .obj (fun m hm => ?_) (fun m hm => ?_)
  · obtain ⟨n, _, rfl⟩ := List.mem_map.1 hm
    rfl
  · obtain ⟨n, hn, rfl⟩ := List.mem_map.1 hm
    exact h n hn

lemma membersFit_of_once {names : List String}
    (h : ∀ name ∈ names, (members.countP fun m => m.1 = name) ≤ 1) :
    membersFit names (members.map fun m => (some m.1.toList, m.2)) = true := by
  unfold membersFit
  rw [Bool.and_eq_true, List.all_eq_true, List.all_eq_true]
  refine ⟨fun m hm => ?_, fun name hname => decide_eq_true ?_⟩
  · obtain ⟨n, _, rfl⟩ := List.mem_map.1 hm
    rfl
  · rw [List.countP_map]
    refine (List.countP_mono_left fun m _ hm => ?_).trans (h name hname)
    simpa [String.toList_inj] using hm

/-- Whatever the order, the only member of a name is the one that is found. -/
lemma memberNamed_of_once {name : String} {v : Json} (honce : (members.countP fun m => m.1 = name) ≤ 1)
    (hmem : (name, v) ∈ members) :
    memberNamed (members.map fun m => (some m.1.toList, m.2)) name = some v := by
  unfold memberNamed
  induction members with
  | nil => exact absurd hmem List.not_mem_nil
  | cons m members ih =>
    by_cases hm : m.1 = name
    · rw [List.countP_cons_of_pos (by simpa using hm)] at honce
      have hnone : (members.countP fun m => m.1 = name) = 0 := by omega
      rw [List.countP_eq_zero] at hnone
      have heq : (name, v) = m := (List.mem_cons.1 hmem).resolve_right fun hrest => hnone _ hrest (by simp)
      subst heq
      rw [List.map_cons, List.find?_cons_of_pos (by simp)]
      rfl
    · have hne : (name, v) ≠ m := fun heq => hm (by rw [← heq])
      rw [List.countP_cons_of_neg (by simpa using hm)] at honce
      rw [List.map_cons, List.find?_cons_of_neg (by simpa [String.toList_inj] using hm)]
      exact ih honce ((List.mem_cons.1 hmem).resolve_left hne)

lemma countP_le_one (h : (members.map Prod.fst).Nodup) (name : String) :
    (members.countP fun m => m.1 = name) ≤ 1 := by
  have hcount := List.nodup_iff_count_le_one.1 h name
  rw [List.count, List.countP_map] at hcount
  exact (List.countP_mono_left fun m _ hm => by simpa using hm).trans hcount

lemma memberNamed_of_not_mem {name : String} (h : name ∉ members.map Prod.fst) :
    memberNamed (members.map fun m => (some m.1.toList, m.2)) name = none := by
  unfold memberNamed
  rw [Option.map_eq_none_iff, List.find?_eq_none]
  intro m hm heq
  obtain ⟨n, hn, rfl⟩ := List.mem_map.1 hm
  refine h (List.mem_map.2 ⟨n, hn, ?_⟩)
  simpa [String.toList_inj] using heq

/-- What is read from a record with distinct names depends on what it holds under each of them, and on
nothing else. -/
lemma read_record {names : List String} {next : Fields → Option α} (h : (members.map Prod.fst).Nodup)
    (hnext : ∀ fs : Fields, (∀ m ∈ members, fs m.1 = some m.2) →
      (∀ name, name ∉ members.map Prod.fst → fs name = none) → next fs = some a) :
    (fields? names (.record members)).bind next = some a := by
  have hfields : fields? names (.record members) =
      some (memberNamed (members.map fun m => (some m.1.toList, m.2))) :=
    if_pos (membersFit_of_once fun name _ => countP_le_one h name)
  rw [hfields, Option.bind_some]
  exact hnext _ (fun m hm => memberNamed_of_once (countP_le_one h m.1) hm) fun name => memberNamed_of_not_mem

lemma text?_text (s : String) : text? (.text s) = some s := congrArg some String.ofList_toList

lemma instant?_instant (ht : t.leap = false) : instant? (.instant t) = some t :=
  instantOfChars?_timestampChars ht

lemma scope_ofJson?_text (scope : Scope) : Scope.ofJson? (.text scope.name) = some scope := by
  show Scope.ofName? (String.ofList scope.name.toList) = some scope
  rw [String.ofList_toList]
  exact Scope.ofName?_name scope

lemma session_ofJson?_toJson {s : Session} (hcreated : s.createdAt.leap = false)
    (hrefreshed : s.lastRefreshedAt.leap = false) (hexpires : s.expiresAt.leap = false) :
    Session.ofJson? s.toJson = some s := by
  refine read_record (by simp) fun fs hheld _ => ?_
  simp only [List.forall_mem_cons] at hheld
  obtain ⟨hid, huser, hrole, htoken, hcreatedAt, hrefreshedAt, hexpiresAt, -⟩ := hheld
  simp only [Fields.required, hid, huser, hrole, htoken, hcreatedAt, hrefreshedAt, hexpiresAt,
    Option.bind_eq_bind, Option.bind_some, text?_text, instant?_instant hcreated,
    instant?_instant hrefreshed, instant?_instant hexpires]
  rfl

lemma loginResponse_ofJson?_toJson {r : LoginResponse} (hexpires : r.sessionExpiresAt.leap = false) :
    LoginResponse.ofJson? r.toJson = some r := by
  refine read_record (by simp) fun fs hheld _ => ?_
  simp only [List.forall_mem_cons] at hheld
  obtain ⟨hexpiresAt, htoken, -⟩ := hheld
  simp only [Fields.required, hexpiresAt, htoken, Option.bind_eq_bind, Option.bind_some, text?_text,
    instant?_instant hexpires]
  rfl

lemma createKeyResponse_ofJson?_toJson {r : CreateKeyResponse} (hcreated : r.createdAt.leap = false) :
    CreateKeyResponse.ofJson? r.toJson = some r := by
  refine read_record (by simp) fun fs hheld _ => ?_
  simp only [List.forall_mem_cons] at hheld
  obtain ⟨hid, hname, hscope, htoken, hstart, hcreatedAt, -⟩ := hheld
  simp only [Fields.required, hid, hname, hscope, htoken, hstart, hcreatedAt, Option.bind_eq_bind,
    Option.bind_some, text?_text, scope_ofJson?_text, instant?_instant hcreated]
  rfl

lemma keyResponse_ofJson?_toJson {r : KeyResponse} (hcreated : r.createdAt.leap = false)
    (hrevoked : ∀ t, r.revokedAt = some t → t.leap = false) : KeyResponse.ofJson? r.toJson = some r := by
  obtain ⟨id, name, scope, tokenStart, createdAt, revokedAt⟩ := r
  cases revokedAt with
  | none =>
    refine read_record (by simp) fun fs hheld habsent => ?_
    have hrevokedAt : fs "revoked_at" = none := habsent "revoked_at" (by simp)
    simp only [List.append_nil, List.forall_mem_cons] at hheld
    obtain ⟨hid, hname, hscope, hstart, hcreatedAt, -⟩ := hheld
    simp only [Fields.required, Fields.orDefault, hid, hname, hscope, hstart, hcreatedAt, hrevokedAt,
      Option.bind_eq_bind, Option.bind_some, text?_text, scope_ofJson?_text, instant?_instant hcreated]
    rfl
  | some t =>
    have ht : nullOr? instant? (.instant t) = some (some t) :=
      congrArg (Option.map some) (instant?_instant (hrevoked t rfl))
    refine read_record (by simp) fun fs hheld _ => ?_
    simp only [List.cons_append, List.nil_append, List.forall_mem_cons] at hheld
    obtain ⟨hid, hname, hscope, hstart, hcreatedAt, hrevokedAt, -⟩ := hheld
    simp only [Fields.required, Fields.orDefault, hid, hname, hscope, hstart, hcreatedAt, hrevokedAt, ht,
      Option.bind_eq_bind, Option.bind_some, text?_text, scope_ofJson?_text, instant?_instant hcreated]
    rfl

/-- The text that a record is kept as. -/
def encoded (write : α → Json) (a : α) : String := compact (write a)

/-- The record that a text is read as. -/
def decoded? (read : Json → Option α) (text : String) : Option α := (ofText? text).bind read

/-- A text read as a record that is then written. -/
def rewritten? (write : α → Json) (read : Json → Option α) (text : String) : Option String :=
  (decoded? read text).map (encoded write)

/-- Its text is read as the record, and so is every text that has been rewritten from one that is. To
rewrite that again changes nothing. -/
structure Durable (write : α → Json) (read : Json → Option α) (a : α) : Prop where
  back : decoded? read (encoded write a) = some a
  settled : ∀ text, decoded? read text = some a →
    ∃ again, rewritten? write read text = some again ∧ decoded? read again = some a ∧
      rewritten? write read again = some again

lemma durable_of_spelled (hspelled : Spelled (write a)) (hread : read (write a) = some a) :
    Durable write read a := by
  have hback : decoded? read (encoded write a) = some a := by
    unfold decoded? encoded
    rw [ofText?_compact hspelled, Option.bind_some, hread]
  refine ⟨hback, fun text htext => ⟨encoded write a, ?_, hback, ?_⟩⟩
  · rw [rewritten?, htext, Option.map_some]
  · rw [rewritten?, hback, Option.map_some]

lemma spelled_session (s : Session) : Spelled s.toJson := by
  refine spelled_record ?_
  simp only [List.forall_mem_cons]
  exact ⟨spelled_text _, spelled_text _, spelled_text _, spelled_text _, spelled_instant _, spelled_instant _,
    spelled_instant _, fun m hm => absurd hm List.not_mem_nil⟩

lemma spelled_loginResponse (r : LoginResponse) : Spelled r.toJson := by
  refine spelled_record ?_
  simp only [List.forall_mem_cons]
  exact ⟨spelled_instant _, spelled_text _, fun m hm => absurd hm List.not_mem_nil⟩

lemma spelled_createKeyResponse (r : CreateKeyResponse) : Spelled r.toJson := by
  refine spelled_record ?_
  simp only [List.forall_mem_cons]
  exact ⟨spelled_text _, spelled_text _, spelled_text _, spelled_text _, spelled_text _, spelled_instant _,
    fun m hm => absurd hm List.not_mem_nil⟩

lemma spelled_keyResponse (r : KeyResponse) : Spelled r.toJson := by
  refine spelled_record (List.forall_mem_append.2 ⟨?_, ?_⟩)
  · simp only [List.forall_mem_cons]
    exact ⟨spelled_text _, spelled_text _, spelled_text _, spelled_text _, spelled_instant _,
      fun m hm => absurd hm List.not_mem_nil⟩
  · cases r.revokedAt with
    | none => exact fun m hm => absurd hm List.not_mem_nil
    | some t => exact List.forall_mem_singleton.2 (spelled_instant t)

/-- Sessions and the three responses with instants in them are read back from their texts, for all texts in
them and all instants outside leap seconds. -/
theorem records_durable :
    (∀ s : Session, s.createdAt.leap = false → s.lastRefreshedAt.leap = false → s.expiresAt.leap = false →
      Durable Session.toJson Session.ofJson? s) ∧
    (∀ r : LoginResponse, r.sessionExpiresAt.leap = false →
      Durable LoginResponse.toJson LoginResponse.ofJson? r) ∧
    (∀ r : CreateKeyResponse, r.createdAt.leap = false →
      Durable CreateKeyResponse.toJson CreateKeyResponse.ofJson? r) ∧
    ∀ r : KeyResponse, r.createdAt.leap = false → (∀ t, r.revokedAt = some t → t.leap = false) →
      Durable KeyResponse.toJson KeyResponse.ofJson? r := by
  refine ⟨fun s hcreated hrefreshed hexpires => ?_, fun r hexpires => ?_, fun r hcreated => ?_,
    fun r hcreated hrevoked => ?_⟩
  · exact durable_of_spelled (spelled_session s) (session_ofJson?_toJson hcreated hrefreshed hexpires)
  · exact durable_of_spelled (spelled_loginResponse r) (loginResponse_ofJson?_toJson hexpires)
  · exact durable_of_spelled (spelled_createKeyResponse r) (createKeyResponse_ofJson?_toJson hcreated)
  · exact durable_of_spelled (spelled_keyResponse r) (keyResponse_ofJson?_toJson hcreated hrevoked)

def earliestInstant : Instant := ⟨-8334601228800000000000, false, by decide, by decide⟩

def latestInstant : Instant := ⟨8210266876799999999999, false, by decide, by decide⟩

/-- A session with strange texts and from the first instant to the last. -/
def farSession : Session where
  id := "\"\\\n\x01é😀"
  userId := ""
  role := "/"
  csrfToken := "\x7f"
  createdAt := earliestInstant
  lastRefreshedAt := atSecond 10
  expiresAt := latestInstant

/-- A text that is not the one that is written: an array, blanks, short fields and an escape that is not
needed. -/
def foreignText : String := "[ \"1970-1-1 0:0:10z\", \"\\u0063\" ]"

theorem records_durable_far :
    Durable Session.toJson Session.ofJson? farSession ∧
      Durable KeyResponse.toJson KeyResponse.ofJson?
        ⟨"key_a", "é", .readWrite, "sk_", latestInstant, some earliestInstant⟩ ∧
      Durable CreateKeyResponse.toJson CreateKeyResponse.ofJson?
        ⟨"key_a", "", .read, "sk_", "sk", latestInstant⟩ ∧
      decoded? LoginResponse.ofJson? foreignText = some ⟨atSecond 10, "c"⟩ ∧
      ∃ again, rewritten? LoginResponse.toJson LoginResponse.ofJson? foreignText = some again ∧
        decoded? LoginResponse.ofJson? again = some ⟨atSecond 10, "c"⟩ ∧
        rewritten? LoginResponse.toJson LoginResponse.ofJson? again = some again := by
  obtain ⟨hsession, hlogin, hcreated, hkey⟩ := records_durable
  have hforeign : decoded? LoginResponse.ofJson? foreignText = some ⟨atSecond 10, "c"⟩ := by decide +kernel
  have hrevoked : ∀ t, some earliestInstant = some t → t.leap = false := by
    intro t ht
    cases ht
    rfl
  exact ⟨hsession farSession rfl rfl rfl, hkey _ rfl hrevoked, hcreated _ rfl, hforeign,
    (hlogin ⟨atSecond 10, "c"⟩ rfl).settled foreignText hforeign⟩

end Gatehouse.Proofs
