import Gatehouse.Proofs.DrawnTokens
import Gatehouse.Proofs.KeyInterleaving
import Gatehouse.Proofs.RequestCookies
import Gatehouse.Proofs.TimestampReading
import Gatehouse.Rehearsal.Mention
import Gatehouse.Rehearsal.Stage
import Gatehouse.Web.Probe

/-!
# Rehearsals

A stage on which nothing is made to go wrong is its world, and its journal holds the calls that are
observed; from them it can be told which tokens were drawn, and so what their mentions stand for. Whatever
is made to go wrong, a stage changes only as the calls of a world do. A route that tells who is asking tells
what the service made of the credentials.
-/

namespace Gatehouse.Proofs
open Text

variable {α : Type} {w : World} {s : Stage} {tokens : List String} {cs rest : List Char} {n : Nat}

/-- The journal once a call has been put to a stage. -/
def journalAfter (s : Stage) (c : Call) : List Call := if s.isObserved c then c :: s.journal else s.journal

lemma stage_answer (s : Stage) (c : Call) :
    Stage.answer c s =
      match s.sabotage? c with
      | some r => (some r, { s with journal := journalAfter s c })
      | none => ((World.answer c s.world).1,
          { s with world := (World.answer c s.world).2, journal := journalAfter s c }) := by
  -- what is made to go wrong is the same once the call is written down
  have hnoted : Stage.sabotage? { s with journal := c :: s.journal } c = s.sabotage? c := by
    cases c <;> rfl
  cases hobserved : s.isObserved c <;> cases hsabotage : s.sabotage? c <;>
    simp [Stage.answer, Stage.noted, journalAfter, hobserved, hsabotage, hnoted]

/-- The calls of a procedure that are written down when it is performed on a stage. -/
def journalOf (w : World) (p : Procedure α) : List Call :=
  ((callsOf w p).filter fun x => Stage.isObserved { world := x.2 } x.1).map Prod.fst

lemma journalOf_call (w : World) (c : Call) (next : c.Answer → Procedure α) :
    journalOf w (.call c next) =
      (if Stage.isObserved { world := w } c then [c] else []) ++
        match World.answer c w with
        | (some answer, w') => journalOf w' (next answer)
        | (none, _) => [] := by
  unfold journalOf
  rw [callsOf_call, List.filter_cons]
  cases Stage.isObserved { world := w } c <;> rcases World.answer c w with ⟨_ | answer, w'⟩ <;> rfl

lemma sabotage?_of_no_mishaps (h : s.mishaps = []) (c : Call) : s.sabotage? c = none := by
  cases c <;> simp [Stage.sabotage?, h]

/-- Where nothing is made to go wrong, a procedure ends as in the world, and its calls are in the journal. -/
theorem stage_perform (h : s.mishaps = []) (p : Procedure α) :
    s.perform p = ((s.world.perform p).1,
      { s with world := (s.world.perform p).2, journal := (journalOf s.world p).reverse ++ s.journal }) := by
  induction p generalizing s with
  | done a => rfl
  | breakdown => rfl
  | call c next ih =>
    have hanswer := stage_answer s c
    rw [sabotage?_of_no_mishaps h] at hanswer
    have hobserved : Stage.isObserved { world := s.world } c = s.isObserved c := by cases c <;> rfl
    unfold Stage.perform World.perform Procedure.run
    rw [hanswer, journalOf_call, hobserved]
    unfold journalAfter
    cases hcall : World.answer c s.world with
    | mk answer w' =>
      cases answer with
      | none => cases s.isObserved c <;> rfl
      | some answer =>
        refine (ih answer (s := { s with world := w', journal := journalAfter s c }) h).trans ?_
        unfold journalAfter
        cases s.isObserved c <;> simp [World.perform]

/-- Whatever is made to go wrong, what every call of a world keeps is kept on a stage. -/
theorem stage_keeps {I : World → Prop} (hkeeps : ∀ c w, I w → I (World.answer c w).2) (p : Procedure α)
    (hs : I s.world) : I (s.perform p).2.world := by
  refine Procedure.run_keeps (I := fun t : Stage => I t.world) (fun c t h => ?_) p hs
  rw [stage_answer]
  cases t.sabotage? c with
  | some r => exact h
  | none => exact hkeeps c t.world h

/-- No store that fails at any call leaves an index of keys behind that does not fit the keys. -/
theorem stage_indexed (p : Procedure α) (h : Indexed s.world.keys) :
    Indexed (s.perform p).2.world.keys :=
  stage_keeps (I := fun w => Indexed w.keys) (fun c _ hw => indexed_answer hw c) p h

lemma mishaps_answer (c : Call) (s : Stage) : (Stage.answer c s).2.mishaps = s.mishaps := by
  rw [stage_answer]
  cases s.sabotage? c <;> rfl

lemma keys_stageAnswer (hinsert : .insertKey ∈ s.mishaps)
    (hrevoke : .revokeKey ∈ s.mishaps ∨ .keyVanishes ∈ s.mishaps) (c : Call) :
    (Stage.answer c s).2.world.keys = s.world.keys := by
  rw [stage_answer]
  cases hsabotage : s.sabotage? c with
  | some r => rfl
  | none =>
    refine keys_unless (fun k hc => ?_) (fun id moment hc => ?_) s.world
    · subst hc
      simp [Stage.sabotage?, hinsert] at hsabotage
    · subst hc
      unfold Stage.sabotage? at hsabotage
      rcases hrevoke with hrevoke | hrevoke
      · simp [hrevoke] at hsabotage
      · by_cases hboth : .revokeKey ∈ s.mishaps <;> simp [hrevoke, hboth] at hsabotage

/-- Keys whose writes are made to fail stay as they are. -/
theorem stage_keys (hinsert : .insertKey ∈ s.mishaps)
    (hrevoke : .revokeKey ∈ s.mishaps ∨ .keyVanishes ∈ s.mishaps) (p : Procedure α) :
    (s.perform p).2.world.keys = s.world.keys := by
  have hkept : (s.perform p).2.mishaps = s.mishaps ∧ (s.perform p).2.world.keys = s.world.keys := by
    refine Procedure.run_keeps (I := fun t : Stage => t.mishaps = s.mishaps ∧ t.world.keys = s.world.keys)
      (fun c t ht => ?_) p ⟨rfl, rfl⟩
    obtain ⟨hmishaps, hkeys⟩ := ht
    rw [← hmishaps] at hinsert hrevoke
    exact ⟨(mishaps_answer c t).trans hmishaps, (keys_stageAnswer hinsert hrevoke c).trans hkeys⟩
  exact hkept.2

lemma tokensOf_generate (source : TokenSource) (bytes : Nat) (calls : List Call) :
    tokensOf source (.generate bytes :: calls) =
      (source.next bytes).1 :: tokensOf (source.next bytes).2 calls := by
  unfold tokensOf tokenLengths TokenSource.next
  simp [List.zipIdx_succ, Nat.add_assoc, Nat.add_comm 1]

lemma tokensOf_other {c : Call} (hother : ∀ bytes, c ≠ .generate bytes) (source : TokenSource)
    (calls : List Call) :
    tokensOf source (c :: calls) = tokensOf source calls := by
  cases c with
  | generate bytes => exact absurd rfl (hother bytes)
  | _ => rfl

lemma drawn?_other {c : Call} (hother : ∀ bytes, c ≠ .generate bytes) (w : World) : drawn? (c, w) = none := by
  cases c with
  | generate bytes => exact absurd rfl (hother bytes)
  | _ => rfl

lemma tokens_other {c : Call} (hother : ∀ bytes, c ≠ .generate bytes) (w : World) :
    (World.answer c w).2.tokens = w.tokens := by
  have hleaves := answer_leaves c w
  generalize (World.answer c w).2 = w' at hleaves ⊢
  cases hleaves with
  | generated bytes tokens => exact absurd rfl (hother bytes)
  | _ => rfl

/-- The tokens that can be told from the journal of a procedure are those that it draws. -/
theorem tokensOf_journalOf (w : World) (p : Procedure α) :
    tokensOf w.tokens (journalOf w p) = drawnBy w p := by
  induction p generalizing w with
  | done a => rfl
  | breakdown => rfl
  | call c next ih =>
    unfold drawnBy
    rw [journalOf_call, callsOf_call]
    by_cases hgenerate : ∃ bytes, c = .generate bytes
    · obtain ⟨bytes, rfl⟩ := hgenerate
      exact (tokensOf_generate _ _ _).trans (congrArg _ (ih _ { w with tokens := (w.tokens.next bytes).2 }))
    have hother : ∀ bytes, c ≠ .generate bytes := fun bytes hc => hgenerate ⟨bytes, hc⟩
    have hskip :
        ∀ calls, tokensOf w.tokens ((if Stage.isObserved { world := w } c then [c] else []) ++ calls) =
        tokensOf w.tokens calls := fun calls => by
      cases Stage.isObserved { world := w } c with
      | false => rfl
      | true => exact tokensOf_other hother w.tokens calls
    have htokens := tokens_other hother w
    rw [hskip, List.filterMap_cons, drawn?_other hother]
    cases hcall : World.answer c w with
    | mk answer w' =>
      rw [hcall] at htokens
      cases answer with
      | none => rfl
      | some answer =>
        rw [← htokens]
        exact ih answer w'

lemma mention?_eq_some_iff : mention? cs = some (n, rest) ↔ cs = 'g' :: (decimal n ++ '\x7d' :: rest) := by
  constructor
  · intro h
    unfold mention? at h
    split at h
    · rename_i cs
      obtain ⟨m, _, h⟩ := Option.bind_eq_some_iff.1 h
      split at h
      · rename_i hrest
        split at h
        · rename_i hdecimal
          cases h
          have htake := List.prefix_iff_eq_take.1 (List.takeWhile_prefix isDigit (l := cs))
          rw [hdecimal, ← hrest]
          nth_rewrite 1 [htake]
          rw [List.take_append_drop]
        · cases h
      · cases h
    · cases h
  · rintro rfl
    have hdigits : (decimal n ++ '\x7d' :: rest).takeWhile isDigit = decimal n :=
      takeWhile_digits (fun _ => isDigit_of_mem_decimal) rfl
    unfold mention?
    simp only [hdigits, digits?_decimal, List.drop_left]
    exact if_pos rfl

lemma length_of_mention? (h : mention? cs = some (n, rest)) : rest.length < cs.length := by
  rw [mention?_eq_some_iff.1 h]
  simp only [List.length_cons, List.length_append]
  omega

/-- Beyond the length of the text the fuel does not matter. -/
lemma fillInFrom_eq {fuel fuel' : Nat} (h : cs.length ≤ fuel) (h' : cs.length ≤ fuel') :
    fillInFrom tokens fuel cs = fillInFrom tokens fuel' cs := by
  induction fuel generalizing cs fuel' with
  | zero =>
    obtain rfl := List.length_eq_zero_iff.1 (Nat.le_zero.1 h)
    cases fuel' <;> rfl
  | succ fuel ih =>
    cases cs with
    | nil => cases fuel' <;> rfl
    | cons c cs =>
      obtain ⟨fuel', rfl⟩ := Nat.exists_eq_add_of_lt (Nat.lt_of_lt_of_le (Nat.succ_pos _) h')
      simp only [List.length_cons] at h h'
      have htail : fillInFrom tokens fuel cs = fillInFrom tokens (0 + fuel') cs := ih (by omega) (by omega)
      simp only [fillInFrom, htail]
      cases hmention : mention? cs with
      | none => rfl
      | some found =>
        obtain ⟨n, rest⟩ := found
        have hshorter := length_of_mention? hmention
        have hrest : fillInFrom tokens fuel rest = fillInFrom tokens (0 + fuel') rest :=
          ih (by omega) (by omega)
        simp only [hrest]

lemma fillIn_cons (tokens : List String) (c : Char) (cs : List Char) :
    fillIn tokens (c :: cs) =
      match if c = '\x7b' then (mention? cs).bind fun m => tokens[m.1]?.map fun t => (t, m.2) else none with
      | some (t, rest) => t.toList ++ fillIn tokens rest
      | none => c :: fillIn tokens cs := by
  unfold fillIn
  simp only [List.length_cons, fillInFrom]
  by_cases hc : c = '\x7b'
  · simp only [if_pos hc]
    cases hmention : mention? cs with
    | none => rfl
    | some found =>
      obtain ⟨n, rest⟩ := found
      have hrest : fillInFrom tokens cs.length rest = fillInFrom tokens rest.length rest :=
        fillInFrom_eq (length_of_mention? hmention).le (le_refl rest.length)
      cases htoken : tokens[n]? with
      | none => simp [htoken]
      | some t => simp [htoken, hrest]
  · simp only [if_neg hc]

/-- A mention of a token that has come up gives way to the token. -/
theorem fillIn_mention {t : String} (ht : tokens[n]? = some t) (cs : List Char) :
    fillIn tokens ('\x7b' :: 'g' :: (decimal n ++ '\x7d' :: cs)) = t.toList ++ fillIn tokens cs := by
  rw [fillIn_cons, if_pos rfl, mention?_eq_some_iff.2 rfl, Option.bind_some, ht]
  rfl

/-- A text in which no token is mentioned that has come up stays as it is. -/
theorem fillIn_unmentioned (h : ∀ n < tokens.length, ¬ ('\x7b' :: 'g' :: (decimal n ++ ['\x7d'])) <:+: cs) :
    fillIn tokens cs = cs := by
  induction cs with
  | nil => rfl
  | cons c cs ih =>
    have htail : fillIn tokens cs = cs :=
      ih fun n hn hin => h n hn (hin.trans (List.suffix_cons c cs).isInfix)
    rw [fillIn_cons]
    split
    · rename_i t rest hfound
      exfalso
      split at hfound
      · rename_i hc
        obtain ⟨⟨n, behind⟩, hmention, hfound⟩ := Option.bind_eq_some_iff.1 hfound
        obtain ⟨u, hu, hfound⟩ := Option.map_eq_some_iff.1 hfound
        cases hfound
        refine h n (List.getElem?_eq_some_iff.1 hu).1 ⟨[], behind, ?_⟩
        rw [hc, mention?_eq_some_iff.1 hmention]
        simp
      · cases hfound
    · rw [htail]

/-- What stands before the first brace is not touched. -/
lemma fillIn_append {front : List Char} (h : '\x7b' ∉ front) (cs : List Char) :
    fillIn tokens (front ++ cs) = front ++ fillIn tokens cs := by
  induction front with
  | nil => rfl
  | cons c front ih =>
    have hc : c ≠ '\x7b' := fun hc => h (hc ▸ List.mem_cons_self)
    rw [List.cons_append, fillIn_cons, if_neg hc, ih fun hin => h (List.mem_cons_of_mem c hin)]
    rfl

lemma fillInMembers_eq_map (tokens : List String) (members : List (Option (List Char) × Json)) :
    fillInMembers tokens members = members.map fun m => (m.1, fillInJson tokens m.2) := by
  induction members with
  | nil => rfl
  | cons m members ih => rw [fillInMembers, ih, List.map_cons]

/-- What is mentioned in an object is filled in member by member, and the names are not touched. -/
theorem memberNamed_fillInMembers (tokens : List String) (members : List (Option (List Char) × Json))
    (name : String) :
    Json.memberNamed (fillInMembers tokens members) name =
      (Json.memberNamed members name).map (fillInJson tokens) := by
  unfold Json.memberNamed
  rw [fillInMembers_eq_map, List.find?_map, Option.map_map, Option.map_map]
  rfl

/-- After an undisturbed performance, a mention stands for the token of its number among those drawn. -/
theorem fillIn_performed {t : String} {p : Procedure α} (hmishaps : s.mishaps = [])
    (hjournal : s.journal = []) (ht : (drawnBy s.world p)[n]? = some t) {front : List Char}
    (hfront : '\x7b' ∉ front) (cs : List Char) :
    let drawn := tokensOf s.world.tokens (s.perform p).2.takeJournal.1
    fillIn drawn (front ++ '\x7b' :: 'g' :: (decimal n ++ '\x7d' :: cs)) =
      front ++ (t.toList ++ fillIn drawn cs) := by
  have hcalls : (s.perform p).2.takeJournal.1 = journalOf s.world p := by
    rw [stage_perform hmishaps]
    simp [Stage.takeJournal, hjournal]
  intro drawn
  have hdrawn : drawn[n]? = some t := by
    simp only [drawn, hcalls, tokensOf_journalOf]
    exact ht
  rw [fillIn_append hfront, fillIn_mention hdrawn]

/-- The response of a probe behind the guard, and the world that it leaves. -/
def probed (site : Site) : Option (Except AuthError Authentication) × World → Option Http.Response × World
  | (none, w) => (none, w)
  | (some (.error e), w) => (e.response?.map (Site.finish false), w)
  | (some (.ok auth), w) =>
    (some (Site.finish false
      (withCookie site w.now auth.refreshedSession (Http.Response.json 200 auth.toJson))), w)

lemma perform_guardedProbe (site : Site) (w : World) (req : Http.Request) (options : AuthOptions) :
    w.perform (site.probe req (.guarded options)) =
      probed site (w.perform (site.service.authenticate
        (Credential.ofHeaders req.headers site.cookie options) req.method).run) := by
  unfold Site.probe
  rw [perform_then, perform_guard]
  generalize w.perform (Service.authenticate _ _ _).run = entry
  obtain ⟨entered, w'⟩ := entry
  cases entered with
  | none => rfl
  | some entered =>
    cases entered with
    | ok auth => rfl
    | error e =>
      simp only [probed]
      cases e.response? <;> rfl

/-- A probe behind the guard tells who the service knows the caller to be, and if the service does not know
the caller, it answers without success. It changes what the service changes. -/
theorem guardedProbe_exact (site : Site) (w : World) (req : Http.Request) (options : AuthOptions) :
    let entry := w.perform (site.service.authenticate
      (Credential.ofHeaders req.headers site.cookie options) req.method).run
    let answer := w.perform (site.probe req (.guarded options))
    (∀ auth, entry.1 = some (.ok auth) →
      ∃ r, answer.1 = some r ∧ r.status = 200 ∧ r.body = auth.toJson.compact) ∧
    ((∀ auth, entry.1 ≠ some (.ok auth)) → ∀ r, answer.1 = some r → r.status ≠ 200) ∧
    answer.2 = entry.2 := by
  intro entry answer
  have hanswer : answer = probed site entry := perform_guardedProbe site w req options
  rw [hanswer]
  clear_value entry
  obtain ⟨entered, w'⟩ := entry
  cases entered with
  | none => exact ⟨fun auth h => (nomatch h), fun _ r h => (nomatch h), rfl⟩
  | some entered =>
    cases entered with
    | ok auth =>
      refine ⟨fun known h => ?_, fun hnobody => absurd rfl (hnobody auth), rfl⟩
      cases h
      refine ⟨_, rfl, ?_⟩
      unfold withCookie
      split <;> exact ⟨rfl, rfl⟩
    | error e =>
      refine ⟨fun auth h => (nomatch h), fun _ r h => ?_, rfl⟩
      obtain ⟨refusal, hrefusal, rfl⟩ := Option.map_eq_some_iff.1 h
      rw [status_finish]
      exact (refusal_spec hrefusal).2

/-- A probe outside the guard knows nobody, whatever the credentials, and changes nothing. -/
theorem bareProbe_knows_nobody (site : Site) (w : World) (req : Http.Request) :
    (∀ r, (w.perform (site.probe req .bare)).1 = some r → r.status ≠ 200) ∧
      (w.perform (site.probe req .bare)).2 = w := by
  have hprobe : w.perform (site.probe req .bare) =
      ((if req.method = .get ∨ req.method = .head then
          AuthError.notAuthenticated.response?.map (Site.finish (req.method = .head))
        else some (Site.finish false (Http.Response.methodNotAllowed "GET,HEAD"))), w) := by
    unfold Site.probe
    dsimp only
    split <;> rfl
  rw [hprobe]
  refine ⟨fun r h => ?_, rfl⟩
  dsimp only at h
  split at h
  · obtain ⟨refusal, hrefusal, rfl⟩ := Option.map_eq_some_iff.1 h
    rw [status_finish]
    exact (refusal_spec hrefusal).2
  · cases h
    decide

/-- The probes stand in the way of no route. -/
theorem handleWithProbes_endpoint {site : Site} {req : Http.Request} {endpoint : Endpoint}
    (h : Endpoint.ofPath? req.path = some endpoint) : site.handleWithProbes req = site.handle req := by
  have hnone : Probe.ofPath? req.path = none := by
    unfold Probe.ofPath?
    split_ifs with hboth hsession hkey hneither hbare
    · rw [hboth] at h; cases h
    · rw [hsession] at h; cases h
    · rw [hkey] at h; cases h
    · rw [hneither] at h; cases h
    · rw [hbare] at h; cases h
    · rfl
  unfold Site.handleWithProbes
  rw [hnone]

end Gatehouse.Proofs
