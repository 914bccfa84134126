import Gatehouse.Proofs.CallKinds
import Gatehouse.Proofs.WorldRun

/-!
# Runs of a site

A run is any sequence of requests to a site, each at a clock reading of its own, with purges of the sessions
and of the limiter in between. Of every request the response is told, and the calls that it came down to.
-/

namespace Gatehouse.Proofs
open Service

inductive SiteStep where
  | request (req : Http.Request)
  | purgeSessions
  | purgeLimiter

structure SiteAnswer where
  response : Option Http.Response
  calls : List (Call × World)

abbrev SiteEvent := Event SiteStep SiteAnswer

def takeSiteStep (site : Site) (w : World) : SiteStep → SiteAnswer × World
  | .request req =>
    (⟨(w.perform (site.handle req)).1, callsOf w (site.handle req)⟩, (w.perform (site.handle req)).2)
  | .purgeSessions => (⟨none, []⟩, w.purgeSessions.2)
  | .purgeLimiter => (⟨none, []⟩, w.purgeLimiter.2)

def siteRun (site : Site) : World → List (Instant × SiteStep) → World × List SiteEvent :=
  worldRun (takeSiteStep site)

lemma siteRun_cons (site : Site) (w : World) (t : Instant) (step : SiteStep)
    (earlier : List (Instant × SiteStep)) :
    siteRun site w ((t, step) :: earlier) =
      ((takeSiteStep site { (siteRun site w earlier).1 with now := t } step).2,
        ⟨t, step, (takeSiteStep site { (siteRun site w earlier).1 with now := t } step).1⟩ ::
          (siteRun site w earlier).2) := rfl

section
variable {γ : Type} {f : World → γ}

/-- What no call and no purge changes, no step changes either. -/
lemma takeSiteStep_fixes (hanswer : ∀ c w, f (World.answer c w).2 = f w)
    (hsessions : ∀ w, f (World.purgeSessions w).2 = f w)
    (hlimiter : ∀ w, f (World.purgeLimiter w).2 = f w) (site : Site) (w : World) (step : SiteStep) :
    f (takeSiteStep site w step).2 = f w := by
  cases step with
  | request req => exact only_keeps (fun c w _ => hanswer c w) (only_any (site.handle req)) w
  | purgeSessions => exact hsessions w
  | purgeLimiter => exact hlimiter w

lemma siteRun_fixes (hnow : ∀ (w : World) t, f { w with now := t } = f w)
    (hanswer : ∀ c w, f (World.answer c w).2 = f w) (hsessions : ∀ w, f (World.purgeSessions w).2 = f w)
    (hlimiter : ∀ w, f (World.purgeLimiter w).2 = f w) (site : Site) (w : World)
    (steps : List (Instant × SiteStep)) : f (siteRun site w steps).1 = f w := by
  induction steps with
  | nil => rfl
  | cons last earlier ih =>
    obtain ⟨t, step⟩ := last
    rw [siteRun_cons]
    exact (takeSiteStep_fixes hanswer hsessions hlimiter site _ step).trans ((hnow _ t).trans ih)

end

/-- The email address that the body of a request tells, in normal form. -/
def sentEmail? (req : Http.Request) : Option String :=
  ((Json.ofBytes? req.body).bind LoginRequest.ofJson?).map fun m => normalEmail m.email

def isLookup : Call → Bool
  | .findUser _ => true
  | _ => false

def isAllowed : Option (Except StoreFault Decision) → Bool
  | some (.ok d) => d.allowed
  | _ => false

/-- An attempt on a key that the limiter allows. -/
def grants (key : String) : Call × World → Bool
  | (.attempt key', w) => key' = key && isAllowed (w.attempt key').1
  | _ => false

/-- No user is looked up before attempts on certain keys have been granted. -/
def Charged {α : Type} (keys : List String) (w : World) (p : Procedure α) : Prop :=
  ∀ x ∈ callsOf w p, isLookup x.1 = true → ∀ key ∈ keys, ∃ y ∈ callsOf w p, grants key y = true

variable {α β : Type} {w : World} {key : String} {keys : List String}

lemma charged_of_only {P : Call → Prop} {p : Procedure α} (h : Only P p)
    (hP : ∀ c, P c → isLookup c = false) :
    Charged keys w p := by
  intro x hx hlookup
  rw [hP x.1 (only_callsOf h w x hx)] at hlookup
  cases hlookup

lemma charged_done (a : α) : Charged keys w (.done a) := fun _ hx => absurd hx List.not_mem_nil

lemma charged_then {P : Call → Prop} {p : Procedure α} {f : α → Procedure β} (h : Charged keys w p)
    (hf : ∀ a, Only P (f a)) (hP : ∀ c, P c → isLookup c = false) : Charged keys w (p >>= f) := by
  intro x hx hlookup key hkey
  rcases mem_callsOf_then.1 hx with hx | ⟨a, w', _, hx⟩
  · obtain ⟨y, hy, hgrants⟩ := h x hx hlookup key hkey
    exact ⟨y, mem_callsOf_then.2 (Or.inl hy), hgrants⟩
  · rw [hP x.1 (only_callsOf (hf a) w' x hx)] at hlookup
    cases hlookup

lemma charged_bind {ε : Type} {P : Call → Prop} {p : Attempt ε α} {f : α → Attempt ε β}
    (h : Charged keys w p.run) (hf : ∀ a, Only P (f a).run) (hP : ∀ c, P c → isLookup c = false) :
    Charged keys w (p >>= f).run := by
  refine charged_then h (fun r => ?_) hP
  cases r with
  | ok a => exact hf a
  | error e => exact .done _

lemma charge_ok {w' : World} (h : w.perform (charge key).run = (some (.ok ()), w')) :
    grants key (.attempt key, w) = true := by
  unfold charge at h
  simp only [perform_bind, perform_ask, World.answer, perform_orTell] at h
  show (decide (key = key) && isAllowed (w.attempt key).1) = true
  rw [decide_eq_true rfl, Bool.true_and]
  cases hdecision : (w.attempt key).1 with
  | none =>
    rw [hdecision] at h
    cases h
  | some decision =>
    rw [hdecision] at h
    cases decision with
    | error e => cases h
    | ok d =>
      simp only [Option.map_some, mapError_ok] at h
      show d.allowed = true
      cases hallowed : d.allowed with
      | true => rfl
      | false =>
        rw [hallowed] at h
        cases h

lemma charged_charge {f : Unit → Attempt AuthError α} (hf : ∀ w, Charged keys w (f ()).run) :
    Charged (key :: keys) w (charge key >>= f).run := by
  intro x hx hlookup key' hkey'
  rcases mem_callsOf_bind.1 hx with hx | ⟨⟨⟩, w', hrun, hx⟩
  · have hcall := only_callsOf (only_charge (P := fun c => c = .attempt key) rfl) w x hx
    rw [hcall] at hlookup
    cases hlookup
  · rcases List.mem_cons.1 hkey' with rfl | hkey'
    · refine ⟨(.attempt key', w), mem_callsOf_bind.2 (Or.inl ?_), charge_ok hrun⟩
      show (Call.attempt key', w) ∈ callsOf w (.call (.attempt key') _)
      rw [callsOf_call]
      exact List.mem_cons_self
    · obtain ⟨y, hy, hgrants⟩ := hf w' x hx hlookup key' hkey'
      exact ⟨y, mem_callsOf_bind.2 (Or.inr ⟨(), w', hrun, hy⟩), hgrants⟩

lemma charged_nothing (w : World) (p : Procedure α) : Charged [] w p :=
  fun _ _ _ _ hkey => absurd hkey List.not_mem_nil

lemma charged_login (sv : Service) (w : World) (email password : String) (ip : Option String) :
    Charged ((addressKey? ip).toList ++ [emailKey (normalEmail email)]) w
      (sv.login email password ip).run := by
  unfold Service.login
  dsimp only
  split
  · exact charged_done _
  split
  · exact charged_done _
  cases addressKey? ip with
  | none => exact charged_charge fun w => charged_nothing w _
  | some key => exact charged_charge fun w => charged_charge fun w => charged_nothing w _

lemma isLookup_of_ofSessions (c : Call) (h : OfSessions c) : isLookup c = false := by
  cases c with
  | findUser email => exact h.elim
  | _ => rfl

lemma isLookup_of_ofKeys (c : Call) (h : OfKeys c) : isLookup c = false := by
  cases c with
  | findUser email => exact h.elim
  | _ => rfl

/-- The keys that a request is charged on if it is a login: the one of its address, and the one of the email
address that it tells. -/
def chargedKeys (trustProxy : Bool) (req : Http.Request) : List String :=
  (addressKey? (clientAddress? trustProxy req)).toList ++ (sentEmail? req).toList.map emailKey

lemma charged_respond {p : Attempt AuthError Http.Response} (h : Charged keys w p.run) :
    Charged keys w (respond p) := by
  refine charged_then h (P := fun _ => False) (fun r => ?_) fun _ h => h.elim
  exact only_respond (p := ExceptT.mk (.done r)) (.done r)

lemma charged_loginRequest (site : Site) (w : World) (req : Http.Request) :
    Charged (chargedKeys site.trustProxy req) w (site.login req) := by
  unfold Site.login chargedKeys sentEmail?
  refine charged_respond ?_
  split
  · exact charged_done _
  unfold readMessage
  cases (Json.ofBytes? req.body).bind LoginRequest.ofJson? with
  | none => exact charged_done _
  | some payload =>
    simp only [pure_bind]
    refine charged_bind (charged_login _ _ _ _ _) (fun outcome => ?_) isLookup_of_ofSessions
    refine only_bind (only_ask trivial) fun now => ?_
    split <;> exact .done _

lemma charged_handle (site : Site) (w : World) (req : Http.Request) :
    Charged (chargedKeys site.trustProxy req) w (site.handle req) := by
  unfold Site.handle
  cases Endpoint.ofPath? req.path with
  | none => exact charged_done _
  | some endpoint =>
    refine charged_then ?_ (P := fun _ => False) (fun r => .done _) fun _ h => h.elim
    by_cases hlogin : endpoint = .login
    · rw [hlogin]
      simp only [Site.dispatch]
      split
      · exact charged_loginRequest site w req
      · exact charged_done _
    · exact charged_of_only (only_dispatch isLookup_of_ofSessions isLookup_of_ofKeys site req hlogin)
        fun _ h => h

end Gatehouse.Proofs
