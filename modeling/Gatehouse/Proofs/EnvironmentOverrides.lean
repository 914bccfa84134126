import Gatehouse.Proofs.EnvironmentNames
import Gatehouse.Settings.Load

/-!
# What variables change

Variables are laid over the file one after the other. Each that names a setting replaces this setting by
what it says, and leaves its neighbours as the file has them, or as the defaults are. If they name different
settings, it does not matter in which order they come.
-/

namespace Gatehouse.Proofs
open Layered

variable {root root' : Value} {l : Leaf} {s s' s₁ s₂ : Settings} {file : Option String}
  {environment environment' : List (String × String)} {entries : List (String × Value)} {e : String × String}

/-- The text of a variable is read as a value of a setting. -/
def Converts (l : Leaf) (text : String) (a : l.Carrier) : Prop :=
  l.decoder (.scalar (some .environment) (scalarOfText text)) = .ok a

/-- Each of the program's variables names a setting, each another one, and can be read as this setting. -/
structure Legible (environment : List (String × String)) : Prop where
  named : ∀ e ∈ environment, Marked e.1 → ∃ l, Names e.1 l
  distinct : environment.Pairwise fun e e' => ∀ l, Names e.1 l → ¬ Names e'.1 l
  converted : ∀ e ∈ environment, ∀ l, Names e.1 l → ∃ a, Converts l e.2 a

/-- The second settings have what the variables say where they say something, and are the first elsewhere. -/
structure Overridden (environment : List (String × String)) (s s' : Settings) : Prop where
  named : ∀ l, ∀ e ∈ environment, Names e.1 l → Converts l e.2 (l.get s')
  unnamed : ∀ l, (∀ e ∈ environment, ¬ Names e.1 l) → l.get s' = l.get s
  redis : s'.redis = s.redis

/-- The sections of the file are tables, once all its keys have found their places. -/
def SectionsAreTables (file : Option String) : Prop :=
  ∀ entries root, Settings.fileEntries file = .ok entries →
    Value.emptyTable.overlay entries = some root → Tabular root

/-- The key of a document is no path into a table or an array. -/
def PlainKey (key : String) : Prop := ∀ path ∈ Path.ofChars? key.toList, path = ⟨key, []⟩

instance (key : String) : Decidable (PlainKey key) := inferInstanceAs (Decidable (∀ path ∈ _, path = _))

/-- The keys of a document are no paths, and its sections are tables. -/
def PlainSections (entries : List (String × Value)) : Prop :=
  ∀ e ∈ entries, PlainKey e.1 ∧ (Text.lower e.1 ∈ sections → e.2.isTable = true)

instance (entries : List (String × Value)) : Decidable (PlainSections entries) :=
  inferInstanceAs (Decidable (∀ e ∈ entries, PlainKey e.1 ∧ (Text.lower e.1 ∈ sections → e.2.isTable = true)))

lemma putKey_of_plainKey {key : String} (h : PlainKey key) (v : Value) :
    root.putKey key v = some (root.put key v) := by
  unfold Value.putKey
  cases hpath : Path.ofChars? key.toList with
  | none => rfl
  | some path =>
    obtain rfl := h path hpath
    rfl

lemma isTable_put (root : Value) (key : String) (v : Value) : (root.put key v).isTable = true := by
  cases v <;> exact isTable_set _ _ _

lemma isTable_putAll (hroot : root.isTable = true) (es : List (String × Value)) :
    (root.putAll es).isTable = true := by
  induction es generalizing root with
  | nil => exact hroot
  | cons e es ih => exact ih (isTable_put root e.1 e.2)

lemma tabular_put {key : String} {v : Value} (h : Tabular root)
    (hv : Text.lower key ∈ sections → v.isTable = true) : Tabular (root.put key v) := by
  cases v with
  | scalar o x => exact tabular_set h hv
  | array o items => exact tabular_set h hv
  | table o es =>
    refine tabular_set h fun hhome => isTable_putAll ?_ es
    cases hroot : root.get? (Text.lower key) with
    | none => rfl
    | some v => exact h _ hhome v hroot

/-- A document whose keys are no paths is laid out as it stands. -/
lemma sectionsAreTables_of_plainSections
    (h : ∀ entries, Settings.fileEntries file = .ok entries → PlainSections entries) :
    SectionsAreTables file := by
  intro entries root hentries hroot
  suffices hall : ∀ root₀, Tabular root₀ → root₀.overlay entries = some root → Tabular root from
    hall _ tabular_emptyTable hroot
  have hplain := h entries hentries
  clear hentries hroot
  induction entries with
  | nil => exact fun root₀ h₀ hroot => Option.some.inj hroot ▸ h₀
  | cons e entries ih =>
    intro root₀ h₀ hroot
    obtain ⟨hkey, htable⟩ := hplain e List.mem_cons_self
    rw [Value.overlay, List.foldlM_cons, putKey_of_plainKey hkey] at hroot
    exact ih (fun e' he' => hplain e' (List.mem_cons_of_mem e he')) _ (tabular_put h₀ htable) hroot

lemma Legible.tail (h : Legible (e :: environment)) : Legible environment where
  named := fun e' he' => h.named e' (List.mem_cons_of_mem e he')
  distinct := (List.pairwise_cons.1 h.distinct).2
  converted := fun e' he' => h.converted e' (List.mem_cons_of_mem e he')

lemma Legible.perm (h : Legible environment) (hperm : environment'.Perm environment) :
    Legible environment' where
  named := fun e he => h.named e (hperm.mem_iff.1 he)
  distinct := (hperm.pairwise_iff fun hne l h' h => hne l h h').2 h.distinct
  converted := fun e he => h.converted e (hperm.mem_iff.1 he)

lemma legible_cons_of_unmarked (hunmarked : ¬ Marked e.1) (h : Legible environment) :
    Legible (e :: environment) where
  named := List.forall_mem_cons.2 ⟨fun hmarked => absurd hmarked hunmarked, h.named⟩
  distinct := List.pairwise_cons.2 ⟨fun _ _ _ hnames => absurd (marked_of_names hnames) hunmarked, h.distinct⟩
  converted := List.forall_mem_cons.2 ⟨fun _ hnames => absurd (marked_of_names hnames) hunmarked, h.converted⟩

lemma legible_cons_of_names {a : l.Carrier} (hnames : Names e.1 l) (hconverts : Converts l e.2 a)
    (hnew : ∀ e' ∈ environment, ¬ Names e'.1 l) (h : Legible environment) : Legible (e :: environment) where
  named := List.forall_mem_cons.2 ⟨fun _ => ⟨l, hnames⟩, h.named⟩
  distinct :=
    List.pairwise_cons.2 ⟨fun e' he' l' hnames' => eq_of_names hnames hnames' ▸ hnew e' he', h.distinct⟩
  converted := by
    refine List.forall_mem_cons.2 ⟨fun l' hnames' => ?_, h.converted⟩
    obtain rfl := eq_of_names hnames hnames'
    exact ⟨a, hconverts⟩

lemma ofEnvironment_cons_of_unmarked (h : ¬ Marked e.1) :
    ofEnvironment (e :: environment) = ofEnvironment environment := by
  unfold ofEnvironment
  rw [List.filterMap_cons, keyOfVariable?_of_unmarked h]
  rfl

lemma ofEnvironment_cons_of_names (h : Names e.1 l) :
    ofEnvironment (e :: environment) =
      (leafKey l, .scalar (some .environment) (scalarOfText e.2)) :: ofEnvironment environment := by
  unfold ofEnvironment
  rw [List.filterMap_cons, keyOfVariable?_of_names h]
  rfl

lemma overridden_cons {a : l.Carrier} (hlegible : Legible (e :: environment)) (hnames : Names e.1 l)
    (hconverts : Converts l e.2 a) (h : Overridden environment (l.set a s) s') :
    Overridden (e :: environment) s s' := by
  have hothers : ∀ e' ∈ environment, ¬ Names e'.1 l := fun e' he' =>
    (List.pairwise_cons.1 hlegible.distinct).1 e' he' l hnames
  constructor
  · intro l' e' he' hnames'
    rcases List.mem_cons.1 he' with rfl | he'
    · obtain rfl := eq_of_names hnames hnames'
      rw [h.unnamed l hothers, Leaf.get_set]
      exact hconverts
    · exact h.named l' e' he' hnames'
  · intro l' hunnamed
    have hne : l' ≠ l := by
      rintro rfl
      exact hunnamed e List.mem_cons_self hnames
    rw [h.unnamed l' fun e' he' => hunnamed e' (List.mem_cons_of_mem e he'), Leaf.get_set_of_ne hne]
  · rw [h.redis, Leaf.redis_set]

lemma overridden_unmarked (hunmarked : ¬ Marked e.1) (h : Overridden environment s s') :
    Overridden (e :: environment) s s' := by
  constructor
  · intro l e' he' hnames
    rcases List.mem_cons.1 he' with rfl | he'
    · exact absurd (marked_of_names hnames) hunmarked
    · exact h.named l e' he' hnames
  · exact fun l hunnamed => h.unnamed l fun e' he' => hunnamed e' (List.mem_cons_of_mem e he')
  · exact h.redis

/-- The induction goes over the variables, in the order they come: each is put in its place, and the
sections stay tables. -/
lemma exists_overlay_environment (hroot : root.isTable = true) (h : Tabular root)
    (hs : Decoder.settings root = .ok s) (hlegible : Legible environment) :
    ∃ root' s', root.overlay (ofEnvironment environment) = some root' ∧ Decoder.settings root' = .ok s' ∧
      Overridden environment s s' := by
  induction environment generalizing root s with
  | nil => exact ⟨root, s, rfl, hs, fun _ _ he => absurd he List.not_mem_nil, fun _ _ => rfl, rfl⟩
  | cons e environment ih =>
    by_cases hmarked : Marked e.1
    · obtain ⟨l, hnames⟩ := hlegible.named e List.mem_cons_self hmarked
      obtain ⟨a, hconverts⟩ := hlegible.converted e List.mem_cons_self l hnames
      obtain ⟨root', s', hoverlay, hs', hoverridden⟩ := ih (isTable_placed root l _) (tabular_placed h l _)
        (settings_placed hroot h hs hconverts) hlegible.tail
      refine ⟨root', s', ?_, hs', overridden_cons hlegible hnames hconverts hoverridden⟩
      rw [ofEnvironment_cons_of_names hnames, Value.overlay, List.foldlM_cons, putKey_leafKey h]
      exact hoverlay
    · obtain ⟨root', s', hoverlay, hs', hoverridden⟩ := ih hroot h hs hlegible.tail
      refine ⟨root', s', ?_, hs', overridden_unmarked hmarked hoverridden⟩
      rw [ofEnvironment_cons_of_unmarked hmarked]
      exact hoverlay

lemma overridden_unique (hperm : environment'.Perm environment) (h : Overridden environment s s₁)
    (h' : Overridden environment' s s₂) : s₂ = s₁ := by
  refine Leaf.eq_of_leaves (fun l => ?_) (h'.redis.trans h.redis.symm)
  by_cases hnamed : ∃ e ∈ environment, Names e.1 l
  · obtain ⟨e, he, hnames⟩ := hnamed
    exact Except.ok.inj ((h'.named l e (hperm.mem_iff.2 he) hnames).symm.trans (h.named l e he hnames))
  · have hnone : ∀ e ∈ environment, ¬ Names e.1 l := fun e he hnames => hnamed ⟨e, he, hnames⟩
    rw [h.unnamed l hnone, h'.unnamed l fun e he => hnone e (hperm.mem_iff.1 he)]

lemma isTable_putKey {key : String} {v : Value} (h : root.putKey key v = some root') :
    root'.isTable = true := by
  unfold Value.putKey at h
  split at h
  · exact Option.some.inj h ▸ isTable_put root _ v
  · exact Option.some.inj h ▸ isTable_put root _ v
  · obtain ⟨inner, _, hset⟩ := Option.bind_eq_some_iff.1 h
    exact Option.some.inj hset ▸ isTable_set root _ inner

lemma isTable_overlay (hroot : root.isTable = true) (h : root.overlay entries = some root') :
    root'.isTable = true := by
  induction entries generalizing root with
  | nil => exact Option.some.inj h ▸ hroot
  | cons e entries ih =>
    obtain ⟨root₁, hput, hrest⟩ := Option.bind_eq_some_iff.1 h
    exact ih (isTable_putKey hput) hrest

lemma overlay_append (root : Value) (entries entries' : List (String × Value)) :
    root.overlay (entries ++ entries') = root.overlay entries >>= fun root' => root'.overlay entries' :=
  List.foldlM_append

lemma mapError_eq_ok_iff {α ε ε' : Type} {x : Except ε α} {f : ε → ε'} {a : α} :
    x.mapError f = .ok a ↔ x = .ok a := by
  cases x with
  | error e => exact iff_of_false (fun h => by cases h) fun h => by cases h
  | ok b =>
    exact ⟨fun h => congrArg Except.ok (Except.ok.inj h), fun h => congrArg Except.ok (Except.ok.inj h)⟩

lemma gather_eq_ok_iff :
    Settings.gather file environment = .ok s ↔
      ∃ entries root, Settings.fileEntries file = .ok entries ∧
        Value.emptyTable.overlay (entries ++ ofEnvironment environment) = some root ∧
        Decoder.settings root = .ok s := by
  unfold Settings.gather
  rw [bind_eq_ok_iff]
  refine exists_congr fun entries => ?_
  cases hoverlay : Value.emptyTable.overlay (entries ++ ofEnvironment environment) with
  | none =>
    refine iff_of_false (fun h => by cases h.2) ?_
    rintro ⟨root, _, h, _⟩
    cases h
  | some root =>
    constructor
    · exact fun h => ⟨root, h.1, rfl, mapError_eq_ok_iff.1 h.2⟩
    · rintro ⟨root', hentries, hroot, hs⟩
      cases hroot
      exact ⟨hentries, mapError_eq_ok_iff.2 hs⟩

lemma gather_of_load (h : Settings.load file environment = .ok s) :
    Settings.gather file environment = .ok s := by
  unfold Settings.load at h
  obtain ⟨s', hgather, hvalidate⟩ := bind_eq_ok_iff.1 h
  obtain ⟨_, _, hs⟩ := bind_eq_ok_iff.1 hvalidate
  exact Except.ok.inj hs ▸ hgather

/-- Variables over a file that loads by itself give settings, whether these pass the checks or not. -/
lemma exists_gather (hload : Settings.load file [] = .ok s) (htables : SectionsAreTables file)
    (hlegible : Legible environment) :
    ∃ s', Settings.gather file environment = .ok s' ∧ Overridden environment s s' := by
  obtain ⟨entries, root, hentries, hroot, hs⟩ := gather_eq_ok_iff.1 (gather_of_load hload)
  rw [show entries ++ ofEnvironment [] = entries from List.append_nil entries] at hroot
  obtain ⟨root', s', hoverlay, hs', hoverridden⟩ :=
    exists_overlay_environment (isTable_overlay rfl hroot) (htables entries root hentries hroot) hs hlegible
  refine ⟨s', gather_eq_ok_iff.2 ⟨entries, root', hentries, ?_, hs'⟩, hoverridden⟩
  rw [overlay_append, hroot]
  exact hoverlay

lemma load_of_gather (h : Settings.gather file environment = .ok s) :
    Settings.load file environment =
      match s.validate with
      | .ok () => .ok s
      | .error fault => .error (.invalid fault) := by
  unfold Settings.load
  rw [h]
  show (s.validate.mapError LoadError.invalid >>= fun _ => pure s) = _
  cases s.validate <;> rfl

/-- Over any file, variables without the mark never matter. If the file loads by itself and its sections are
tables, then variables that name different settings give these settings, leave all others as they were, and
do so in any order; the result is checked like any settings. -/
theorem variables_override_settings (file : Option String) :
    (∀ environment : List (String × String),
      Settings.load file (environment.filter fun e => Marked e.1) = Settings.load file environment) ∧
    ∀ s environment, Settings.load file [] = .ok s → SectionsAreTables file → Legible environment →
      ∃ s', Overridden environment s s' ∧
        ∀ environment', environment'.Perm environment →
          Settings.gather file environment' = .ok s' ∧
          Settings.load file environment' =
            match s'.validate with
            | .ok () => .ok s'
            | .error fault => .error (.invalid fault) := by
  constructor
  · intro environment
    unfold Settings.load Settings.gather
    rw [ofEnvironment_marked]
  · intro s environment hload htables hlegible
    obtain ⟨s', _, hoverridden⟩ := exists_gather hload htables hlegible
    refine ⟨s', hoverridden, fun environment' hperm => ?_⟩
    obtain ⟨s'', hgather, hoverridden'⟩ := exists_gather hload htables (hlegible.perm hperm)
    obtain rfl := overridden_unique hperm hoverridden hoverridden'
    exact ⟨hgather, load_of_gather hgather⟩

def shortLived : String := "[session]\nttl_secs = 7200\nrefresh_before_secs = 60\n"

def longerLived : List (String × String) :=
  [("HOME", "1"), ("SNIPLY__SESSION__TTL_SECS", "9000"), ("sniply__cookie__Domain", "ab.example")]

lemma eq_ok_of_toOption {ε α : Type} {x : Except ε α} {a : α} (h : x.toOption = some a) : x = .ok a := by
  cases x with
  | error e => cases h
  | ok b => exact congrArg Except.ok (Option.some.inj h)

lemma load_shortLived :
    Settings.load (some shortLived) [] = .ok { session := { ttlSecs := 7200, refreshBeforeSecs := 60 } } :=
  eq_ok_of_toOption (by decide +kernel)

lemma sectionsAreTables_shortLived : SectionsAreTables (some shortLived) := by
  have hplain : (Settings.fileEntries (some shortLived)).toOption.all
      (fun entries => PlainSections entries) = true := by
    decide +kernel
  refine sectionsAreTables_of_plainSections fun entries hentries => ?_
  rw [hentries] at hplain
  exact of_decide_eq_true hplain

lemma legible_longerLived : Legible longerLived := by
  have hdomain : Names "sniply__cookie__Domain" .cookieDomain := by unfold Names; decide +kernel
  have httl : Names "SNIPLY__SESSION__TTL_SECS" .ttlSecs := by unfold Names; decide +kernel
  have hdomainConverts : Converts .cookieDomain "ab.example" (some "ab.example") :=
    eq_ok_of_toOption (by decide +kernel)
  have httlConverts : Converts .ttlSecs "9000" 9000 := eq_ok_of_toOption (by decide +kernel)
  have hnil : Legible [] := ⟨fun _ h => absurd h List.not_mem_nil, .nil, fun _ h => absurd h List.not_mem_nil⟩
  refine legible_cons_of_unmarked (by decide +kernel) (legible_cons_of_names httl httlConverts ?_
    (legible_cons_of_names hdomain hdomainConverts (fun _ h => absurd h List.not_mem_nil) hnil))
  intro e he hnames
  obtain rfl := List.mem_singleton.1 he
  exact absurd (eq_of_names hdomain hnames) (by decide)

theorem variables_override_settings_neighbours :
    Settings.load (some shortLived) [] = .ok { session := { ttlSecs := 7200, refreshBeforeSecs := 60 } } ∧
    SectionsAreTables (some shortLived) ∧ Legible longerLived ∧
    ∃ s', Overridden longerLived { session := { ttlSecs := 7200, refreshBeforeSecs := 60 } } s' ∧
      ∀ environment', environment'.Perm longerLived →
        Settings.gather (some shortLived) environment' = .ok s' ∧
        Settings.load (some shortLived) environment' =
          match s'.validate with
          | .ok () => .ok s'
          | .error fault => .error (.invalid fault) :=
  ⟨load_shortLived, sectionsAreTables_shortLived, legible_longerLived,
    (variables_override_settings (some shortLived)).2 _ longerLived load_shortLived
      sectionsAreTables_shortLived legible_longerLived⟩

example : (Settings.load (some shortLived) longerLived).toOption =
    some
      { session := { ttlSecs := 9000, refreshBeforeSecs := 60 }
        cookie := { domain := some "ab.example" } } := by
  decide +kernel

end Gatehouse.Proofs
