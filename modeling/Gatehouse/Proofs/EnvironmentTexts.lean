import Gatehouse.Proofs.EnvironmentOverrides
import Gatehouse.Proofs.EnvironmentScalars
import Gatehouse.Proofs.SettingsChecks
import Gatehouse.Proofs.WrittenFiles

/-!
# What a variable makes of a text or a number

The text of a variable is taken for a truth value or a number where it reads as one, and written out again
where a text is wanted. So a text setting gets the very text of its variable exactly if this text is none of
these or is the one that they are written as. A number setting gets its number exactly up to 2 ^ 63, and
beyond that if it is one that binary floating point holds. A file has no such detour: its texts and numbers
arrive as they are.
-/

namespace Gatehouse.Proofs
open Layered Text

variable {l : Leaf} {v : String} {n : UInt64} {name file : String} {s : Settings} {x : Scalar}

/-- The settings that hold a text, with how they hold it. -/
def textLeaf? : (l : Leaf) → Option (String → l.Carrier)
  | .sessionKeyPrefix | .cookieName | .cookiePath | .limitKeyPrefix => some id
  | .cookieDomain => some some
  | _ => none

/-- The settings that hold a number, with how they hold it. -/
def numberLeaf? : (l : Leaf) → Option (UInt64 → l.Carrier)
  | .ttlSecs | .maxAgeSecs | .refreshBeforeSecs | .idBytes | .csrfBytes | .limit | .windowSecs => some id
  | _ => none

variable {ofText : String → l.Carrier} {ofNumber : UInt64 → l.Carrier}

/-- There are files that hold a value in the place of a setting and nothing else, and all of them give these
settings. -/
def FileGives (l : Leaf) (x : Scalar) (s : Settings) : Prop :=
  (∃ file, HoldsOnly file l x) ∧ ∀ file, HoldsOnly file l x → Settings.load (some file) [] = .ok s

lemma settings_placed_alone {v : Value} {a : l.Carrier} (hv : l.decoder v = .ok a) :
    Decoder.settings (placed Value.emptyTable l v) = .ok (l.set a {}) :=
  settings_placed rfl tabular_emptyTable rfl hv

lemma gather_variable {a : l.Carrier} (hnames : Names name l)
    (hv : l.decoder (.scalar (some .environment) (scalarOfText v)) = .ok a) :
    Settings.gather none [(name, v)] = .ok (l.set a {}) := by
  have hsettings := settings_placed_alone hv
  refine gather_eq_ok_iff.2 ⟨[], _, rfl, ?_, hsettings⟩
  rw [List.nil_append, ofEnvironment_cons_of_names (e := (name, v)) hnames, Value.overlay, List.foldlM_cons,
    putKey_leafKey tabular_emptyTable]
  rfl

lemma gather_file {a : l.Carrier} (hfile : HoldsOnly file l x)
    (hx : l.decoder (.scalar (some .file) x) = .ok a) :
    Settings.gather (some file) [] = .ok (l.set a {}) := by
  obtain ⟨home, hhome, hentries⟩ := hfile
  refine gather_eq_ok_iff.2 ⟨_, _, hentries, ?_, settings_placed_alone hx⟩
  have hall : ∀ home ∈ sections, PlainKey home ∧ lower home = home := by decide +kernel
  obtain ⟨hkey, hlower⟩ := hall home (mem_sections hhome)
  have hsection : Value.emptyTable.putAll [(l.field, .scalar (some .file) x)] =
      Value.emptyTable.set l.field (.scalar (some .file) x) := by
    show Value.emptyTable.put l.field (.scalar (some .file) x) = _
    rw [put_scalar, lower_field]
  have hput : Value.emptyTable.put home (.table (some .file) [(l.field, .scalar (some .file) x)]) =
      placed Value.emptyTable l (.scalar (some .file) x) := by
    unfold placed Value.put
    rw [hhome, hlower]
    exact congrArg (Value.emptyTable.set home) hsection
  rw [show ofEnvironment [] = [] from rfl, List.append_nil, Value.overlay, List.foldlM_cons,
    putKey_of_plainKey hkey, hput]
  rfl

lemma load_of_valid {file : Option String} {environment : List (String × String)}
    (h : Settings.gather file environment = .ok s) (hvalid : s.validate = .ok ()) :
    Settings.load file environment = .ok s := by
  rw [load_of_gather h, hvalid]

lemma fileGives {a : l.Carrier} (hexists : ∃ file, HoldsOnly file l x)
    (hx : l.decoder (.scalar (some .file) x) = .ok a) (hvalid : (l.set a {}).validate = .ok ()) :
    FileGives l x (l.set a {}) :=
  ⟨hexists, fun _ hfile => load_of_valid (gather_file hfile hx) hvalid⟩

lemma home_of_textLeaf (h : textLeaf? l = some ofText) : ∃ home, l.home? = some home := by
  cases l <;> cases h <;> exact ⟨_, rfl⟩

lemma decoder_text (h : textLeaf? l = some ofText) (hx : x ≠ .nil) (o : Option Origin) :
    l.decoder (.scalar o x) = .ok (ofText (written x)) := by
  cases l <;> cases h <;> cases x <;> first | rfl | exact absurd rfl hx

lemma checked_default : Checked {} := checked_of_validate (eq_ok_of_toOption (by decide +kernel))

lemma validate_text (h : textLeaf? l = some ofText) (hname : l = .cookieName → isBlankText v = false) :
    (l.set (ofText v) {}).validate = .ok () := by
  refine validate_of_checked ?_ (Leaf.redis_set l (ofText v) {})
  have hdefault := checked_default
  cases l with
  | cookieName =>
    cases h
    exact { hdefault with named := hname rfl }
  | sessionKeyPrefix | cookiePath | cookieDomain | limitKeyPrefix => exact { hdefault with }
  | _ => cases h

lemma validate_writtenBack (h : textLeaf? l = some ofText)
    (hvalid : (l.set (ofText v) {}).validate = .ok ()) :
    (l.set (ofText (writtenBack v)) {}).validate = .ok () := by
  refine validate_text h ?_
  rintro rfl
  cases h
  exact not_blank_writtenBack (checked_of_validate hvalid).named

lemma home_of_numberLeaf (h : numberLeaf? l = some ofNumber) : ∃ home, l.home? = some home := by
  cases l <;> cases h <;> exact ⟨_, rfl⟩

lemma decoder_number {w : Value} (h : numberLeaf? l = some ofNumber) (hw : Decoder.uint64 w = .ok n) :
    l.decoder w = .ok (ofNumber n) := by
  cases l <;> cases h <;> exact hw

lemma validate_carried (h : numberLeaf? l = some ofNumber)
    (hvalid : (l.set (ofNumber n) {}).validate = .ok ()) :
    (l.set (ofNumber (carried n)) {}).validate = .ok () := by
  by_cases hsmall : n.toNat < Nat.pow 2 63
  · have hsame : carried n = n := if_pos hsmall
    rwa [hsame]
  have hchecked := checked_of_validate hvalid
  have hlarge : Nat.pow 2 63 ≤ (carried n).toNat := by
    rw [carried_toNat hsmall]
    exact Nat.le_min.2 ⟨(nearestMultiple_bounds (Nat.le_of_not_lt hsmall) n.toNat_lt).1, by decide⟩
  have hbeyond : ∀ bound : UInt64, bound.toNat < Nat.pow 2 63 → bound < n ∧ bound < carried n := by
    intro bound hbound
    simp only [UInt64.lt_iff_toNat_lt]
    omega
  have hpos : carried n ≠ 0 := by
    rintro hzero
    rw [hzero] at hlarge
    exact absurd hlarge (by decide)
  have hdefault := checked_default
  refine validate_of_checked ?_ (Leaf.redis_set l (ofNumber (carried n)) {})
  -- The default of the hard limit is too small for such a lifetime, and the default lifetime for such a
  -- refresh.
  cases l with
  | ttlSecs =>
    cases h
    have hcapped : (2592000 : UInt64) = 0 ∨ n ≤ 2592000 := hchecked.capped
    exact absurd (hbeyond 2592000 (by decide)).1 (UInt64.not_lt.2 (hcapped.resolve_left (by decide)))
  | refreshBeforeSecs =>
    cases h
    exact absurd hchecked.prompt (UInt64.not_lt.2 (UInt64.le_of_lt (hbeyond 604800 (by decide)).1))
  | maxAgeSecs =>
    cases h
    exact { hdefault with capped := Or.inr (UInt64.le_of_lt (hbeyond 604800 (by decide)).2) }
  | idBytes =>
    cases h
    exact { hdefault with random := ⟨UInt64.le_of_lt (hbeyond 32 (by decide)).2, hdefault.random.2⟩ }
  | csrfBytes =>
    cases h
    exact { hdefault with random := ⟨hdefault.random.1, UInt64.le_of_lt (hbeyond 32 (by decide)).2⟩ }
  | limit =>
    cases h
    exact { hdefault with limited := fun henabled => ⟨hpos, (hdefault.limited henabled).2⟩ }
  | windowSecs =>
    cases h
    exact { hdefault with limited := fun henabled => ⟨(hdefault.limited henabled).1, hpos⟩ }
  | _ => cases h

def digitsOf (n : UInt64) : String := String.ofList (decimal n.toNat)

/-- If the checks accept a text or a number as the one setting that is no default, then a variable alone
with this text or with the digits of this number gives settings, in which nothing but this setting is no
default. A text arrives as it is exactly if it is verbatim, and is else what it reads as, written out. A
number arrives exactly if it is below 2 ^ 63, a multiple of 2048, or the last of all, and else within 1024
of itself. From a file, texts and numbers arrive as they are, and for each there is such a file. -/
theorem variables_carry_texts_and_numbers :
    (∀ (l : Leaf) (ofText : String → l.Carrier), textLeaf? l = some ofText →
      ∀ v : String, (l.set (ofText v) {}).validate = .ok () →
        (∀ name, Names name l → Settings.load none [(name, v)] = .ok (l.set (ofText (writtenBack v)) {})) ∧
        (writtenBack v = v ↔ Verbatim v) ∧
        FileGives l (.text v) (l.set (ofText v) {})) ∧
    (∀ (l : Leaf) (ofNumber : UInt64 → l.Carrier), numberLeaf? l = some ofNumber →
      ∀ n : UInt64, (l.set (ofNumber n) {}).validate = .ok () →
        (∀ name, Names name l →
          Settings.load none [(name, digitsOf n)] = .ok (l.set (ofNumber (carried n)) {})) ∧
        (carried n = n ↔ n.toNat < Nat.pow 2 63 ∨ 2048 ∣ n.toNat ∨ n.toNat = Nat.pow 2 64 - 1) ∧
        ((carried n).toNat ≤ n.toNat + 1024 ∧ n.toNat ≤ (carried n).toNat + 1024) ∧
        FileGives l (.text (digitsOf n)) (l.set (ofNumber n) {}) ∧
        (n.toNat < Nat.pow 2 63 → FileGives l (.integer n.toNat) (l.set (ofNumber n) {}))) := by
  constructor
  · intro l ofText htext v hvalid
    obtain ⟨home, hhome⟩ := home_of_textLeaf htext
    have hfile := decoder_text htext (x := .text v) (fun h => by cases h) (some .file)
    have hvariable := decoder_text htext (scalarOfText_ne_nil v) (some .environment)
    refine ⟨fun name hnames => ?_, writtenBack_eq_iff, fileGives (exists_holdsOnly_text hhome v) hfile hvalid⟩
    exact load_of_valid (gather_variable hnames hvariable) (validate_writtenBack htext hvalid)
  · intro l ofNumber hnumber n hvalid
    obtain ⟨home, hhome⟩ := home_of_numberLeaf hnumber
    have htext := decoder_number hnumber (uint64_decimal n (some .file))
    have hvariable := decoder_number hnumber (uint64_scalarOfText n (some .environment))
    refine ⟨fun name hnames => ?_, carried_eq_iff, carried_near n,
      fileGives (exists_holdsOnly_text hhome _) htext hvalid, fun hsmall => ?_⟩
    · exact load_of_valid (gather_variable hnames hvariable) (validate_carried hnumber hvalid)
    · have hinteger := decoder_number hnumber (uint64_scalarOfText n (some .file))
      rw [scalarOfText_decimal, if_pos hsmall, carried_eq_iff.2 (Or.inl hsmall)] at hinteger
      exact fileGives (exists_holdsOnly_integer hhome hsmall) hinteger hvalid

/-- The entry of a file that holds a single scalar in a section. -/
def soleScalar? : List (String × Value) → Option (String × String × Scalar)
  | [(home, .table (some .file) [(field, .scalar (some .file) x)])] => some (home, field, x)
  | _ => none

lemma holdsOnly_of_soleScalar {home : String} (hhome : l.home? = some home)
    (h : (Settings.fileEntries (some file)).toOption.bind soleScalar? = some (home, l.field, x)) :
    HoldsOnly file l x := by
  obtain ⟨entries, hentries, hsole⟩ := Option.bind_eq_some_iff.1 h
  refine ⟨home, hhome, ?_⟩
  rw [eq_ok_of_toOption hentries]
  unfold soleScalar? at hsole
  split at hsole
  · cases hsole
    rfl
  · cases hsole

theorem variables_carry_texts_and_numbers_over_defaults :
    (textLeaf? .sessionKeyPrefix = some id ∧ (Leaf.sessionKeyPrefix.set "sid:" {}).validate = .ok () ∧
      Names "SNIPLY__SESSION__KEY_PREFIX" .sessionKeyPrefix ∧
      HoldsOnly "[session]\nkey_prefix = \"sid:\"" .sessionKeyPrefix (.text "sid:") ∧
      Settings.load none [("SNIPLY__SESSION__KEY_PREFIX", "sid:")] =
        .ok (Leaf.sessionKeyPrefix.set "sid:" {}) ∧
      Settings.load (some "[session]\nkey_prefix = \"sid:\"") [] =
        .ok (Leaf.sessionKeyPrefix.set "sid:" {})) ∧
    (numberLeaf? .limit = some id ∧ (Leaf.limit.set 9223372036854777856 {}).validate = .ok () ∧
      Names "sniply__login_rate_limit__limit" .limit ∧
      HoldsOnly "login_rate_limit.limit = '9223372036854777856'" .limit
        (.text (digitsOf 9223372036854777856)) ∧
      HoldsOnly "login_rate_limit.limit = 60" .limit (.integer (60 : UInt64).toNat) ∧
      Settings.load none [("sniply__login_rate_limit__limit", digitsOf 9223372036854777856)] =
        .ok (Leaf.limit.set 9223372036854777856 {}) ∧
      Settings.load (some "login_rate_limit.limit = '9223372036854777856'") [] =
        .ok (Leaf.limit.set 9223372036854777856 {}) ∧
      Settings.load (some "login_rate_limit.limit = 60") [] = .ok (Leaf.limit.set 60 {})) := by
  have hprefix : (Leaf.sessionKeyPrefix.set "sid:" {}).validate = .ok () :=
    eq_ok_of_toOption (by decide +kernel)
  have hprefixName : Names "SNIPLY__SESSION__KEY_PREFIX" .sessionKeyPrefix := by unfold Names; decide +kernel
  have hprefixFile : HoldsOnly "[session]\nkey_prefix = \"sid:\"" .sessionKeyPrefix (.text "sid:") :=
    holdsOnly_of_soleScalar rfl (by decide +kernel)
  have hlimit : (Leaf.limit.set 9223372036854777856 {}).validate = .ok () :=
    eq_ok_of_toOption (by decide +kernel)
  have hlimitName : Names "sniply__login_rate_limit__limit" .limit := by unfold Names; decide +kernel
  have hlimitText : HoldsOnly "login_rate_limit.limit = '9223372036854777856'" .limit
      (.text (digitsOf 9223372036854777856)) :=
    holdsOnly_of_soleScalar rfl (by decide +kernel)
  have hsmall : (Leaf.limit.set 60 {}).validate = .ok () := eq_ok_of_toOption (by decide +kernel)
  have hsmallFile : HoldsOnly "login_rate_limit.limit = 60" .limit (.integer (60 : UInt64).toNat) :=
    holdsOnly_of_soleScalar rfl (by decide +kernel)
  obtain ⟨hvariable, hverbatim, hfile⟩ :=
    variables_carry_texts_and_numbers.1 .sessionKeyPrefix id rfl "sid:" hprefix
  obtain ⟨hvariable', hexact, _, hfile', _⟩ :=
    variables_carry_texts_and_numbers.2 .limit id rfl 9223372036854777856 hlimit
  obtain ⟨_, _, _, _, hfile''⟩ := variables_carry_texts_and_numbers.2 .limit id rfl 60 hsmall
  have hkept : writtenBack "sid:" = "sid:" :=
    hverbatim.2 (verbatim_of_head (c := 's') rfl (by decide) rfl (by decide +kernel) (by decide +kernel))
  have hkept' : carried 9223372036854777856 = 9223372036854777856 := hexact.2 (Or.inr (Or.inl (by decide)))
  refine ⟨⟨rfl, hprefix, hprefixName, hprefixFile, ?_, hfile.2 _ hprefixFile⟩,
    rfl, hlimit, hlimitName, hlimitText, hsmallFile, ?_, hfile'.2 _ hlimitText,
    (hfile'' (by decide)).2 _ hsmallFile⟩
  · have hload := hvariable _ hprefixName
    rwa [hkept] at hload
  · have hload := hvariable' _ hlimitName
    rwa [hkept'] at hload

/-- Zeros in front do not survive a variable, and beyond 2 ^ 63 neither does every last digit. -/
theorem variable_drops_zeros_and_last_digits :
    (Leaf.sessionKeyPrefix.set "007" {}).validate = .ok () ∧
    Settings.load none [("SNIPLY__SESSION__KEY_PREFIX", "007")] = .ok (Leaf.sessionKeyPrefix.set "7" {}) ∧
    Settings.load (some "[session]\nkey_prefix = \"007\"") [] = .ok (Leaf.sessionKeyPrefix.set "007" {}) ∧
    (Leaf.maxAgeSecs.set 9223372036854775809 {}).validate = .ok () ∧
    Settings.load none [("SNIPLY__SESSION__MAX_AGE_SECS", "9223372036854775809")] =
      .ok (Leaf.maxAgeSecs.set 9223372036854775808 {}) ∧
    Settings.load (some "[session]\nmax_age_secs = \"9223372036854775809\"") [] =
      .ok (Leaf.maxAgeSecs.set 9223372036854775809 {}) :=
  ⟨eq_ok_of_toOption (by decide +kernel), eq_ok_of_toOption (by decide +kernel),
    eq_ok_of_toOption (by decide +kernel), eq_ok_of_toOption (by decide +kernel),
    eq_ok_of_toOption (by decide +kernel), eq_ok_of_toOption (by decide +kernel)⟩

end Gatehouse.Proofs
