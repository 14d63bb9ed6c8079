import KitchenFlow.Config.Settings
import KitchenFlow.Proofs.Digits
import KitchenFlow.Proofs.Fallible
import KitchenFlow.Proofs.Text
import Mathlib.Algebra.Ring.Int.Defs

/-!
# What settings read from variables are good for

Whatever the variables hold, the settings that come of them can be run with: nothing that has to be
positive is zero, there are organizations and their names are clean, and a key that is there says
something. A number takes effect if it is spelled and can be used, and otherwise the default stays.
The only exception is the window in which an action counts as done. It is meant to be a number of
days, but more days than a span can hold are refused altogether, and so many that they look negative
as a signed number make a window into the past:

    Settings.Spelled            a variable spells a number of 64 bits
    Settings.Safe               settings to run with, but for the window
    Settings.Follows            the numbers that are spelled take effect
    Settings.ofVariables_safe   settings are safe, and so is the window of few enough days
-/

namespace KitchenFlow

namespace Settings

variable {env : Variables} {name : String} {n days : Nat} {c : Settings}

/-- A variable spells a number of 64 bits, perhaps between blanks. -/
def Spelled (env : Variables) (name : String) (n : Nat) : Prop :=
  ∃ v, env name = some v ∧ Numeral.Spells (Text.trim v) n ∧ n < 2 ^ 64

/-- The variables ask for a window of so many days. -/
def AsksFor (env : Variables) (days : Nat) : Prop := Spelled env "PANTRY_DEDUP_WINDOW_DAYS" days

/-- The most days that a span can hold. -/
def longestWindow : Nat := 106751991167

/-- A setting is the number that its variable spells, unless this is none or zero. -/
def Takes (env : Variables) (name : String) (value default : Nat) : Prop :=
  (∀ n, Spelled env name n → 0 < n → value = n) ∧
    ((∀ n, Spelled env name n → n = 0) → value = default)

/-- Settings to run with, whatever the window is. -/
structure Safe (c : Settings) : Prop where
  adapterTimeout : 0 < c.adapterTimeout
  tickInterval : 0 < c.tickInterval
  maxConcurrency : 1 ≤ c.maxConcurrency
  organizations_ne_nil : c.organizations ≠ []
  organizations : ∀ o ∈ c.organizations, o ≠ "" ∧ Text.trim o = o ∧ ',' ∉ o.toList
  vaultKey : ∀ k, c.vaultKey = some k → Text.isBlank k = false
  defaultAiKey : ∀ k, c.defaultAiKey = some k → Text.isBlank k = false

/-- Numbers that can be used take effect, and others leave the default in place. -/
structure Follows (c : Settings) (env : Variables) : Prop where
  adapterTimeout : Takes env "PANTRY_ADAPTER_TIMEOUT_MS" c.adapterTimeout default.adapterTimeout
  tickInterval : Takes env "PANTRY_TICK_INTERVAL_SECS" c.tickInterval default.tickInterval
  maxConcurrency : Takes env "PANTRY_MAX_CONCURRENCY" c.maxConcurrency default.maxConcurrency
  window : ∀ days, AsksFor env days → days ≤ longestWindow →
    c.dedupWindow = Span.ofDays days
  noWindow : (∀ days, ¬AsksFor env days) → c.dedupWindow = default.dedupWindow

/-! ## Numbers -/

theorem number?_eq_some_iff : number? env name = some n ↔ Spelled env name n := by
  rw [number?, Option.bind_eq_some_iff]
  exact exists_congr fun v => and_congr_right fun _ => Numeral.nat?_eq_some_iff

theorem Spelled.unique {m : Nat} (hm : Spelled env name m) (hn : Spelled env name n) : m = n :=
  Option.some.inj ((number?_eq_some_iff.2 hm).symm.trans (number?_eq_some_iff.2 hn))

/-- What holds of all the numbers of days that are asked for holds of the one that is. -/
theorem AsksFor.forall_iff (h : AsksFor env days) {P : Nat → Prop} :
    (∀ d, AsksFor env d → P d) ↔ P days :=
  ⟨fun hall => hall days h, fun hdays _ hd => hd.unique h ▸ hdays⟩

theorem AsksFor.exists_iff (h : AsksFor env days) {P : Nat → Prop} :
    (∃ d, AsksFor env d ∧ P d) ↔ P days :=
  ⟨fun ⟨_, hd, hP⟩ => h.unique hd ▸ hP, fun hdays => ⟨days, h, hdays⟩⟩

theorem positive?_eq_some_iff : positive? env name = some n ↔ Spelled env name n ∧ 0 < n := by
  rw [positive?, Option.filter_eq_some_iff, number?_eq_some_iff, decide_eq_true_eq]

theorem takes_positive (env : Variables) (name : String) (default : Nat) :
    Takes env name ((positive? env name).getD default) default := by
  constructor
  · intro n hn hpos
    rw [positive?_eq_some_iff.2 ⟨hn, hpos⟩, Option.getD_some]
  · intro hzero
    rcases h : positive? env name with - | n
    · rfl
    · obtain ⟨hn, hpos⟩ := positive?_eq_some_iff.1 h
      exact absurd (hzero n hn) (Nat.ne_of_gt hpos)

theorem positive_getD {default : Nat} (h : 0 < default) :
    0 < (positive? env name).getD default := by
  rcases hn : positive? env name with - | n
  · exact h
  · exact (positive?_eq_some_iff.1 hn).2

/-! ## The window -/

theorem checked?_ofDays (n : Int) :
    (Span.ofDays n).checked? =
      if n.natAbs ≤ longestWindow then some (Span.ofDays n) else none := by
  have hiff : (Span.ofDays n).natAbs ≤ Span.longest.natAbs ↔ n.natAbs ≤ longestWindow := by
    have hlongest : Span.longest.natAbs = 9223372036854775807000000 := by decide
    rw [hlongest]
    simp only [Span.ofDays, Span.ofSeconds, Instant.nanosPerSecond, Instant.secondsPerDay,
      longestWindow]
    omega
  unfold Span.checked?
  simp only [hiff]

theorem window_of_le {k : Int} (hk : signed days = k) (h : k.natAbs ≤ longestWindow) :
    window days = .ok (Span.ofDays k) := by
  rw [window, hk, checked?_ofDays, if_pos h]

/-- A window of few days is what it should be. -/
theorem window_of_short (h : days ≤ longestWindow) : window days = .ok (Span.ofDays days) := by
  have hsigned : signed days = days :=
    if_pos (Nat.lt_of_le_of_lt h (by decide))
  exact window_of_le hsigned h

/-- A window that is longer than any span is refused. -/
theorem window_of_long (hlow : longestWindow < days) (hhigh : days < 2 ^ 64 - longestWindow) :
    window days = .error .windowTooLong := by
  have hlong : ¬(signed days).natAbs ≤ longestWindow := by
    have hpow : (Int.pow 2 64 : Int) = 18446744073709551616 := by decide
    unfold signed longestWindow at *
    rw [hpow]
    split <;> omega
  rw [window, checked?_ofDays, if_neg hlong]

/-- So many days that their number is taken as negative make a window into the past. -/
theorem window_of_negative (hlow : 2 ^ 64 - longestWindow ≤ days) (hhigh : days < 2 ^ 64) :
    window days = .ok (Span.ofDays (days - 2 ^ 64)) := by
  have hsigned : signed days = days - 2 ^ 64 := by
    have hbig : ¬days < Nat.pow 2 63 := by
      have hpow : Nat.pow 2 63 = 9223372036854775808 := by decide
      unfold longestWindow at hlow
      omega
    exact if_neg hbig
  refine window_of_le hsigned ?_
  unfold longestWindow at *
  omega

theorem ofDays_nonneg_iff (n : Int) : 0 ≤ Span.ofDays n ↔ 0 ≤ n := by
  change (0 : Int) ≤ n * 86400 * 1000000000 ↔ 0 ≤ n
  omega

/-! ## Names -/

theorem mem_names {s o : String} (h : o ∈ names s) :
    o ≠ "" ∧ Text.trim o = o ∧ ',' ∉ o.toList := by
  unfold names at h
  obtain ⟨hmem, hne⟩ := List.mem_filter.1 h
  obtain ⟨piece, hpiece, rfl⟩ := List.mem_map.1 hmem
  obtain ⟨chars, hchars, rfl⟩ := List.mem_map.1 hpiece
  refine ⟨of_decide_eq_true hne, Text.trim_trim _, fun hcomma => ?_⟩
  have hin := Text.mem_of_mem_trim hcomma
  rw [String.toList_ofList] at hin
  exact Text.not_mem_of_mem_splitChars hchars hin

theorem organizations_of_names {os : List String} (h : organizations? env name = some os) :
    os ≠ [] ∧ ∀ o ∈ os, o ≠ "" ∧ Text.trim o = o ∧ ',' ∉ o.toList := by
  obtain ⟨hmap, hne⟩ := Option.filter_eq_some_iff.1 h
  obtain ⟨s, -, rfl⟩ := Option.map_eq_some_iff.1 hmap
  exact ⟨of_decide_eq_true hne, fun o ho => mem_names ho⟩

theorem isBlank_of_text? {k : String} (h : text? env name = some k) : Text.isBlank k = false := by
  obtain ⟨-, hk⟩ := Option.filter_eq_some_iff.1 h
  rwa [Bool.not_eq_true'] at hk

/-! ## Settings -/

/-- The settings of variables, but for the window. -/
def withWindow (env : Variables) (w : Span) : Settings where
  vaultKey := text? env "PANTRY_VAULT_KEY"
  adapterTimeout := (positive? env "PANTRY_ADAPTER_TIMEOUT_MS").getD default.adapterTimeout
  defaultAiKey := text? env "PANTRY_AI_API_KEY"
  organizations := (organizations? env "PANTRY_ORGS").getD default.organizations
  tickInterval := (positive? env "PANTRY_TICK_INTERVAL_SECS").getD default.tickInterval
  dedupWindow := w
  maxConcurrency := (positive? env "PANTRY_MAX_CONCURRENCY").getD default.maxConcurrency
  aiBaseUrl := (env "PANTRY_AI_BASE_URL").getD default.aiBaseUrl
  aiModel := (env "PANTRY_AI_MODEL").getD default.aiModel
  eventBufferSize := default.eventBufferSize

theorem ofVariables_of_not_spelled (h : ∀ days, ¬AsksFor env days) :
    ofVariables env = .ok (withWindow env defaultWindow) := by
  have hnone : number? env "PANTRY_DEDUP_WINDOW_DAYS" = none :=
    Option.eq_none_iff_forall_ne_some.2 fun days hdays => h days (number?_eq_some_iff.1 hdays)
  unfold ofVariables
  rw [hnone]
  rfl

theorem ofVariables_of_spelled (h : AsksFor env days) :
    ofVariables env = (window days).map (withWindow env) := by
  unfold ofVariables
  rw [number?_eq_some_iff.2 h]
  dsimp only
  cases window days <;> rfl

theorem safe_withWindow (env : Variables) (w : Span) : (withWindow env w).Safe := by
  have horganizations :
      (organizations? env "PANTRY_ORGS").getD default.organizations ≠ [] ∧
        ∀ o ∈ (organizations? env "PANTRY_ORGS").getD default.organizations,
          o ≠ "" ∧ Text.trim o = o ∧ ',' ∉ o.toList := by
    rcases hos : organizations? env "PANTRY_ORGS" with - | os
    · decide
    · exact organizations_of_names hos
  exact {
    adapterTimeout := positive_getD (by decide)
    tickInterval := positive_getD (by decide)
    maxConcurrency := positive_getD (by decide)
    organizations_ne_nil := horganizations.1
    organizations := horganizations.2
    vaultKey := fun _ hk => isBlank_of_text? hk
    defaultAiKey := fun _ hk => isBlank_of_text? hk }

theorem follows_of_not_asked (h : ∀ days, ¬AsksFor env days) :
    (withWindow env defaultWindow).Follows env :=
  ⟨takes_positive _ _ _, takes_positive _ _ _, takes_positive _ _ _,
    fun days hdays => (h days hdays).elim, fun _ => rfl⟩

/-- Settings follow the variables if their window is the one that is asked for, unless this is too
long. -/
theorem follows_of_asksFor {w : Span} (h : AsksFor env days)
    (hwindow : days ≤ longestWindow → w = Span.ofDays days) : (withWindow env w).Follows env :=
  ⟨takes_positive _ _ _, takes_positive _ _ _, takes_positive _ _ _, h.forall_iff.2 hwindow,
    fun hnone => (hnone days h).elim⟩

/-- What comes of variables, by the number of days that they ask for. -/
inductive Outcome (env : Variables) : Except SettingsError Settings → Prop
  | unasked : (∀ days, ¬AsksFor env days) → Outcome env (.ok (withWindow env defaultWindow))
  | short {k : Nat} : AsksFor env k → k ≤ longestWindow →
    Outcome env (.ok (withWindow env (Span.ofDays k)))
  | long {k : Nat} : AsksFor env k → longestWindow < k → k < 2 ^ 64 - longestWindow →
    Outcome env (.error .windowTooLong)
  | negative {k : Nat} : AsksFor env k → 2 ^ 64 - longestWindow ≤ k → k < 2 ^ 64 →
    Outcome env (.ok (withWindow env (Span.ofDays (k - 2 ^ 64))))

theorem outcome_ofVariables (env : Variables) : Outcome env (ofVariables env) := by
  by_cases hasked : ∃ days, AsksFor env days
  · obtain ⟨days, hdays⟩ := hasked
    obtain ⟨-, -, -, hbound⟩ := id hdays
    rw [ofVariables_of_spelled hdays]
    by_cases hshort : days ≤ longestWindow
    · rw [window_of_short hshort]
      exact .short hdays hshort
    by_cases hlong : days < 2 ^ 64 - longestWindow
    · rw [window_of_long (Nat.lt_of_not_le hshort) hlong]
      exact .long hdays (Nat.lt_of_not_le hshort) hlong
    · rw [window_of_negative (Nat.le_of_not_lt hlong) hbound]
      exact .negative hdays (Nat.le_of_not_lt hlong) hbound
  · rw [not_exists] at hasked
    rw [ofVariables_of_not_spelled hasked]
    exact .unasked hasked

/-- Settings are read from all variables, unless a window longer than any span is asked for. They
are safe and follow the numbers of the variables; and their window does not reach into the past,
unless more days are asked for than a span can hold. -/
theorem ofVariables_safe (env : Variables) :
    (ofVariables env = .error .windowTooLong ↔
      ∃ days, AsksFor env days ∧ longestWindow < days ∧ days < 2 ^ 64 - longestWindow) ∧
    ∀ c, ofVariables env = .ok c →
      c.Safe ∧ c.Follows env ∧
        (0 ≤ c.dedupWindow ↔ ∀ days, AsksFor env days → days ≤ longestWindow) := by
  have houtcome := outcome_ofVariables env
  generalize ofVariables env = result at houtcome
  cases houtcome with
  | unasked hnone =>
    have hpos : 0 ≤ defaultWindow := by decide
    refine ⟨iff_of_false nofun fun ⟨days, hdays, _⟩ => hnone days hdays, ?_⟩
    rintro _ ⟨⟩
    exact ⟨safe_withWindow _ _, follows_of_not_asked hnone,
      iff_of_true hpos fun days hdays => (hnone days hdays).elim⟩
  | @short k hk hle =>
    rw [hk.exists_iff, hk.forall_iff]
    refine ⟨iff_of_false nofun fun hlong => Nat.not_lt.2 hle hlong.1, ?_⟩
    rintro _ ⟨⟩
    exact ⟨safe_withWindow _ _, follows_of_asksFor hk fun _ => rfl,
      iff_of_true ((ofDays_nonneg_iff k).2 (Int.natCast_nonneg k)) hle⟩
  | @long k hk hlow hhigh =>
    rw [hk.exists_iff]
    exact ⟨iff_of_true rfl ⟨hlow, hhigh⟩, nofun⟩
  | @negative k hk hlow hhigh =>
    have hmore : longestWindow < k := Nat.lt_of_lt_of_le (by decide) hlow
    have hnegative : ¬0 ≤ Span.ofDays (k - 2 ^ 64) := by
      rw [ofDays_nonneg_iff]
      omega
    rw [hk.exists_iff, hk.forall_iff]
    refine ⟨iff_of_false nofun fun hlong => Nat.not_lt.2 hlow hlong.2, ?_⟩
    rintro _ ⟨⟩
    exact ⟨safe_withWindow _ _, follows_of_asksFor hk fun hle => absurd hmore (Nat.not_lt.2 hle),
      iff_of_false hnegative (Nat.not_le.2 hmore)⟩

/-- The variables of a pantry with two organizations, of which some cannot be used. -/
def pantryVariables : Variables := fun name =>
  List.lookup name
    [("PANTRY_ADAPTER_TIMEOUT_MS", " +250 "), ("PANTRY_TICK_INTERVAL_SECS", "soon"),
      ("PANTRY_MAX_CONCURRENCY", "0"), ("PANTRY_ORGS", "org-a, org-b,,"),
      ("PANTRY_DEDUP_WINDOW_DAYS", "14")]

/-- The pantry has its timeout and its window, and defaults where the variables are of no use. -/
theorem ofVariables_safe_pantry :
    ∃ c, ofVariables pantryVariables = .ok c ∧ c.Safe ∧ c.adapterTimeout = 250 ∧
      c.maxConcurrency = 8 ∧ c.dedupWindow = Span.ofDays 14 ∧ 0 ≤ c.dedupWindow := by
  obtain ⟨c, hc⟩ : ∃ c, ofVariables pantryVariables = .ok c := ⟨_, rfl⟩
  obtain ⟨hsafe, hfollows, hwindow⟩ := (ofVariables_safe pantryVariables).2 c hc
  have htimeout : Spelled pantryVariables "PANTRY_ADAPTER_TIMEOUT_MS" 250 :=
    number?_eq_some_iff.1 (by decide)
  have hzero : Spelled pantryVariables "PANTRY_MAX_CONCURRENCY" 0 :=
    number?_eq_some_iff.1 (by decide)
  have hdays : AsksFor pantryVariables 14 := number?_eq_some_iff.1 (by decide)
  refine ⟨c, hc, hsafe, hfollows.adapterTimeout.1 250 htimeout (by decide), ?_,
    hfollows.window 14 hdays (by decide), ?_⟩
  · exact hfollows.maxConcurrency.2 fun n hn => hn.unique hzero
  · exact hwindow.2 fun days h => le_of_eq_of_le (h.unique hdays) (by decide)

/-- The variables that ask for a number of days only. -/
def asking (days : String) : Variables := fun name =>
  List.lookup name [("PANTRY_DEDUP_WINDOW_DAYS", days)]

/-- With too many days asked for, either there are no settings or their window ends a day before it
begins. -/
theorem not_safe_of_far :
    ofVariables (asking "9223372036854775807") = .error .windowTooLong ∧
      ofVariables (asking "18446744073709551615") =
        .ok { default with dedupWindow := Span.ofDays (-1) } := by
  decide

end Settings
end KitchenFlow
