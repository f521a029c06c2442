import HyperEvolve.Proofs.Decimal.Range
import HyperEvolve.Proofs.Traversal
import HyperEvolve.Settings

/-!
# Outcomes of reading settings

A value gives settings exactly if each of their fields is absent or holds a value of its setting. Otherwise reading
tells a problem, and settings that are given wait for a positive time, if not without end. There are two exceptions,
both of them times to wait: an integer beyond the range of numbers ends the reading in another way, and what is no
number is taken as it is.
-/

namespace HyperEvolve.Settings

open Yaml (Value Loaded)

/-! ## Values of the settings -/

def IsText (v : Value) (t : Text) : Prop := v = .text t

/-- A time to wait. The null value is no bound, and what is no number is not told from a time. -/
inductive IsTimeout : Value → Option Float → Prop where
  | null : IsTimeout .null none
  | int {n : Nat} (hn : n ≠ 0) (hrange : n < Decimal.rangeEnd) : IsTimeout (.int n) (some (Decimal.nearest n 1))
  | float {x : Float} (hx : 0 < x) : IsTimeout (.float x) (some x)
  | notANumber {x : Float} (hx : x.isNaN = true) : IsTimeout (.float x) (some x)

/-- A command: a line that falls into words, or a list of texts. -/
inductive IsCommand (l : Loaded) : Value → List Text → Prop where
  | line {t : Text} {words : List Text} (h : ShellWords.split t = .ok words) : IsCommand l (.text t) words
  | list {v : Value} {words : List Text} (h : l.members? v = some (.list (words.map .text))) : IsCommand l v words

/-- What a setting is: a value of its field or, if there is none, its default. -/
inductive Holds {α : Type} (entries : List (Value × Value)) (name : String) (otherwise : α) (Is : Value → α → Prop) :
    α → Prop where
  | field {v : Value} {a : α} (hv : Value.field? entries name = some v) (h : Is v a) : Holds entries name otherwise Is a
  | absent (h : Value.field? entries name = none) : Holds entries name otherwise Is otherwise

/-- The settings in the entries of a mapping. -/
structure InEntries (l : Loaded) (entries : List (Value × Value)) (s : Settings) : Prop where
  endpoint : Holds entries "endpoint" defaults.endpoint IsText s.endpoint
  buildDirectory : Holds entries "build-directory" defaults.buildDirectory IsText s.buildDirectory
  timeout : Holds entries "timeout" defaults.timeout IsTimeout s.timeout
  parserCommand : Holds entries "parser-command" defaults.parserCommand (IsCommand l) s.parserCommand

/-- The settings in a value: those of a mapping, or the defaults for the null value. -/
inductive InValue (l : Loaded) : Settings → Prop where
  | null (h : l.root = .null) : InValue l defaults
  | mapping {entries : List (Value × Value)} {s : Settings} (h : l.members? l.root = some (.map entries))
      (hs : InEntries l entries s) : InValue l s

/-! ## Times that are not foreseen -/

/-- Reading meets a value as the time to wait: the two settings before it are as they should be. -/
structure MeetsTimeout (l : Loaded) (entries : List (Value × Value)) (v : Value) : Prop where
  mapping : l.members? l.root = some (.map entries)
  endpoint : ∃ t, Holds entries "endpoint" defaults.endpoint IsText t
  buildDirectory : ∃ t, Holds entries "build-directory" defaults.buildDirectory IsText t
  timeout : Value.field? entries "timeout" = some v

/-- Reading meets an integer beyond the range of numbers. The command after it plays no part. -/
def MeetsTooLong (l : Loaded) : Prop :=
  ∃ entries, ∃ n : Nat, MeetsTimeout l entries (.int n) ∧ Decimal.rangeEnd ≤ n

/-- Reading takes what is no number, which it does if the command can be read as well. -/
def TakesNoNumber (l : Loaded) : Prop :=
  ∃ entries x, MeetsTimeout l entries (.float x) ∧ x.isNaN = true ∧
    ∃ words, Holds entries "parser-command" defaults.parserCommand (IsCommand l) words

/-- A problem of the settings, which is told as such. -/
def Failure.IsProblem : Failure → Prop
  | .problem _ => True
  | _ => False

/-- The outcomes that a caller reckons with: a problem, or settings whose time to wait is positive if there is one. -/
def Foreseen : Except Failure Settings → Prop
  | .ok s => ∀ x ∈ s.timeout, 0 < x
  | .error e => e.IsProblem

/-! ## Single settings -/

section Single

variable {v : Value} {l : Loaded} {e : Failure}

theorem readText_eq_ok_iff {name : String} {t : Text} : readText name v = .ok t ↔ IsText v t := by
  cases v <;> simp [readText, IsText]

theorem isProblem_of_readText {name : String} (h : readText name v = .error e) : e.IsProblem := by
  cases v with
  | text t => cases h
  | _ => cases h; trivial

theorem readTimeout_int {n : Nat} (hn : n ≠ 0) :
    readTimeout (.int n) = if Decimal.rangeEnd ≤ n then .error .timeoutRange else .ok (some (Decimal.nearest n 1)) := by
  have hpos : ¬(n : Int) ≤ 0 := by omega
  simp only [readTimeout, hpos, if_false, Decimal.ofInt?_eq hn]
  by_cases hrange : Decimal.rangeEnd ≤ n
  · simp only [hrange, if_true]
  · simp only [hrange, if_false]

theorem readTimeout_of_nonpos {n : Int} (hn : n ≤ 0) : readTimeout (.int n) = .error (.problem .timeout) := by
  simp only [readTimeout, hn, if_true]

theorem readTimeout_cases (v : Value) :
    (∃ timeout, readTimeout v = .ok timeout ∧ IsTimeout v timeout) ∨ readTimeout v = .error (.problem .timeout) ∨
      ∃ n : Nat, readTimeout v = .error .timeoutRange ∧ v = .int n ∧ Decimal.rangeEnd ≤ n := by
  cases v with
  | null => exact .inl ⟨none, rfl, .null⟩
  | int n =>
      rcases le_or_gt n 0 with hn | hn
      · exact .inr (.inl (readTimeout_of_nonpos hn))
      · obtain ⟨k, rfl⟩ := Int.eq_ofNat_of_zero_le hn.le
        have hk : k ≠ 0 := by omega
        have hread := readTimeout_int hk
        by_cases hrange : Decimal.rangeEnd ≤ k
        · rw [if_pos hrange] at hread
          exact .inr (.inr ⟨k, hread, rfl, hrange⟩)
        · rw [if_neg hrange] at hread
          exact .inl ⟨_, hread, .int hk (not_le.mp hrange)⟩
  | float x =>
      by_cases hx : x ≤ 0
      · exact .inr (.inl (by simp only [readTimeout, hx, if_true]))
      · have hread : readTimeout (.float x) = .ok (some x) := by simp only [readTimeout, hx, if_false]
        rcases Decimal.not_nonpos_iff.mp hx with hpos | hnan
        · exact .inl ⟨_, hread, .float hpos⟩
        · exact .inl ⟨_, hread, .notANumber hnan⟩
  | _ => exact .inr (.inl rfl)

theorem readTimeout_eq_ok_iff {timeout : Option Float} : readTimeout v = .ok timeout ↔ IsTimeout v timeout := by
  constructor
  · intro h
    rcases readTimeout_cases v with ⟨_, hread, his⟩ | hread | ⟨n, hread, -⟩
    · rw [hread] at h
      cases h
      exact his
    · rw [hread] at h
      cases h
    · rw [hread] at h
      cases h
  · intro h
    cases h with
    | null => rfl
    | int hn hrange => rw [readTimeout_int hn, if_neg (not_le.mpr hrange)]
    | float hx => simp only [readTimeout, Decimal.not_nonpos_iff.mpr (.inl hx), if_false]
    | notANumber hx => simp only [readTimeout, Decimal.not_nonpos_iff.mpr (.inr hx), if_false]

/-- Only an integer beyond the range of numbers fails without a problem. -/
theorem readTimeout_eq_error_iff (he : ¬e.IsProblem) :
    readTimeout v = .error e ↔ e = .timeoutRange ∧ ∃ n : Nat, v = .int n ∧ Decimal.rangeEnd ≤ n := by
  constructor
  · intro h
    rcases readTimeout_cases v with ⟨_, hread, -⟩ | hread | ⟨n, hread, hv, hrange⟩
    · rw [hread] at h
      cases h
    · rw [hread] at h
      cases h
      exact absurd trivial he
    · rw [hread] at h
      cases h
      exact ⟨rfl, n, hv, hrange⟩
  · rintro ⟨rfl, n, rfl, hrange⟩
    have hn : n ≠ 0 := (lt_of_lt_of_le Decimal.rangeEnd_pos hrange).ne'
    rw [readTimeout_int hn, if_pos hrange]

theorem text?_eq_some_iff {t : Text} : v.text? = some t ↔ v = .text t := by
  cases v <;> simp [Value.text?]

theorem mapM_text?_eq_some_iff {items : List Value} {words : List Text} :
    items.mapM Value.text? = some words ↔ items = words.map .text := by
  induction items generalizing words with
  | nil => simp [eq_comm]
  | cons v items ih =>
      simp only [List.mapM_cons, Option.bind_eq_bind, Option.bind_eq_some_iff, Option.pure_def, Option.some.injEq,
        text?_eq_some_iff, ih]
      constructor
      · rintro ⟨t, rfl, words, rfl, rfl⟩
        rfl
      · intro h
        obtain ⟨t, words, rfl, ht, hwords⟩ := List.map_eq_cons_iff.mp h.symm
        exact ⟨t, ht.symm, words, hwords.symm, rfl⟩

theorem readCommand_eq_ok_iff {words : List Text} : readCommand l v = .ok words ↔ IsCommand l v words := by
  simp only [readCommand]
  constructor
  · intro h
    split at h
    · split at h <;> cases h
      rename_i hsplit
      exact .line hsplit
    · rename_i items _ hitems
      split at h <;> cases h
      rename_i hwords
      exact .list (hitems.trans (by rw [mapM_text?_eq_some_iff.mp hwords]))
    · cases h
  · intro h
    cases h with
    | line h => simp only [h]
    | list h =>
        cases v with
        | collection id => simp only [h, mapM_text?_eq_some_iff.mpr rfl]
        | _ => cases h

theorem isProblem_of_readCommand (h : readCommand l v = .error e) : e.IsProblem := by
  simp only [readCommand] at h
  split at h
  · split at h <;> cases h
    trivial
  · split at h <;> cases h
    trivial
  · cases h
    trivial

end Single

/-! ## All settings of a mapping -/

section Entries

variable {l : Loaded} {entries : List (Value × Value)} {e : Failure}

section Field

variable {α : Type} {name : String} {otherwise a : α} {read : Value → Except Failure α} {Is : Value → α → Prop}

theorem readField_eq_ok_iff (hread : ∀ {v a}, read v = .ok a ↔ Is v a) :
    readField entries name otherwise read = .ok a ↔ Holds entries name otherwise Is a := by
  rw [readField]
  constructor
  · intro h
    split at h
    · rename_i v hv
      exact .field hv (hread.mp h)
    · rename_i hv
      cases h
      exact .absent hv
  · intro h
    cases h with
    | field hv h => simp only [hv, hread.mpr h]
    | absent hv => simp only [hv]

theorem readField_eq_error_iff :
    readField entries name otherwise read = .error e ↔
      ∃ v, Value.field? entries name = some v ∧ read v = .error e := by
  rw [readField]
  cases Value.field? entries name <;> simp

theorem isProblem_of_readField (hread : ∀ {v e}, read v = .error e → e.IsProblem)
    (h : readField entries name otherwise read = .error e) : e.IsProblem := by
  obtain ⟨v, -, hv⟩ := readField_eq_error_iff.mp h
  exact hread hv

end Field

theorem ofEntries_eq_ok_iff {s : Settings} : ofEntries l entries = .ok s ↔ InEntries l entries s := by
  simp only [ofEntries, bind_eq_ok_iff, readField_eq_ok_iff readText_eq_ok_iff,
    readField_eq_ok_iff readTimeout_eq_ok_iff, readField_eq_ok_iff readCommand_eq_ok_iff, pure, Except.pure,
    Except.ok.injEq]
  constructor
  · rintro ⟨_, hendpoint, _, hbuild, _, htimeout, _, hcommand, rfl⟩
    exact ⟨hendpoint, hbuild, htimeout, hcommand⟩
  · rintro ⟨hendpoint, hbuild, htimeout, hcommand⟩
    exact ⟨_, hendpoint, _, hbuild, _, htimeout, _, hcommand, rfl⟩

theorem ofEntries_eq_error_iff (he : ¬e.IsProblem) :
    ofEntries l entries = .error e ↔
      (∃ t, Holds entries "endpoint" defaults.endpoint IsText t) ∧
        (∃ t, Holds entries "build-directory" defaults.buildDirectory IsText t) ∧
          e = .timeoutRange ∧ ∃ n : Nat, Value.field? entries "timeout" = some (.int n) ∧ Decimal.rangeEnd ≤ n := by
  have htext : ∀ {name : String} {otherwise : Text},
      readField entries name otherwise (readText name) ≠ .error e :=
    fun h => he (isProblem_of_readField isProblem_of_readText h)
  have hcommand : readField entries "parser-command" defaults.parserCommand (readCommand l) ≠ .error e :=
    fun h => he (isProblem_of_readField isProblem_of_readCommand h)
  simp only [ofEntries, bind_eq_error_iff, readField_eq_ok_iff readText_eq_ok_iff, htext, hcommand, false_or,
    readField_eq_error_iff, readTimeout_eq_error_iff he, pure, Except.pure, reduceCtorEq, and_false, exists_false,
    or_false]
  constructor
  · rintro ⟨t, hendpoint, t', hbuild, v, hv, hrange, n, rfl, hn⟩
    exact ⟨⟨t, hendpoint⟩, ⟨t', hbuild⟩, hrange, n, hv, hn⟩
  · rintro ⟨⟨t, hendpoint⟩, ⟨t', hbuild⟩, hrange, n, hv, hn⟩
    exact ⟨t, hendpoint, t', hbuild, _, hv, hrange, n, rfl, hn⟩

end Entries

/-! ## The settings of a value -/

section Value

variable {l : Loaded} {s : Settings} {e : Failure}

theorem ofLoaded_of_null (h : l.root = .null) : ofLoaded l = .ok defaults := by
  simp only [ofLoaded, h]

theorem ofLoaded_of_mapping {entries : List (Value × Value)} (h : l.members? l.root = some (.map entries)) :
    ofLoaded l = ofEntries l entries := by
  have hroot : l.root ≠ .null := by
    intro hroot
    rw [hroot] at h
    cases h
  simp only [ofLoaded, h]

/-- A value that is neither null nor a mapping is no settings. -/
theorem ofLoaded_of_other (hroot : l.root ≠ .null) (h : ∀ entries, l.members? l.root ≠ some (.map entries)) :
    ofLoaded l = .error (.problem .noMapping) := by
  simp only [ofLoaded]

theorem ofLoaded_eq_ok_iff : ofLoaded l = .ok s ↔ InValue l s := by
  constructor
  · intro h
    by_cases hroot : l.root = .null
    · rw [ofLoaded_of_null hroot] at h
      cases h
      exact .null hroot
    by_cases hmapping : ∃ entries, l.members? l.root = some (.map entries)
    · obtain ⟨entries, hentries⟩ := hmapping
      rw [ofLoaded_of_mapping hentries] at h
      exact .mapping hentries (ofEntries_eq_ok_iff.mp h)
    · rw [ofLoaded_of_other hroot (not_exists.mp hmapping)] at h
      cases h
  · intro h
    cases h with
    | null h => exact ofLoaded_of_null h
    | mapping h hs => rw [ofLoaded_of_mapping h, ofEntries_eq_ok_iff.mpr hs]

theorem ofLoaded_eq_error_iff (he : ¬e.IsProblem) : ofLoaded l = .error e ↔ e = .timeoutRange ∧ MeetsTooLong l := by
  constructor
  · intro h
    by_cases hroot : l.root = .null
    · rw [ofLoaded_of_null hroot] at h
      cases h
    by_cases hmapping : ∃ entries, l.members? l.root = some (.map entries)
    · obtain ⟨entries, hentries⟩ := hmapping
      rw [ofLoaded_of_mapping hentries, ofEntries_eq_error_iff he] at h
      obtain ⟨hendpoint, hbuild, hrange, n, hn, hle⟩ := h
      exact ⟨hrange, entries, n, ⟨hentries, hendpoint, hbuild, hn⟩, hle⟩
    · rw [ofLoaded_of_other hroot (not_exists.mp hmapping)] at h
      cases h
      exact absurd trivial he
  · rintro ⟨hrange, entries, n, hmeets, hle⟩
    rw [ofLoaded_of_mapping hmeets.mapping, ofEntries_eq_error_iff he]
    exact ⟨hmeets.endpoint, hmeets.buildDirectory, hrange, n, hmeets.timeout, hle⟩

theorem TakesNoNumber.exists_inValue (h : TakesNoNumber l) :
    ∃ s x, InValue l s ∧ s.timeout = some x ∧ x.isNaN = true := by
  obtain ⟨entries, x, hmeets, hx, words, hcommand⟩ := h
  obtain ⟨endpoint, hendpoint⟩ := hmeets.endpoint
  obtain ⟨buildDirectory, hbuild⟩ := hmeets.buildDirectory
  have hentries : InEntries l entries ⟨endpoint, buildDirectory, some x, words⟩ :=
    ⟨hendpoint, hbuild, .field hmeets.timeout (.notANumber hx), hcommand⟩
  exact ⟨_, x, .mapping hmeets.mapping hentries, rfl, hx⟩

/-- The time to wait comes from its field, so what is no number comes from a field that holds it. -/
theorem InValue.pos_or_takesNoNumber (h : InValue l s) {x : Float} (hx : s.timeout = some x) :
    0 < x ∨ TakesNoNumber l := by
  cases h with
  | null h => cases hx
  | @mapping entries _ h hs =>
      have hholds := hs.timeout
      rw [hx] at hholds
      rcases hholds with ⟨hv, hwait⟩ | hv
      cases hwait with
      | int hn hrange => exact .inl (Decimal.nearest_one_pos hn)
      | float hpos => exact .inl hpos
      | notANumber hnan =>
          have hmeets : MeetsTimeout l entries (.float x) := ⟨h, ⟨_, hs.endpoint⟩, ⟨_, hs.buildDirectory⟩, hv⟩
          exact .inr ⟨entries, x, hmeets, hnan, _, hs.parserCommand⟩

theorem foreseen_of_inValue_iff (h : InValue l s) : (∀ x ∈ s.timeout, 0 < x) ↔ ¬TakesNoNumber l := by
  constructor
  · intro hpos htakes
    obtain ⟨s', x, hs', hx, hnan⟩ := htakes.exists_inValue
    obtain rfl : s = s' := Except.ok.inj ((ofLoaded_eq_ok_iff.mpr h).symm.trans (ofLoaded_eq_ok_iff.mpr hs'))
    exact Decimal.not_pos_of_isNaN hnan (hpos x hx)
  · intro hnumber x hx
    exact (h.pos_or_takesNoNumber hx).resolve_right hnumber

theorem foreseen_ofLoaded_iff : Foreseen (ofLoaded l) ↔ ¬MeetsTooLong l ∧ ¬TakesNoNumber l := by
  have hlong : MeetsTooLong l → ofLoaded l = .error .timeoutRange :=
    fun h => (ofLoaded_eq_error_iff id).mpr ⟨rfl, h⟩
  cases hl : ofLoaded l with
  | ok s =>
      have hshort : ¬MeetsTooLong l := by
        intro h
        rw [hlong h] at hl
        cases hl
      rw [and_iff_right hshort]
      exact foreseen_of_inValue_iff (ofLoaded_eq_ok_iff.mp hl)
  | error e =>
      by_cases he : e.IsProblem
      · refine iff_of_true he ⟨fun h => ?_, fun h => ?_⟩
        · rw [hlong h] at hl
          cases hl
          exact he
        · obtain ⟨s, x, hs, -⟩ := h.exists_inValue
          rw [ofLoaded_eq_ok_iff.mpr hs] at hl
          cases hl
      · exact iff_of_false he fun h => h.1 ((ofLoaded_eq_error_iff he).mp hl).2

end Value

/-! ## The settings of a text -/

section Text

variable {t : Text}

theorem parse_of_read {l : Loaded} (h : Yaml.read t = .ok l) : parse t = ofLoaded l := by
  simp only [parse, h]

theorem parse_eq_ok_iff {s : Settings} : parse t = .ok s ↔ ∃ l, Yaml.read t = .ok l ∧ InValue l s := by
  rw [parse]
  cases Yaml.read t with
  | ok l => simp [ofLoaded_eq_ok_iff]
  | error fault => cases fault <;> simp

theorem parse_eq_timeoutRange_iff :
    parse t = .error .timeoutRange ↔ ∃ l, Yaml.read t = .ok l ∧ MeetsTooLong l := by
  have hrange : ¬Failure.timeoutRange.IsProblem := id
  rw [parse]
  cases Yaml.read t with
  | ok l => simp [ofLoaded_eq_error_iff hrange]
  | error fault => cases fault <;> simp

/-- A text without a value is a problem if its form is at fault, and no foreseen end otherwise. -/
theorem foreseen_parse_of_fault {fault : Yaml.Fault} (h : Yaml.read t = .error fault) :
    Foreseen (parse t) ↔ fault = .malformed := by
  rw [parse, h]
  cases fault <;> simp [Foreseen, Failure.IsProblem]

end Text

/-- A text that has a value gives settings or a problem, and the time to wait is positive if there is one, unless that
time is an integer beyond the range of numbers or no number. -/
theorem parse_foreseen_iff (t : Text) :
    (∀ s, parse t = .ok s ↔ ∃ l, Yaml.read t = .ok l ∧ InValue l s) ∧
      (parse t = .error .timeoutRange ↔ ∃ l, Yaml.read t = .ok l ∧ MeetsTooLong l) ∧
      (Foreseen (parse t) ↔
        Yaml.read t = .error .malformed ∨ ∃ l, Yaml.read t = .ok l ∧ ¬MeetsTooLong l ∧ ¬TakesNoNumber l) := by
  refine ⟨fun s => parse_eq_ok_iff, parse_eq_timeoutRange_iff, ?_⟩
  cases hread : Yaml.read t with
  | ok l => simp [parse_of_read hread, foreseen_ofLoaded_iff]
  | error fault => simp [foreseen_parse_of_fault hread]

/-- The time to wait is no number. -/
def numberlessText : Text := Text.ofString "timeout: .nan"

/-- The time to wait has 309 digits. -/
def outOfRangeText : Text := Text.ofString "timeout: 2" ++ List.replicate 308 (.ofChar '0')

theorem parse_unforeseen_timeouts :
    (∃ l s x, Yaml.read numberlessText = .ok l ∧ parse numberlessText = .ok s ∧ s.timeout = some x ∧ ¬0 < x) ∧
      (∃ l, Yaml.read outOfRangeText = .ok l ∧ parse outOfRangeText = .error .timeoutRange) ∧
      ¬Foreseen (parse numberlessText) ∧ ¬Foreseen (parse outOfRangeText) := by
  have hnan : ((parse numberlessText).toOption.bind Settings.timeout).any Float.isNaN = true := by
    decide +kernel
  have hrange : (match parse outOfRangeText with | .error e => decide (e = .timeoutRange) | .ok _ => false) = true := by
    decide +kernel
  have hnumberless : ∃ s x, parse numberlessText = .ok s ∧ s.timeout = some x ∧ ¬0 < x := by
    cases hparse : parse numberlessText with
    | error e => rw [hparse] at hnan; cases hnan
    | ok s =>
        rw [hparse] at hnan
        obtain ⟨x, hx, hisNaN⟩ := (Option.any_eq_true Float.isNaN s.timeout).mp hnan
        exact ⟨s, x, rfl, hx, Decimal.not_pos_of_isNaN hisNaN⟩
  have houtOfRange : parse outOfRangeText = .error .timeoutRange := by
    split at hrange
    · rename_i hparse
      rw [hparse, of_decide_eq_true hrange]
    · cases hrange
  obtain ⟨s, x, hparse, hx, hpos⟩ := hnumberless
  obtain ⟨l, hread, -⟩ := parse_eq_ok_iff.mp hparse
  obtain ⟨l', hread', -⟩ := parse_eq_timeoutRange_iff.mp houtOfRange
  refine ⟨⟨l, s, x, hread, hparse, hx, hpos⟩, ⟨l', hread', houtOfRange⟩, ?_, ?_⟩
  · rw [hparse]
    exact fun h => hpos (h x hx)
  · rw [houtOfRange]
    exact id

end HyperEvolve.Settings
