import Ketabdaneh.Web.Auth.AuthGate
import Ketabdaneh.Web.Auth.LoginForm
import Ketabdaneh.Web.Auth.Lemmas.ReturnTo

/-!
This module contains that a login returns to the route which the gate recorded.
-/

namespace Web

open Text

/-- A protected route of a locale, as the pathname of a URL: that has no query and is one line. -/
structure Recorded (locale pathname : Str) : Prop where
  configured : locale ∈ locales
  prefixed : pathname = cp '/' :: locale ∨ ∃ t, pathname = cp '/' :: (locale ++ cp '/' :: t)
  colon : cp ':' ∉ pathname
  backslash : cp '\\' ∉ pathname
  trimmed : trim pathname = pathname
  segments : [] ∉ pathname.tail.splitOn (cp '/')
  login : pathname ≠ cp '/' :: (locale ++ ofString "/login")
  below : ¬(cp '/' :: (locale ++ ofString "/login/")) <+: pathname
  query : cp '?' ∉ pathname
  line : ∀ c ∈ pathname, isLineTerminator c = false

namespace Recorded

variable {locale pathname t : Str}

theorem names (h : Recorded locale pathname)
    : ∃ t, Names pathname locale t ∧ (t = [] → pathname = cp '/' :: locale) := by
  cases h.prefixed with
  | inl hlocale => exact ⟨[], Or.inr ⟨hlocale, rfl⟩, fun _ => hlocale⟩
  | inr hbelow =>
    obtain ⟨t, ht⟩ := hbelow
    refine ⟨t, Or.inl ht, ?_⟩
    intro hnil
    have hsegments := h.segments
    have hlocale := h.configured
    rw [ht, hnil, List.tail_cons] at hsegments
    simp only [locales, List.mem_cons, List.not_mem_nil, or_false] at hlocale
    cases hlocale with
    | inl hfa =>
      rw [hfa] at hsegments
      exact absurd hsegments (by decide)
    | inr hen =>
      rw [hen] at hsegments
      exact absurd hsegments (by decide)

/-- The check of `returnTo` finds nothing to reject. -/
theorem passes (h : Recorded locale pathname) (hnames : Names pathname locale t) : Passes t := by
  have hmem : ∀ c ∈ t, c ∈ pathname := by
    intro c hc
    cases hnames with
    | inl hvalue =>
      rw [hvalue]
      simp [hc]
    | inr hvalue =>
      rw [hvalue.2] at hc
      contradiction
  have hquery : ¬ofString "login?" <+: t := by
    intro hstart
    apply h.query
    exact hmem _ (hstart.subset (by decide))
  constructor
  case line =>
    intro c hc
    exact h.line c (hmem c hc)
  case colon =>
    intro hc
    exact h.colon (hmem _ hc)
  case backslash =>
    intro hc
    exact h.backslash (hmem _ hc)
  case query => exact hquery
  case login =>
    intro hlogin
    cases hnames with
    | inl hvalue =>
      apply h.login
      rw [hvalue, hlogin]
      rfl
    | inr hvalue =>
      rw [hvalue.2] at hlogin
      contradiction
  case below =>
    intro hstart
    cases hnames with
    | inl hvalue =>
      apply h.below
      obtain ⟨rest, hrest⟩ := hstart
      exists rest
      rw [hvalue, ← hrest]
      simp [ofString]
    | inr hvalue =>
      rw [hvalue.2] at hstart
      exact absurd (List.prefix_nil.mp hstart) (by decide)

theorem sanitizeReturnTo_eq (h : Recorded locale pathname) (hnames : Names pathname locale t)
    : sanitizeReturnTo (some pathname) = some ⟨locale, cp '/' :: t⟩ := by
  rw [sanitizeReturnTo_eq_some]
  refine ⟨h.configured, t, rfl, ?_, h.passes hnames⟩
  rwa [h.trimmed]

end Recorded

/--
The router puts the active locale before a path, and the root becomes the locale alone; `localize` is
that of the navigation library.
-/
def Localizes (localize : Str → Str → Str) : Prop :=
  ∀ locale t, localize locale (cp '/' :: t) = cp '/' :: (locale ++ if t = [] then [] else cp '/' :: t)

/-- What the gate records, the login form takes, and its router leads back to it. -/
theorem returnTo_roundTrip (props : GateProps) (h : Recorded props.locale props.pathname)
    (localize : Str → Str → Str) (hlocalize : Localizes localize)
    : (∃ path, sanitizeReturnTo (some (AuthGate.toLogin props).returnTo) = some ⟨props.locale, path⟩
          ∧ (cp '/' :: (props.locale ++ path) = props.pathname
            ∨ props.pathname = cp '/' :: props.locale ∧ path = ofString "/"))
        ∧ localize props.locale (LoginForm.destination (some (AuthGate.toLogin props).returnTo))
          = props.pathname := by
  obtain ⟨t, hnames, hroot⟩ := h.names
  have hsanitize : sanitizeReturnTo (some (AuthGate.toLogin props).returnTo)
      = some ⟨props.locale, cp '/' :: t⟩ := h.sanitizeReturnTo_eq hnames
  constructor
  . refine ⟨cp '/' :: t, hsanitize, ?_⟩
    cases hnames with
    | inl hvalue => exact Or.inl hvalue.symm
    | inr hvalue =>
      right
      rw [hvalue.2]
      exact ⟨hvalue.1, rfl⟩
  . unfold LoginForm.destination
    rw [hsanitize]
    dsimp only
    rw [hlocalize]
    by_cases hnil : t = []
    . rw [if_pos hnil, List.append_nil, hroot hnil]
    . rw [if_neg hnil]
      cases hnames with
      | inl hvalue => rw [hvalue]
      | inr hvalue => exact absurd hvalue.2 hnil

def eventRoute : GateProps where
  isLoading := false
  isAuthenticated := false
  pathname := ofString "/fa/events/42"
  locale := ofString "fa"

def prefixLocale (locale path : Str) : Str :=
  cp '/' :: (locale ++ if path = ofString "/" then [] else path)

theorem recorded_eventRoute : Recorded eventRoute.locale eventRoute.pathname where
  configured := by decide
  prefixed := Or.inr ⟨ofString "events/42", rfl⟩
  colon := by decide
  backslash := by decide
  trimmed := by decide +kernel
  segments := by decide
  login := by decide
  below := by decide
  query := by decide
  line := by
    have hall : eventRoute.pathname.all (!isLineTerminator ·) = true := by
      decide
    rw [List.all_eq_true] at hall
    intro c hc
    simpa using hall c hc

theorem localizes_prefixLocale : Localizes prefixLocale := by
  intro locale t
  unfold prefixLocale
  by_cases hnil : t = []
  . rw [hnil]
    rfl
  . rw [if_neg hnil, if_neg]
    intro hroot
    exact hnil (List.cons.inj hroot).2

theorem eventRoute_roundTrip
    : (∃ path, sanitizeReturnTo (some (AuthGate.toLogin eventRoute).returnTo)
            = some ⟨eventRoute.locale, path⟩
          ∧ (cp '/' :: (eventRoute.locale ++ path) = eventRoute.pathname
            ∨ eventRoute.pathname = cp '/' :: eventRoute.locale ∧ path = ofString "/"))
        ∧ prefixLocale eventRoute.locale
            (LoginForm.destination (some (AuthGate.toLogin eventRoute).returnTo))
          = eventRoute.pathname := by
  exact returnTo_roundTrip eventRoute recorded_eventRoute prefixLocale localizes_prefixLocale

end Web
