import Ketabdaneh.Library.Url
import Ketabdaneh.Web.Auth.ReturnTo

/-!
This module contains when the check of `returnTo` is sound against the URL standard.
-/

namespace Web

open Text Url

/-- The text is a locale with `/` and `t` after it, or with nothing, which counts as a slash. -/
def Names (value locale t : Str) : Prop :=
  value = cp '/' :: (locale ++ cp '/' :: t) ∨ value = cp '/' :: locale ∧ t = []

structure Passes (t : Str) : Prop where
  line : ∀ c ∈ t, isLineTerminator c = false
  colon : cp ':' ∉ t
  backslash : cp '\\' ∉ t
  login : t ≠ ofString "login"
  below : ¬ofString "login/" <+: t
  query : ¬ofString "login?" <+: t

theorem matchLocale_eq_some {value locale : Str} {target : ReturnTarget}
    : matchLocale value locale = some target
        ↔
      ∃ t, Names value locale t ∧ (∀ c ∈ t, isLineTerminator c = false)
        ∧ target = ⟨locale, cp '/' :: t⟩ := by
  have hslash : ofString "/" = [cp '/'] := rfl
  unfold matchLocale
  rw [Option.bind_eq_bind, Option.bind_eq_some_iff]
  constructor
  . rintro ⟨rest, hrest, h⟩
    rw [List.dropPrefix?_eq_some_iff] at hrest
    rcases hrest with ⟨pre, hvalue, hpre⟩
    rw [beq_iff_eq] at hpre
    rw [hpre] at hvalue
    cases rest with
    | nil =>
      rw [Option.some.injEq] at h
      refine ⟨[], ?_, ?_, ?_⟩
      . right
        rw [hvalue, List.append_nil]
        exact ⟨rfl, rfl⟩
      . simp
      . rw [← h, hslash]
    | cons c t =>
      simp only at h
      split at h
      . next hc =>
        rw [Option.some.injEq] at h
        refine ⟨t, ?_, ?_, ?_⟩
        . left
          rw [hvalue, hc.1]
          rfl
        . have hall := hc.2
          rw [List.all_eq_true] at hall
          intro d hd
          have hd := hall d hd
          rwa [Bool.not_eq_true'] at hd
        . rw [← h, hc.1]
      . injection h
  . rintro ⟨t, hnames, hline, htarget⟩
    rw [htarget]
    rcases hnames with hvalue | ⟨hvalue, hnil⟩
    . refine ⟨cp '/' :: t, ?_, ?_⟩
      . rw [List.dropPrefix?_eq_some_iff]
        refine ⟨cp '/' :: locale, ?_, ?_⟩
        . rw [hvalue]
          rfl
        . apply beq_self_eq_true
      . have hall : t.all (!isLineTerminator ·) = true := by
          rw [List.all_eq_true]
          intro c hc
          rw [hline c hc]
          rfl
        simp only [hall, and_self, if_true]
    . refine ⟨[], ?_, ?_⟩
      . rw [List.dropPrefix?_eq_some_iff]
        refine ⟨cp '/' :: locale, ?_, ?_⟩
        . rw [hvalue, List.append_nil]
        . apply beq_self_eq_true
      . rw [hnil, hslash]

theorem not_names_fa_en {value t u : Str} (hfa : Names value (ofString "fa") t)
    (hen : Names value (ofString "en") u) : False := by
  have hsecond : ∀ {locale s : Str}, locale ∈ locales → Names value locale s →
      value.tail.head? = locale.head? := by
    intro locale s hlocale h
    have hne : locale ≠ [] := by
      intro hnil
      rw [hnil] at hlocale
      revert hlocale
      decide
    rcases h with h | ⟨h, _⟩
    . rw [h, List.tail_cons, List.head?_append_of_ne_nil _ hne]
    . rw [h, List.tail_cons]
  have hsame := (hsecond (by decide) hfa).symm.trans (hsecond (by decide) hen)
  revert hsame
  decide

theorem splitLocalePath_eq_some {value : Str} {target : ReturnTarget}
    : splitLocalePath value = some target
        ↔
      target.locale ∈ locales ∧ matchLocale value target.locale = some target := by
  have hlocale : ∀ {locale found}, matchLocale value locale = some found → found.locale = locale := by
    intro locale found h
    rw [matchLocale_eq_some] at h
    rcases h with ⟨t, _, _, h⟩
    rw [h]
  constructor
  . intro h
    rcases List.exists_of_findSome?_eq_some h with ⟨locale, hmem, hmatch⟩
    rw [hlocale hmatch]
    exact ⟨hmem, hmatch⟩
  . rintro ⟨hmem, hmatch⟩
    simp only [locales, List.mem_cons, List.not_mem_nil, or_false] at hmem
    rw [splitLocalePath, locales, List.findSome?_cons]
    rcases hmem with hfa | hen
    . rw [hfa] at hmatch
      rw [hmatch]
    . rw [hen] at hmatch
      cases hfa : matchLocale value (ofString "fa") with
      | none => simp [hmatch]
      | some found =>
        rw [matchLocale_eq_some] at hfa hmatch
        rcases hfa with ⟨t, hfa, _⟩
        rcases hmatch with ⟨u, hen, _⟩
        exact absurd (not_names_fa_en hfa hen) id

theorem Names.head {value locale t : Str} (h : Names value locale t) (hlocale : locale ∈ locales)
    : ∃ c rest, value = cp '/' :: c :: rest ∧ c ≠ cp '/' ∧ c ≠ cp '\\' := by
  have hcons : ∃ c rest, locale = c :: rest ∧ c ≠ cp '/' ∧ c ≠ cp '\\' := by
    simp only [locales, List.mem_cons, List.not_mem_nil, or_false] at hlocale
    rcases hlocale with hfa | hen
    . exact ⟨cp 'f', [cp 'a'], hfa, by decide, by decide⟩
    . exact ⟨cp 'e', [cp 'n'], hen, by decide, by decide⟩
  rcases hcons with ⟨c, rest, hcons, hc⟩
  rcases h with h | ⟨h, _⟩
  . exact ⟨c, rest ++ cp '/' :: t, by rw [h, hcons]; rfl, hc⟩
  . exact ⟨c, rest, by rw [h, hcons], hc⟩

theorem Names.mem_iff {value locale t : Str} {c : CodePoint} (h : Names value locale t)
    (hlocale : c ∉ locale) (hslash : c ≠ cp '/') : c ∈ value ↔ c ∈ t := by
  rcases h with h | ⟨h, hnil⟩
  . rw [h]
    simp [hlocale, hslash]
  . rw [h, hnil]
    simp [hlocale, hslash]

theorem not_mem_locale {c : CodePoint} (hc : c = cp ':' ∨ c = cp '\\') {locale : Str}
    (h : locale ∈ locales) : c ∉ locale := by
  simp only [locales, List.mem_cons, List.not_mem_nil, or_false] at h
  rcases h with h | h
  all_goals
    rw [h]
    rcases hc with hc | hc
    all_goals
      rw [hc]
      decide

theorem Names.checks {value locale t : Str} (h : Names value locale t) (hlocale : locale ∈ locales)
    : value ≠ [] ∧ (ofString "/").isPrefixOf value = true ∧ (ofString "//").isPrefixOf value = false
        ∧ (ofString "/\\").isPrefixOf value = false := by
  rcases h.head hlocale with ⟨c, rest, hvalue, hslash, hbackslash⟩
  rw [hvalue]
  refine ⟨by simp, ?_, ?_, ?_⟩
  . simp [ofString, List.isPrefixOf]
  . simp [ofString, List.isPrefixOf, hslash.symm]
  . simp [ofString, List.isPrefixOf, hbackslash.symm]

theorem contains_eq_false_iff {value locale t : Str} {c : CodePoint}
    (hc : c = cp ':' ∨ c = cp '\\') (h : Names value locale t) (hlocale : locale ∈ locales)
    : value.contains c = false ↔ c ∉ t := by
  have hslash : c ≠ cp '/' := by
    rcases hc with hc | hc
    all_goals
      rw [hc]
      decide
  rw [← h.mem_iff (not_mem_locale hc hlocale) hslash, ← Bool.not_eq_true, List.contains_iff_mem]

theorem path_checks (t : Str)
    : (cp '/' :: t = ofString "/login" ↔ t = ofString "login")
        ∧ ((ofString "/login/").isPrefixOf (cp '/' :: t) = true ↔ ofString "login/" <+: t)
        ∧ ((ofString "/login?").isPrefixOf (cp '/' :: t) = true ↔ ofString "login?" <+: t) := by
  have hlogin : ofString "/login" = cp '/' :: ofString "login" := rfl
  have hbelow : ofString "/login/" = cp '/' :: ofString "login/" := rfl
  have hquery : ofString "/login?" = cp '/' :: ofString "login?" := rfl
  rw [hlogin, hbelow, hquery, List.isPrefixOf_iff_prefix, List.isPrefixOf_iff_prefix,
    List.cons_prefix_cons, List.cons_prefix_cons]
  simp

theorem sanitizeReturnTo_eq_some {raw : Str} {target : ReturnTarget}
    : sanitizeReturnTo (some raw) = some target
        ↔
      target.locale ∈ locales
        ∧ ∃ t, target.path = cp '/' :: t ∧ Names (trim raw) target.locale t ∧ Passes t := by
  constructor
  . intro h
    simp only [sanitizeReturnTo, Option.ite_none_left_eq_some] at h
    rcases h with ⟨_, _, _, hchars, h⟩
    cases hsplit : splitLocalePath (trim raw) with
    | none =>
      rw [hsplit] at h
      injection h
    | some split =>
      rw [hsplit] at h
      simp only [Option.ite_none_left_eq_some, Option.some.injEq] at h
      rcases h with ⟨hpath, h⟩
      rw [h] at hsplit hpath
      rw [splitLocalePath_eq_some] at hsplit
      rcases hsplit with ⟨hlocale, hmatch⟩
      rw [matchLocale_eq_some] at hmatch
      rcases hmatch with ⟨t, hnames, hline, htarget⟩
      rw [htarget] at hpath
      simp only [Bool.or_eq_true, not_or, Bool.not_eq_true, decide_eq_true_eq] at hpath hchars
      rcases path_checks t with ⟨hlogin, hbelow, hquery⟩
      refine ⟨hlocale, t, by rw [htarget], hnames, ?_⟩
      constructor
      . exact hline
      . exact (contains_eq_false_iff (Or.inl rfl) hnames hlocale).mp hchars.1
      . exact (contains_eq_false_iff (Or.inr rfl) hnames hlocale).mp hchars.2
      . rw [Ne, ← hlogin]
        exact hpath.1.1
      . rw [← hbelow, Bool.not_eq_true]
        exact hpath.1.2
      . rw [← hquery, Bool.not_eq_true]
        exact hpath.2
  . rintro ⟨hlocale, t, hpath, hnames, hpasses⟩
    have htarget : target = ⟨target.locale, cp '/' :: t⟩ := by
      rw [← hpath]
    have hmatch : matchLocale (trim raw) target.locale = some target := by
      rw [matchLocale_eq_some]
      exact ⟨t, hnames, hpasses.line, htarget⟩
    have hsplit := splitLocalePath_eq_some.mpr ⟨hlocale, hmatch⟩
    rcases hnames.checks hlocale with ⟨hne, hslash, htwo, hback⟩
    rcases path_checks t with ⟨hlogin, hbelow, hquery⟩
    have hcolon := (contains_eq_false_iff (Or.inl rfl) hnames hlocale).mpr hpasses.colon
    have hbackslash := (contains_eq_false_iff (Or.inr rfl) hnames hlocale).mpr hpasses.backslash
    simp only [sanitizeReturnTo, Option.ite_none_left_eq_some, hne, hslash, htwo, hback, hcolon,
      hbackslash, hsplit, hpath, hlogin, hbelow, hquery, Bool.or_eq_true, not_or]
    simp [hpasses.login, hpasses.below, hpasses.query]

def loginRoute (locale : Str) : List Str :=
  [locale, ofString "login"]

structure ReturnTarget.Safe (parseHost : Str → Option Str) (target : ReturnTarget) : Prop where
  locale : target.locale ∈ locales
  path : ∀ base, ∃ url, resolve parseHost base target.path = some url ∧ url.origin = base
  route : ∀ base, ∃ url, resolve parseHost base (cp '/' :: (target.locale ++ target.path)) = some url
    ∧ url.origin = base ∧ (∃ below, url.path = target.locale :: below)
    ∧ url.path ≠ loginRoute target.locale

/--
The text after the locale leads nowhere else: the URL parser does not find a second slash where it
begins, and its dot segments neither take the locale away nor leave the login route.
-/
structure Confined (locale t : Str) : Prop where
  slash : (cleanEnd t).head?.any isSlash = false
  within : (walk [locale] (segments (cleanEnd t))).head? = some locale
  login : walk [locale] (segments (cleanEnd t)) ≠ loginRoute locale

theorem resolve_locale {parseHost : Str → Option Str} {locale : Str} (h : locale ∈ locales)
    (base : Origin Str) (t : Str)
    : resolve parseHost base (cp '/' :: (locale ++ cp '/' :: t))
        =
      some ⟨base, walk [locale] (segments (cleanEnd t))⟩ := by
  simp only [locales, List.mem_cons, List.not_mem_nil, or_false] at h
  rcases h with h | h
  all_goals
    rw [h]
    apply resolve_below
    . decide
    . rw [← List.all_eq_true]
      decide
    . decide
    . decide

theorem safe_iff_confined (parseHost : Str → Option Str) {locale t : Str} (h : locale ∈ locales)
    : ReturnTarget.Safe parseHost ⟨locale, cp '/' :: t⟩ ↔ Confined locale t := by
  constructor
  . intro hsafe
    rcases hsafe.route ⟨[], none⟩ with ⟨url, hurl, _, ⟨below, hbelow⟩, hlogin⟩
    rw [resolve_locale h, Option.some.injEq] at hurl
    rw [← hurl] at hbelow hlogin
    constructor
    . exact stays_iff.mp hsafe.path
    . rw [List.head?_eq_some_iff]
      exact ⟨below, hbelow⟩
    . exact hlogin
  . intro hconfined
    constructor
    . exact h
    . exact stays_iff.mpr hconfined.slash
    . intro base
      refine ⟨_, resolve_locale h base t, rfl, ?_, hconfined.login⟩
      rw [← List.head?_eq_some_iff]
      exact hconfined.within

/-- The accepted values are safe exactly when what they have after the locale is confined. -/
theorem sanitizeReturnTo_safe_iff (parseHost : Str → Option Str) (raw : Option Str)
    : (∀ target, sanitizeReturnTo raw = some target → target.Safe parseHost)
        ↔
      ∀ s locale t, raw = some s → locale ∈ locales → Names (trim s) locale t → Passes t →
        Confined locale t := by
  cases raw with
  | none => simp [sanitizeReturnTo]
  | some s =>
    constructor
    . intro h r locale t hr hlocale hnames hpasses
      rw [Option.some.injEq] at hr
      rw [← hr] at hnames
      rw [← safe_iff_confined parseHost hlocale]
      apply h
      rw [sanitizeReturnTo_eq_some]
      exact ⟨hlocale, t, rfl, hnames, hpasses⟩
    . intro h target htarget
      rw [sanitizeReturnTo_eq_some] at htarget
      rcases htarget with ⟨hlocale, t, hpath, hnames, hpasses⟩
      have hsame : target = ⟨target.locale, cp '/' :: t⟩ := by
        rw [← hpath]
      rw [hsame, safe_iff_confined parseHost hlocale]
      exact h s target.locale t rfl hlocale hnames hpasses

def fa : Str :=
  ofString "fa"

def application : Origin Str :=
  ⟨ofString "app.example", none⟩

/-- Two slashes after the locale leave the origin, dot segments the locale, and a fragment is no check. -/
theorem sanitizeReturnTo_accepts_escapes :
    sanitizeReturnTo (some (ofString "/fa//evil.example")) = some ⟨fa, ofString "//evil.example"⟩
      ∧ (resolve some application (ofString "//evil.example")).map Resolved.origin
        = some ⟨ofString "evil.example", none⟩
      ∧ sanitizeReturnTo (some (ofString "/fa/%2e%2e/x")) = some ⟨fa, ofString "/%2e%2e/x"⟩
      ∧ (resolve some application (ofString "/fa/%2e%2e/x")).map Resolved.path = some [ofString "x"]
      ∧ sanitizeReturnTo (some (ofString "/fa/login#x")) = some ⟨fa, ofString "/login#x"⟩
      ∧ (resolve some application (ofString "/fa/login#x")).map Resolved.path = some (loginRoute fa)
      ∧ ¬∀ raw target, sanitizeReturnTo raw = some target → target.Safe some := by
  have haccepts : sanitizeReturnTo (some (ofString "/fa//evil.example"))
      = some ⟨fa, ofString "//evil.example"⟩ := by
    decide
  have hleaves : (resolve some application (ofString "//evil.example")).map Resolved.origin
      = some ⟨ofString "evil.example", none⟩ := by
    rfl
  refine ⟨haccepts, hleaves, by decide, by decide, by decide, by decide, ?_⟩
  intro h
  rcases (h _ _ haccepts).path application with ⟨url, hurl, horigin⟩
  rw [hurl, Option.map_some, horigin, Option.some.injEq] at hleaves
  injection hleaves with hhost _
  revert hhost
  decide

end Web
