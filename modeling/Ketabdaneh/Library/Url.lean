import Ketabdaneh.Library.Text.Decimal
import Mathlib.Data.List.DropRight

/-!
This module contains how the URL standard resolves a reference that begins with a slash against an
https URL: which origin it leads to, and which path. Its query and fragment are left out; the host
parser is a parameter.
-/

namespace Url

open Text

def isC0OrSpace (c : CodePoint) : Bool :=
  c.val ≤ 0x20

def isTabOrNewline (c : CodePoint) : Bool :=
  c.val = 9 || c.val = 10 || c.val = 13

/-- A backslash is a slash to the special schemes. -/
def isSlash (c : CodePoint) : Bool :=
  c = cp '/' || c = cp '\\'

def endsPath (c : CodePoint) : Bool :=
  c = cp '?' || c = cp '#'

def clean (s : Str) : Str :=
  (trimBy isC0OrSpace s).filter fun c => !isTabOrNewline c

section Encoding

def inPathSet (c : CodePoint) : Bool :=
  c.val ≤ 0x20 || 0x7E < c.val
    || [cp '"', cp '#', cp '<', cp '>', cp '?', cp '^', cp '`', cp '{', cp '}'].contains c

def percentByte (b : Nat) : Str :=
  [cp '%', cp (Nat.digitChar (b / 16)).toUpper, cp (Nat.digitChar (b % 16)).toUpper]

def utf8 (c : CodePoint) : List Nat :=
  let n := if isSurrogate c then 0xFFFD else c.val
  if n < 0x80 then
    [n]
  else if n < 0x800 then
    [0xC0 + n / 64, 0x80 + n % 64]
  else if n < 0x10000 then
    [0xE0 + n / 4096, 0x80 + n / 64 % 64, 0x80 + n % 64]
  else
    [0xF0 + n / 262144, 0x80 + n / 4096 % 64, 0x80 + n / 64 % 64, 0x80 + n % 64]

def encodePath (c : CodePoint) : Str :=
  if inPathSet c then (utf8 c).flatMap percentByte else [c]

end Encoding

section Path

def isSingleDot (segment : Str) : Bool :=
  [ofString ".", ofString "%2e"].contains (asciiLower segment)

def isDoubleDot (segment : Str) : Bool :=
  [ofString "..", ofString ".%2e", ofString "%2e.", ofString "%2e%2e"].contains (asciiLower segment)

def closeSegment (path : List Str) (segment : Str) (slash : Bool) : List Str :=
  if isDoubleDot segment then
    if slash then path.dropLast else path.dropLast ++ [[]]
  else if isSingleDot segment then
    if slash then path else path ++ [[]]
  else
    path ++ [segment]

def pathState (path : List Str) (buffer : Str) : Str → List Str
  | [] => closeSegment path buffer false
  | c :: s =>
    if isSlash c then
      pathState (closeSegment path buffer true) [] s
    else if endsPath c then
      closeSegment path buffer false
    else
      pathState path (buffer ++ encodePath c) s

end Path

/-- An origin of the scheme https; the default port is none. -/
structure Origin (Host : Type) where
  host : Host
  port : Option (Fin 65536)

structure Resolved (Host : Type) where
  origin : Origin Host
  path : List Str

section Resolve

variable {Host : Type} (parseHost : Str → Option Host)

def splitPort (inside : Bool) : Str → Str × Option Str
  | [] => ([], none)
  | c :: s =>
    if c = cp ':' ∧ !inside then
      ([], some s)
    else
      let rest := splitPort (c = cp '[' || (c ≠ cp ']' && inside)) s
      (c :: rest.1, rest.2)

def parsePort (text : Str) : Option (Option (Fin 65536)) :=
  if text = [] then
    some none
  else do
    let n ← readDecimal text
    if h : n < 65536 then
      some (if n = 443 then none else some ⟨n, h⟩)
    else
      none

/-- The origin of an authority, whose credentials end with its last at sign. -/
def parseAuthority (authority : Str) : Option (Origin Host) := do
  let (hostText, portText) := splitPort false (authority.rtakeWhile (· ≠ cp '@'))
  if hostText = [] then
    none
  else
    let host ← parseHost hostText
    let port ← parsePort (portText.getD [])
    some ⟨host, port⟩

def resolveAuthority (s : Str) : Option (Resolved Host) := do
  let (authority, rest) := (s.dropWhile isSlash).span fun c => !isSlash c && !endsPath c
  let origin ← parseAuthority parseHost authority
  some ⟨origin, pathState [] [] (if rest.head?.any isSlash then rest.tail else rest)⟩

/-- Resolve a reference that begins with a slash. -/
def resolve (base : Origin Host) (s : Str) : Option (Resolved Host) :=
  match clean s with
  | [] => none
  | c :: rest =>
    if !isSlash c then
      none
    else if rest.head?.any isSlash then
      resolveAuthority parseHost rest.tail
    else
      some ⟨base, pathState [] [] rest⟩

end Resolve

section Segments

def cleanEnd (s : Str) : Str :=
  (s.rdropWhile isC0OrSpace).filter fun c => !isTabOrNewline c

def segments (s : Str) : List Str :=
  ((s.takeWhile fun c => !endsPath c).splitOnP isSlash).map fun segment => segment.flatMap encodePath

def walk (path : List Str) : List Str → List Str
  | [] => path
  | [segment] => closeSegment path segment false
  | segment :: next :: rest => walk (closeSegment path segment true) (next :: rest)

theorem walk_cons {path segments : List Str} {segment : Str} (h : segments ≠ [])
    : walk path (segment :: segments) = walk (closeSegment path segment true) segments := by
  cases segments with
  | nil => exact absurd rfl h
  | cons next rest => rfl

theorem segments_ne_nil (s : Str) : segments s ≠ [] := by
  rw [segments, Ne, List.map_eq_nil_iff]
  apply List.splitOnP_ne_nil

theorem endsPath_of_isSlash {c : CodePoint} (h : isSlash c = true) : endsPath c = false := by
  rw [isSlash, Bool.or_eq_true, decide_eq_true_eq, decide_eq_true_eq] at h
  rcases h with h | h
  . rw [h]
    decide
  . rw [h]
    decide

theorem modifyHead_nil_append (segments : List Str)
    : segments.modifyHead (fun segment => [] ++ segment) = segments := by
  cases segments with
  | nil => rfl
  | cons segment rest => rfl

theorem pathState_eq_walk (path : List Str) (buffer s : Str)
    : pathState path buffer s = walk path ((segments s).modifyHead fun segment => buffer ++ segment) := by
  induction s generalizing path buffer with
  | nil => simp [pathState, segments, walk]
  | cons c s ih =>
    simp only [pathState]
    split
    . next hslash =>
      have hsegments : segments (c :: s) = [] :: segments s := by
        rw [segments, List.takeWhile_cons_of_pos (by rw [endsPath_of_isSlash hslash]; rfl),
          List.splitOnP_cons_eq_if_modifyHead, if_pos hslash]
        rfl
      rw [ih, hsegments, modifyHead_nil_append, List.modifyHead_cons, List.append_nil,
        walk_cons (segments_ne_nil s)]
    . next hslash =>
      split
      . next hends =>
        have hsegments : segments (c :: s) = [[]] := by
          rw [segments, List.takeWhile_cons_of_neg (by simp [hends])]
          rfl
        rw [hsegments]
        simp [walk]
      . next hends =>
        have hsegments : segments (c :: s)
            = (segments s).modifyHead fun segment => encodePath c ++ segment := by
          rw [segments, List.takeWhile_cons_of_pos (by simp [hends]),
            List.splitOnP_cons_eq_if_modifyHead, if_neg hslash, segments]
          cases List.splitOnP isSlash (s.takeWhile fun c => !endsPath c) with
          | nil => rfl
          | cons first rest => simp
        rw [ih, hsegments, List.modifyHead_modifyHead]
        congr 2
        funext segment
        rw [Function.comp_apply, List.append_assoc]

def isPlain (c : CodePoint) : Bool :=
  !inPathSet c && !isSlash c

theorem pathState_plain {segment : Str} (h : ∀ c ∈ segment, isPlain c = true) (path : List Str)
    (buffer s : Str) : pathState path buffer (segment ++ s) = pathState path (buffer ++ segment) s := by
  induction segment generalizing buffer with
  | nil => simp
  | cons c segment ih =>
    rw [List.forall_mem_cons] at h
    have hplain := h.1
    rw [isPlain, Bool.and_eq_true, Bool.not_eq_true', Bool.not_eq_true'] at hplain
    have hends : endsPath c = false := by
      cases hc : endsPath c with
      | false => rfl
      | true =>
        rw [endsPath, Bool.or_eq_true, decide_eq_true_eq, decide_eq_true_eq] at hc
        have hset := hplain.1
        rcases hc with hc | hc
        . rw [hc] at hset
          revert hset
          decide
        . rw [hc] at hset
          revert hset
          decide
    rw [List.cons_append, pathState, hplain.2, hends, encodePath, hplain.1]
    simp only [Bool.false_eq_true, if_false]
    rw [ih h.2, List.append_assoc]
    rfl

end Segments

section Clean

theorem isC0OrSpace_of_isTabOrNewline {c : CodePoint} (h : isTabOrNewline c = true)
    : isC0OrSpace c = true := by
  simp only [isTabOrNewline, Bool.or_eq_true, decide_eq_true_eq] at h
  rw [isC0OrSpace, decide_eq_true_eq]
  omega

theorem cleanEnd_cons {c : CodePoint} (h : isC0OrSpace c = false) (s : Str)
    : cleanEnd (c :: s) = c :: cleanEnd s := by
  have hkeep : (c :: s).rdropWhile isC0OrSpace = c :: s.rdropWhile isC0OrSpace := by
    rw [List.rdropWhile, List.reverse_cons, List.dropWhile_append]
    split
    . next hall =>
      rw [List.isEmpty_iff] at hall
      simp [List.rdropWhile, hall, h]
    . simp [List.rdropWhile]
  have htab : isTabOrNewline c = false := by
    cases hc : isTabOrNewline c with
    | false => rfl
    | true => rw [isC0OrSpace_of_isTabOrNewline hc] at h; assumption
  rw [cleanEnd, hkeep, List.filter_cons_of_pos (by simp [htab])]
  rfl

theorem cleanEnd_append {segment : Str} (h : ∀ c ∈ segment, isC0OrSpace c = false) (s : Str)
    : cleanEnd (segment ++ s) = segment ++ cleanEnd s := by
  induction segment with
  | nil => rfl
  | cons c segment ih =>
    rw [List.forall_mem_cons] at h
    rw [List.cons_append, cleanEnd_cons h.1, ih h.2]
    rfl

theorem clean_cons {c : CodePoint} (h : isC0OrSpace c = false) (s : Str)
    : clean (c :: s) = c :: cleanEnd s := by
  rw [← cleanEnd_cons h, clean, trimBy, List.dropWhile_cons_of_neg (by simp [h])]
  rfl

end Clean

section Resolve

variable {Host : Type} {parseHost : Str → Option Host}

theorem resolve_slash (base : Origin Host) (s : Str)
    : resolve parseHost base (cp '/' :: s)
        =
      if (cleanEnd s).head?.any isSlash then
        resolveAuthority parseHost (cleanEnd s).tail
      else
        some ⟨base, pathState [] [] (cleanEnd s)⟩ := by
  have hslash : isSlash (cp '/') = true := by decide
  rw [resolve, clean_cons (by decide)]
  simp only [hslash, Bool.not_true, Bool.false_eq_true, if_false]

/-- A reference stays on every origin it can be resolved against unless two slashes begin it. -/
theorem stays_iff [Nonempty Host] {s : Str}
    : (∀ base, ∃ url, resolve parseHost base (cp '/' :: s) = some url ∧ url.origin = base)
        ↔
      (cleanEnd s).head?.any isSlash = false := by
  simp only [resolve_slash]
  cases (cleanEnd s).head?.any isSlash with
  | false =>
    apply iff_of_true
    . intro base
      exact ⟨_, rfl, rfl⟩
    . rfl
  | true =>
    apply iff_of_false
    . intro h
      -- the origin that the authority names is the same for all bases
      rcases ‹Nonempty Host› with ⟨host⟩
      rcases h ⟨host, none⟩ with ⟨url, hurl, horigin⟩
      rcases h ⟨host, some 1⟩ with ⟨other, hother, hsame⟩
      rw [if_pos rfl] at hurl hother
      rw [hurl, Option.some.injEq] at hother
      rw [hother, hsame] at horigin
      injection horigin with _ hport
      injection hport
    . simp

theorem resolve_below {segment : Str} (hne : segment ≠ []) (hplain : ∀ c ∈ segment, isPlain c = true)
    (hsingle : isSingleDot segment = false) (hdouble : isDoubleDot segment = false)
    (base : Origin Host) (s : Str)
    : resolve parseHost base (cp '/' :: (segment ++ cp '/' :: s))
        =
      some ⟨base, walk [segment] (segments (cleanEnd s))⟩ := by
  have hclean : ∀ c ∈ segment, isC0OrSpace c = false := by
    intro c hc
    have h := hplain c hc
    rw [isPlain, inPathSet, Bool.and_eq_true, Bool.not_eq_true', Bool.or_eq_false_iff,
      Bool.or_eq_false_iff] at h
    exact h.1.1.1
  have hhead : ((segment ++ cp '/' :: cleanEnd s).head?.any isSlash) = false := by
    cases segment with
    | nil => exact absurd rfl hne
    | cons c segment =>
      have h := hplain c List.mem_cons_self
      rw [isPlain, Bool.and_eq_true, Bool.not_eq_true', Bool.not_eq_true'] at h
      exact h.2
  have hwalk : pathState [segment] [] (cleanEnd s) = walk [segment] (segments (cleanEnd s)) := by
    rw [pathState_eq_walk, modifyHead_nil_append]
  have hclose : closeSegment [] segment true = [segment] := by
    rw [closeSegment, hsingle, hdouble]
    rfl
  have hcut : pathState [] segment (cp '/' :: cleanEnd s) = pathState [segment] [] (cleanEnd s) := by
    rw [pathState, if_pos (by decide), hclose]
  rw [resolve_slash, cleanEnd_append hclean, cleanEnd_cons (by decide), hhead,
    if_neg Bool.false_ne_true, pathState_plain hplain, List.nil_append, hcut, hwalk]

end Resolve

end Url
