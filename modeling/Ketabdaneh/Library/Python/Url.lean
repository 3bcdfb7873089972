import Ketabdaneh.Library.Python.Int

/-!
This module contains how Python's `urllib.parse` splits a URL, and reads its port and its query.
-/

namespace Python

open Text

structure SplitResult where
  scheme : Str
  netloc : Str
  path : Str
  query : Str
  fragment : Str

/-- The text before the first separator and the one after it, if there is one. -/
def partition (separator : CodePoint) (s : Str) : Str × Option Str :=
  match s.dropWhile (· ≠ separator) with
  | [] => (s, none)
  | _ :: rest => (s.takeWhile (· ≠ separator), some rest)

def isC0ControlOrSpace (c : CodePoint) : Bool :=
  c.val ≤ 0x20

def isUnsafe (c : CodePoint) : Bool :=
  c = cp '\t' || c = cp '\r' || c = cp '\n'

def isAsciiAlpha (c : CodePoint) : Bool :=
  (0x41 ≤ c.val && c.val ≤ 0x5A) || (0x61 ≤ c.val && c.val ≤ 0x7A)

def isSchemeChar (c : CodePoint) : Bool :=
  isAsciiAlpha c || (0x30 ≤ c.val && c.val ≤ 0x39) || [cp '+', cp '-', cp '.'].contains c

def splitScheme (url : Str) : Str × Str :=
  match partition (cp ':') url with
  | (c :: scheme, some rest) =>
    if isAsciiAlpha c && (c :: scheme).all isSchemeChar then (asciiLower (c :: scheme), rest)
    else ([], url)
  | _ => ([], url)

def endsNetloc (c : CodePoint) : Bool :=
  c = cp '/' || c = cp '?' || c = cp '#'

def splitNetloc (url : Str) : Str × Str :=
  match url with
  | a :: b :: rest =>
    if a = cp '/' ∧ b = cp '/' then
      (rest.takeWhile fun c => !endsNetloc c, rest.dropWhile fun c => !endsNetloc c)
    else
      ([], url)
  | _ => ([], url)

/--
`urlsplit(url)`; an error is the text of a `ValueError`. What is checked of the network location
besides its brackets, the address in these and its normal form, is a parameter.
-/
def urlsplit (checkNetloc : Str → Except Str Unit) (url : Str) : Except Str SplitResult := do
  let url := (url.dropWhile isC0ControlOrSpace).filter fun c => !isUnsafe c
  let (scheme, rest) := splitScheme url
  let (netloc, rest) := splitNetloc rest
  if netloc.contains (cp '[') ≠ netloc.contains (cp ']') then
    throw (ofString "Invalid IPv6 URL")
  let (rest, fragment) := partition (cp '#') rest
  let (path, query) := partition (cp '?') rest
  checkNetloc netloc
  return ⟨scheme, netloc, path, query.getD [], fragment.getD []⟩

def portText (netloc : Str) : Str :=
  let hostinfo := netloc.rtakeWhile (· ≠ cp '@')
  match partition (cp '[') hostinfo with
  | (_, some bracketed) =>
    let afterHost := (partition (cp ']') bracketed).2.getD []
    (partition (cp ':') afterHost).2.getD []
  | (_, none) => (partition (cp ':') hostinfo).2.getD []

/-- `parts.port`: there may be none, and an error is a `ValueError`. -/
def SplitResult.port (parts : SplitResult) : Except Unit (Option Nat) :=
  match portText parts.netloc with
  | [] => .ok none
  | text =>
    if text.length ≤ INT_MAX_STR_DIGITS then
      match readDecimal text with
      | some port => if port ≤ 65535 then .ok (some port) else .error ()
      | none => .error ()
    else
      .error ()

section Unquote

def hexValue (c : CodePoint) : Option Nat :=
  if 0x41 ≤ c.val ∧ c.val ≤ 0x46 then some (c.val - 0x41 + 10)
  else if 0x61 ≤ c.val ∧ c.val ≤ 0x66 then some (c.val - 0x61 + 10)
  else digitValue c

def hexByte : Str → Option Nat
  | high :: low :: _ => do
    let high ← hexValue high
    let low ← hexValue low
    return 16 * high + low
  | _ => none

/-- A text as its bytes and the characters outside ASCII, with `skip` characters read already. -/
def unquoteBytes (skip : Nat) : Str → List (Nat ⊕ CodePoint)
  | [] => []
  | c :: s =>
    if 0 < skip then
      unquoteBytes (skip - 1) s
    else if 0x80 ≤ c.val then
      .inr c :: unquoteBytes 0 s
    else if c = cp '%' then
      match hexByte s with
      | some byte => .inl byte :: unquoteBytes 2 s
      | none => .inl c.val :: unquoteBytes 0 s
    else
      .inl c.val :: unquoteBytes 0 s

/-- A sequence of UTF-8 that has begun: how many bytes it lacks, and the range of the next one. -/
structure Utf8Prefix where
  lacks : Nat
  lower : Nat := 0x80
  upper : Nat := 0xBF
  value : Nat

def REPLACEMENT : CodePoint :=
  0xFFFD

def utf8Begin (byte : Nat) : Str × Option Utf8Prefix :=
  if byte < 0x80 then
    ([Fin.ofNat _ byte], none)
  else if 0xC2 ≤ byte ∧ byte ≤ 0xDF then
    ([], some { lacks := 1, value := byte - 0xC0 })
  else if 0xE0 ≤ byte ∧ byte ≤ 0xEF then
    ([], some {
      lacks := 2
      lower := if byte = 0xE0 then 0xA0 else 0x80
      upper := if byte = 0xED then 0x9F else 0xBF
      value := byte - 0xE0
    })
  else if 0xF0 ≤ byte ∧ byte ≤ 0xF4 then
    ([], some {
      lacks := 3
      lower := if byte = 0xF0 then 0x90 else 0x80
      upper := if byte = 0xF4 then 0x8F else 0xBF
      value := byte - 0xF0
    })
  else
    ([REPLACEMENT], none)

def utf8Step (state : Option Utf8Prefix) (byte : Nat) : Str × Option Utf8Prefix :=
  match state with
  | none => utf8Begin byte
  | some begun =>
    if begun.lower ≤ byte ∧ byte ≤ begun.upper then
      let value := 64 * begun.value + (byte - 0x80)
      if begun.lacks = 1 then ([Fin.ofNat _ value], none)
      else ([], some { lacks := begun.lacks - 1, value })
    else
      let (decoded, next) := utf8Begin byte
      (REPLACEMENT :: decoded, next)

def utf8End (state : Option Utf8Prefix) : Str :=
  if state.isSome then [REPLACEMENT] else []

def decodeUnits (state : Option Utf8Prefix) : List (Nat ⊕ CodePoint) → Str
  | [] => utf8End state
  | .inl byte :: units =>
    let (decoded, next) := utf8Step state byte
    decoded ++ decodeUnits next units
  | .inr c :: units => utf8End state ++ c :: decodeUnits none units

def unquote (s : Str) : Str :=
  decodeUnits none (unquoteBytes 0 s)

end Unquote

def unquotePlus (s : Str) : Str :=
  unquote (s.map fun c => if c = cp '+' then cp ' ' else c)

/-- `parse_qsl(query)`. -/
def parseQsl (query : Str) : List (Str × Str) :=
  (query.splitOn (cp '&')).filterMap fun nameValue =>
    match partition (cp '=') nameValue with
    | (name, some value) => if value = [] then none else some (unquotePlus name, unquotePlus value)
    | (_, none) => none

/-- `parse_qs(query).get(name)`, of which only the first value. -/
def queryValue (query name : Str) : Option Str :=
  ((parseQsl query).find? fun pair => pair.1 = name).map Prod.snd

end Python
