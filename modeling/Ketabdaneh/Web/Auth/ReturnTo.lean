import Ketabdaneh.Library.Text.Basic

/-!
This module contains the handling of the `returnTo` query parameter, which is text of an attacker.
-/

namespace Web

open Text

def locales : List Str :=
  [ofString "fa", ofString "en"]

structure ReturnTarget where
  locale : Str
  path : Str
  deriving DecidableEq

/-- What `.` does not match. -/
def isLineTerminator (c : CodePoint) : Bool :=
  c.val = 0x0A || c.val = 0x0D || c.val = 0x2028 || c.val = 0x2029

def matchLocale (path locale : Str) : Option ReturnTarget := do
  let rest ← path.dropPrefix? (cp '/' :: locale)
  match rest with
  | [] => some ⟨locale, ofString "/"⟩
  | c :: s => if c = cp '/' ∧ s.all (!isLineTerminator ·) then some ⟨locale, rest⟩ else none

def splitLocalePath (path : Str) : Option ReturnTarget :=
  locales.findSome? (matchLocale path)

def sanitizeReturnTo (raw : Option Str) : Option ReturnTarget :=
  match raw with
  | none => none
  | some raw =>
    let value := trim raw
    if value = [] then
      none
    else if !(ofString "/").isPrefixOf value then
      none
    else if (ofString "//").isPrefixOf value || (ofString "/\\").isPrefixOf value then
      none
    else if value.contains (cp ':') || value.contains (cp '\\') then
      none
    else
      match splitLocalePath value with
      | none => none
      | some split =>
        if split.path = ofString "/login" || (ofString "/login/").isPrefixOf split.path
            || (ofString "/login?").isPrefixOf split.path then
          none
        else
          some split

end Web
