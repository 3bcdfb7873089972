import Ketabdaneh.Library.Python.Format

namespace Api

open Python Text

inductive Level where
  | info
  | warning
  | error

inductive LogArg where
  | str (s : Str)
  | int (n : Int)
  | float (x : PyFloat)

structure LogRecord where
  level : Level
  message : String
  args : List LogArg

/-- `message % args`, for the conversions the application's messages have. -/
def formatArgs : List Char → List LogArg → Str
  | '%' :: 's' :: rest, .str s :: args => s ++ formatArgs rest args
  | '%' :: 'd' :: rest, .int n :: args => Json.intText n ++ formatArgs rest args
  | '%' :: '.' :: '0' :: 'f' :: rest, .float x :: args => x.fixed 0 ++ formatArgs rest args
  | '%' :: '.' :: '1' :: 'f' :: rest, .float x :: args => x.fixed 1 ++ formatArgs rest args
  | c :: rest, args => cp c :: formatArgs rest args
  | [], _ => []

theorem formatArgs_plain {text : List Char} (h : '%' ∉ text) (rest : List Char) (args : List LogArg)
    : formatArgs (text ++ rest) args = text.map cp ++ formatArgs rest args := by
  induction text with
  | nil => rfl
  | cons c text ih =>
    rw [List.mem_cons, not_or] at h
    rw [List.cons_append, formatArgs]
    . rw [ih h.2]
      rfl
    all_goals
      intros
      exact absurd (Eq.symm (by assumption)) h.1

theorem formatArgs_str (rest : List Char) (s : Str) (args : List LogArg)
    : formatArgs ('%' :: 's' :: rest) (.str s :: args) = s ++ formatArgs rest args := by
  rw [formatArgs]

theorem formatArgs_int (rest : List Char) (n : Int) (args : List LogArg)
    : formatArgs ('%' :: 'd' :: rest) (.int n :: args) = Json.intText n ++ formatArgs rest args := by
  rw [formatArgs]

theorem formatArgs_float (rest : List Char) (x : Rat) (args : List LogArg)
    : formatArgs ('%' :: '.' :: '1' :: 'f' :: rest) (.float (.finite x) :: args)
        =
      fixed 1 x ++ formatArgs rest args := by
  rw [formatArgs, PyFloat.fixed]

/-- The text of the line, without what the formatter puts before it. -/
def LogRecord.getMessage (record : LogRecord) : Str :=
  formatArgs record.message.toList record.args

end Api
