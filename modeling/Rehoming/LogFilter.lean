import Rehoming.Number.Natural
import Rehoming.Text.Ascii
import Rehoming.Text.Blank
import Rehoming.Text.LetterTable
import Rehoming.Text.Substring
/-!
# Log filters

Which texts say what is to be logged.  A filter is a list of directives between commas.  A
directive is a level, or a target with or without a level after an equals sign.  A target may
go on with a span in square brackets, and a span with the values of its fields in braces; the
target may then also be left out.  Empty directives say nothing.
-/

namespace Rehoming.LogFilter

/-- Whether a text is a level: a word in any case, or a number up to five. -/
def isLevel (s : String) : Bool :=
  ["error", "warn", "info", "debug", "trace", "off"].contains (Text.asciiLowercase s)
    || (Number.numeral? 6 s).isSome

/-- Where in a directive a reader stands. -/
inductive Place where
  | start
  /-- In a target, or in a level that stands alone. -/
  | target
  | span
  /-- In the value of a field, which has begun or not. -/
  | field (begun : Bool)
  /-- After the values of all fields. -/
  | fields
  /-- After a span. -/
  | afterSpan
  /-- In the level of a target, of which a text has been read, last character first. -/
  | level (text : List Char)
  deriving DecidableEq, Repr

namespace Place

/-- Whether a target or a level may start with a character. -/
def opens (c : Char) : Bool :=
  c = '-' || c = ':' || c = '_' || Text.isLetterOrNumber c

/-- Where a reader stands after one more character. -/
def next : Place → Char → Option Place
  | start, '[' => some span
  | start, c => if opens c then some target else none
  | target, '=' => some (level [])
  | target, '[' => some span
  | target, _ => some target
  | span, ']' => some afterSpan
  | span, '\x7b' => some (field false)
  | span, _ => some span
  | field begun, '\x7d' => if begun then some fields else none
  | field _, _ => some (field true)
  | fields, ']' => some afterSpan
  | fields, _ => none
  | afterSpan, '=' => some (level [])
  | afterSpan, _ => none
  | level text, c => some (level (c :: text))

/-- Whether a directive may end here; a level may be left empty. -/
def ends : Place → Bool
  | target | afterSpan => true
  | level text => text.isEmpty || isLevel (String.ofList text.reverse)
  | start | span | field _ | fields => false

end Place

/-- Whether a directive can be used.  White space around it is passed over, except that nothing
may stand around a target that has a level. -/
def isDirective (s : String) : Bool :=
  match (Text.trim s).toList.foldlM Place.next Place.start with
  | some (.level text) => Text.trim s == s && (Place.level text).ends
  | some place => place.ends
  | none => false

/-- Whether a filter can be used. -/
def isUsable (s : String) : Bool :=
  ((Text.split ',' s).filter (· ≠ "")).all isDirective

/-- Whether there is a filter to use: the preferred one, if it is there and can be used, or
else the fallback. -/
def isAvailable (preferred : Option String) (fallback : String) : Bool :=
  preferred.any isUsable || isUsable fallback

end Rehoming.LogFilter
