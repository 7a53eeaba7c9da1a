import BusAccess.Log.Level
import BusAccess.Text.Alphanumeric

/-!
# Filters

A filter decides which events are printed.  It is written as directives with commas between them:
`target=level` for the events of one target, a bare level for all others, and a bare word that is
no level for everything from the target of that name.  A directive that cannot be read is left out,
and a filter without directives lets `info` and what is graver pass.

A filter keeps its directives from the most to the least particular: longer targets before
shorter ones, of equally long targets the later in the alphabet first, and the bare level last.
There is one directive for each target; a later one replaces an earlier one.

The words for levels here are those of the directive language.  `off` is one of them, and
`verbose` and `warning` are not: they would be targets.

The reader of directives is a parameter wherever a filter is chosen, and theorems are about any that
reads words for levels as levels.  `Filter.ofDirectives` is the one that runs.
-/

set_option autoImplicit false

namespace BusAccess.Log

/-- How much a directive lets pass, `none` for nothing at all. -/
abbrev Threshold := Option Level

namespace Threshold

/-- The place in the order from nothing to everything. -/
def rank : Threshold → Nat
  | none => 0
  | some level => level.rank

/-- The word for a threshold. -/
def word : Threshold → String
  | none => "off"
  | some level => level.directive

/-- All thresholds, each at the place of its rank. -/
def all : List Threshold :=
  [none, some .error, some .warn, some .info, some .debug, some .verbose]

/-- Reads a threshold: its word in either case, or its rank. -/
def ofWord? (s : String) : Option Threshold :=
  let digits := match s.toList with
    | '+' :: ds => ds
    | ds => ds
  match if digits.all Char.isDigit then (String.ofList digits).toNat? else none with
  | some n => all[n]?
  | none => all.find? fun t ↦ t.word == s.toLower

end Threshold

/-- How much is let pass, of one target or of everything else. -/
structure Directive where
  /-- The target, `none` for everything else. -/
  target : Option String
  /-- How much is let pass. -/
  threshold : Threshold
  deriving DecidableEq, Repr

namespace Directive

/-- Whether a character may begin a directive: a letter or number of any script, a dash, a colon or
an underscore. -/
def canBegin (c : Char) : Bool :=
  Text.isAlphanumeric c || c == '-' || c == ':' || c == '_'

/-- Reads one directive.  Where the equals sign stands is found without the blanks in front, but
counted from the start of the whole text. -/
def ofString? (s : String) : Option Directive :=
  let cs := s.toList
  let trimmed := Text.trimChars cs
  match trimmed with
  | [] => none
  | c :: _ =>
    if !canBegin c || trimmed.contains '[' then none
    else if trimmed.contains '=' then
      let place := (trimmed.takeWhile (· != '=')).length
      let target := String.ofList (cs.take place)
      let word := String.ofList (cs.drop (place + 1))
      if word.isEmpty then some ⟨some target, some .verbose⟩
      else (Threshold.ofWord? word).map fun t ↦ ⟨some target, t⟩
    else match Threshold.ofWord? s with
      | some t => some ⟨none, t⟩
      | none => some ⟨some s, some .verbose⟩

/-- Whether `a` is more particular than `b`. -/
def before (a b : Directive) : Bool :=
  match a.target, b.target with
  | none, _ => false
  | some _, none => true
  | some s, some t =>
    t.utf8ByteSize < s.utf8ByteSize || (t.utf8ByteSize == s.utf8ByteSize && t < s)

/-- A directive as it is written. -/
def text (d : Directive) : String :=
  match d.target with
  | some target => target ++ "=" ++ d.threshold.word
  | none => d.threshold.word

end Directive

/-- Directives in order, and the most verbose threshold that any directive named. -/
structure Filter where
  /-- From the most to the least particular. -/
  directives : List Directive := []
  /-- The most verbose threshold of them all. -/
  greatest : Threshold := none
  deriving DecidableEq, Repr

namespace Filter

/-- Puts a directive in its place, where it replaces one for the same target. -/
def place (d : Directive) : List Directive → List Directive
  | [] => [d]
  | e :: es =>
    if d.target = e.target then d :: es
    else if d.before e then d :: e :: es
    else e :: place d es

/-- The filter with one more directive. -/
def add (f : Filter) (d : Directive) : Filter where
  directives := place d f.directives
  greatest := if Threshold.rank f.greatest < Threshold.rank d.threshold then d.threshold
    else f.greatest

/-- The filter of some directives, taken one after another. -/
def ofList (ds : List Directive) : Filter := ds.foldl add {}

/-- What applies where no directive does. -/
def default : Directive := ⟨none, some .info⟩

/-- Reads directives, leaving out what cannot be read. -/
def ofDirectives (s : String) : Filter :=
  let parts := (s.toList.splitOn ',').filter fun part ↦ !part.isEmpty
  let read := parts.filterMap fun part ↦ Directive.ofString? (.ofList part)
  ofList (if read.isEmpty then [default] else read)

/-- Reads a setting: the name of a level, or else directives. -/
def ofSetting (s : String) (read : String → Filter := ofDirectives) : Filter :=
  match Level.ofSetting s with
  | .ok level => read level.directive
  | .error _ => read s

/-- The directives as they are written. -/
def text (f : Filter) : String := ",".intercalate (f.directives.map Directive.text)

end Filter

end BusAccess.Log
