import Courier.Log
/-!
Which log records are written.

A filter is a list of directives separated by commas: a level for everything, or a name with or
without a level for the sources whose names begin with it.  Of several directives the one with the
longest name decides.
-/
namespace Courier.Log

/-- A level for all sources whose names begin with a text; a level of zero lets nothing through. -/
structure Directive where
  source : List Char := []
  ceiling : Nat := Level.error.rank
  deriving DecidableEq, Repr, Inhabited

abbrev Filter := List Directive

/-- The names of all sources of this library begin with this text. -/
def source : List Char := "margindash".toList

/-- The rank that a level is known by, by its name in any case or by its number. -/
def ceiling? (word : List Char) : Option Nat :=
  [("off", 0), ("error", 1), ("warn", 2), ("info", 3), ("debug", 4), ("trace", 5),
    ("0", 0), ("1", 1), ("2", 2), ("3", 3), ("4", 4), ("5", 5)].lookup
    (String.ofList (word.map Char.toLower))

/-- Characters of the name of a source. -/
def isSourceChar (c : Char) : Bool :=
  c.isAlphanum || c = '_' || c = ':' || c = '-' || 127 < c.toNat

def Directive.read? (word : List Char) : Option Directive :=
  match ceiling? word with
  | some ceiling => some { ceiling }
  | none =>
    let (name, rest) := word.span isSourceChar
    if name.isEmpty then none
    else
      match rest with
      | [] | ['='] => some ⟨name, Level.trace.rank⟩
      | '=' :: level => (ceiling? level).map fun ceiling => ⟨name, ceiling⟩
      | _ => none

namespace Filter

/-- The words between the commas of a text. -/
def words (cs : List Char) : List (List Char) :=
  (cs.splitOnP (· == ',')).filter (!·.isEmpty)

/-- The filter of some directives; without any, only errors are written. -/
def ofDirectives (directives : List Directive) : Filter :=
  if directives.isEmpty then [{}] else directives

/-- The filter of a text in which every directive can be read. -/
def read? (text : String) : Option Filter :=
  ((words text.toList).mapM Directive.read?).map ofDirectives

/-- The filter of the directives of a text that can be read. -/
def readSome (text : String) : Filter :=
  ofDirectives ((words text.toList).filterMap Directive.read?)

/-- The directive that decides about a source. -/
def directive? (filter : Filter) (name : List Char) : Option Directive :=
  filter.foldl (fun best directive =>
    if directive.source.isPrefixOf name then
      match best with
      | some held =>
        if held.source.length ≤ directive.source.length then some directive else best
      | none => some directive
    else best) none

def admits (filter : Filter) (record : Record) : Bool :=
  (filter.directive? source).any fun directive => decide (record.level.rank ≤ directive.ceiling)

end Filter

end Courier.Log
