import ScopedCss.Diagnostic
import ScopedCss.Dict
import ScopedCss.Text.Identifier
import ScopedCss.Text.Quoted

/-!
The checks on style blocks. Class names become fields of a generated class and the signature its
parameter and its name, so they have to be names that can be bound and that nothing else uses;
repetitions and empty bodies are only told.
-/
namespace ScopedCss

abbrev Check := Style → List Diagnostic

namespace Check

open Text (quote isBindable)

/-- Members of every generated class. -/
def reservedMembers : List String := ["generate", "new", "use_style"]

/-- Local names of every generated method. -/
def reservedLocals : List String := ["_css", "_counter", "_start"]

/-- Names that every generated module imports. -/
def reservedGlobals : List String := ["Classes", "Counter", "EmptyTheme", "TextSink", "dataclass"]

/-- Goes through class names and tells of those that offend. A name that was told of is passed over
from then on. -/
def tellOnce (offends : String → Bool) (tell : String × Option Location → Diagnostic) :
    List String → List (String × Option Location) → List Diagnostic
  | _, [] => []
  | reported, p :: ps =>
    if reported.contains p.1 || !offends p.1 then tellOnce offends tell reported ps
    else tell p :: tellOnce offends tell (p.1 :: reported) ps

/-- Every class name becomes a field. -/
def classnameIdentifiers : Check := fun s =>
  tellOnce (fun n => !isBindable n) (fun p => {
    rule := "check_classname_identifiers", severity := .error
    message := "Classname " ++ quote p.1 ++ " is not a valid Python identifier."
    location := p.2, classname := some p.1
    fix := some "Rename the class so it starts with a letter and is not a keyword." })
    [] (classnameParts s.rules)

def isReserved (name : String) : Bool :=
  reservedMembers.contains name || ['_', '_'].isPrefixOf name.toList

/-- Class names do not hide members of the generated class. -/
def reservedClassnames : Check := fun s =>
  tellOnce isReserved (fun p => {
    rule := "check_reserved_classnames", severity := .error
    message := "Classname " ++ quote p.1 ++ " is reserved by the generated class."
    location := p.2, classname := some p.1 })
    [] (classnameParts s.rules)

/-- The theme variable becomes a parameter and the result type a class. -/
def signature : Check := fun s =>
  let sig := s.signature
  let var : List Diagnostic :=
    if !isBindable sig.themeVar || reservedLocals.contains sig.themeVar then [{
      rule := "check_signature", severity := .error
      message := "Theme variable " ++ quote sig.themeVar ++ " cannot be used as a parameter name."
      location := sig.location }]
    else []
  let result : List Diagnostic :=
    if !isBindable sig.resultType then [{
      rule := "check_signature", severity := .error
      message := "Result type " ++ quote sig.resultType ++ " cannot be used as a class name."
      location := sig.location }]
    else if reservedGlobals.contains sig.resultType then [{
      rule := "check_signature", severity := .error
      message := "Result type " ++ quote sig.resultType ++
        " shadows a name the generated module imports."
      location := sig.location, fix := some "Pick a different result type name." }]
    else []
  var ++ result

/-- Names in code-point order. -/
def sortNames (names : List String) : List String := names.mergeSort fun a b => decide (a ≤ b)

/-- Counted names in code-point order, and by their counts where names are equal. -/
def sortCounts (counts : List (String × Nat)) : List (String × Nat) :=
  counts.mergeSort fun a b => decide (a.1 < b.1 ∨ a.1 = b.1 ∧ a.2 ≤ b.2)

/-- Class names used more than once share one slot. The row of occurrences is turned round for the
dictionary of first ones, since there the later pair of two counts. -/
def duplicateClassnames : Check := fun s =>
  let parts := classnameParts s.rules
  let counts := Dict.tally (parts.map (·.1))
  let firstSeen := Dict.ofPairs parts.reverse
  ((sortCounts counts).filter fun c => decide (1 < c.2)).map fun c => {
    rule := "check_duplicate_classnames", severity := .info
    message := "Classname " ++ quote c.1 ++ " is referenced " ++ toString c.2 ++
      " times; all references share one slot."
    location := (firstSeen.lookup c.1).join, classname := some c.1 }

/-- The entries whose property an earlier entry of the list has. -/
def repeatedEntries : List String → List Entry → List Entry
  | _, [] => []
  | seen, e :: es =>
    if seen.contains e.property then e :: repeatedEntries seen es
    else repeatedEntries (e.property :: seen) es

/-- A property declared twice in one rule. -/
def duplicateProperties : Check := fun s =>
  (Rule.walkAll s.rules).flatMap fun r => (repeatedEntries [] r.entries).map fun e => {
    rule := "check_duplicate_properties", severity := .warning
    message := "Property " ++ quote e.property ++ " is declared more than once in " ++
      quote r.header.text ++ "."
    location := e.location }

/-- Rules with nothing in them. -/
def emptyRules : Check := fun s =>
  ((Rule.walkAll s.rules).filter fun r => r.size == 0).map fun r => {
    rule := "check_empty_rules", severity := .warning
    message := "Rule " ++ quote r.header.text ++ " has an empty body."
    location := r.header.location, fix := some "Remove the rule or add declarations." }

/-- A check that tells every declaration of one property, as a user would add it. The library has no
such check. -/
def propertyUse (property : String) (severity : Severity) : Check := fun s =>
  (Rule.walkAll s.rules).flatMap fun r =>
    (r.entries.filter (·.property == property)).map fun e => {
      rule := "extra", severity := severity, message := property ++ " used"
      location := e.location }

/-- The checks that every block goes through, in order. -/
def all : List Check := [
  classnameIdentifiers, reservedClassnames, signature, duplicateClassnames, duplicateProperties,
  emptyRules]

/-- The blocks whose result type an earlier block of the list has. -/
def repeatedResults : List String → List Style → List Style
  | _, [] => []
  | seen, s :: ss =>
    if seen.contains s.signature.resultType then s :: repeatedResults seen ss
    else repeatedResults (s.signature.resultType :: seen) ss

/-- Blocks of one module have distinct result types. -/
def uniqueResultTypes (styles : List Style) : List Diagnostic :=
  (repeatedResults [] styles).map fun s => {
    rule := "check_unique_result_types", severity := .error
    message := "Result type " ++ quote s.signature.resultType ++
      " is defined by more than one style block."
    location := s.signature.location }

end Check

/-- All findings about a block: those of the standard checks, then those of extra ones. -/
def validate (extra : List Check) (s : Style) : List Diagnostic :=
  (Check.all ++ extra).flatMap fun check => check s

/-- All findings about the blocks of one module. -/
def validateModule (extra : List Check) (styles : List Style) : List Diagnostic :=
  styles.flatMap (validate extra) ++ Check.uniqueResultTypes styles

/-- Findings that may pass, or the errors among them. -/
def refuseErrors (ds : List Diagnostic) : Except (List Diagnostic) (List Diagnostic) :=
  if ds.any Diagnostic.isError then .error (ds.filter Diagnostic.isError) else .ok ds

end ScopedCss
