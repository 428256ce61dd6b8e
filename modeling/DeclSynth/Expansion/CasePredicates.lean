import DeclSynth.Declaration
import DeclSynth.Expansion.Outcome
import DeclSynth.Naming
import DeclSynth.Syntax.Parse

/-!
# Case predicates

An enum gets one predicate for each of its variants, which tells whether a value is of
that case.
-/

namespace DeclSynth

/-- The predicate of a case. -/
structure CasePredicate where
  case : Ident
  name : Ident

/-- The predicates of an enum, in the order of its variants. -/
structure CasePredicates where
  subject : EnumItem
  predicates : List CasePredicate

namespace CasePredicates

/-- The predicate of a case. The name is derived from the case as it is written. -/
def predicate (v : VariantItem) : Except NameFault CasePredicate := do
  return ⟨v.name, ← Ident.ofText (Naming.casePredicateName v.name.text) .callSite⟩

/-- The predicates of an enum. -/
def of (e : EnumItem) : Except NameFault CasePredicates := do
  return ⟨e, ← e.variants.mapM predicate⟩

/-- The tokens of a predicate. -/
def predicateTokens (p : CasePredicate) : Tokens :=
  kw "pub" ++ kw "fn" ++ p.name.tokens ++ paren (op "&" ++ kw "self") ++ op "->" ++ kw "bool" ++
    brace (kw "matches" ++ op "!" ++ paren (
      kw "self" ++ op "," ++ kw "Self" ++ op "::" ++ p.case.tokens ++ brace (op "..")))

/-- The tokens of the implementation that holds the predicates. -/
def tokens (c : CasePredicates) : Tokens :=
  derivedMark ++ implementation c.subject.generics none c.subject.name
    (c.predicates.flatMap predicateTokens)

/-- The predicates of an enum. -/
def expand (item : Tokens) : Outcome Tokens := do
  match ← Item.parse item with
  | .enum e =>
    .log .debug "synthesizing case predicates"
      [("target_type", e.name.text), ("cases", toString e.variants.length)]
    let predicates ← CasePredicates.of e
    return predicates.tokens
  | _ => .fail (.unsupportedTarget "#[derive(CaseDetection)]" "an enum") .callSite

end CasePredicates

end DeclSynth
