import DeclSynth.Declaration
import DeclSynth.Expansion.Outcome
import DeclSynth.Syntax.Parse

/-!
# Equality of stored fields

A struct gets an equality that compares its stored fields in declaration order; a struct
without any is always equal. Each type parameter is required to have an equality too.
-/

namespace DeclSynth

/-- The equality of a struct. -/
structure Equality where
  subject : StructItem

namespace Equality

/-- The fields that are compared. -/
def compared (e : Equality) : List FieldMember := e.subject.fields.stored.map (·.member)

/-- The trait that values with an equality have. -/
def traitPath : Path :=
  .mk .callSite true [
    .mk (.word ['c', 'o', 'r', 'e'] (by decide)) .none,
    .mk (.word ['c', 'm', 'p'] (by decide)) .none,
    .mk (.word ['P', 'a', 'r', 't', 'i', 'a', 'l', 'E', 'q'] (by decide)) .none]

/-- A parameter with one more bound, if it is a type. -/
def requireEquality : GenericParam → GenericParam
  | .type p => .type { p with bounds := p.bounds ++ [.ofPath traitPath], trailingPlus := false }
  | p => p

/-- The parameters of the implementation. -/
def params (e : Equality) : Generics :=
  { e.subject.generics with params := e.subject.generics.params.map requireEquality }

/-! ## Printing -/

/-- The tokens of the comparison of one field. -/
def termTokens (m : FieldMember) : Tokens :=
  kw "self" ++ op "." ++ m.tokens ++ op "==" ++ kw "other" ++ op "." ++ m.tokens

/-- The tokens of the implementation. The other value is not named where it is not looked at. -/
def tokens (e : Equality) : Tokens :=
  let (other, comparison) := match e.compared with
    | [] => (kw "_", kw "true")
    | members => (kw "other", separated (op "&&") false (members.map termTokens))
  derivedMark ++ implementation e.params (some traitPath.tokens) e.subject.name (
    kw "fn" ++ kw "eq" ++
      paren (op "&" ++ kw "self" ++ op "," ++ other ++ op ":" ++ op "&" ++ kw "Self") ++
      op "->" ++ kw "bool" ++ brace comparison)

/-! ## Expanding -/

/-- The equality of a struct. -/
def expand (item : Tokens) : Outcome Tokens := do
  match ← Item.parse item with
  | .struct s =>
    let equality : Equality := ⟨s⟩
    .log .debug "synthesizing equality"
      [("target_type", s.name.text), ("compared", toString equality.compared.length)]
    return equality.tokens
  | _ => .fail (.unsupportedTarget "#[derive(Equatable)]" "a struct") .callSite

end Equality

end DeclSynth
