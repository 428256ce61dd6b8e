import DeclSynth.Declaration
import DeclSynth.Expansion.Outcome
import DeclSynth.Syntax.Parse

/-!
# Copying with changes

A struct with named fields gets a method `copy`, which takes an optional new value for
each stored field and clones the fields that have none, and for each stored field a
method that replaces this field alone. Fields that belong to the type stay markers.
-/

namespace DeclSynth

/-- A method that replaces one field. -/
structure Wither where
  name : Ident
  field : BoundField

/-- The copy methods of a struct. -/
structure CopyMethods where
  subject : StructItem
  withers : List Wither

namespace CopyMethods

/-- The fields that `copy` takes a value for. -/
def stored (c : CopyMethods) : List BoundField := c.subject.fields.stored

/-- The fields that `copy` sets to the marker value. -/
def markers (c : CopyMethods) : List BoundField := c.subject.fields.typeLevel

/-- The method that replaces a field. -/
def wither (f : BoundField) : Wither :=
  ⟨.prefixed ['w', 'i', 't', 'h', '_'] (by decide) f.binding, f⟩

/-- The copy methods of a struct. -/
def of (s : StructItem) : CopyMethods := ⟨s, s.fields.stored.map wither⟩

/-! ## Printing -/

/-- The tokens of a parameter of `copy`. -/
def paramTokens (f : BoundField) : Tokens :=
  f.binding.tokens ++ op ":" ++ absolute ["core", "option", "Option"] ++ op "<" ++
    f.field.ty.tokens ++ op ">"

/-- The tokens of a field that `copy` sets to the given value, or else to its clone. -/
def storedTokens (f : BoundField) : Tokens :=
  let clone := op "||" ++ absolute ["core", "clone", "Clone", "clone"] ++
    paren (op "&" ++ kw "self" ++ op "." ++ f.member.tokens)
  f.member.tokens ++ op ":" ++ f.binding.tokens ++ op "." ++ kw "unwrap_or_else" ++ paren clone

/-- The tokens of a field that `copy` sets to the marker value. -/
def markerTokens (f : BoundField) : Tokens :=
  f.member.tokens ++ op ":" ++ absolute ["core", "marker", "PhantomData"]

/-- The tokens of `copy`. -/
def copyTokens (c : CopyMethods) : Tokens :=
  c.subject.vis.tokens ++ kw "fn" ++ kw "copy" ++
    paren (op "&" ++ kw "self" ++ op "," ++ commas (c.stored.map paramTokens)) ++
    op "->" ++ kw "Self" ++ brace (kw "Self" ++ brace (
      eachWithComma (c.stored.map storedTokens) ++ eachWithComma (c.markers.map markerTokens)))

/-- The tokens of a method that replaces one field. -/
def witherTokens (vis : Visibility) (w : Wither) : Tokens :=
  let f := w.field
  vis.tokens ++ kw "fn" ++ w.name.tokens ++
    paren (kw "self" ++ op "," ++ f.binding.tokens ++ op ":" ++ f.field.ty.tokens) ++
    op "->" ++ kw "Self" ++ brace (kw "Self" ++ brace (
      f.member.tokens ++ op ":" ++ f.binding.tokens ++ op "," ++ op ".." ++ kw "self"))

/-- The tokens of the implementation that holds the methods. -/
def tokens (c : CopyMethods) : Tokens :=
  derivedMark ++ implementation c.subject.generics none c.subject.name
    (c.copyTokens ++ c.withers.flatMap (witherTokens c.subject.vis))

/-! ## Expanding -/

/-- The copy methods of a struct with named fields. -/
def expand (item : Tokens) : Outcome Tokens := do
  let refuse := Outcome.fail
    (.unsupportedTarget "#[derive(Copyable)]" "a struct with named fields") .callSite
  match ← Item.parse item with
  | .struct s =>
    if s.fields.shape ≠ .named then refuse
    else
      .log .debug "synthesizing copy"
        [("target_type", s.name.text), ("stored", toString s.fields.stored.length)]
      return (CopyMethods.of s).tokens
  | _ => refuse

end CopyMethods

end DeclSynth
