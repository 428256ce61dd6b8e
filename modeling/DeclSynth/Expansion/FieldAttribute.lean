import DeclSynth.Argument
import DeclSynth.Declaration
import DeclSynth.Expansion.Outcome
import DeclSynth.Token.Lexer

/-!
# An attribute for every stored field

A struct gets an attribute, given as a text, appended to each of its stored fields.
Nothing else about it changes.
-/

namespace DeclSynth.FieldAttribute

/-- What `#[wrap_stored_properties]` takes. -/
def spec : ArgumentSpec :=
  ⟨"#[wrap_stored_properties]", [], [], .required "attribute text such as `\"deprecated\"`"⟩

/-- The attribute whose content a string literal holds; a literal with a suffix holds none. -/
def ofLiteral? (text : String) : Option Attribute := do
  if !(Literal.suffix text).isEmpty then none
  let ts ← lex (Literal.content text)
  let rule (g : Grammar) : Parser Attribute := do
    let ((((leadingColon, path), form), content), span) ←
      Parser.spanned (Parser.recorded (Grammar.attributeContent g))
    return ⟨false, leadingColon, path, form, op "#" ++ bracket content, span⟩
  (parseWith rule .callSite ts).toOption

/-- The struct with an attribute appended to each stored field. -/
def wrap (a : Attribute) (s : StructItem) : StructItem :=
  let append (f : Field) : Field :=
    if f.isStored then { f with attributes := f.attributes ++ [a] } else f
  { s with fields := s.fields.map append }

/-- The string literal that the arguments start with. -/
def attributeText (args : ArgumentList) : Except Failure (String × Span) :=
  match args.positional with
  | some value => ArgumentList.expectString value "attribute"
  | none => .error ((ExpandError.missingArgument "attribute text").at args.span)

/-- A struct with the attribute that the arguments give. -/
def expand (args item : Tokens) : Outcome Tokens := do
  let args ← ArgumentList.parse args
  args.validate spec
  let (text, span) ← attributeText args
  match ofLiteral? text with
  | none =>
    .fail (.invalidArgument "attribute"
      "the body of an attribute, e.g. `\"deprecated(note = \\\"..\\\")\"`") span
  | some a =>
    match ← Item.parse item with
    | .struct s =>
      .log .debug "wrapped stored properties"
        [("target_type", s.name.text), ("wrapped", toString s.fields.stored.length)]
      return (wrap a s).tokens
    | _ => .fail (.unsupportedTarget "#[wrap_stored_properties]" "a struct") .callSite

end DeclSynth.FieldAttribute
