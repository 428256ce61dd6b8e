import DeclSynth.Expansion.Sealed.Printer

/-!
# Sealed modules

A module keeps its items, without the marks of its variants, and gets the code of their
hierarchy behind them. A module without variants stays as it is.
-/

namespace DeclSynth.Sealed

/-- What `#[sealed]` takes. -/
def spec : ArgumentSpec := ⟨"#[sealed]", ["base", "roles"], [], .forbidden⟩

/-- Checks that no role is declared twice, after the ones declared before. -/
def checkDistinct (seen : List Ident) : List Ident → Except Failure Unit
  | [] => .ok ()
  | role :: rest =>
    if seen.any role.sameName then
      .error ((ExpandError.duplicateArgument role.text).at role.span)
    else checkDistinct (role :: seen) rest

/-- The roles that variants may play. -/
def declaredRoles (args : ArgumentList) : Except Failure (List Ident) := do
  let roles ← args.identList "roles"
  checkDistinct [] roles
  return roles

/-- The name that a text spells as a whole. -/
def identOfText? (text : String) : Option Ident :=
  (lex text).bind fun ts => (Ident.parse ts).toOption

/-- The name of the base: the one that is given, or else the module's name in camel case. -/
def baseOf (args : ArgumentList) (module : Ident) : Except Failure Ident :=
  match args.ident "base" with
  | .error f => .error f
  | .ok (some base) => .ok base
  | .ok none =>
    match identOfText? (Naming.toUpperCamelCase module.plainText) with
    | some base => .ok base
    | none =>
      .error ((ExpandError.invalidArgument "base"
        "an identifier; the module name does not convert to one").at module.span)

/-- The items of a module, without marks, with the code of their hierarchy behind them. -/
def appendHierarchy (base module : Ident) (roles : List Ident) (variants : List Variant)
    (items : List Item) : InContext (List Item) := do
  if variants.isEmpty then
    .log .debug "no variants; module left unchanged" [("module", module.text)]
    return items
  else
    let h ← Hierarchy.buildInContext base roles variants items
    .log .debug "synthesizing sealed hierarchy"
      [("base", h.base.text), ("variants", toString h.variants.length),
        ("buckets", toString h.buckets.length)]
    return items ++ [.verbatim h.tokens]

/-- The items of a module with the code of its hierarchy behind them. -/
def sealInContext (base module : Ident) (roles : List Ident) (items : List Item) :
    InContext (List Item) := do
  let (variants, items) ← takeMarks roles items
  appendHierarchy base module roles variants items

/-- What the items of a module become, in a context in which nothing has been reported. -/
def sealItems (c : Config) (base module : Ident) (roles : List Ident) (items : List Item) :
    Outcome (List Item) :=
  (sealInContext base module roles items).fresh c

/-- A module with the hierarchy of its variants. -/
def inContext (args item : Tokens) : InContext Tokens := do
  let args ← ArgumentList.parse args
  args.validate spec
  let roles ← declaredRoles args
  match ← Item.parse item with
  | .mod attributes vis unsafeWord name content =>
    let base ← baseOf args name
    match content with
    | none => .fail .moduleWithoutBody name.span
    | some items =>
      let items ← sealInContext base name roles items
      return (Item.mod attributes vis unsafeWord name (some items)).tokens
  | _ => .fail (.unsupportedTarget "#[sealed]" "an inline module") .callSite

/-- What a module is expanded to, in a context in which nothing has been reported. -/
def expand (c : Config) (args item : Tokens) : Outcome Tokens := (inContext args item).fresh c

/-- A module without the marks of its variants; anything else is left as it is. -/
def withoutMarks (item : Tokens) : Tokens :=
  match Item.parseModule item with
  | .ok (.mod attributes vis unsafeWord name content) =>
    (Item.mod attributes vis unsafeWord name (content.map (·.map unmarked))).tokens
  | _ => item

end DeclSynth.Sealed
