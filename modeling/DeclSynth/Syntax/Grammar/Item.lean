import DeclSynth.Syntax.Grammar.Statement
import DeclSynth.Syntax.Grammar.Generics

/-!
# The grammar of items

Structs, enums, functions, implementations, modules and imports become trees. Of every
other item the name and the printed tokens are kept. Forms that the language's parser
lets pass without giving them a meaning are kept as they were written; their rules yield
nothing.
-/

namespace DeclSynth.Grammar

open DeclSynth.Parser

/-! ## Fields -/

/-- A field with a name. A nameless group of fields in its place has no type but its tokens. -/
def namedField (g : Grammar) (fields : Parser Unit) : Parser Field := do
  let attributes ← attributes g
  let vis ← visibility
  let unnamed ← peek (isKw "_")
  let name ← if unnamed then anyIdent else ident
  let _ ← sign ":"
  let nested := (← peek (isKw "struct")) || ((← peek (isKw "union")) && (← peek2 (isGroup .brace)))
  if unnamed && nested then
    let (((), tokens), span) ← spanned <| verbatim <| unmentionedIf (fun _ => true) do
      let _ ← anyIdent
      fields
    return ⟨attributes, vis, some name, .verbatim span tokens⟩
  return ⟨attributes, vis, some name, ← g.ty true⟩

/-- Fields with names, groups of nameless fields nested at most `depth` deep. -/
def namedFieldsTo (g : Grammar) : (depth : Nat) → Parser (Separated Field)
  | 0 => expected []
  | depth + 1 => inside .brace <| commaSeparated <|
    namedField g (do let _ ← namedFieldsTo g depth)

/-- Fields with names, between curly braces. -/
def namedFields (g : Grammar) : Parser Fields := do
  let list ← namedFieldsTo g (Token.sizeAll (← get).rest + 1)
  return .named list.values list.trailing

/-- Fields without names, between parentheses. -/
def positionalFields (g : Grammar) : Parser Fields := do
  let list ← inside .parenthesis <| commaSeparated do
    let attributes ← attributes g
    let vis ← visibility
    return (⟨attributes, vis, none, ← g.ty true⟩ : Field)
  return .positional list.values list.trailing

/-- The where clause and the fields of a struct, in the order that its kind of fields asks for. -/
def structData (g : Grammar) : Parser (Option WhereClause × Fields) := do
  let early ← whereClause? g
  let starts := if early.isNone then [Wanted.token "where", .kind "parentheses"] else []
  if early.isNone && (← peek (isGroup .parenthesis)) then
    let fields ← positionalFields g
    let clause ← whereClause? g
    if ← sign? ";" then return (clause, fields)
    expected ((if clause.isNone then [.token "where"] else []) ++ [.token ";"])
  if ← peek (isGroup .brace) then return (early, ← namedFields g)
  if ← sign? ";" then return (early, .unit)
  expected (starts ++ [.kind "curly braces", .token ";"])

/-- A struct behind its attributes. -/
def structItem (g : Grammar) (attributes : List Attribute) : Parser StructItem := do
  let vis ← visibility
  let _ ← keyword "struct"
  let name ← ident
  let params ← generics g
  let (clause, fields) ← structData g
  return { attributes, vis, name, generics := { params with clause }, fields }

/-- A variant of an enum. How far it can be seen is not kept. -/
def variant (g : Grammar) : Parser VariantItem := do
  let attributes ← attributes g
  let _ ← captured visibility
  let name ← ident
  let fields ← if ← peek (isGroup .brace) then namedFields g
    else if ← peek (isGroup .parenthesis) then positionalFields g
    else pure .unit
  let discriminant ← if ← sign? "=" then some <$> g.expr true else pure none
  return { attributes, name, fields, discriminant }

/-- An enum behind its attributes. -/
def enumItem (g : Grammar) (attributes : List Attribute) : Parser EnumItem := do
  let vis ← visibility
  let _ ← keyword "enum"
  let name ← ident
  let params ← generics g
  let clause ← whereClause? g
  let variants ← inside .brace (commaSeparated (variant g))
  return { attributes, vis, name, generics := { params with clause }, variants := variants.values,
           trailingComma := variants.trailing }

/-! ## Functions -/

/-- A method's receiver behind its attributes. One behind a reference mentions its type. -/
def receiver (g : Grammar) (attributes : List Attribute) : Parser Receiver := do
  let first ← here
  let reference ← sign? "&"
  let lifetime ← if reference then lifetime? else pure none
  let mutable ← keyword? "mut"
  let span ← keyword "self"
  if reference then
    mention (.type (.reference (first.join span) first lifetime mutable.isSome (.infer span)))
  let ty ← if !reference && (← sign? ":") then some <$> g.ty true else pure none
  return { attributes, reference, lifetime, mutable := mutable.isSome, span, ty }

/-- The end of a variadic function's parameters: three dots and perhaps a comma. -/
def variadicEnd : Parser Unit := do
  let _ ← sign "..."
  if !(← atEnd) then
    let _ ← sign ","

/-- A parameter behind its attributes, or the variadic end of the parameters. A type alone is
taken for a parameter without a name if it is a name with arguments. -/
def parameter (g : Grammar) (attributes : List Attribute) : Parser (Param ⊕ Tokens) := do
  if let some r ← attempt (receiver g attributes) then return .inl (.receiver r)
  if (← peek isName) && (← peek2 (isOp "<")) then
    return .inl (.typed attributes (.other (kw "_")) (← g.ty true))
  let (pat, tokens) ← captured do
    let pat ← parameterPattern g
    let _ ← sign ":"
    return pat
  if ← peek (isOp "...") then
    let ((), dots) ← captured variadicEnd
    return .inr (outerAttributes attributes ++ tokens ++ dots)
  return .inl (.typed attributes pat (← g.ty true))

/-- Whether a parameter is a receiver. -/
def Param.isReceiver : Param → Bool
  | .receiver _ => true
  | .typed .. => false

/-- The parameters of a function with their variadic end. Only the first may be a receiver. -/
def parameters (g : Grammar) : Parser (Separated Param × Tokens) :=
  iterate (σ := List Param × Bool) (fun (params, trailing) => do
    let done := (⟨params.reverse, trailing⟩ : Separated Param)
    if ← atEnd then return .inr (done, [])
    let attributes ← attributes g
    if ← peek (isOp "...") then
      let ((), dots) ← captured variadicEnd
      return .inr (done, outerAttributes attributes ++ dots)
    match ← parameter g attributes with
    | .inr variadic => return .inr (done, variadic)
    | .inl param =>
      if let .receiver r := param then
        if params.any Param.isReceiver then failAt r.span (.restriction .secondReceiver)
        if !params.isEmpty then failAt r.span (.restriction .lateReceiver)
      if ← atEnd then return .inr (⟨(param :: params).reverse, false⟩, [])
      let _ ← sign ","
      return .inl (param :: params, true)) ([], false)

/-- The words before `fn`, the one for foreign functions that are safe to call if `foreign`; tells
whether that one was there. -/
def fnQualifiers (foreign : Bool) : Parser Bool := do
  if foreign && (← peek (isKw "safe")) then
    let _ ← keyword "safe"
    linkage?
    return true
  let _ ← keyword? "unsafe"
  linkage?
  return false

/-- Whether a function comes next. -/
def isFn (foreign : Bool) : Parser Bool := do
  let words := do
    let _ ← keyword? "const"
    let _ ← keyword? "async"
    let _ ← fnQualifiers foreign
    peek (isKw "fn")
  return (← lookahead words) = some true

/-- A signature; tells also whether it was marked as safe to call, which only a foreign one may
be. -/
def signatureOf (g : Grammar) (foreign : Bool) : Parser (Signature × Bool) := do
  let constWord ← keyword? "const"
  let asyncWord ← keyword? "async"
  let (safe, qualifiers) ← recorded (fnQualifiers foreign)
  let _ ← keyword "fn"
  let name ← ident
  let params ← generics g
  let (inputs, variadic) ← inside .parenthesis (parameters g)
  let output ← returnType g true
  let clause ← whereClause? g
  return ({ constWord := constWord.isSome, asyncWord, qualifiers, name,
            generics := { params with clause }, inputs := inputs.values,
            trailingComma := inputs.trailing, variadic, output }, safe)

/-- A signature, written as it prints. -/
def signature (g : Grammar) : Parser Signature :=
  rendered Signature.tokens ((·.1) <$> signatureOf g false)

/-- The body of a function: the attributes at its beginning, and what follows them. -/
def body (g : Grammar) : Parser (List Attribute × Tokens) :=
  inside .brace do
    let attributes ← attributesInside g
    let ((), statements) ← recorded g.statements
    return (attributes, statements)

/-! ## Members and small items -/

/-- Stops because no item came, of those that start with one of these words; a macro call may
stand for one if `calls`. -/
def expectedItem {α : Type} (words : List String) (calls : Bool) : Parser α := do
  let ts := (← get).rest
  let missing := words.filter fun w => !isKw w ts
  expected (missing.map Wanted.token ++
    if calls then [.kind "identifier", .token "self", .token "super", .token "crate", .token "::"]
    else [])

/-- Whether a macro call may start here. -/
def isCallStart : Parser Bool :=
  peekAny [isName, isKw "self", isKw "super", isKw "crate", isOp "::"]

/-- A macro call as an item: with its semicolon unless it has braces. -/
def macroItem : Parser Unit := do
  let _ ← plainPath
  let _ ← sign "!"
  if ← peek (isKw "try") then
    let _ ← anyIdent
  else if ← peek isName then
    let _ ← ident
  let (delimiter, _, _) ← anyGroup
  if delimiter ≠ .brace then
    let _ ← sign ";"

/-- A macro call as a member, which cannot name anything. -/
def macroMember : Parser Unit := do
  let _ ← plainPath
  if (← macroCall) ≠ .brace then
    let _ ← sign ";"

/-- The name of a constant. -/
def constName : Parser Ident := do
  if ← peekAny [isName, isKw "_"] then anyIdent
  else expected [.kind "identifier", .token "_"]

/-- A constant from its name on: the name, whether it has a value, and whether it is plain, with
neither parameters nor a where clause. -/
def constRest (g : Grammar) : Parser (Ident × Bool × Bool) := do
  let name ← constName
  let params ← generics g
  let _ ← sign ":"
  let _ ← g.ty true
  let valued ← sign? "="
  if valued then
    let _ ← g.expr true
  let clause ← whereClause? g
  let _ ← sign ";"
  return (name, valued, !params.angled && clause.isNone)

/-- Where the where clause of a type stands. -/
inductive ClausePlace where
  | beforeValue
  | afterValue
  | either
deriving DecidableEq

/-- A type item from its word on: its name, whether it has a colon, and whether it has a value. -/
def typeRest (g : Grammar) (place : ClausePlace) : Parser (Ident × Bool × Bool) := do
  let _ ← keyword "type"
  let name ← ident
  let _ ← generics g
  let stop := peekAny [isKw "where", isOp "=", isOp ";"]
  let ((bounded, any), written) ← captured do
    let bounded ← sign? ":"
    if !bounded then return (false, false)
    let bounds ← boundsUpTo g stop true
    return (true, !bounds.values.isEmpty)
  if any then write written
  let early ← if place = .afterValue then pure none else whereClause? g
  let valued ← sign? "="
  if valued then
    let _ ← g.ty true
  if place ≠ .beforeValue && early.isNone then
    let _ ← whereClause? g
  let _ ← sign ";"
  return (name, bounded, valued)

/-- A member of a trait; tells whether it is kept as it was written. -/
def traitMember (g : Grammar) : Parser Bool := do
  let _ ← attributes g
  let vis ← visibility
  let defaultWord ← keyword? "default"
  let odd := vis ≠ .inherited || defaultWord.isSome
  if ← isFn false then
    let _ ← signature g
    if ← peek (isGroup .brace) then
      let _ ← body g
    else if !(← sign? ";") then expected [.kind "curly braces", .token ";"]
    return odd
  if ← peek (isKw "const") then
    if (← peek2 isFnStart) || (← peek2 (isKw "async")) then
      let _ ← signature g
      return odd
    let _ ← keyword "const"
    if !(← peekAny [isName, isKw "_"]) then
      expected [.kind "identifier", .token "_", .token "async", .token "unsafe", .token "extern",
        .token "fn"]
    let (_, _, plain) ← constRest g
    return odd || !plain
  if ← peek (isKw "type") then
    let _ ← typeRest g .afterValue
    return odd
  if !odd && (← isCallStart) then
    macroMember
    return false
  expectedItem ["fn", "const", "type"] (!odd)

/-- A foreign item; tells whether it is kept as it was written. -/
def foreignMember (g : Grammar) : Parser Bool := do
  let _ ← attributes g
  let vis ← visibility
  if ← isFn true then
    let (_, safe) ← signatureOf g true
    if ← peek (isGroup .brace) then
      let _ ← body g
      return true
    let _ ← sign ";"
    return safe
  let marked := (← peekAny [isKw "unsafe", isKw "safe"]) && (← peek2 (isKw "static"))
  if marked || (← peek (isKw "static")) then
    if marked then
      let _ ← anyIdent
    let _ ← keyword "static"
    let _ ← keyword? "mut"
    let _ ← ident
    let _ ← sign ":"
    let _ ← g.ty true
    let valued ← sign? "="
    if valued then
      let _ ← g.expr true
    let _ ← sign ";"
    return marked || valued
  if ← peek (isKw "type") then
    let (_, bounded, valued) ← typeRest g .either
    return bounded || valued
  if vis = .inherited && (← isCallStart) then
    macroMember
    return false
  expectedItem ["fn", "static", "type"] (vis = .inherited)

/-- Members up to the end of the level, each written as it prints or as it was written. -/
def members (member : Parser Bool) : Parser Unit := do
  let _ ← untilEnd (verbatimIf id (unmentionedIf id member))

/-! ## Implementations -/

/-- The function of an implementation behind its attributes; nothing if it lacks its body. -/
def memberFn (g : Grammar) (attributes : List Attribute) : Parser (Option Member) := do
  let vis ← visibility
  let defaultWord ← keyword? "default"
  let sig ← signature g
  if ← sign? ";" then return none
  let (inner, statements) ← body g
  return some (.fn (attributes ++ inner) vis defaultWord.isSome sig statements)

/-- A member of an implementation behind its attributes; nothing if it is kept as it was
written. -/
def memberForm (g : Grammar) (attributes : List Attribute) : Parser (Option Member) := do
  let (vis, defaultWord) ← ahead do
    let vis ← visibility
    let defaultWord := (← peek (isKw "default")) && !(← peek2 (isOp "!"))
    return (vis, defaultWord)
  let words : Parser Unit := do
    let _ ← visibility
    if defaultWord then
      let _ ← keyword "default"
  if ← ahead (do words; isFn false) then return ← memberFn g attributes
  if ← ahead (do words; peek (isKw "const")) then
    let ((name, valued, plain), tokens) ← captured do
      words
      let _ ← keyword "const"
      constRest g
    return if valued && plain then some (.const attributes name tokens) else none
  if ← ahead (do words; peek (isKw "type")) then
    let ((_, bounded, valued), tokens) ← captured do
      words
      typeRest g .afterValue
    return if valued && !bounded then some (.type attributes tokens) else none
  if vis = .inherited && !defaultWord && (← isCallStart) then
    let ((), tokens) ← captured macroMember
    return some (.macroCall attributes tokens)
  words
  expectedItem ((if defaultWord then [] else ["default"]) ++ ["fn", "const", "type"])
    (vis = .inherited && !defaultWord)

/-- A member of an implementation. -/
def implMember (g : Grammar) : Parser Member := do
  let (found, taken) ← verbatim <| unmentionedIf Option.isNone do
    memberForm g (← attributes g)
  return found.getD (.verbatim taken)

/-- An implementation behind its attributes; nothing if it is kept as it was written. -/
def implItem (g : Grammar) (attributes : List Attribute) : Parser (Option ImplItem) := do
  let vis ← visibility
  let ((), head) ← captured do
    let _ ← keyword? "default"
    let _ ← keyword? "unsafe"
  let _ ← keyword "impl"
  let params ← if ← isParameterList then generics g else pure Generics.none
  let constant := (← peek (isKw "const")) || ((← peek (isOp "?")) && (← peek2 (isKw "const")))
  if constant then
    let _ ← sign? "?"
    let _ ← keyword "const"
  let mark ← here
  let negative := (← peek (isOp "!")) && !(← peek2 (isGroup .brace))
  if negative then
    let _ ← sign "!"
  let first ← g.ty true
  let ofTrait := (← keyword? "for").isSome
  if !ofTrait && negative then failAt mark (.restriction .negativeInherentImpl)
  let selfTy ← if ofTrait then g.ty true else pure first
  let traitPath := match ofTrait, first with
    | true, .path _ none path => some (negative, path)
    | _, _ => none
  let clause ← whereClause? g
  let (inner, members) ← inside .brace do
    let inner ← attributesInside g
    return (inner, ← untilEnd (implMember g))
  if vis ≠ .inherited || constant || (ofTrait && traitPath.isNone) then return none
  return some { attributes := attributes ++ inner, head, generics := { params with clause },
                traitPath, selfTy, members }

/-! ## Imports -/

/-- A use tree; nothing if a path inside it starts at the root, which one between braces may if
`root`. -/
def useTreeRule (g : Grammar) (root : Bool) : Parser (Option UseTree) := do
  if ← peekAny [isName, isKw "self", isKw "super", isKw "crate", isKw "try"] then
    let name ← anyIdent
    if ← sign? "::" then
      return (← g.useTree false).map (.path name)
    if (← keyword? "as").isSome then
      if ← peekAny [isName, isKw "_"] then return some (.rename name (← anyIdent))
      expected [.kind "identifier or underscore"]
    return some (.name name)
  if ← sign? "*" then return some .glob
  if ← peek (isGroup .brace) then
    let trees ← inside .brace <| commaSeparated do
      let fromRoot ← if root then sign? "::" else pure false
      let tree ← g.useTree (root && !fromRoot)
      return if fromRoot then none else tree
    return (trees.values.mapM id).map (.group · trees.trailing)
  expected [.kind "identifier", .token "self", .token "super", .token "crate", .token "try",
    .token "*", .kind "curly braces"]

/-- An import behind its attributes; nothing if it is kept as it was written. -/
def useItem (g : Grammar) (attributes : List Attribute) : Parser (Option Item) := do
  let vis ← visibility
  let _ ← keyword "use"
  let colon ← sign? "::"
  let tree ← g.useTree (!colon)
  let _ ← sign ";"
  return tree.map (.use attributes vis colon ·)

/-- The import of a crate behind its attributes. -/
def externCrateItem (attributes : List Attribute) : Parser Item := do
  let ((name, newName), tokens) ← captured do
    let _ ← visibility
    let _ ← keyword "extern"
    let _ ← keyword "crate"
    let name ← if ← peek (isKw "self") then anyIdent else ident
    let newName ← if (← keyword? "as").isNone then pure none
      else if ← peek (isKw "_") then some <$> anyIdent
      else some <$> ident
    let _ ← sign ";"
    return (name, newName)
  return .externCrate attributes name newName tokens

/-! ## Items -/

/-- A block of foreign items behind its attributes. -/
def foreignItem (g : Grammar) (attributes : List Attribute) : Parser Item := do
  let ((), head) ← captured do
    let _ ← keyword? "unsafe"
    let _ ← keyword "extern"
    if ← peek (isLiteralOf .text) then
      let _ ← stringLiteral
  let (inner, items) ← inside .brace do
    let inner ← attributesInside g
    let ((), items) ← recorded (members (foreignMember g))
    return (inner, items)
  return .foreign (attributes ++ inner) head items

/-- A module behind its attributes. -/
def modItem (g : Grammar) (attributes : List Attribute) : Parser Item := do
  let vis ← visibility
  let unsafeWord ← keyword? "unsafe"
  let _ ← keyword "mod"
  let name ← if ← peek (isKw "try") then anyIdent else ident
  if ← sign? ";" then return .mod attributes vis unsafeWord.isSome name none
  if !(← peek (isGroup .brace)) then expected [.token ";", .kind "curly braces"]
  let (inner, items) ← inside .brace do
    let inner ← attributesInside g
    return (inner, ← untilEnd g.item)
  return .mod (attributes ++ inner) vis unsafeWord.isSome name (some items)

/-- A trait behind its attributes, or an alias for bounds if it has an equals sign. -/
def traitItem (g : Grammar) (attributes : List Attribute) (aliasAllowed : Bool) : Parser Item := do
  let (name, head) ← captured do
    let _ ← visibility
    let _ ← keyword? "unsafe"
    let _ ← keyword? "auto"
    let _ ← keyword "trait"
    let name ← ident
    let _ ← generics g
    return name
  if aliasAllowed then
    if ← peek (isOp "=") then
      let ((), rest) ← captured do
        let _ ← sign "="
        let _ ← boundsUpTo g (peekAny [isKw "where", isOp ";"]) false
        let _ ← whereClause? g
        let _ ← sign ";"
      return .named .traitAlias attributes name (head ++ rest) none
    if !(← peekAny [isGroup .brace, isOp ":", isKw "where"]) then
      expected [.kind "curly braces", .token ":", .token "where", .token "="]
  let (any, bounds) ← captured do
    if !(← sign? ":") then return false
    let bounds ← boundsUpTo g (peekAny [isKw "where", isGroup .brace]) true
    return !bounds.values.isEmpty
  let (_, clause) ← captured (whereClause? g)
  let (inner, items) ← inside .brace do
    let inner ← attributesInside g
    let ((), items) ← recorded (members (traitMember g))
    return (inner, items)
  return .named .trait (attributes ++ inner) name
    (head ++ (if any then bounds else []) ++ clause) (some items)

/-- A static variable behind its attributes; nothing if it lacks its type or its value. -/
def staticItem (g : Grammar) (attributes : List Attribute) : Parser (Option Item) := do
  let ((name, complete), tokens) ← captured do
    let _ ← visibility
    let _ ← keyword "static"
    let _ ← keyword? "mut"
    let name ← ident
    if ← sign? "=" then
      let _ ← g.expr true
      let _ ← sign ";"
      return (name, false)
    let _ ← sign ":"
    let _ ← g.ty true
    if ← sign? ";" then return (name, false)
    let _ ← sign "="
    let _ ← g.expr true
    let _ ← sign ";"
    return (name, true)
  return if complete then some (.named .static attributes name tokens none) else none

/-- A constant behind its attributes; nothing if it lacks its value or has parameters. -/
def constItem (g : Grammar) (attributes : List Attribute) : Parser (Option Item) := do
  let ((name, valued, plain), tokens) ← captured do
    let _ ← visibility
    let _ ← keyword "const"
    constRest g
  return if valued && plain then some (.named .const attributes name tokens none) else none

/-- A type alias behind its attributes; nothing if it has bounds or lacks its value. -/
def typeItem (g : Grammar) (attributes : List Attribute) : Parser (Option Item) := do
  let ((name, bounded, valued), tokens) ← captured do
    let _ ← visibility
    typeRest g .beforeValue
  return if valued && !bounded then some (.named .type attributes name tokens none) else none

/-- A union behind its attributes. -/
def unionItem (g : Grammar) (attributes : List Attribute) : Parser Item := do
  let (name, tokens) ← captured do
    let _ ← visibility
    let _ ← keyword "union"
    let name ← ident
    let _ ← generics g
    let _ ← whereClause? g
    let _ ← rendered Fields.tokens (namedFields g)
    return name
  return .named .union attributes name tokens none

/-- A function behind its attributes; nothing if it lacks its body. -/
def fnItem (g : Grammar) (attributes : List Attribute) : Parser (Option Item) := do
  let vis ← visibility
  let sig ← signature g
  if ← sign? ";" then return none
  let (inner, statements) ← body g
  return some (.fn { attributes := attributes ++ inner, vis, sig, body := statements })

/-- A macro definition of the second kind, which is kept as it was written. -/
def macroDefinition : Parser Unit := do
  let _ ← visibility
  let _ ← keyword "macro"
  let _ ← ident
  let params ← peek (isGroup .parenthesis)
  if params then
    let _ ← anyGroup
  if ← peek (isGroup .brace) then
    let _ ← anyGroup
  else expected ((if params then [] else [.kind "parentheses"]) ++ [.kind "curly braces"])

/-- What the word `extern` starts: the import of a crate or a block of foreign items. -/
def externForm (g : Grammar) (attributes : List Attribute) : Parser Item := do
  let crateNext ← ahead do
    let _ ← visibility
    let _ ← keyword "extern"
    if ← peek (isKw "crate") then return true
    if ← peek (isGroup .brace) then return false
    if ← peek (isLiteralOf .text) then
      let _ ← stringLiteral
      if ← peek (isGroup .brace) then return false
      expected [.kind "curly braces"]
    expected [.token "crate", .kind "curly braces", .kind "string literal"]
  if crateNext then externCrateItem attributes else foreignItem g attributes

/-- What the word `unsafe` starts where no function follows. -/
def unsafeForm (g : Grammar) (attributes : List Attribute) : Parser (Option Item) := do
  let next ← ahead do
    let _ ← visibility
    let _ ← keyword "unsafe"
    if (← peek (isKw "trait")) || ((← peek (isKw "auto")) && (← followedBy ["trait"])) then
      return "trait"
    match ← peek (isKw "impl"), ← peek (isKw "extern"), ← peek (isKw "mod") with
    | true, _, _ => return "impl"
    | _, true, _ => return "extern"
    | _, _, true => return "mod"
    | _, _, _ => expectedItem ["trait", "auto", "impl", "extern", "mod"] false
  if next == "trait" then return some (← traitItem g attributes false)
  if next == "impl" then return (← implItem g attributes).map .impl
  if next == "extern" then return some (← foreignItem g attributes)
  return some (← modItem g attributes)

/-- The words that an item may start with. -/
def itemWords : List String :=
  ["fn", "extern", "use", "static", "const", "unsafe", "mod", "type", "struct", "enum", "union",
    "trait", "auto", "impl", "default", "macro"]

/-- An item behind its attributes; nothing if it is kept as it was written. -/
def itemForm (g : Grammar) (attributes : List Attribute) : Parser (Option Item) := do
  let behind {α : Type} (p : Parser α) : Parser α := ahead (do let _ ← visibility; p)
  let word (w : String) : Parser Bool := behind (peek (isKw w))
  if ← behind (isFn false) then return ← fnItem g attributes
  if ← word "extern" then return some (← externForm g attributes)
  if ← word "use" then return ← useItem g attributes
  if ← word "static" then return ← staticItem g attributes
  if ← word "const" then return ← constItem g attributes
  if ← word "unsafe" then return ← unsafeForm g attributes
  if ← word "mod" then return some (← modItem g attributes)
  if ← word "type" then return ← typeItem g attributes
  if ← word "struct" then return some (.struct (← structItem g attributes))
  if ← word "enum" then return some (.enum (← enumItem g attributes))
  if (← word "union") && (← behind (peek2 isName)) then return some (← unionItem g attributes)
  if ← word "trait" then return some (← traitItem g attributes true)
  if (← word "auto") && (← behind (followedBy ["trait"])) then
    return some (← traitItem g attributes false)
  if (← word "impl") || ((← word "default") && !(← behind (peek2 (isOp "!")))) then
    return (← implItem g attributes).map .impl
  if ← word "macro" then
    macroDefinition
    return none
  let vis ← visibility
  let inherited : Bool := vis = .inherited
  if inherited && (← isCallStart) then
    let ((), tokens) ← captured macroItem
    return some (.macroCall attributes tokens)
  expectedItem itemWords inherited

/-- An item. -/
def itemRule (g : Grammar) : Parser Item := do
  let (found, taken) ← verbatim <| unmentionedIf Option.isNone do
    itemForm g (← attributes g)
  return found.getD (.verbatim taken)

end DeclSynth.Grammar
