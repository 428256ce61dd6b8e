import DeclSynth.Syntax.Grammar.Ty

/-!
# The grammar of parameters and where clauses

Generic parameters between angle brackets, with their bounds and defaults, and the
predicates of a where clause. Both are written as their trees print.
-/

namespace DeclSynth.Grammar

open DeclSynth.Parser

/-- Whether what comes next is a list of parameters, and not a qualified path. -/
def isParameterList : Parser Bool := do
  if !(← peek (isOp "<")) then return false
  if (← peek2 (isOp ">")) || (← peek2 (isOp "#")) || (← peek2 (isKw "const")) then return true
  return ((← peek2 isLifetime) || (← peek2 isName)) &&
    ((← peek3 (isOp ">")) || (← peek3 (isOp ",")) || (← peek3 isColon) || (← peek3 (isOp "=")))

/-- Bounds with plus signs between them, none where `stop` holds. -/
def boundsUntil (g : Grammar) (stop : Parser Bool) (constant : Bool) : Parser (Separated Bound) :=
  separatedWith "+" stop (return !(← peek (isOp "+"))) (g.bound false constant)

/-- Bounds with plus signs between them up to where `stop` holds. -/
def boundsUpTo (g : Grammar) (stop : Parser Bool) (constant : Bool) : Parser (Separated Bound) :=
  separatedWith "+" stop stop (g.bound false constant)

/-- Lifetimes with plus signs between them, none where `stop` holds. -/
def lifetimesUntil (stop : Parser Bool) : Parser (Separated Lifetime) :=
  separatedWith "+" stop (return !(← peek (isOp "+"))) lifetime

/-- A lifetime parameter behind its attributes. -/
def lifetimeParam (attributes : List Attribute) : Parser LifetimeParam := do
  let l ← lifetime
  if ← sign? ":" then
    let bounds ← lifetimesUntil (peekAny [isOp ",", isOp ">"])
    return ⟨attributes, l, bounds.values, bounds.trailing⟩
  else return ⟨attributes, l, [], false⟩

/-- A type parameter behind its attributes. -/
def typeParam (g : Grammar) (attributes : List Attribute) : Parser TypeParam := do
  let name ← ident
  let bounds ← if ← sign? ":" then boundsUntil g (peekAny [isOp ",", isOp ">", isOp "="]) true
    else pure ⟨[], false⟩
  let default ← if ← sign? "=" then some <$> g.ty true else pure none
  return ⟨attributes, name, bounds.values, bounds.trailing, default⟩

/-- A constant parameter behind its attributes. -/
def constParam (g : Grammar) (attributes : List Attribute) : Parser ConstParam := do
  let _ ← keyword "const"
  let name ← ident
  let _ ← sign ":"
  let ty ← g.ty true
  let default ← if ← sign? "=" then some <$> constArgument g else pure none
  return ⟨attributes, name, ty, default⟩

/-- A generic parameter. -/
def genericParam (g : Grammar) : Parser GenericParam := do
  let attributes ← attributes g
  if ← peek isLifetime then return .lifetime (← lifetimeParam attributes)
  if ← peek isName then return .type (← typeParam g attributes)
  if ← peek (isKw "const") then return .const (← constParam g attributes)
  if ← peek (isKw "_") then return .type ⟨attributes, ← anyIdent, [], false, none⟩
  expected [.kind "lifetime", .kind "identifier", .token "const"]

/-- The parameters of a declaration, if there are any. -/
def generics (g : Grammar) : Parser Generics :=
  rendered Generics.declared do
    if !(← peek (isOp "<")) then return Generics.none
    let (list, span) ← spanned do
      let _ ← sign "<"
      let list ← separatedWith "," (peek (isOp ">")) (peek (isOp ">")) (genericParam g)
      let _ ← sign ">"
      return list
    return ⟨true, span, list.values, list.trailing, none⟩

/-- Whether a list of predicates or of their bounds is over; a colon ends it if `colon` holds. -/
def isClauseEnd (colon : Tokens → Bool) (ts : Tokens) : Bool :=
  ts.isEmpty || isGroup .brace ts || isOp "," ts || isOp ";" ts || colon ts || isOp "=" ts

/-- A predicate of a where clause. -/
def wherePredicate (g : Grammar) : Parser WherePredicate := do
  if (← peek isLifetime) && (← peek2 (isOp ":")) then
    let l ← lifetime
    let _ ← sign ":"
    let bounds ← lifetimesUntil (peek (isClauseEnd (isOp ":")))
    return .lifetime l bounds.values bounds.trailing
  let binding ← binder? g
  let bounded ← g.ty true
  let _ ← sign ":"
  let bounds ← boundsUntil g (peek (isClauseEnd isColon)) true
  return .type binding bounded bounds.values bounds.trailing

/-- A where clause, if there is one. -/
def whereClause? (g : Grammar) : Parser (Option WhereClause) := do
  if !(← peek (isKw "where")) then return none
  rendered (fun clause => (clause.map WhereClause.tokens).getD []) do
    let _ ← keyword "where"
    if ← isParameterList then fail (.restriction .parametersOnWhere)
    let list ← separatedWith "," (peek (isClauseEnd isColon)) (return !(← peek (isOp ",")))
      (wherePredicate g)
    return some ⟨list.values, list.trailing⟩

end DeclSynth.Grammar
