import DeclSynth.Syntax.Tree

/-!
# Lifetimes that are left out

A type leaves a lifetime out where a reference has none, or where the lifetime is
written `'_`. `Ty.elided?` finds the first such place. Function pointers and the
parenthesized arguments of function traits bind lifetimes of their own, so nothing
inside them counts.
-/

namespace DeclSynth

/-- Where a lifetime is left out by writing `'_`. -/
def Lifetime.elided? (l : Lifetime) : Option Span := if l.name == "_" then some l.span else none

/-- Where an entry of a `use<..>` bound leaves a lifetime out. -/
def Captured.elided? : Captured → Option Span
  | .lifetime l => l.elided?
  | .param _ => none

mutual

/-- The first place where a type leaves a lifetime out. -/
def Ty.elided? : Ty → Option Span
  | .array _ elem length => elem.elided? <|> length.elided?
  | .bareFn .. => none
  | .group _ elem => elem.elided?
  | .implTrait _ bounds _ => elidedInBounds? bounds
  | .infer _ => none
  | .macroCall _ path _ => path.elided?
  | .never _ => none
  | .paren _ elem => elem.elided?
  | .path _ none path => path.elided?
  | .path _ (some (.mk ty _)) path => ty.elided? <|> path.elided?
  | .pointer _ _ elem => elem.elided?
  | .reference _ ampersand none _ _ => some ampersand
  | .reference _ _ (some l) _ elem => l.elided? <|> elem.elided?
  | .slice _ elem => elem.elided?
  | .traitObject _ _ bounds _ => elidedInBounds? bounds
  | .tuple _ elems _ => elidedInTypes? elems
  | .verbatim .. => none

/-- The first place where one of several types leaves a lifetime out. -/
def elidedInTypes? : List Ty → Option Span
  | [] => none
  | ty :: rest => ty.elided? <|> elidedInTypes? rest

/-- The first place where a path leaves a lifetime out. -/
def Path.elided? : Path → Option Span
  | .mk _ _ segments => elidedInSegments? segments

/-- The first place where one of several segments leaves a lifetime out. -/
def elidedInSegments? : List Segment → Option Span
  | [] => none
  | .mk _ arguments :: rest => arguments.elided? <|> elidedInSegments? rest

/-- The first place where the arguments of a segment leave a lifetime out. -/
def Arguments.elided? : Arguments → Option Span
  | .none => none
  | .angle arguments => arguments.elided?
  | .parenthesized .. => none

/-- The first place where arguments in angle brackets leave a lifetime out. -/
def AngleArguments.elided? : AngleArguments → Option Span
  | .mk _ arguments _ => elidedInArguments? arguments

/-- The first place where one of several arguments leaves a lifetime out. -/
def elidedInArguments? : List GenericArgument → Option Span
  | [] => none
  | a :: rest => a.elided? <|> elidedInArguments? rest

/-- The first place where an argument leaves a lifetime out. -/
def GenericArgument.elided? : GenericArgument → Option Span
  | .lifetime l => l.elided?
  | .type ty => ty.elided?
  | .const value => value.elided?
  | .assocType _ none ty => ty.elided?
  | .assocType _ (some generics) ty => generics.elided? <|> ty.elided?
  | .assocConst _ none value => value.elided?
  | .assocConst _ (some generics) value => generics.elided? <|> value.elided?
  | .constraint _ none bounds _ => elidedInBounds? bounds
  | .constraint _ (some generics) bounds _ => generics.elided? <|> elidedInBounds? bounds

/-- The first place where one of several bounds leaves a lifetime out. -/
def elidedInBounds? : List Bound → Option Span
  | [] => none
  | b :: rest => b.elided? <|> elidedInBounds? rest

/-- The first place where one of several attributes leaves a lifetime out: in its value. -/
def elidedInAttributes? : List Attribute → Option Span
  | [] => none
  | ⟨_, _, _, .path, _, _⟩ :: rest | ⟨_, _, _, .list .., _, _⟩ :: rest => elidedInAttributes? rest
  | ⟨_, _, _, .nameValue _ value, _, _⟩ :: rest => value.elided? <|> elidedInAttributes? rest

/-- The first place where the lifetimes that a `for<..>` binds are left out. -/
def elidedInParams? : List LifetimeParam → Option Span
  | [] => none
  | ⟨attributes, l, bounds, _⟩ :: rest =>
    elidedInAttributes? attributes <|> l.elided? <|> bounds.findSome? Lifetime.elided? <|>
      elidedInParams? rest

/-- The first place where a bound leaves a lifetime out. -/
def Bound.elided? : Bound → Option Span
  | .trait _ _ none path => path.elided?
  | .trait _ _ (some ⟨params, _⟩) path => elidedInParams? params <|> path.elided?
  | .lifetime l => l.elided?
  | .capture captured _ => captured.findSome? Captured.elided?
  | .verbatim _ => none

/-- The first place where what an expression mentions leaves a lifetime out. -/
def Expr.elided? : Expr → Option Span
  | .mk _ _ mentions _ => elidedInMentions? mentions

/-- The first place where one of several mentions leaves a lifetime out. -/
def elidedInMentions? : List Mention → Option Span
  | [] => none
  | .type ty :: rest => ty.elided? <|> elidedInMentions? rest
  | .lifetime l :: rest => l.elided? <|> elidedInMentions? rest

end

end DeclSynth
