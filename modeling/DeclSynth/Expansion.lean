import DeclSynth.Context
import DeclSynth.Expansion.AsyncPeer
import DeclSynth.Expansion.CasePredicates
import DeclSynth.Expansion.CopyMethods
import DeclSynth.Expansion.Equality
import DeclSynth.Expansion.FieldAttribute
import DeclSynth.Expansion.Initializer
import DeclSynth.Expansion.Sealed
import DeclSynth.Expansion.StoredAccess
import DeclSynth.Expansion.UrlLiteral

/-!
# Expansion

`Expander.inContext` gives an expander its input: an attribute its arguments and the item
under it, a derive the item, and a call its arguments, and those that ask for it the
context. `expandWith` is the whole way from there to the tokens that take the input's
place; it yields no tokens only where a name that an expander builds is none.
-/

namespace DeclSynth

/-- What an expander yields for its input, in a context. -/
def Expander.inContext (kind : Expander) (args item : Tokens) : InContext Tokens :=
  match kind with
  | .stringify => Freestanding.stringify args
  | .warning => Freestanding.warning args
  | .url => UrlLiteral.inContext args
  | .addAsync => AsyncPeer.inContext args item
  | .caseDetection => CasePredicates.expand item
  | .wrapStoredProperties => FieldAttribute.expand args item
  | .storedAccess => StoredAccess.inContext args item
  | .equatable => Equality.expand item
  | .copyable => CopyMethods.expand item
  | .sealed => Sealed.inContext args item
  | .addInit => Initializer.inContext args item

/-- What an expander yields for its input, in a context in which nothing has been reported. -/
def Expander.run (kind : Expander) (c : Config) (args item : Tokens) : Outcome Tokens :=
  (kind.inContext args item).fresh c

/-- The item without the marks that only an expander understands, if it has such marks. -/
def Expander.withoutMarks? (kind : Expander) (item : Tokens) : Option Tokens :=
  match kind with
  | .sealed => some (Sealed.withoutMarks item)
  | .storedAccess => some (StoredAccess.withoutMarks item)
  | _ => none

/-- What takes the place of a failed expansion: for an attribute the item under it, else nothing. -/
def Expander.fallback (kind : Expander) (item : Tokens) : Tokens :=
  match kind.withoutMarks? item, kind.form with
  | some tokens, _ => tokens
  | none, .attribute => item
  | none, .derive | none, .call => []

/-- The tokens that take the place of an expander's input, in a context. -/
def expandWith (cx : Context) (kind : Expander) (args item : Tokens) : Except NameFault Tokens :=
  match kind.inContext args item ⟨cx, []⟩ with
  | (.ok tokens, s) => .ok (s.context.finish kind (.ok tokens) (kind.fallback item))
  | (.error (.failure f), s) => .ok (s.context.finish kind (.error f) (kind.fallback item))
  | (.error (.panic fault), _) => .error fault

/-- The tokens that take the place of an expander's input, configured by a setting of the
environment. -/
def expand (environment : Option String) (kind : Expander) (args item : Tokens) :
    Except NameFault Tokens :=
  expandWith (.ofEnvironment environment) kind args item

end DeclSynth
