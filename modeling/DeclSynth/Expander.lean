/-!
# The expanders

The fixed list of expanders: what each is called, where in a program it is attached, and
how it is invoked.
-/

namespace DeclSynth

/-- Where in a program an expander is attached. -/
inductive ExpansionSite where
  | freestandingExpression
  | freestandingDeclaration
  | peer
  | member
  | memberAttribute
  | accessor
  | conformanceExtension
  | «extension»
deriving DecidableEq, Repr

/-- How an expander is invoked. -/
inductive InvocationForm where
  /-- As an attribute; the item under it is replaced. -/
  | attribute
  /-- As a derive; its output comes after the item. -/
  | derive
  /-- As a call. -/
  | call
deriving DecidableEq, Repr

/-- The expanders. -/
inductive Expander where
  | stringify
  | warning
  | url
  | addAsync
  | caseDetection
  | wrapStoredProperties
  | storedAccess
  | equatable
  | copyable
  | sealed
  | addInit
deriving DecidableEq, Repr

namespace ExpansionSite

/-- What data files call a site. -/
def tag : ExpansionSite → String
  | freestandingExpression => "FreestandingExpression"
  | freestandingDeclaration => "FreestandingDeclaration"
  | peer => "Peer"
  | member => "Member"
  | memberAttribute => "MemberAttribute"
  | accessor => "Accessor"
  | conformanceExtension => "ConformanceExtension"
  | «extension» => "Extension"

end ExpansionSite

namespace InvocationForm

/-- What data files call a form. -/
def tag : InvocationForm → String
  | .attribute => "Attribute"
  | .derive => "Derive"
  | .call => "FunctionLike"

end InvocationForm

namespace Expander

/-- All expanders, in the order in which they are listed. -/
def all : List Expander :=
  [stringify, warning, url, addAsync, caseDetection, wrapStoredProperties, storedAccess,
    equatable, copyable, sealed, addInit]

/-- What data files call an expander. -/
def tag : Expander → String
  | stringify => "Stringify"
  | warning => "Warning"
  | url => "Url"
  | addAsync => "AddAsync"
  | caseDetection => "CaseDetection"
  | wrapStoredProperties => "WrapStoredProperties"
  | storedAccess => "StoredAccess"
  | equatable => "Equatable"
  | copyable => "Copyable"
  | sealed => "Sealed"
  | addInit => "AddInit"

/-- The name an expander is invoked by. -/
def name : Expander → String
  | stringify => "stringify_expr"
  | warning => "warning"
  | url => "url"
  | addAsync => "add_async"
  | caseDetection => "CaseDetection"
  | wrapStoredProperties => "wrap_stored_properties"
  | storedAccess => "stored_access"
  | equatable => "Equatable"
  | copyable => "Copyable"
  | sealed => "sealed"
  | addInit => "add_init"

/-- The expander that is invoked by a name. -/
def ofName? (text : String) : Option Expander := all.find? (·.name == text)

/-- Where an expander is attached. -/
def site : Expander → ExpansionSite
  | stringify | url => .freestandingExpression
  | warning => .freestandingDeclaration
  | addAsync => .peer
  | caseDetection | copyable | addInit => .member
  | wrapStoredProperties => .memberAttribute
  | storedAccess => .accessor
  | equatable => .conformanceExtension
  | sealed => .extension

/-- How an expander is invoked. -/
def form : Expander → InvocationForm
  | stringify | warning | url => .call
  | caseDetection | equatable | copyable => .derive
  | addAsync | wrapStoredProperties | storedAccess | sealed | addInit => .attribute

/-- How messages spell an expander. -/
def displayName (e : Expander) : String :=
  match e.form with
  | .attribute => "#[" ++ e.name ++ "]"
  | .derive => "#[derive(" ++ e.name ++ ")]"
  | .call => e.name ++ "!"

end Expander

end DeclSynth
