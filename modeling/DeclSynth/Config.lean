import DeclSynth.ExpandError
import DeclSynth.Syntax.Parse
import DeclSynth.Token.Lexer

/-!
# Configuration

Five texts that every expander shares. Each has to be a fragment of the language: a path,
a name, the end of a name, or an expression. `Config.validate` checks them in a fixed
order; the functions before it read one fragment each.
-/

namespace DeclSynth

/-- The settings of an expansion. -/
structure Config where
  /-- The path of the runtime that generated code refers to. -/
  cratePath : String
  /-- The end of every discriminator's name, and the whole name of the aggregate one. -/
  sealedSuffix : String
  /-- The name of the aggregate classifier. -/
  aggregateClassifier : String
  /-- The end of an asynchronous peer's name. -/
  asyncSuffix : String
  /-- The store of a stored field that names none, relative to the runtime. -/
  defaultStore : String
deriving DecidableEq, Repr

namespace Config

/-- The settings that hold unless others are given. -/
def default : Config :=
  { cratePath := "::expando"
    sealedSuffix := "SealedType"
    aggregateClassifier := "sealed_type"
    asyncSuffix := "_async"
    defaultStore := "Defaults::standard()" }

instance : Inhabited Config := ⟨default⟩

/-- Reads a fragment; whatever is wrong with it, the message is the same. -/
def fragment {α : Type} (parse : Tokens → Except SyntaxError α) (text : String)
    (setting value wanted : String) : Except ExpandError α :=
  match (lex text).map parse with
  | some (.ok a) => .ok a
  | _ => .error (.config ("`" ++ setting ++ "` `" ++ value ++ "` is not " ++ wanted))

/-- The path of the runtime. -/
def runtimePath (c : Config) : Except ExpandError Path :=
  fragment Path.parse c.cratePath "crate_path" c.cratePath "a path"

/-- The name of the aggregate classifier. -/
def classifier (c : Config) : Except ExpandError Ident :=
  fragment Ident.parse c.aggregateClassifier "aggregate_classifier" c.aggregateClassifier
    "an identifier"

/-- The name of the aggregate discriminator. -/
def discriminator (c : Config) : Except ExpandError Ident :=
  fragment Ident.parse c.sealedSuffix "sealed_suffix" c.sealedSuffix "an identifier"

/-- The default store under a runtime. -/
def store (c : Config) (root : Path) : Except ExpandError Expr :=
  fragment Expr.parse (root.tokens.render ++ "::" ++ c.defaultStore) "default_store" c.defaultStore
    "an expression"

/-- The name of a peer of a function named `run`, which stands for all names of peers. -/
def samplePeer (c : Config) : Except ExpandError Ident :=
  fragment Ident.parse ("run" ++ c.asyncSuffix) "async_suffix" c.asyncSuffix
    "an identifier fragment"

/-- Checks every setting; the first one that is wrong is reported. -/
def validate (c : Config) : Except ExpandError Unit := do
  let root ← c.runtimePath
  let _ ← c.classifier
  let _ ← c.store root
  let _ ← c.discriminator
  let _ ← c.samplePeer

end Config

end DeclSynth
