import DeclSynth.Config.Runtime
import DeclSynth.Expansion.Freestanding
import DeclSynth.Url

/-!
# Checked URL literals

A string literal is checked to be a URL at once, and parsed again by the code that takes
its place. That code stops the program if the literal is refused there.
-/

namespace DeclSynth.UrlLiteral

/-- The message of a program that stops because its URL literal was refused. -/
def refusalText : String :=
  "url! literal \x7b:?\x7d was accepted at compile time but failed: \x7b\x7d"

/-- The code that parses a literal, given as its token. -/
def tokens (runtime : Path) (literal : Tokens) : Tokens :=
  let result (name : String) (binding : String) :=
    absolute ["core", "result", "Result", name] ++ paren (kw binding) ++ op "=>"
  kw "match" ++ runtime.tokens ++ op "::" ++ kw "__private" ++ op "::" ++ kw "Url" ++ op "::" ++
    kw "parse" ++ paren literal ++ brace (
      result "Ok" "url" ++ kw "url" ++ op "," ++
      result "Err" "err" ++ brace (
        absolute ["core", "panic"] ++ op "!" ++
          paren (str refusalText ++ op "," ++ literal ++ op "," ++ kw "err")))

/-- The URL that a text spells, or the failure to report at a place. -/
def check (text : String) (span : Span) : Except Failure Url :=
  match Url.parse text with
  | .ok url => .ok url
  | .error e => .error ((ExpandError.invalidUrl e.message).at span)

/-- A URL literal as the code that parses it. -/
def inContext (input : Tokens) : InContext Tokens := do
  let (text, span) ← Freestanding.required Freestanding.literal "a string literal URL" input
  let url ← check (Literal.content text) span
  .log .debug "validated url literal" [("url", url.render)]
  let c ← .config
  let runtime ← Config.reportAt span c.runtimePath
  return tokens runtime [.literal text span]

end DeclSynth.UrlLiteral
