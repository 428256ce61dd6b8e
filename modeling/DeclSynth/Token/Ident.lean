import DeclSynth.Source
import DeclSynth.Text.Quoted
import DeclSynth.Unicode.Identifier

/-!
# Identifiers

An `Ident` is a name with the place it was written. That the text is a name is part of
the type, so whatever is built from identifiers can be checked where it is built:
`Ident.ofText` refuses a text that is not a name and says why.
-/

namespace DeclSynth

namespace Ident

/-- The words that cannot be written raw. -/
def neverRaw : List String := ["_", "super", "self", "Self", "crate"]

/-- Whether a text is a name: an identifier word, or `r#` and a word that may be raw. -/
def isName (text : String) : Bool :=
  match text.toList with
  | 'r' :: '#' :: word => Unicode.isWord word && !neverRaw.contains (String.ofList word)
  | word => Unicode.isWord word

end Ident

/-- A name in a source text, with its `r#` if it is raw. -/
structure Ident where
  text : String
  span : Span
  valid : Ident.isName text = true
deriving DecidableEq

/-- Why a text is not a name. -/
inductive NameFault where
  /-- There is no text. -/
  | empty
  /-- It is a number. -/
  | number
  /-- It is no identifier word. -/
  | notWord (text : String)
  /-- It is a word that cannot be raw. -/
  | notRaw (word : String)
deriving DecidableEq, Repr

/-- The wording of a fault. -/
def NameFault.message : NameFault → String
  | .empty => "Ident is not allowed to be empty; use Option<Ident>"
  | .number => "Ident cannot be a number; use Literal instead"
  | .notWord text => Text.display text ++ " is not a valid Ident"
  | .notRaw word => "`r#" ++ word ++ "` cannot be a raw identifier"

namespace Ident

/-- The text without the mark of a raw name. -/
def dropRaw (text : String) : String :=
  match text.toList with
  | 'r' :: '#' :: word => String.ofList word
  | _ => text

/-- Nothing that begins with another letter is a raw name. -/
theorem dropRaw_append {word : String} {c : Char} {cs : List Char} (hword : word.toList = c :: cs)
    (hc : c ≠ 'r') (name : String) : dropRaw (word ++ name) = word ++ name := by
  have hchars : (word ++ name).toList = c :: (cs ++ name.toList) := by
    rw [String.toList_append, hword]
    rfl
  unfold dropRaw
  rw [hchars]
  split
  · rename_i h
    exact absurd (List.cons.inj h).1 hc
  · rfl

/-- The name without the mark of a raw name. -/
def plainText (i : Ident) : String := dropRaw i.text

/-- Whether two identifiers are written alike, wherever they stand. -/
def sameName (a b : Ident) : Bool := a.text == b.text

@[simp] theorem sameName_iff {a b : Ident} : a.sameName b = true ↔ a.text = b.text := by
  simp [sameName]

/-- Why a text that is not a name is none. -/
def faultOf (text : String) : NameFault :=
  let word := dropRaw text
  if word.isEmpty then .empty
  else if word.toList.all Char.isDigit then .number
  else if Unicode.isWord word.toList then .notRaw word
  else .notWord word

/-- The identifier with this text, if it is a name. -/
def ofText (text : String) (span : Span) : Except NameFault Ident :=
  if h : isName text = true then .ok ⟨text, span, h⟩ else .error (faultOf text)

theorem ofText_of_isName {text : String} {span : Span} (h : isName text = true) :
    ofText text span = .ok ⟨text, span, h⟩ := dif_pos h

theorem ofText_of_not_isName {text : String} {span : Span} (h : isName text = false) :
    ofText text span = .error (faultOf text) := dif_neg (by simp [h])

/-- What is made of a text spells it. -/
theorem text_of_ofText {text : String} {span : Span} {name : Ident}
    (h : ofText text span = .ok name) : name.text = text := by
  unfold ofText at h
  split at h
  · rw [← Except.ok.inj h]
  · cases h

/-- The identifier with this text, or nothing. -/
def ofText? (text : String) (span : Span) : Option Ident :=
  if h : isName text = true then some ⟨text, span, h⟩ else none

/-- A word is a name. -/
theorem isName_ofList_of_isWord {cs : List Char} (h : Unicode.isWord cs = true) :
    isName (String.ofList cs) = true := by
  unfold isName
  split
  · rename_i word heq
    rw [String.toList_ofList] at heq
    subst heq
    simp [Unicode.isWord, Unicode.isIdentifierContinue, Unicode.isIdentifierStart,
      Unicode.isAscii] at h
  · simpa using h

/-- A word as a name that is written nowhere. -/
def word (cs : List Char) (isWord : Unicode.isWord cs = true) : Ident :=
  ⟨String.ofList cs, .callSite, isName_ofList_of_isWord isWord⟩

/-- A word with a number behind it, as a name. -/
def numbered (word : List Char) (isWord : Unicode.isWord word = true) (n : Nat) (span : Span) :
    Ident :=
  ⟨String.ofList (word ++ Nat.toDigits 10 n), span,
    isName_ofList_of_isWord <| Unicode.isWord_append isWord <| List.all_eq_true.2 fun _ hc =>
      Unicode.isIdentifierContinue_of_isDigit
        (Nat.isDigit_of_mem_toDigits (by decide) (by decide) hc)⟩

/-- Without the mark of a raw name, an identifier is a word. -/
theorem isWord_plainText (i : Ident) : Unicode.isWord i.plainText.toList = true := by
  obtain ⟨text, span, valid⟩ := i
  unfold isName at valid
  unfold plainText dropRaw
  split at valid
  · rename_i word heq
    simp only [heq, String.toList_ofList]
    exact (Bool.and_eq_true _ _ ▸ valid).1
  · exact valid

/-- A word with a name behind it, as a name that stands where the other one does. -/
def prefixed (word : List Char) (isWord : Unicode.isWord word = true) (i : Ident) : Ident :=
  ⟨String.ofList (word ++ i.plainText.toList), i.span,
    isName_ofList_of_isWord <| Unicode.isWord_append isWord <|
      Unicode.all_isIdentifierContinue_of_isWord i.isWord_plainText⟩

/-- The words that the language keeps for itself, now or for later, and the underscore. -/
def reserved : List String :=
  ["_", "abstract", "as", "async", "await", "become", "box", "break", "const", "continue",
    "crate", "do", "dyn", "else", "enum", "extern", "false", "final", "fn", "for", "if", "impl",
    "in", "let", "loop", "macro", "match", "mod", "move", "mut", "override", "priv", "pub", "ref",
    "return", "Self", "self", "static", "struct", "super", "trait", "true", "try", "type",
    "typeof", "unsafe", "unsized", "use", "virtual", "where", "while", "yield"]

/-- Whether a word is kept by the language; a raw name never is. -/
def isReserved (text : String) : Bool := reserved.contains text

end Ident

end DeclSynth
