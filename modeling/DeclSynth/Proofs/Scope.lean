import DeclSynth.Syntax.Item

/-!
# The generic names that syntax mentions

A generic parameter is a lifetime or a word, and `freeNames` lists the ones a
tree mentions. A word is mentioned where it stands at the head of a path and
where tokens are kept unread; a lifetime where it is written, unless a
`for<..>` around the place binds it. The anonymous lifetime `'_` names
nothing. Raw words are compared by what they spell.

A signature is in scope where all it mentions is either known from outside or
declared by its own parameters.
-/

namespace DeclSynth

/-- What a generic parameter is known by. -/
inductive GenericName where
  | lifetime (name : String)
  | word (name : String)
deriving DecidableEq, Repr

/-- The name that a lifetime mentions; none for `'_`. -/
def Lifetime.freeNames (l : Lifetime) : List GenericName :=
  if l.name = "_" then [] else [.lifetime l.name]

/-- The words of tokens at any depth, without those behind a path separator. -/
def wordsOf : Tokens → List String
  | [] => []
  | .punct ':' true _ :: .punct ':' _ _ :: .word _ _ :: rest => wordsOf rest
  | .word text _ :: rest => Ident.dropRaw text :: wordsOf rest
  | .group _ body _ :: rest => wordsOf body ++ wordsOf rest
  | .punct .. :: rest => wordsOf rest
  | .literal .. :: rest => wordsOf rest

/-- The names in tokens that are kept unread: a quote and a word are a lifetime. -/
def namesInTokens : Tokens → List GenericName
  | [] => []
  | .punct '\'' true _ :: .word text _ :: rest => .lifetime text :: namesInTokens rest
  | .word text _ :: rest => .word (Ident.dropRaw text) :: namesInTokens rest
  | .group _ body _ :: rest => namesInTokens body ++ namesInTokens rest
  | .punct .. :: rest => namesInTokens rest
  | .literal .. :: rest => namesInTokens rest

/-- The lifetimes that a `for<..>` binds. -/
def Binder.lifetimes (b : Binder) : List String := b.params.map (·.lifetime.name)

/-- The lifetimes that an optional `for<..>` binds. -/
def binderLifetimes : Option Binder → List String
  | none => []
  | some b => b.lifetimes

/-- Names without the lifetimes that a `for<..>` binds. -/
def unbound (binder : Option Binder) (names : List GenericName) : List GenericName :=
  names.filter fun
    | .lifetime l => !(binderLifetimes binder).contains l
    | .word _ => true

/-- The names in the bounds of a `for<..>`. -/
def Binder.freeNames (b : Binder) : List GenericName :=
  b.params.flatMap fun p => p.bounds.flatMap Lifetime.freeNames

/-- The names in the bounds of an optional `for<..>`. -/
def binderNames : Option Binder → List GenericName
  | none => []
  | some b => b.freeNames

/-- The name that an entry of a `use<..>` bound mentions. -/
def Captured.freeNames : Captured → List GenericName
  | .lifetime l => l.freeNames
  | .param name => [.word name.plainText]

mutual

/-- The names that a type mentions. -/
def Ty.freeNames : Ty → List GenericName
  | .array _ elem length => elem.freeNames ++ length.freeNames
  | .bareFn _ binder _ inputs _ _ output =>
    unbound binder (binderNames binder ++ namesInInputs inputs ++ namesInOutput output)
  | .group _ elem => elem.freeNames
  | .implTrait _ bounds _ => namesInBounds bounds
  | .infer _ => []
  | .macroCall _ _ call => namesInTokens call
  | .never _ => []
  | .paren _ elem => elem.freeNames
  | .path _ none path => path.freeNames
  -- behind a qualified self no word of the path is a parameter
  | .path _ (some (.mk ty _)) (.mk _ _ segments) => ty.freeNames ++ namesInSegments segments
  | .pointer _ _ elem => elem.freeNames
  | .reference _ _ none _ elem => elem.freeNames
  | .reference _ _ (some l) _ elem => l.freeNames ++ elem.freeNames
  | .slice _ elem => elem.freeNames
  | .traitObject _ _ bounds _ => namesInBounds bounds
  | .tuple _ elems _ => namesInTypes elems
  | .verbatim _ tokens => namesInTokens tokens

/-- The names that several types mention. -/
def namesInTypes : List Ty → List GenericName
  | [] => []
  | ty :: rest => ty.freeNames ++ namesInTypes rest

/-- The names that a result mentions, if one is written. -/
def namesInOutput : Option Ty → List GenericName
  | none => []
  | some ty => ty.freeNames

/-- The names that the parameters of a function pointer mention. -/
def namesInInputs : List FnPointerInput → List GenericName
  | [] => []
  | .mk _ _ ty :: rest => ty.freeNames ++ namesInInputs rest

/-- The names that a path mentions: its first word, and what stands in its arguments. -/
def Path.freeNames : Path → List GenericName
  | .mk _ _ [] => []
  | .mk _ true segments => namesInSegments segments
  | .mk _ false (.mk name arguments :: rest) =>
    .word name.plainText :: (arguments.freeNames ++ namesInSegments rest)

/-- The names that the arguments of segments mention. -/
def namesInSegments : List Segment → List GenericName
  | [] => []
  | .mk _ arguments :: rest => arguments.freeNames ++ namesInSegments rest

/-- The names that the arguments of a segment mention. -/
def Arguments.freeNames : Arguments → List GenericName
  | .none => []
  | .angle arguments => arguments.freeNames
  | .parenthesized inputs _ output => namesInTypes inputs ++ namesInOutput output

/-- The names that arguments in angle brackets mention. -/
def AngleArguments.freeNames : AngleArguments → List GenericName
  | .mk _ arguments _ => namesInArguments arguments

/-- The names that several arguments mention. -/
def namesInArguments : List GenericArgument → List GenericName
  | [] => []
  | a :: rest => a.freeNames ++ namesInArguments rest

/-- The names that an argument mentions. -/
def GenericArgument.freeNames : GenericArgument → List GenericName
  | .lifetime l => l.freeNames
  | .type ty => ty.freeNames
  | .const value => value.freeNames
  | .assocType _ none ty => ty.freeNames
  | .assocType _ (some generics) ty => generics.freeNames ++ ty.freeNames
  | .assocConst _ none value => value.freeNames
  | .assocConst _ (some generics) value => generics.freeNames ++ value.freeNames
  | .constraint _ none bounds _ => namesInBounds bounds
  | .constraint _ (some generics) bounds _ => generics.freeNames ++ namesInBounds bounds

/-- The names that several bounds mention. -/
def namesInBounds : List Bound → List GenericName
  | [] => []
  | b :: rest => b.freeNames ++ namesInBounds rest

/-- The names that a bound mentions. -/
def Bound.freeNames : Bound → List GenericName
  | .trait _ _ binder path => unbound binder (binderNames binder ++ path.freeNames)
  | .lifetime l => l.freeNames
  | .capture captured _ => captured.flatMap Captured.freeNames
  | .verbatim tokens => namesInTokens tokens

/-- The names that an expression mentions: in its types, and the words it is written with. -/
def Expr.freeNames : Expr → List GenericName
  | .mk _ tokens mentions _ => namesInMentions mentions ++ (wordsOf tokens).map .word

/-- The names that several mentions of an expression hold. A lifetime outside of the types is a
label or bound inside the expression, so it is no name. -/
def namesInMentions : List Mention → List GenericName
  | [] => []
  | .type ty :: rest => ty.freeNames ++ namesInMentions rest
  | .lifetime _ :: rest => namesInMentions rest

end

/-! ## Membership -/

section Membership

variable {n : GenericName}

/-- Several bounds mention what one of them does. -/
theorem mem_namesInBounds {bounds : List Bound} :
    n ∈ namesInBounds bounds ↔ ∃ b ∈ bounds, n ∈ b.freeNames := by
  induction bounds with
  | nil => simp [namesInBounds]
  | cons b rest ih => simp [namesInBounds, ih]

/-- Segments mention what the arguments of one of them do. -/
theorem mem_namesInSegments {segments : List Segment} :
    n ∈ namesInSegments segments ↔ ∃ s ∈ segments, n ∈ s.arguments.freeNames := by
  induction segments with
  | nil => simp [namesInSegments]
  | cons s rest ih =>
    obtain ⟨name, arguments⟩ := s
    simp [namesInSegments, ih, Segment.arguments]

/-- What the arguments of a segment mention, the path does. -/
theorem mem_freeNames_of_segment {path : Path} {s : Segment} (hs : s ∈ path.segments)
    (hn : n ∈ s.arguments.freeNames) : n ∈ path.freeNames := by
  obtain ⟨span, leadingColon, segments⟩ := path
  have hmem : n ∈ namesInSegments segments := mem_namesInSegments.2 ⟨s, hs, hn⟩
  rcases segments with - | ⟨⟨name, arguments⟩, rest⟩
  · cases hs
  · cases leadingColon with
    | true => simpa only [Path.freeNames] using hmem
    | false => exact List.mem_cons_of_mem _ hmem

/-- What is left free is mentioned and not bound. -/
theorem mem_unbound {binder : Option Binder} {names : List GenericName} :
    n ∈ unbound binder names ↔ n ∈ names ∧ ∀ l ∈ binderLifetimes binder, n ≠ .lifetime l := by
  unfold unbound
  rw [List.mem_filter]
  cases n with
  | word w => simp
  | lifetime l =>
    simp only [GenericName.lifetime.injEq, ne_eq, Bool.not_eq_true', and_congr_right_iff]
    intro _
    rw [List.contains_eq_mem, decide_eq_false_iff_not]
    exact ⟨fun h l' hl' he => h (he ▸ hl'), fun h hl => h l hl rfl⟩

end Membership

/-! ## Signatures -/

/-- The names that a parameter of a function mentions in its type. -/
def Param.freeNames : Param → List GenericName
  | .receiver r => (r.lifetime.map Lifetime.freeNames).getD [] ++ namesInOutput r.ty
  | .typed _ _ ty => ty.freeNames

/-- The name that a generic parameter declares. -/
def GenericParam.declaredName : GenericParam → GenericName
  | .lifetime p => .lifetime p.lifetime.name
  | .type p => .word p.name.plainText
  | .const p => .word p.name.plainText

/-- The names that a generic parameter mentions in its bounds, its type and its default. -/
def GenericParam.freeNames : GenericParam → List GenericName
  | .lifetime p => p.bounds.flatMap Lifetime.freeNames
  | .type p => namesInBounds p.bounds ++ namesInOutput p.default
  | .const p => p.ty.freeNames ++ (p.default.map Expr.freeNames).getD []

/-- The names that a predicate mentions. -/
def WherePredicate.freeNames : WherePredicate → List GenericName
  | .lifetime l bounds _ => l.freeNames ++ bounds.flatMap Lifetime.freeNames
  | .type binder bounded bounds _ =>
    unbound binder (binderNames binder ++ bounded.freeNames ++ namesInBounds bounds)

/-- The predicates of the where clause. -/
def Generics.predicates (g : Generics) : List WherePredicate :=
  (g.clause.map WhereClause.predicates).getD []

/-- The names that parameters mention in their bounds and in the where clause. -/
def Generics.freeNames (g : Generics) : List GenericName :=
  g.params.flatMap GenericParam.freeNames ++ g.predicates.flatMap WherePredicate.freeNames

/-- The names that a signature mentions. -/
def Signature.freeNames (s : Signature) : List GenericName :=
  s.inputs.flatMap Param.freeNames ++ namesInOutput s.output ++ s.generics.freeNames

/-- The names that a signature declares. -/
def Signature.declaredNames (s : Signature) : List GenericName :=
  s.generics.params.map GenericParam.declaredName

end DeclSynth
