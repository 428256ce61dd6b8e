import DeclSynth.Token

/-!
# Reading generated code

Generated code is cut into declarations behind each body, bodies into cases,
arms and methods, and what a hierarchy generates is told by the words at fixed
places. `read` is the one reader, and yields nothing where code is of another
form; what is asked of code elsewhere is a projection of its declarations. On
what was read, `traitCall` and `classify` compute what a role's trait and a
method of the base return for a case: a method of one name in one
implementation, and in a `match` the first arm that fits.
-/

namespace DeclSynth.Sealed.Code

/-- Reads pieces one by one, each up to and with the token that closes it, given the tokens of the
piece so far. -/
def readEach {α : Type} (closes : Token → Bool) (piece : Tokens → Token → Option α)
    (head : Tokens) : Tokens → Option (List α)
  | [] => if head.isEmpty then some [] else none
  | t :: rest =>
    if closes t then
      (piece head t).bind fun a => (readEach closes piece [] rest).map (a :: ·)
    else readEach closes piece (head ++ [t]) rest

/-- Whether a token closes an arm or a case. -/
def isComma : Token → Bool
  | .punct ',' _ _ => true
  | _ => false

/-- Whether a token closes a declaration: it is a body. -/
def isBody : Token → Bool
  | .group .brace _ _ => true
  | _ => false

/-- The tokens between the delimiters of a group. -/
def inside : Token → Tokens
  | .group _ body _ => body
  | _ => []

/-- The tokens of a declaration without its outer attributes and its visibility. -/
def bare : Tokens → Tokens
  | .punct '#' _ _ :: .group .bracket _ _ :: rest => bare rest
  | .word "pub" _ :: .group .parenthesis _ _ :: rest => rest
  | .word "pub" _ :: rest => rest
  | ts => ts

/-- What is written for the visibility of a declaration, behind its outer attributes. -/
def writtenVis : Tokens → Tokens
  | .punct '#' _ _ :: .group .bracket _ _ :: rest => writtenVis rest
  | .word "pub" span :: .group .parenthesis scope place :: _ =>
    [.word "pub" span, .group .parenthesis scope place]
  | .word "pub" span :: _ => [.word "pub" span]
  | _ => []

/-! ## Cases -/

/-- What a case of an enum holds. -/
inductive Payload where
  | nothing
  /-- A value of a type. -/
  | owned (type : String)
  /-- A reference to a value of a type. -/
  | borrowed (type : String)
deriving DecidableEq, Repr

/-- A case of an enum. -/
structure Case where
  name : String
  payload : Payload
deriving DecidableEq, Repr

/-- The case that tokens declare. -/
def readCase (ts : Tokens) (_ : Token) : Option Case :=
  match ts with
  | [.word name _] => some ⟨name, .nothing⟩
  | [.word name _, .group .parenthesis [.word type _] _] => some ⟨name, .owned type⟩
  | [.word name _,
      .group .parenthesis [.punct '&' _ _, .punct '\'' _ _, .word _ _, .word type _] _] =>
    some ⟨name, .borrowed type⟩
  | _ => none

/-! ## Types -/

/-- A discriminator where it is used as a type: its name, and whether it is given a lifetime. -/
structure Use where
  name : String
  lifetime : Bool
deriving DecidableEq, Repr

/-- The type that tokens use. -/
def readUse : Tokens → Option Use
  | [.word name _] => some ⟨name, false⟩
  | [.word name _, .punct '<' _ _, .punct '\'' _ _, .word _ _, .punct '>' _ _] => some ⟨name, true⟩
  | _ => none

/-- A result type, which may be optional. -/
def readResult : Tokens → Option (Bool × Use)
  | [.punct ':' _ _, .punct ':' _ _, .word "core" _, .punct ':' _ _, .punct ':' _ _,
      .word "option" _, .punct ':' _ _, .punct ':' _ _, .word "Option" _,
      .punct '<' _ _, .word name _, .punct '>' _ _] => some (true, ⟨name, false⟩)
  | [.punct ':' _ _, .punct ':' _ _, .word "core" _, .punct ':' _ _, .punct ':' _ _,
      .word "option" _, .punct ':' _ _, .punct ':' _ _, .word "Option" _,
      .punct '<' _ _, .word name _, .punct '<' _ _, .punct '\'' _ _, .word _ _, .punct '>' _ _,
      .punct '>' _ _] => some (true, ⟨name, true⟩)
  | ts => (readUse ts).map (false, ·)

/-- The lifetime parameter of an enum, if it has one. -/
def readLifetime : Tokens → Option Bool
  | [] => some false
  | [.punct '<' _ _, .punct '\'' _ _, .word _ _, .punct '>' _ _] => some true
  | _ => none

/-! ## Methods -/

/-- What a generated method yields. -/
inductive Expression where
  /-- A case of an enum, with a variable for what it holds. -/
  | case (type name : String) (argument : Option String)
  /-- `Some` of what a trait's method yields for a variable. -/
  | some (trait method argument : String)
  | none
deriving DecidableEq, Repr

/-- The expression that tokens spell. -/
def readExpression : Tokens → Option Expression
  | [.word type _, .punct ':' _ _, .punct ':' _ _, .word name _] =>
    .some (.case type name .none)
  | [.word type _, .punct ':' _ _, .punct ':' _ _, .word name _,
      .group .parenthesis [.word argument _] _] =>
    .some (.case type name (.some argument))
  | [.punct ':' _ _, .punct ':' _ _, .word "core" _, .punct ':' _ _, .punct ':' _ _,
      .word "option" _, .punct ':' _ _, .punct ':' _ _, .word "Option" _,
      .punct ':' _ _, .punct ':' _ _, .word "Some" _,
      .group .parenthesis [.word trait _, .punct ':' _ _, .punct ':' _ _, .word method _,
        .group .parenthesis [.word argument _] _] _] =>
    .some (.some trait method argument)
  | [.punct ':' _ _, .punct ':' _ _, .word "core" _, .punct ':' _ _, .punct ':' _ _,
      .word "option" _, .punct ':' _ _, .punct ':' _ _, .word "Option" _,
      .punct ':' _ _, .punct ':' _ _, .word "None" _] =>
    .some .none
  | _ => .none

/-- An arm of a `match` on the value itself. -/
structure Row where
  /-- The case that the arm is for; none for a wildcard. -/
  case? : Option String
  /-- The variable that is bound to what the case holds; none for `_`. -/
  bound? : Option String
  value : Expression
deriving DecidableEq, Repr

/-- The variable that a pattern binds. -/
def boundVariable (word : String) : Option String := if word = "_" then none else some word

/-- The arm that tokens spell. -/
def readRow (ts : Tokens) (_ : Token) : Option Row :=
  match ts with
  | .word "Self" _ :: .punct ':' _ _ :: .punct ':' _ _ :: .word case _ ::
      .group .parenthesis [.word binder _] _ :: .punct '=' _ _ :: .punct '>' _ _ :: value =>
    (readExpression value).map (⟨some case, boundVariable binder, ·⟩)
  | .word "_" _ :: .punct '=' _ _ :: .punct '>' _ _ :: value =>
    (readExpression value).map (⟨none, none, ·⟩)
  | _ => none

/-- What a method does with the value it is called on. -/
inductive Body where
  | matches (rows : List Row)
  | yields (value : Expression)
deriving DecidableEq, Repr

/-- The body that tokens spell. -/
def readBody : Tokens → Option Body
  | [.word "match" _, .word "self" _, .group .brace rows _] =>
    (readEach isComma readRow [] rows).map .matches
  | ts => (readExpression ts).map .yields

/-- What a classifier declares: its name, whether its result is optional, and the discriminator that
it yields. -/
structure MethodHead where
  name : String
  optional : Bool
  result : Use
deriving DecidableEq, Repr

/-- What tokens declare a method to be, behind a visibility. -/
def readHead (ts : Tokens) : Option MethodHead :=
  match bare ts with
  | .word "fn" _ :: .word name _ :: .group .parenthesis _ _ :: .punct '-' _ _ ::
      .punct '>' _ _ :: result => (readResult result).map fun r => ⟨name, r.1, r.2⟩
  | _ => none

/-- A method, with what is written for its visibility. -/
structure Method extends MethodHead where
  vis : Tokens
  body : Body
deriving Repr

/-- The method that tokens declare. -/
def readMethod (head : Tokens) (body : Token) : Option Method :=
  (readHead head).bind fun declared =>
    (readBody (inside body)).map (⟨declared, writtenVis head, ·⟩)

/-- Whether a token closes a method without a body. -/
def isSemicolon : Token → Bool
  | .punct ';' _ _ => true
  | _ => false

/-- The one method that a trait declares. -/
def readRequired (body : Token) : Option MethodHead :=
  match readEach isSemicolon (fun ts _ => readHead ts) [] (inside body) with
  | some [method] => some method
  | _ => none

/-! ## Arms -/

/-- What an arm is for: a case, and whether it takes up what the case holds; or any case. -/
inductive Pattern where
  | case (name : String) (payload : Bool)
  | any
deriving DecidableEq, Repr

/-- An arm for one value. -/
def readArm (ts : Tokens) (_ : Token) : Option Pattern :=
  match ts with
  | .word "Self" _ :: .punct ':' _ _ :: .punct ':' _ _ :: .word name _ ::
      .group .parenthesis _ _ :: .punct '=' _ _ :: _ => some (.case name true)
  | .word "Self" _ :: .punct ':' _ _ :: .punct ':' _ _ :: .word name _ :: .punct '=' _ _ :: _ =>
    some (.case name false)
  | .word "_" _ :: .punct '=' _ _ :: _ => some .any
  | _ => none

/-- An arm for two values of one case. -/
def readPairArm (ts : Tokens) (_ : Token) : Option Pattern :=
  match ts with
  | .group .parenthesis [.word "Self" _, .punct ':' _ _, .punct ':' _ _, .word name _,
        .group .parenthesis _ _, .punct ',' _ _,
        .word "Self" _, .punct ':' _ _, .punct ':' _ _, .word name' _,
        .group .parenthesis _ _] _ :: .punct '=' _ _ :: _ =>
    if name = name' then some (.case name true) else none
  | .group .parenthesis [.word "Self" _, .punct ':' _ _, .punct ':' _ _, .word name _,
        .punct ',' _ _, .word "Self" _, .punct ':' _ _, .punct ':' _ _, .word name' _] _ ::
      .punct '=' _ _ :: _ => if name = name' then some (.case name false) else none
  | .word "_" _ :: .punct '=' _ _ :: _ => some .any
  | _ => none

/-- The arms of a function that is one `match`. -/
def readMatch (arm : Tokens → Token → Option Pattern) (_ : Tokens) (body : Token) :
    Option (List Pattern) :=
  match inside body with
  | [.word "match" _, _, .group .brace arms _] => readEach isComma arm [] arms
  | _ => none

/-- The arms of the one function of an implementation. -/
def readArms (arm : Tokens → Token → Option Pattern) (body : Token) : Option (List Pattern) :=
  match readEach isBody (readMatch arm) [] (inside body) with
  | some [arms] => some arms
  | _ => none

/-! ## Declarations -/

/-- A declaration that generated code is made of. -/
inductive Declaration where
  | enum (vis : Tokens) (name : String) (lifetime : Bool) (cases : List Case)
  | conversion (source target : String)
  /-- An implementation of `PartialEq`. -/
  | comparison (type : Use) (arms : List Pattern)
  /-- An implementation of `Eq`. -/
  | totality (type : Use)
  /-- An implementation of `Debug`. -/
  | text (type : Use) (arms : List Pattern)
  /-- Methods of a type itself. -/
  | methods (type : String) (methods : List Method)
  /-- A trait with one method. -/
  | trait (vis : Tokens) (name : String) (method : MethodHead)
  | implementation (trait type : String) (methods : List Method)
deriving Repr

/-- The declaration that tokens make. -/
def readDeclaration (head : Tokens) (body : Token) : Option Declaration :=
  match bare head with
  | .word "enum" _ :: .word name _ :: lifetime =>
    (readLifetime lifetime).bind fun lifetime =>
      (readEach isComma readCase [] (inside body)).map (.enum (writtenVis head) name lifetime)
  | [.word "impl" _, .word type _] =>
    (readEach isBody readMethod [] (inside body)).map (.methods type)
  | [.word "trait" _, .word name _] => (readRequired body).map (.trait (writtenVis head) name)
  | [.word "impl" _, .word trait _, .word "for" _, .word type _] =>
    (readEach isBody readMethod [] (inside body)).map (.implementation trait type)
  | .word "impl" _ :: .punct ':' _ _ :: .punct ':' _ _ :: .word "core" _ :: .punct ':' _ _ ::
      .punct ':' _ _ :: .word "convert" _ :: .punct ':' _ _ :: .punct ':' _ _ :: .word "From" _ ::
      [.punct '<' _ _, .word source _, .punct '>' _ _, .word "for" _, .word target _] =>
    some (.conversion source target)
  | .word "impl" _ :: .punct ':' _ _ :: .punct ':' _ _ :: .word "core" _ :: .punct ':' _ _ ::
      .punct ':' _ _ :: .word "cmp" _ :: .punct ':' _ _ :: .punct ':' _ _ ::
      .word "PartialEq" _ :: .word "for" _ :: type =>
    (readUse type).bind fun type => (readArms readPairArm body).map (.comparison type)
  | .word "impl" _ :: .punct ':' _ _ :: .punct ':' _ _ :: .word "core" _ :: .punct ':' _ _ ::
      .punct ':' _ _ :: .word "cmp" _ :: .punct ':' _ _ :: .punct ':' _ _ ::
      .word "Eq" _ :: .word "for" _ :: type => (readUse type).map .totality
  | .word "impl" _ :: .punct ':' _ _ :: .punct ':' _ _ :: .word "core" _ :: .punct ':' _ _ ::
      .punct ':' _ _ :: .word "fmt" _ :: .punct ':' _ _ :: .punct ':' _ _ ::
      .word "Debug" _ :: .word "for" _ :: type =>
    (readUse type).bind fun type => (readArms readArm body).map (.text type)
  | _ => none

/-- The declarations of code. -/
def read (code : Tokens) : Option (List Declaration) := readEach isBody readDeclaration [] code

/-! ## What code says -/

namespace Declaration

/-- The cases of an enum, if it has a name. -/
def casesOf (name : String) : Declaration → List (List Case)
  | enum _ n _ cases => if n = name then [cases] else []
  | conversion .. | comparison .. | totality .. | text .. | methods .. | trait ..
  | implementation .. => []

/-- The method of a trait and the type that this returns, if the trait has a name. -/
def signatureOf (name : String) : Declaration → List (String × String)
  | trait _ n method => if n = name then [(method.name, method.result.name)] else []
  | enum .. | conversion .. | comparison .. | totality .. | text .. | methods ..
  | implementation .. => []

/-- The methods of a type, if it has a name. -/
def methodsFor (type : String) : Declaration → List Method
  | methods t ms => if t = type then ms else []
  | enum .. | conversion .. | comparison .. | totality .. | text .. | trait ..
  | implementation .. => []

/-- The type that a trait of a name is implemented for, and the methods there. -/
def implementationOf (name : String) : Declaration → List (String × List Method)
  | implementation n type ms => if n = name then [(type, ms)] else []
  | enum .. | conversion .. | comparison .. | totality .. | text .. | methods .. | trait .. => []

end Declaration

/-- The enums of a name, each with its cases. -/
def enums (code : List Declaration) (name : String) : List (List Case) :=
  code.flatMap (·.casesOf name)

/-- The traits of a name, each with its method and the type that this returns. -/
def traits (code : List Declaration) (name : String) : List (String × String) :=
  code.flatMap (·.signatureOf name)

/-- The methods of a type. -/
def methodsOf (code : List Declaration) (type : String) : List Method :=
  code.flatMap (·.methodsFor type)

/-- The implementations of a trait: the type that each is for, and its methods. -/
def implementations (code : List Declaration) (trait : String) : List (String × List Method) :=
  code.flatMap (·.implementationOf trait)

/-- What the methods of a name do. -/
def bodies (methods : List Method) (name : String) : List Body :=
  (methods.filter (·.name == name)).map (·.body)

/-- The arms of a method of a type, if it is one `match`. -/
def rows? (code : List Declaration) (type method : String) : Option (List Row) :=
  match bodies (methodsOf code type) method with
  | [.matches rows] => some rows
  | _ => none

/-! ## What code computes -/

/-- What a generated method returns. -/
inductive Value where
  /-- A case of an enum, and whether it refers to the value that was asked about. -/
  | case (type name : String) (refers : Bool)
  | some (value : Value)
  | none
deriving DecidableEq, Repr

/-- The case that an expression yields where a variable may be bound to the value. -/
def caseOf (bound : Option String) : Expression → Option Value
  | .case type name .none => .some (.case type name false)
  | .case type name (.some argument) =>
    if bound = .some argument then .some (.case type name true) else .none
  | .some .. | .none => .none

/-- What a trait's method returns for a value of a type. -/
def traitCall (code : List Declaration) (trait method type : String) : Option Value :=
  match (implementations code trait).filter (·.1 == type) with
  | [(_, methods)] =>
    match bodies methods method with
    | [.yields value] => caseOf (.some "self") value
    | _ => .none
  | _ => .none

/-- What an expression yields where a variable may be bound to a value of a type. -/
def valueOf (code : List Declaration) (bound : Option String) (type : String) :
    Expression → Option Value
  | .case type name argument => caseOf bound (.case type name argument)
  | .some trait method argument =>
    if bound = .some argument then (traitCall code trait method type).map .some else .none
  | .none => .some .none

/-- Whether an arm is for a case. -/
def Row.fits (r : Row) (case : String) : Bool :=
  match r.case? with
  | some name => name == case
  | none => true

/-- The type of what a case of an enum holds. -/
def typeOf? (cases : List Case) (case : String) : Option String :=
  match cases.find? (·.name == case) with
  | some ⟨_, .owned type⟩ => some type
  | _ => none

/-- What a method of an enum returns for one of its cases. -/
def classify (code : List Declaration) (enum method case : String) : Option Value :=
  match enums code enum with
  | [cases] => do
    let type ← typeOf? cases case
    let row ← (← rows? code enum method).find? (·.fits case)
    valueOf code row.bound? type row.value
  | _ => none

/-! ## Reading piece by piece -/

section ReadEach

variable {α β : Type} {closes : Token → Bool} {piece : Tokens → Token → Option α}
variable {ts ts' : Tokens} {as as' : List α}

/-- Tokens are read as some values, whatever stands behind them. -/
def Reads (closes : Token → Bool) (piece : Tokens → Token → Option α) (ts : Tokens)
    (as : List α) : Prop :=
  ∀ rest, readEach closes piece [] (ts ++ rest) = (readEach closes piece [] rest).map (as ++ ·)

theorem reads_nil : Reads closes piece [] [] := by
  intro rest
  simp

/-- **What is read in parts is read as a whole.** -/
theorem reads_append (h : Reads closes piece ts as) (h' : Reads closes piece ts' as') :
    Reads closes piece (ts ++ ts') (as ++ as') := by
  intro rest
  rw [List.append_assoc, h, h', Option.map_map]
  congr 1
  funext l
  simp

theorem reads_flatMap {l : List β} {f : β → Tokens} {g : β → List α}
    (h : ∀ b ∈ l, Reads closes piece (f b) (g b)) :
    Reads closes piece (l.flatMap f) (l.flatMap g) := by
  induction l with
  | nil => exact reads_nil
  | cons b rest ih =>
    rw [List.flatMap_cons, List.flatMap_cons]
    exact reads_append (h b List.mem_cons_self) (ih fun b' hb' => h b' (List.mem_cons_of_mem _ hb'))

/-- No token closes a piece. -/
def Open (closes : Token → Bool) (ts : Tokens) : Prop := ∀ t ∈ ts, closes t = false

@[simp] theorem open_nil : Open closes [] := by simp [Open]

@[simp] theorem open_cons {t : Token} :
    Open closes (t :: ts) ↔ closes t = false ∧ Open closes ts := by
  simp [Open]

@[simp] theorem open_append : Open closes (ts ++ ts') ↔ Open closes ts ∧ Open closes ts' := by
  simp [Open, or_imp, forall_and]

/-- Tokens that close nothing belong to the piece that is read. -/
theorem readEach_open {head : Tokens} (hopen : Open closes ts) (rest : Tokens) :
    readEach closes piece head (ts ++ rest) = readEach closes piece (head ++ ts) rest := by
  induction ts generalizing head with
  | nil => simp
  | cons t ts ih =>
    rw [List.cons_append, readEach, if_neg (by simp [hopen t List.mem_cons_self]),
      ih fun t' ht' => hopen t' (List.mem_cons_of_mem _ ht'), List.append_assoc]
    rfl

/-- A piece is read once its last token closes it. -/
theorem reads_piece {t : Token} {a : α} (hopen : Open closes ts)
    (hclose : closes t = true) (hpiece : piece ts t = some a) :
    Reads closes piece (ts ++ [t]) [a] := by
  intro rest
  rw [List.append_assoc, readEach_open hopen, List.nil_append, List.singleton_append, readEach,
    if_pos hclose, hpiece]
  rfl

/-- What can be read anywhere is read where it stands alone. -/
theorem Reads.readEach_eq (h : Reads closes piece ts as) :
    readEach closes piece [] ts = some as := by
  have := h []
  simpa [readEach] using this

end ReadEach

end DeclSynth.Sealed.Code
