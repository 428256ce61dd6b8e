import DeclSynth.Proofs.StoredFields.Agreement
import DeclSynth.Proofs.StoredFields.Literal

/-!
# What equalities compare

The body of `eq` is read back as comparisons of a field of `self` with one of the other
value (`readComparisons`), and `FnForm.test` evaluates them on two records, given how
values are compared. It is true just if the two records have the same values in all stored
fields (`expand_compares`), whatever else they hold. The implementation declares the
parameters of the struct, each type among them with one more bound (`Requires`).
-/

namespace DeclSynth

open Sealed.Code (boundVariable Open Reads isBody)

variable {α : Type} {item : Tokens} {s : StructItem} {fs : Fields}

/-! ## Comparisons -/

/-- A field of a variable. -/
structure Operand where
  subject : String
  field : FieldKey
deriving DecidableEq, Repr

/-- A comparison of two fields. -/
structure Comparison where
  left : Operand
  right : Operand
deriving DecidableEq, Repr

/-- The field that a token addresses. -/
def FieldKey.read : Token → Option FieldKey
  | .word text _ => some (.name text)
  | .literal digits _ =>
    if digits.toList.all Char.isDigit then some (.place (Nat.ofDigitChars 10 digits.toList 0))
    else none
  | _ => none

/-- The comparisons that tokens join. -/
def readJoined : Tokens → Option (List Comparison)
  | .word mine _ :: .punct '.' _ _ :: field :: .punct '=' true _ :: .punct '=' _ _ ::
      .word theirs _ :: .punct '.' _ _ :: field' :: rest =>
    (FieldKey.read field).bind fun key => (FieldKey.read field').bind fun key' =>
      match rest with
      | [] => some [⟨⟨mine, key⟩, ⟨theirs, key'⟩⟩]
      | .punct '&' true _ :: .punct '&' _ _ :: more =>
        (readJoined more).map (⟨⟨mine, key⟩, ⟨theirs, key'⟩⟩ :: ·)
      | _ => none
  | _ => none

/-- The comparisons that a body consists of; there is none in one that is `true`. -/
def readComparisons : Tokens → Option (List Comparison)
  | [.word "true" _] => some []
  | ts => readJoined ts

/-- What the other value is called by a method that takes one of its own type. -/
def readOther : Tokens → Option String
  | [.punct '&' _ _, .word "self" _, .punct ',' _ _, .word other _, .punct ':' _ _,
      .punct '&' _ _, .word "Self" _] => some other
  | _ => none

/-! ## Evaluation -/

/-- What a variable's field holds. -/
def Operand.cell? (scope : List (String × Record α)) (o : Operand) : Option (Cell α) :=
  (scope.lookup o.subject).bind fun r => r o.field

/-- Whether two fields hold the same; there is no telling a value from a marker, and markers do not
differ. -/
def Cell.same (same : α → α → Bool) : Cell α → Cell α → Option Bool
  | held a, held b => some (same a b)
  | marker, marker => some true
  | held _, marker | marker, held _ => none

/-- What a comparison yields. -/
def Comparison.verdict (same : α → α → Bool) (scope : List (String × Record α))
    (c : Comparison) : Option Bool :=
  (c.left.cell? scope).bind fun a => (c.right.cell? scope).bind (a.same same)

/-- What a method yields that compares a value with another one. -/
def FnForm.test (fn : FnForm) (same : α → α → Bool) (mine theirs : Record α) : Option Bool := do
  let other ← readOther fn.params
  let comparisons ← readComparisons fn.body
  let scope := ("self", mine) :: (boundVariable other).toList.map (·, theirs)
  return (← comparisons.mapM (·.verdict same scope)).all id

/-! ## The stored fields -/

/-- What the stored fields are called: by their names, or by their places among all fields. -/
def StructItem.storedKeys (s : StructItem) : List FieldKey :=
  s.fields.toList.zipIdx.filterMap fun (f, i) =>
    if f.isStored then some (f.name.elim (.place i) fun name => .name name.text) else none

theorem BoundField.key_at (i : Nat) (f : Field) :
    (BoundField.at i f).key = f.name.elim (.place i) fun name => .name name.text := by
  unfold BoundField.at BoundField.key
  cases f.name <;> rfl

theorem StructItem.map_key_stored (s : StructItem) :
    s.fields.stored.map BoundField.key = s.storedKeys := by
  rw [Fields.stored, Fields.bound, storedKeys, List.filter_map, List.map_map,
    ← List.filterMap_eq_map, List.filterMap_filter]
  refine List.filterMap_congr fun x _ => ?_
  simp [BoundField.field_at, BoundField.key_at]

/-- There is a key for each stored field. -/
theorem StructItem.length_storedKeys (s : StructItem) :
    s.storedKeys.length = s.storedFields.length := by
  rw [← s.map_key_stored, ← s.map_field_stored, List.length_map, List.length_map]

/-- A record of a struct holds the values of its stored fields. -/
theorem Fields.record_storedKey {key : FieldKey} (hdistinct : s.fields.keys.Nodup)
    (values : FieldKey → α) (hkey : key ∈ s.storedKeys) :
    s.fields.record values key = some (.held (values key)) := by
  rw [← s.map_key_stored, List.mem_map] at hkey
  obtain ⟨f, hf, rfl⟩ := hkey
  obtain ⟨hbound, hstored⟩ := Fields.mem_stored.1 hf
  rw [Fields.record_key hdistinct hbound, BoundField.cell, if_pos hstored]

/-! ## Parameters -/

/-- What an implementation declares for a parameter of a struct: a type parameter has one bound
more, behind all others. -/
inductive Requires : GenericParam → GenericParam → Prop where
  | lifetime (p : LifetimeParam) : Requires (.lifetime p) (.lifetime p)
  | const (p : ConstParam) : Requires (.const p) (.const p)
  | type (p q : TypeParam) (b : Bound) (attributes : q.attributes = p.attributes)
      (name : q.name = p.name) (bounds : q.bounds = p.bounds ++ [b])
      (equality : b.tokens = absolute ["core", "cmp", "PartialEq"]) :
      Requires (.type p) (.type q)

/-- How a parameter is declared that requires an equality, marked if it is a lifetime: without its
default. -/
def GenericParam.requiring : GenericParam → Bool × Tokens
  | lifetime p => (true, p.tokens)
  | type p => (false, outerAttributes p.attributes ++ p.name.tokens ++ op ":" ++
      p.bounds.flatMap (fun b => b.tokens ++ op "+") ++ absolute ["core", "cmp", "PartialEq"])
  | const p => (false, p.typed)

/-- The parameters of an equality are those of the struct. -/
structure Declares (struct impl : Generics) : Prop where
  params : List.Forall₂ Requires struct.params impl.params
  implemented : impl.implemented = struct.list GenericParam.requiring
  applied : impl.applied = struct.applied
  clause : impl.clause = struct.clause

/-- Pieces before a last one have a separator behind each. -/
theorem separated_append_singleton (separator last : Tokens) (pieces : List Tokens) :
    separated separator false (pieces ++ [last]) = pieces.flatMap (· ++ separator) ++ last := by
  induction pieces with
  | nil => rfl
  | cons p rest ih =>
    have hcons : separated separator false (p :: (rest ++ [last])) =
        p ++ separator ++ separated separator false (rest ++ [last]) := by
      cases rest <;> rfl
    rw [List.cons_append, hcons, ih, List.flatMap_cons, List.append_assoc, List.append_assoc,
      List.append_assoc]

theorem boundList_eq_map (bounds : List Bound) : boundList bounds = bounds.map Bound.tokens := by
  induction bounds with
  | nil => rfl
  | cons b rest ih => rw [boundList, ih, List.map_cons]

namespace Equality

theorem tokens_ofPath_traitPath :
    (Bound.ofPath traitPath).tokens = absolute ["core", "cmp", "PartialEq"] := rfl

/-- **Parameters are declared as they require an equality.** -/
theorem implemented_requireEquality (p : GenericParam) :
    (requireEquality p).implemented = p.requiring := by
  cases p with
  | lifetime p => rfl
  | const p => rfl
  | type p =>
    have hbounds : boundList (p.bounds ++ [.ofPath traitPath]) =
        p.bounds.map Bound.tokens ++ [absolute ["core", "cmp", "PartialEq"]] := by
      rw [boundList_eq_map, List.map_append, List.map_singleton, tokens_ofPath_traitPath]
    have hsome : ¬ (boundList (p.bounds ++ [.ofPath traitPath])).isEmpty = true := by
      rw [hbounds]
      simp
    -- a plus sign behind the last bound is not written twice
    change (false, outerAttributes p.attributes ++ p.name.tokens ++
      boundsAfterColon false (boundList (p.bounds ++ [.ofPath traitPath]))) = _
    rw [boundsAfterColon, if_neg hsome, hbounds, plusses, separated_append_singleton,
      List.flatMap_map, GenericParam.requiring]
    simp only [List.append_assoc]

theorem requires_requireEquality (p : GenericParam) : Requires p (requireEquality p) := by
  cases p with
  | lifetime p => exact .lifetime p
  | const p => exact .const p
  | type p => exact .type p _ (.ofPath traitPath) rfl rfl rfl tokens_ofPath_traitPath

theorem declares_params (s : StructItem) : Declares s.generics (params ⟨s⟩) where
  params := List.forall₂_map_right_iff.2 (List.forall₂_same.2 fun p _ => requires_requireEquality p)
  implemented := by
    have hpieces : (s.generics.params.map requireEquality).map GenericParam.implemented =
        s.generics.params.map GenericParam.requiring := by
      rw [List.map_map]
      exact List.map_congr_left fun p _ => implemented_requireEquality p
    rw [Generics.list, ← hpieces, Generics.implemented, Generics.list, params, List.isEmpty_map]
  applied := applied_params
  clause := rfl

/-! ## The body of `eq` -/

/-- A field of `self` and the same one of another value. -/
def withItself (other : String) (key : FieldKey) : Comparison := ⟨⟨"self", key⟩, ⟨other, key⟩⟩

/-- What is compared is addressed by one token, which is read. -/
theorem exists_termTokens (f : BoundField) : ∃ t, FieldKey.read t = some f.key ∧
    termTokens f.member =
      kw "self" ++ op "." ++ [t] ++ op "==" ++ kw "other" ++ op "." ++ [t] := by
  unfold BoundField.key
  cases f.member with
  | named name => exact ⟨.word name.text name.span, rfl, rfl⟩
  | index n =>
    have hdigits : (toString n).toList = Nat.toDigits 10 n := String.toList_ofList
    have hall : (Nat.toDigits 10 n).all Char.isDigit = true :=
      List.all_eq_true.2 fun _ hc => Nat.isDigit_of_mem_toDigits (by decide) (by decide) hc
    refine ⟨.literal (toString n) .callSite, ?_, rfl⟩
    rw [FieldKey.read, hdigits, if_pos hall, Nat.ofDigitChars_toDigits (by decide) (by decide)]

/-- **Comparisons are read one after the other.** -/
theorem readJoined_terms (f : BoundField) (rest : List BoundField) :
    readJoined (separated (op "&&") false ((f :: rest).map fun g => termTokens g.member)) =
      some ((f :: rest).map fun g => withItself "other" g.key) := by
  induction rest generalizing f with
  | nil =>
    obtain ⟨t, hread, hterm⟩ := exists_termTokens f
    change readJoined (termTokens f.member) = _
    rw [hterm]
    change ((FieldKey.read t).bind fun key => (FieldKey.read t).bind fun key' =>
      some [(⟨⟨"self", key⟩, ⟨"other", key'⟩⟩ : Comparison)]) = _
    rw [hread]
    rfl
  | cons g more ih =>
    obtain ⟨t, hread, hterm⟩ := exists_termTokens f
    have hjoined : separated (op "&&") false ((f :: g :: more).map fun g => termTokens g.member) =
        termTokens f.member ++ op "&&" ++
          separated (op "&&") false ((g :: more).map fun g => termTokens g.member) := rfl
    rw [hjoined, hterm]
    change ((FieldKey.read t).bind fun key => (FieldKey.read t).bind fun key' =>
      (readJoined (separated (op "&&") false ((g :: more).map fun g => termTokens g.member))).map
        ((⟨⟨"self", key⟩, ⟨"other", key'⟩⟩ : Comparison) :: ·)) = _
    rw [hread, ih g]
    rfl

/-- A body that begins with a comparison is not `true`. -/
theorem readComparisons_terms (f : BoundField) (rest : List BoundField) :
    readComparisons (separated (op "&&") false ((f :: rest).map fun g => termTokens g.member)) =
      some ((f :: rest).map fun g => withItself "other" g.key) := by
  rw [← readJoined_terms]
  cases rest <;> rfl

/-- The name of the other value, and the comparison. -/
def parts (members : List FieldMember) : Tokens × Tokens :=
  match members with
  | [] => (kw "_", kw "true")
  | members => (kw "other", separated (op "&&") false (members.map termTokens))

/-- The function that compares two values. -/
def form (s : StructItem) : FnForm :=
  let (other, comparison) := parts (compared ⟨s⟩)
  ⟨"eq", op "&" ++ kw "self" ++ op "," ++ other ++ op ":" ++ op "&" ++ kw "Self", comparison⟩

/-- **Every stored field is compared with itself, once and in declaration order.** The other value
is not named where there is none. -/
theorem read_form (s : StructItem) : ∃ other, readOther (form s).params = some other ∧
    readComparisons (form s).body = some (s.storedKeys.map (withItself other)) ∧
    other = if s.storedKeys.isEmpty then "_" else "other" := by
  unfold form compared
  rw [← s.map_key_stored]
  cases s.fields.stored with
  | nil => exact ⟨"_", rfl, rfl, rfl⟩
  | cons f rest =>
    have hterms : ((f :: rest).map (·.member)).map termTokens =
        (f :: rest).map fun g => termTokens g.member := List.map_map
    refine ⟨"other", rfl, ?_, rfl⟩
    change readComparisons (separated (op "&&") false
      (((f :: rest).map (·.member)).map termTokens)) = _
    rw [hterms, List.map_map]
    exact readComparisons_terms f rest

/-- The implementation holds `eq` alone. -/
theorem functionsOf_tokens (s : StructItem) : ∃ code,
    tokens ⟨s⟩ = derivedMark ++ implementation (params ⟨s⟩)
      (some (absolute ["core", "cmp", "PartialEq"])) s.name code ∧
    functionsOf (tokens ⟨s⟩) = some [form s] := by
  have hopen : Open isBody (op "->" ++ kw "bool") := by simp
  have hread := reads_function .inherited "eq" .callSite (form s).params (form s).body hopen
  refine ⟨kw "fn" ++ kw "eq" ++ paren (form s).params ++ op "->" ++ kw "bool" ++
    brace (form s).body, rfl, functionsOf_implementation derivedMark _ _ _ ?_⟩
  rw [← List.append_assoc] at hread
  exact hread

/-! ## What `eq` yields -/

/-- A field that holds values is compared by these. -/
theorem verdict_withItself {same : α → α → Bool} {scope : List (String × Record α)} {other : String}
    {mine theirs : Record α} {key : FieldKey} {a b : α} (hself : scope.lookup "self" = some mine)
    (hother : scope.lookup other = some theirs) (hmine : mine key = some (.held a))
    (htheirs : theirs key = some (.held b)) :
    (withItself other key).verdict same scope = some (same a b) := by
  rw [Comparison.verdict, withItself, Operand.cell?, Operand.cell?, hself, hother,
    Option.bind_some, Option.bind_some, hmine, htheirs]
  rfl

/-- **`eq` is true of records just if these have the same values in all stored fields.** -/
theorem test_form (s : StructItem) (same : α → α → Bool) {values values' : FieldKey → α}
    {mine theirs : Record α} (hmine : ∀ key ∈ s.storedKeys, mine key = some (.held (values key)))
    (htheirs : ∀ key ∈ s.storedKeys, theirs key = some (.held (values' key))) :
    (form s).test same mine theirs =
      some (decide (∀ key ∈ s.storedKeys, same (values key) (values' key) = true)) := by
  obtain ⟨other, hother, hbody, hname⟩ := read_form s
  have hverdicts : (s.storedKeys.map (withItself other)).mapM
      (·.verdict same (("self", mine) :: (boundVariable other).toList.map (·, theirs))) =
        some (s.storedKeys.map fun key => same (values key) (values' key)) := by
    refine mapM_map_eq_some _ fun key hkey => ?_
    -- the other value has its name as soon as there is a field to compare
    have hsome : ¬ s.storedKeys.isEmpty = true := by
      intro hempty
      rw [List.isEmpty_iff.1 hempty] at hkey
      cases hkey
    rw [if_neg hsome] at hname
    subst hname
    exact verdict_withItself rfl rfl (hmine key hkey) (htheirs key hkey)
  rw [FnForm.test, hother, hbody]
  change Option.bind ((s.storedKeys.map (withItself other)).mapM _) (fun verdicts =>
    some (verdicts.all id)) = _
  rw [hverdicts, Option.bind_some, List.all_map, List.all_eq]
  rfl

/-- What `eq` is for a struct. -/
structure Compares (s : StructItem) (fn : FnForm) : Prop where
  name : fn.name = "eq"
  /-- Each stored field is compared with itself, once and in declaration order, and no other. -/
  body : ∃ other, readOther fn.params = some other ∧
    readComparisons fn.body = some (s.storedKeys.map (withItself other))
  keys : s.storedKeys.length = s.storedFields.length
  /-- It is true of two values just if their stored fields are the same, whatever else there is. -/
  test : ∀ {α : Type} (same : α → α → Bool) (values values' : FieldKey → α)
    (mine theirs : Record α), (∀ key ∈ s.storedKeys, mine key = some (.held (values key))) →
    (∀ key ∈ s.storedKeys, theirs key = some (.held (values' key))) →
      fn.test same mine theirs =
        some (decide (∀ key ∈ s.storedKeys, same (values key) (values' key) = true))
  /-- So it is of the records of the struct. -/
  records : s.fields.keys.Nodup →
    ∀ {α : Type} (same : α → α → Bool) (values values' : FieldKey → α),
      fn.test same (s.fields.record values) (s.fields.record values') =
        some (decide (∀ key ∈ s.storedKeys, same (values key) (values' key) = true))
  /-- Without stored fields it is always true. -/
  always : s.storedFields = [] → ∀ {α : Type} (same : α → α → Bool) (mine theirs : Record α),
    fn.test same mine theirs = some true

theorem compares_form (s : StructItem) : Compares s (form s) where
  name := rfl
  body := by
    obtain ⟨other, hother, hbody, -⟩ := read_form s
    exact ⟨other, hother, hbody⟩
  keys := s.length_storedKeys
  test same _ _ _ _ hmine htheirs := test_form s same hmine htheirs
  records hdistinct _ same values values' :=
    test_form s same (fun _ hkey => Fields.record_storedKey hdistinct values hkey)
      fun _ hkey => Fields.record_storedKey hdistinct values' hkey
  always hnone α same mine theirs := by
    have hkeys : s.storedKeys = [] := by
      rw [← List.length_eq_zero_iff, s.length_storedKeys, hnone, List.length_nil]
    obtain ⟨other, hother, hbody, -⟩ := read_form s
    rw [FnForm.test, hother, hbody, hkeys]
    rfl

/-- **What is compared.** A struct gets an implementation of the equality with `eq` alone, which
compares its stored fields. -/
theorem expand_compares (h : Item.parse item = .ok (.struct s)) : ∃ params code fn,
    (expand item).result = .ok (derivedMark ++ implementation params
      (some (absolute ["core", "cmp", "PartialEq"])) s.name code) ∧
    Declares s.generics params ∧
    functionsOf (derivedMark ++ implementation params
      (some (absolute ["core", "cmp", "PartialEq"])) s.name code) = some [fn] ∧
    Compares s fn := by
  obtain ⟨code, htokens, hfunctions⟩ := functionsOf_tokens s
  have hresult := result_expand h
  rw [htokens] at hresult hfunctions
  exact ⟨_, code, form s, hresult, declares_params s, hfunctions, compares_form s⟩

/-- `struct Tagged<'a, T: Clone + = u8, const N: usize = 3>(PhantomData<&'a T>, T, u8);` -/
def markedSample : Tokens :=
  let lifetime : Tokens := .punct '\'' true .callSite :: kw "a"
  kw "struct" ++ kw "Tagged" ++ op "<" ++ lifetime ++ op "," ++
    kw "T" ++ op ":" ++ kw "Clone" ++ op "+" ++ op "=" ++ kw "u8" ++ op "," ++
    kw "const" ++ kw "N" ++ op ":" ++ kw "usize" ++ op "=" ++ lit "3" ++ op ">" ++
  paren (kw "PhantomData" ++ op "<" ++ op "&" ++ lifetime ++ kw "T" ++ op ">" ++ op "," ++
    kw "T" ++ op "," ++ kw "u8") ++ op ";"

/-- With a marker in front, the two stored fields are compared at the places behind it, and a plus
sign that ends the bounds of a type is not written twice. -/
theorem expand_compares_marked : ∃ s params code fn,
    Item.parse markedSample = .ok (.struct s) ∧
      (expand markedSample).result = .ok (derivedMark ++ implementation params
        (some (absolute ["core", "cmp", "PartialEq"])) s.name code) ∧
      Tokens.render params.implemented =
        "< 'a , T : Clone + :: core :: cmp :: PartialEq , const N : usize >" ∧
      functionsOf (derivedMark ++ implementation params
        (some (absolute ["core", "cmp", "PartialEq"])) s.name code) = some [fn] ∧
      ∀ values values' : FieldKey → Nat,
        fn.test (· == ·) (s.fields.record values) (s.fields.record values') =
          some (decide (values (.place 1) = values' (.place 1) ∧
            values (.place 2) = values' (.place 2))) := by
  have hsample : (structOf? markedSample).any (fun s =>
      s.fields.shape == .unnamed && s.storedKeys == [.place 1, .place 2] &&
      Tokens.render (s.generics.list GenericParam.requiring) ==
        "< 'a , T : Clone + :: core :: cmp :: PartialEq , const N : usize >") = true := by
    decide +kernel
  simp only [Option.any_eq_true, Bool.and_eq_true, beq_iff_eq] at hsample
  obtain ⟨s, hs, ⟨hshape, hkeys⟩, hrender⟩ := hsample
  have hparse := parse_eq_of_structOf? hs
  have hdistinct := Fields.nodup_keys_of_shape (laidOut_of_parse hparse).unnamed
    (by rw [hshape]; decide : s.fields.shape ≠ .named)
  obtain ⟨params, code, fn, hresult, hdeclares, hfunctions, hcompares⟩ := expand_compares hparse
  refine ⟨s, params, code, fn, hparse, hresult, ?_, hfunctions, fun values values' => ?_⟩
  · rw [hdeclares.implemented, hrender]
  · rw [hcompares.records hdistinct, hkeys]
    simp

end Equality

end DeclSynth
