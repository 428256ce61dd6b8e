import DeclSynth.Expansion.CasePredicates
import DeclSynth.Proofs.Naming.Snake
import DeclSynth.Proofs.Sealed.Names
import DeclSynth.Proofs.StoredFields.Functions

/-!
# Case predicates

The code for an enum has one predicate for each variant, in order
(`functionsOf_tokens`). A predicate is named after its variant in snake case, which is a
name unless the variant's is raw (`isName_casePredicateName`): the mark of a raw name
would stand in the middle. So an expansion panics exactly where a variant has a raw name,
and two predicates have one name exactly where their variants have the same words in
lower case (`expand_predicates`).
-/

namespace DeclSynth

open Naming (casePredicateName)

/-- Whether a name is written with the mark of a raw one. -/
def Ident.isRaw (i : Ident) : Bool := i.text != i.plainText

/-! ## Names of predicates -/

namespace Naming

open Unicode

theorem casePredicateName_eq (case : String) :
    casePredicateName case = String.ofList ("is_".toList ++ snake case.toList) := by
  rw [casePredicateName, append_eq_ofList, toList_toSnakeCase]

/-- **A predicate's name is a name exactly where its variant's is not raw.** -/
theorem isName_casePredicateName (case : Ident) :
    Ident.isName (casePredicateName case.text) = !case.isRaw := by
  have hprefix : isWord "is_".toList = true := by decide
  have hstem := isStem_text case
  unfold Ident.isRaw
  rw [casePredicateName_eq]
  generalize hcs : case.text.toList = cs at hstem
  cases hstem with
  | plain ne_nil continues =>
    have hplain : case.plainText = case.text := by
      unfold Ident.plainText Ident.dropRaw
      split
      · rename_i word heq
        rw [← hcs, heq] at continues
        simp [show isIdentifierContinue '#' = false from by decide] at continues
      · rfl
    rw [Ident.isName_ofList_of_isWord
      (isWord_append hprefix (all_isIdentifierContinue_snake continues)), hplain]
    simp
  | @raw word continues =>
    have hplain : case.plainText = String.ofList word := by
      unfold Ident.plainText Ident.dropRaw
      simp [hcs]
    have hraw : case.text ≠ case.plainText := by
      intro heq
      rw [hplain, ← String.toList_inj, hcs, String.toList_ofList] at heq
      have hlength := congrArg List.length heq
      rw [List.length_cons, List.length_cons] at hlength
      omega
    obtain ⟨lower, hlower, -⟩ := exists_snake_raw continues
    rw [hlower, bne_iff_ne.2 hraw]
    -- the mark comes behind `is_`, where no identifier has one
    simp [Ident.isName, isWord, show isIdentifierContinue '#' = false from by decide]

/-- No reserved word begins like a predicate. -/
theorem not_isReserved_casePredicateName (case : String) :
    Ident.isReserved (casePredicateName case) = false := by
  rw [casePredicateName_eq]
  exact not_mem_of_prefix (by decide) _

/-- Predicates have the same name exactly where their variants have the same words in lower
case. -/
theorem casePredicateName_eq_iff {a b : String} :
    casePredicateName a = casePredicateName b ↔
      (words a).map lowercase = (words b).map lowercase := by
  rw [← toSnakeCase_eq_iff, casePredicateName, casePredicateName, ← String.toList_inj,
    String.toList_append, String.toList_append, List.append_cancel_left_eq, String.toList_inj]

end Naming

/-! ## The code -/

/-- A predicate as it is written: whether a value is of a case. -/
def caseForm (case : Ident) (name : String) : FnForm :=
  ⟨name, op "&" ++ kw "self",
    kw "matches" ++ op "!" ++ paren (
      kw "self" ++ op "," ++ kw "Self" ++ op "::" ++ case.tokens ++ brace (op ".."))⟩

/-- The predicate of a variant. -/
def VariantItem.predicateForm (v : VariantItem) : FnForm :=
  caseForm v.name (casePredicateName v.name.text)

namespace CasePredicates

open Sealed (Legal)
open Sealed.Code (isBody Reads Open reads_flatMap)

variable {item : Tokens} {e : EnumItem} {vs : List VariantItem}

theorem predicate_eq_ok {v : VariantItem} (hv : v.name.isRaw = false) :
    ∃ name : Ident, name.text = casePredicateName v.name.text ∧
      predicate v = .ok ⟨v.name, name⟩ := by
  have hname : Ident.isName (casePredicateName v.name.text) = true := by
    rw [Naming.isName_casePredicateName, hv]
    rfl
  refine ⟨⟨_, .callSite, hname⟩, rfl, ?_⟩
  rw [predicate, Ident.ofText_of_isName hname]
  rfl

theorem predicate_eq_error {v : VariantItem} (hv : v.name.isRaw = true) :
    ∃ fault, predicate v = .error fault := by
  have hname : Ident.isName (casePredicateName v.name.text) = false := by
    rw [Naming.isName_casePredicateName, hv]
    rfl
  rw [predicate, Ident.ofText_of_not_isName hname]
  exact ⟨_, rfl⟩

/-- **Each variant gets its predicate**, in order, where none has a raw name. -/
theorem exists_predicates (h : ∀ v ∈ vs, v.name.isRaw = false) :
    ∃ ps, vs.mapM predicate = .ok ps ∧
      ps.map (fun p => (p.case, p.name.text)) =
        vs.map fun v => (v.name, casePredicateName v.name.text) := by
  induction vs with
  | nil => exact ⟨[], rfl, rfl⟩
  | cons v rest ih =>
    obtain ⟨hv, hrest⟩ := List.forall_mem_cons.1 h
    obtain ⟨name, hname, hp⟩ := predicate_eq_ok hv
    obtain ⟨ps, hps, hnames⟩ := ih hrest
    refine ⟨⟨v.name, name⟩ :: ps, ?_, ?_⟩
    · rw [List.mapM_cons, hp, hps]
      rfl
    · rw [List.map_cons, List.map_cons, hnames, hname]

/-- **A raw name makes no predicate.** -/
theorem exists_fault (h : ∃ v ∈ vs, v.name.isRaw = true) :
    ∃ fault, vs.mapM predicate = .error fault := by
  induction vs with
  | nil => simp at h
  | cons v rest ih =>
    rw [List.mapM_cons]
    cases hv : v.name.isRaw with
    | true =>
      obtain ⟨fault, hfault⟩ := predicate_eq_error hv
      exact ⟨fault, by rw [hfault]; rfl⟩
    | false =>
      obtain ⟨name, -, hp⟩ := predicate_eq_ok hv
      obtain ⟨fault, hfault⟩ := ih (by simpa [hv] using h)
      exact ⟨fault, by rw [hp, hfault]; rfl⟩

/-- **The code is read back as the predicates of the variants.** -/
theorem functionsOf_tokens {ps : List CasePredicate}
    (h : ps.map (fun p => (p.case, p.name.text)) =
      e.variants.map fun v => (v.name, casePredicateName v.name.text)) :
    functionsOf (tokens ⟨e, ps⟩) = some (e.variants.map VariantItem.predicateForm) := by
  have hform (p : CasePredicate) : Reads isBody readFunction (predicateTokens p)
      [caseForm p.case p.name.text] := by
    have hresult : Open isBody (op "->" ++ kw "bool") := by simp
    have hread := reads_function .everywhere p.name.text p.name.span
      (caseForm p.case p.name.text).params (caseForm p.case p.name.text).body hresult
    simpa only [predicateTokens, caseForm, Visibility.tokens, Ident.tokens,
      List.append_assoc] using hread
  have hforms : ps.map (fun p => caseForm p.case p.name.text) =
      e.variants.map VariantItem.predicateForm := by
    have := congrArg (List.map fun q => caseForm q.1 q.2) h
    rwa [List.map_map, List.map_map] at this
  rw [← hforms, List.map_eq_flatMap]
  exact functionsOf_implementation derivedMark e.generics none e.name
    (reads_flatMap fun p _ => hform p)

/-- An enum is expanded to what its predicates come to. -/
theorem result_expand (h : Item.parse item = .ok (.enum e)) :
    (expand item).result = (liftM (of e) : Outcome CasePredicates).result.map tokens := by
  have hparse : (liftM (Item.parse item) : Outcome Item).result = .ok (.enum e) :=
    Outcome.result_liftM_syntax.2 h
  rw [expand, Outcome.result_bind_of_ok hparse]
  dsimp only
  rw [Outcome.result_bind_of_ok (a := ()) (by simp), Outcome.result_bind]
  rfl

theorem of_eq_ok {ps : List CasePredicate} (h : e.variants.mapM predicate = .ok ps) :
    of e = .ok ⟨e, ps⟩ := by
  rw [of, h]
  rfl

theorem of_eq_error {fault : NameFault} (h : e.variants.mapM predicate = .error fault) :
    of e = .error fault := by
  rw [of, h]
  rfl

/-- The predicates of variants without raw names are legal names. -/
theorem legal_predicateForm {v : VariantItem} (hv : v.name.isRaw = false) :
    Legal v.predicateForm.name where
  isName := by
    rw [VariantItem.predicateForm, caseForm, Naming.isName_casePredicateName, hv]
    rfl
  free := Naming.not_isReserved_casePredicateName _

/-- **Predicates are named apart exactly where the words of their variants are apart**, whatever
their case. -/
theorem nodup_predicateForm :
    ((vs.map VariantItem.predicateForm).map (·.name)).Nodup ↔
      (vs.map fun v => (Naming.words v.name.text).map Naming.lowercase).Nodup := by
  induction vs with
  | nil => simp
  | cons v rest ih =>
    have hmem : v.predicateForm.name ∈ (rest.map VariantItem.predicateForm).map (·.name) ↔
        (Naming.words v.name.text).map Naming.lowercase ∈
          rest.map fun v => (Naming.words v.name.text).map Naming.lowercase := by
      simp only [List.mem_map, exists_exists_and_eq_and, VariantItem.predicateForm, caseForm,
        Naming.casePredicateName_eq_iff]
    rw [List.map_cons, List.map_cons, List.map_cons, List.nodup_cons, List.nodup_cons, hmem, ih]

/-- **The predicates of an enum.** An expansion panics exactly where a variant has a raw name.
Where none has, each variant gets its predicate, in order, under a legal name; and the names are
apart exactly where the words of the variants are, whatever their case. -/
theorem expand_predicates (h : Item.parse item = .ok (.enum e)) :
    ((∃ fault, (expand item).result = .error (.panic fault)) ↔
      ∃ v ∈ e.variants, v.name.isRaw = true) ∧
    ((∀ v ∈ e.variants, v.name.isRaw = false) → ∃ out, (expand item).result = .ok out ∧
      functionsOf out = some (e.variants.map VariantItem.predicateForm) ∧
      (∀ v ∈ e.variants, Legal v.predicateForm.name) ∧
      (((e.variants.map VariantItem.predicateForm).map (·.name)).Nodup ↔
        (e.variants.map fun v => (Naming.words v.name.text).map Naming.lowercase).Nodup)) := by
  have hplain (hraw : ∀ v ∈ e.variants, v.name.isRaw = false) :
      ∃ ps : List CasePredicate, (expand item).result = .ok (tokens ⟨e, ps⟩) ∧
        ps.map (fun p => (p.case, p.name.text)) =
          e.variants.map fun v => (v.name, casePredicateName v.name.text) := by
    obtain ⟨ps, hps, hnames⟩ := exists_predicates hraw
    refine ⟨ps, ?_, hnames⟩
    rw [result_expand h, Outcome.result_liftM_name.2 (of_eq_ok hps)]
    rfl
  refine ⟨⟨fun ⟨fault, hfault⟩ => ?_, fun hraw => ?_⟩, fun hraw => ?_⟩
  · by_contra hnone
    obtain ⟨ps, hok, -⟩ := hplain (by simpa using hnone)
    rw [hok] at hfault
    cases hfault
  · obtain ⟨fault, hfault⟩ := exists_fault hraw
    refine ⟨fault, ?_⟩
    rw [result_expand h, Outcome.result_liftM_name_error.2 ⟨fault, of_eq_error hfault, rfl⟩]
    rfl
  · obtain ⟨ps, hok, hnames⟩ := hplain hraw
    exact ⟨_, hok, functionsOf_tokens hnames, fun v hv => legal_predicateForm (hraw v hv),
      nodup_predicateForm⟩

/-- The enum that tokens are. -/
def enumOf? (ts : Tokens) : Option EnumItem :=
  match Item.parse ts with
  | .ok (.enum e) => some e
  | _ => none

theorem parse_eq_of_enumOf? {ts : Tokens} (h : enumOf? ts = some e) :
    Item.parse ts = .ok (.enum e) := by
  unfold enumOf? at h
  split at h
  · rename_i hparse
    rw [hparse, Option.some.inj h]
  · cases h

/-- `enum Shape<T> { Unit, NewType(T), HTTPError { code: u16 } }` -/
def shapeSample : Tokens :=
  kw "enum" ++ kw "Shape" ++ op "<" ++ kw "T" ++ op ">" ++ brace (
    kw "Unit" ++ op "," ++ kw "NewType" ++ paren (kw "T") ++ op "," ++
      kw "HTTPError" ++ brace (kw "code" ++ op ":" ++ kw "u16"))

/-- The predicates of a generic enum whose variants have payloads. -/
theorem expand_predicates_shape : ∃ e out, Item.parse shapeSample = .ok (.enum e) ∧
    (expand shapeSample).result = .ok out ∧
    functionsOf out = some (e.variants.map VariantItem.predicateForm) ∧
    ((e.variants.map VariantItem.predicateForm).map (·.name)) =
      ["is_unit", "is_new_type", "is_http_error"] := by
  have hsample : (enumOf? shapeSample).any (fun e =>
      (e.variants.all fun v => !v.name.isRaw) &&
      (e.variants.map VariantItem.predicateForm).map (·.name) ==
        ["is_unit", "is_new_type", "is_http_error"]) = true := by
    decide +kernel
  simp only [Option.any_eq_true, Bool.and_eq_true, List.all_eq_true, Bool.not_eq_true',
    beq_iff_eq] at hsample
  obtain ⟨e, he, hraw, hnames⟩ := hsample
  have hparse := parse_eq_of_enumOf? he
  obtain ⟨out, hout, hfunctions, -⟩ := (expand_predicates hparse).2 hraw
  exact ⟨e, out, hparse, hout, hfunctions, hnames⟩

/-- `enum E { r#type }` -/
def rawSample : Tokens := kw "enum" ++ kw "E" ++ brace (kw "r#type")

/-- `enum E { AB, Ab }` -/
def acronymSample : Tokens := kw "enum" ++ kw "E" ++ brace (kw "AB" ++ op "," ++ kw "Ab")

/-- The names of the predicates that an enum is expanded to. -/
def declaredPredicates (ts : Tokens) : Option (List String) :=
  (expand ts).result.toOption.bind fun out => (functionsOf out).map (·.map (·.name))

/-- Two enums with names that are apart: a variant with a raw name makes the expansion panic, and
variants that differ in case only get predicates of one name. -/
theorem exists_panic_raw :
    (∃ fault, (expand rawSample).result = .error (.panic fault)) ∧
      (enumOf? acronymSample).any (fun e => decide (e.variants.map (·.name.text)).Nodup) = true ∧
      declaredPredicates acronymSample = some ["is_ab", "is_ab"] :=
  ⟨Outcome.panics_iff.1 (by decide +kernel), by decide +kernel, by decide +kernel⟩

end CasePredicates

end DeclSynth
