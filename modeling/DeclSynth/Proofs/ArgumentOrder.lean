import DeclSynth.Proofs.Context
import DeclSynth.Proofs.Sealed.Places
import DeclSynth.Proofs.StoredFields.Reordered

/-!
# Arguments in any order

The order of labelled arguments means nothing, and neither does where they are written:
permuted lists are accepted or rejected together, an accepted one gives the same answer
to every question, and so an expansion that reads permuted lists prints the same tokens
and reports the same messages (`sameExpansion_of_permuted`).
-/

namespace DeclSynth

open ArgumentList

/-! ## Reports -/

theorem Diagnostics.errorTokens_map_unplaced (ds : Diagnostics) :
    errorTokens (ds.map Diagnostic.unplaced) = ds.errorTokens := by
  unfold errorTokens errors
  rw [List.filter_map, List.flatMap_map]
  rfl

theorem Diagnostics.warningTokens_map_unplaced (ds : Diagnostics) :
    warningTokens (ds.map Diagnostic.unplaced) = ds.warningTokens := by
  unfold warningTokens warnings
  rw [List.filter_map, List.flatMap_map]
  rfl

/-- **Code for reports does not depend on where they point.** -/
theorem Context.assemble_congr {ds es : Diagnostics} {body body' : Tokens}
    (hds : ds.map Diagnostic.unplaced = es.map Diagnostic.unplaced)
    (hbody : body.unplaced = body'.unplaced) (site : ExpansionSite) :
    (assemble site ds body).unplaced = (assemble site es body').unplaced := by
  have herrors : ds.errorTokens = es.errorTokens := by
    rw [← Diagnostics.errorTokens_map_unplaced, hds, Diagnostics.errorTokens_map_unplaced]
  have hwarnings : ds.warningTokens = es.warningTokens := by
    rw [← Diagnostics.warningTokens_map_unplaced, hds, Diagnostics.warningTokens_map_unplaced]
  have hnil : ds ≠ [] ↔ es ≠ [] := by
    rw [ne_eq, ← List.map_eq_nil_iff (f := Diagnostic.unplaced), hds, List.map_eq_nil_iff]
  unfold assemble
  simp only [hnil, herrors, hwarnings]
  split <;> simp only [Tokens.unplaced_append, Tokens.unplaced_brace, hbody]

/-- **A context makes the same of the same**, places aside: of what an expander comes to, of what is
reported, and of what takes the place of a failed expansion. -/
theorem Context.close_congr {kind : Expander} {item item' : Tokens} {x y : Except Stop Tokens}
    {cx cx' : Context}
    (hresult : (x.map Tokens.unplaced).mapError Stop.unplaced =
      (y.map Tokens.unplaced).mapError Stop.unplaced)
    (hreports : cx.diagnostics.map Diagnostic.unplaced = cx'.diagnostics.map Diagnostic.unplaced)
    (hfallback : (kind.fallback item).unplaced = (kind.fallback item').unplaced) :
    (close kind item (x, cx)).map Tokens.unplaced =
      (close kind item' (y, cx')).map Tokens.unplaced := by
  cases x with
  | ok body =>
    cases y with
    | ok body' =>
      exact congrArg Except.ok (assemble_congr hreports (Except.ok.inj hresult) kind.site)
    | error stop => cases hresult
  | error stop =>
    cases y with
    | ok body' => cases hresult
    | error stop' =>
      have hstop : stop.unplaced = stop'.unplaced := Except.error.inj hresult
      cases stop with
      | failure f =>
        cases stop' with
        | failure f' =>
          have hfailure : f.diagnostic.unplaced = f'.diagnostic.unplaced := by
            have hplaced : f.error.at .callSite = f'.error.at .callSite := by injection hstop
            have hcause : f.error = f'.error := (Failure.mk.inj hplaced).1
            simp only [Failure.diagnostic, Diagnostic.unplaced, hcause]
          have hall : (cx.report f).diagnostics.map Diagnostic.unplaced =
              (cx'.report f').diagnostics.map Diagnostic.unplaced := by
            simp only [report, add, List.map_append, List.map_singleton, hreports, hfailure]
          exact congrArg Except.ok (assemble_congr hall hfallback kind.site)
        | panic fault' => cases hstop
      | panic fault =>
        cases stop' with
        | failure f' => cases hstop
        | panic fault' => exact congrArg Except.error (Stop.panic.inj hstop)

/-! ## Expansions -/

/-- Whether an expander does the same with two inputs, places aside: it comes to the same tokens or
stops for the same reason, with the same reports, and the same tokens take the place of either
input. -/
structure SameExpansion (cx : Context) (kind : Expander) (args item args' item' : Tokens) :
    Prop where
  outcome : (kind.run cx.config args item).unplaced Tokens.unplaced =
    (kind.run cx.config args' item').unplaced Tokens.unplaced
  tokens : (expandWith cx kind args item).map Tokens.unplaced =
    (expandWith cx kind args' item').map Tokens.unplaced

theorem sameExpansion_of_outcome {cx : Context} {kind : Expander} {args item args' item' : Tokens}
    (houtcome : (kind.run cx.config args item).unplaced Tokens.unplaced =
      (kind.run cx.config args' item').unplaced Tokens.unplaced)
    (hfallback : (kind.fallback item).unplaced = (kind.fallback item').unplaced) :
    SameExpansion cx kind args item args' item' := by
  refine ⟨houtcome, ?_⟩
  obtain ⟨hresult, hreports⟩ := Prod.mk.inj houtcome
  rw [expandWith_eq, expandWith_eq]
  refine Context.close_congr hresult ?_ hfallback
  simp only [Context.add, List.map_append, hreports]

/-- What a list answers about a label: its argument, and what its value is read as. -/
structure SameAnswers (l₁ l₂ : ArgumentList) (label : String) : Prop where
  get? : (l₁.get? label).map Argument.content = (l₂.get? label).map Argument.content
  value? : (l₁.value? label).map Expr.unplaced = (l₂.value? label).map Expr.unplaced
  path : placeless (Option.map Path.unplaced) (l₁.path label) =
    placeless (Option.map Path.unplaced) (l₂.path label)
  ident : placeless (Option.map Ident.unplaced) (l₁.ident label) =
    placeless (Option.map Ident.unplaced) (l₂.ident label)
  string : placeless (Option.map Prod.fst) (l₁.string label) =
    placeless (Option.map Prod.fst) (l₂.string label)
  identList : placeless (List.map Ident.unplaced) (l₁.identList label) =
    placeless (List.map Ident.unplaced) (l₂.identList label)

/-- **Arguments may come in any order.** Permuted lists are accepted or rejected together, whatever
is asked of them, and if they are accepted, every label has the same argument in both and every
reading of it yields the same value or fails for the same cause, places aside. So permuted arguments
seal a module alike, and permuted marks give a struct the same accessors: to the same tokens and
with the same messages, in every context. -/
theorem sameExpansion_of_permuted :
    (∀ l₁ l₂ : ArgumentList, Permuted l₁ l₂ → ∀ spec : ArgumentSpec,
      (l₁.validate spec = .ok () ↔ l₂.validate spec = .ok ()) ∧
      (l₁.validate spec = .ok () → ∀ label, SameAnswers l₁ l₂ label)) ∧
    (∀ (cx : Context) (args₁ args₂ item : Tokens) (l₁ l₂ : ArgumentList),
      ArgumentList.parse args₁ = .ok l₁ → ArgumentList.parse args₂ = .ok l₂ → Permuted l₁ l₂ →
      l₁.validate Sealed.spec = .ok () → SameExpansion cx .sealed args₁ item args₂ item) ∧
    ∀ (cx : Context) (args item₁ item₂ : Tokens) (s₁ s₂ : StructItem),
      Item.parse item₁ = .ok (.struct s₁) → Item.parse item₂ = .ok (.struct s₂) →
      s₁.Reordered s₂ → SameExpansion cx .storedAccess args item₁ args item₂ := by
  refine ⟨fun l₁ l₂ h spec => ⟨h.validate_iff spec, fun hvalid label => ?_⟩,
    fun cx args₁ args₂ item l₁ l₂ h₁ h₂ h hvalid => ?_,
    fun cx args item₁ item₂ s₁ s₂ h₁ h₂ h => ?_⟩
  · exact ⟨h.get? hvalid label, h.value? hvalid label, h.path hvalid label, h.ident hvalid label,
      h.string hvalid label, h.identList hvalid label⟩
  · exact sameExpansion_of_outcome (Sealed.expand_of_permuted h hvalid h₁ h₂ cx.config item) rfl
  · exact sameExpansion_of_outcome (StoredAccess.expand_of_reordered h₁ h₂ h cx.config args)
      (StoredAccess.withoutMarks_of_reordered h₁ h₂ h)

/-! ## Two arguments the other way round -/

mutual

/-- Whether two expressions are the same one, if they are a name, a literal or a list of such. -/
def Expr.same : Expr → Expr → Bool
  | .mk span tokens [] outline, .mk span' tokens' [] outline' =>
    decide (span = span' ∧ tokens = tokens') && outline.same outline'
  | _, _ => false

/-- Whether two outlines are the same one, of a name, a literal or a list of such. -/
def Outline.same : Outline → Outline → Bool
  | .literal text span, .literal text' span' => decide (text = text' ∧ span = span')
  | .path false (.mk span colon [.mk name .none]),
    .path false (.mk span' colon' [.mk name' .none]) =>
    decide (span = span' ∧ colon = colon' ∧ name = name')
  | .array elems, .array elems' => Expr.sameAll elems elems'
  | _, _ => false

/-- The same of expressions one by one. -/
def Expr.sameAll : List Expr → List Expr → Bool
  | [], [] => true
  | e :: rest, e' :: rest' => e.same e' && Expr.sameAll rest rest'
  | _, _ => false

end

mutual

theorem Expr.eq_of_same {e e' : Expr} (h : e.same e' = true) : e = e' := by
  unfold Expr.same at h
  split at h
  next span tokens outline span' tokens' outline' =>
    rw [Bool.and_eq_true, decide_eq_true_eq] at h
    obtain ⟨⟨rfl, rfl⟩, houtline⟩ := h
    rw [Outline.eq_of_same houtline]
  next => cases h

theorem Outline.eq_of_same {o o' : Outline} (h : o.same o' = true) : o = o' := by
  unfold Outline.same at h
  split at h
  next =>
    obtain ⟨rfl, rfl⟩ := of_decide_eq_true h
    rfl
  next =>
    obtain ⟨rfl, rfl, rfl⟩ := of_decide_eq_true h
    rfl
  next => rw [Expr.eq_of_sameAll h]
  next => cases h

theorem Expr.eq_of_sameAll {es es' : List Expr} (h : Expr.sameAll es es' = true) : es = es' := by
  unfold Expr.sameAll at h
  split at h
  next => rfl
  next =>
    rw [Bool.and_eq_true] at h
    rw [Expr.eq_of_same h.1, Expr.eq_of_sameAll h.2]
  next => cases h

end

/-- Whether two lists consist of the same two labelled arguments, the other way round. -/
def ArgumentList.swapped (l₁ l₂ : ArgumentList) : Bool :=
  match l₁.arguments, l₂.arguments with
  | [⟨some first, value⟩, ⟨some second, other⟩], [⟨some second', other'⟩, ⟨some first', value'⟩] =>
    decide (first.plainText = first'.plainText ∧ second.plainText = second'.plainText) &&
      value.same value' && other.same other'
  | _, _ => false

theorem ArgumentList.permuted_of_swapped {l₁ l₂ : ArgumentList} (h : swapped l₁ l₂ = true) :
    Permuted l₁ l₂ := by
  unfold swapped at h
  split at h
  next first value second other second' other' first' value' h₁ h₂ =>
    simp only [Bool.and_eq_true, decide_eq_true_eq] at h
    obtain ⟨⟨⟨hfirst, hsecond⟩, hvalue⟩, hother⟩ := h
    refine ⟨by simp only [positional, h₁, h₂], ?_⟩
    simp only [rest, h₁, h₂, List.map_cons, List.map_nil, Argument.content, Argument.key?,
      Option.map_some, hfirst, hsecond, Expr.eq_of_same hvalue, Expr.eq_of_same hother]
    exact .swap _ _ _
  next => cases h

/-- Whether tokens are read as two arguments and the same ones the other way round, which fit. -/
def readsSwapped (spec : ArgumentSpec) (ts us : Tokens) : Bool :=
  match ArgumentList.parse ts, ArgumentList.parse us with
  | .ok l₁, .ok l₂ => swapped l₁ l₂ && (l₁.validate spec).isOk
  | _, _ => false

theorem of_readsSwapped (spec : ArgumentSpec) (ts us : Tokens)
    (h : readsSwapped spec ts us = true) :
    ∃ l₁ l₂, ArgumentList.parse ts = .ok l₁ ∧ ArgumentList.parse us = .ok l₂ ∧
      Permuted l₁ l₂ ∧ l₁.validate spec = .ok () := by
  unfold readsSwapped at h
  split at h
  next l₁ l₂ h₁ h₂ =>
    rw [Bool.and_eq_true] at h
    obtain ⟨⟨⟩, hvalid⟩ := exists_eq_ok_of_isOk h.2
    exact ⟨l₁, l₂, h₁, h₂, permuted_of_swapped h.1, hvalid⟩
  next => cases h

/-- `r#base = Shape, roles = [Round]` -/
def baseFirst : Tokens :=
  kw "r#base" ++ op "=" ++ kw "Shape" ++ op "," ++ kw "roles" ++ op "=" ++ bracket (kw "Round")

/-- `roles = [Round], base = Shape` -/
def rolesFirst : Tokens :=
  kw "roles" ++ op "=" ++ bracket (kw "Round") ++ op "," ++ kw "base" ++ op "=" ++ kw "Shape"

/-- `key = "volume", default_value = 30` -/
def keyFirst : Tokens :=
  kw "key" ++ op "=" ++ str "volume" ++ op "," ++ kw "default_value" ++ op "=" ++ lit "30"

/-- `default_value = 30, key = "volume"` -/
def defaultFirst : Tokens :=
  kw "default_value" ++ op "=" ++ lit "30" ++ op "," ++ kw "key" ++ op "=" ++ str "volume"

/-- The mark of a stored field, with these arguments. -/
def storedMark (args : Tokens) : Attribute :=
  ⟨false, false, [.word "stored".toList (by decide)], .list args .callSite,
    op "#" ++ bracket (kw "stored" ++ paren args), .callSite⟩

/-- `#[stored(..)] level: u8`, with these arguments. -/
def levelField (args : Tokens) : Field :=
  ⟨[storedMark args], .inherited, some (.word "level".toList (by decide)),
    .path .callSite none (.mk .callSite false [.mk (.word "u8".toList rfl) .none])⟩

/-- `struct Settings { #[stored(..)] level: u8 }`, with these arguments. -/
def settings (args : Tokens) : StructItem :=
  ⟨[], .inherited, .word "Settings".toList (by decide), .none, .named [levelField args] false⟩

/-- The struct with the arguments of its mark swapped is a reordered struct. -/
theorem reordered_settings {ts us : Tokens} (h : readsSwapped StoredField.spec ts us = true) :
    (settings ts).Reordered (settings us) := by
  obtain ⟨l₁, l₂, h₁, h₂, hperm, hvalid⟩ := of_readsSwapped _ ts us h
  have hlists : StoredField.ListsPermuted (storedMark ts) (storedMark us) := by
    refine ⟨⟨l₁.arguments, .callSite⟩, ⟨l₂.arguments, .callSite⟩, ?_, ?_, ?_, ?_⟩
    · simp only [ArgumentList.ofAttribute, storedMark, h₁]
    · simp only [ArgumentList.ofAttribute, storedMark, h₂]
    · exact ⟨hperm.positional, hperm.rest⟩
    · rw [validate_eq_ok_iff] at hvalid ⊢
      exact hvalid
  have hfield : (levelField ts).Reordered (levelField us) :=
    ⟨rfl, .some hlists, rfl, rfl, rfl⟩
  exact ⟨⟨rfl, rfl, rfl, rfl, rfl, rfl, rfl⟩, .named (.cons hfield .nil) false⟩

set_option maxRecDepth 20000 in
theorem parse_settings_keyFirst :
    Item.parse (settings keyFirst).tokens = .ok (.struct (settings keyFirst)) := rfl

set_option maxRecDepth 20000 in
theorem parse_settings_defaultFirst :
    Item.parse (settings defaultFirst).tokens = .ok (.struct (settings defaultFirst)) := rfl

/-- Two arguments may be swapped, and one of them labelled with a raw name. -/
theorem sameExpansion_of_permuted_swapped :
    (∃ l₁ l₂, ArgumentList.parse baseFirst = .ok l₁ ∧ ArgumentList.parse rolesFirst = .ok l₂ ∧
      l₁.validate Sealed.spec = .ok () ∧ l₂.validate Sealed.spec = .ok () ∧
      SameAnswers l₁ l₂ "base") ∧
    SameExpansion (.ofConfig .default) .sealed baseFirst Sealed.twiceMarked rolesFirst
      Sealed.twiceMarked ∧
    SameExpansion (.ofConfig .default) .storedAccess [] (settings keyFirst).tokens []
      (settings defaultFirst).tokens := by
  obtain ⟨l₁, l₂, h₁, h₂, hperm, hvalid⟩ :=
    of_readsSwapped Sealed.spec baseFirst rolesFirst (by decide +kernel)
  obtain ⟨hlists, hsealed, hstored⟩ := sameExpansion_of_permuted
  obtain ⟨hboth, hanswers⟩ := hlists l₁ l₂ hperm Sealed.spec
  refine ⟨⟨l₁, l₂, h₁, h₂, hvalid, hboth.1 hvalid, hanswers hvalid "base"⟩, ?_, ?_⟩
  · exact hsealed _ _ _ _ l₁ l₂ h₁ h₂ hperm hvalid
  · exact hstored _ [] _ _ _ _ parse_settings_keyFirst parse_settings_defaultFirst
      (reordered_settings (by decide +kernel))

end DeclSynth
