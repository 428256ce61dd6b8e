import DeclSynth.Proofs.Config.Failure
import DeclSynth.Proofs.StoredFields.Reordered

/-!
# Where accessors come from

An expansion that yields something is of a struct with named fields, and yields what its
accessors print (`exists_expansion`). The fields without a mark stay, and each field with one
is read into a stored field from the arguments of its first mark (`of_eq_ok`).
-/

namespace DeclSynth

open StoredField (mark spec)

/-- Whether a field is marked as one that lives in a store. -/
def Field.isMarked (f : Field) : Bool := f.attributes.any (·.isNamed mark)

/-- Whether the first mark of a field gives these arguments. -/
def Field.Gives (f : Field) (list : ArgumentList) : Prop :=
  ∃ a, findAttribute mark f.attributes = some a ∧ ArgumentList.ofAttribute a = .ok list

namespace StoredField

variable {store : Expr} {f : Field} {g : StoredField} {fs : List Field}

/-- Whether a stored field is read from a field and the arguments that its mark gives. -/
structure ReadFrom (store : Expr) (f : Field) (list : ArgumentList) (g : StoredField) : Prop where
  given : f.Gives list
  accepted : list.validate spec = .ok ()
  field : g.field = unmarked f
  getter : f.name = some g.getter
  default : list.value? "default_value" = some g.default
  kind : g.default.defaultKind? = some g.kind
  key : keyOf g.getter list = .ok g.key
  store : g.store = (list.value? "store").getD store

theorem isSome_findAttribute (f : Field) : (findAttribute mark f.attributes).isSome = f.isMarked :=
  Bool.eq_iff_iff.2 (List.find?_isSome.trans List.any_eq_true.symm)

theorem leaves_eq (h : f.name.isSome = true) : leaves f = f.isMarked := by
  rw [leaves, h, Bool.and_true, isSome_findAttribute]

/-- **A stored field is read from the arguments of the field's first mark**, all of them
accepted. -/
theorem exists_readFrom (h : ofField? store f = .ok (some g)) :
    ∃ list, ReadFrom store f list g := by
  unfold ofField? at h
  split at h
  next a name ha hname =>
    obtain ⟨list, hlist, h⟩ := except_bind_eq_ok.1 h
    obtain ⟨g', hg, h⟩ := except_bind_eq_ok.1 h
    cases h
    unfold ofArguments at hg
    obtain ⟨_, haccepted, hg⟩ := except_bind_eq_ok.1 hg
    split at hg
    next => cases hg
    next default hdefault =>
      split at hg
      next => cases hg
      next kind hkind =>
        obtain ⟨key, hkey, hg⟩ := except_bind_eq_ok.1 hg
        cases hg
        exact ⟨list, ⟨a, ha, hlist⟩, haccepted, rfl, hname, hdefault, hkind, hkey, rfl⟩
  next => cases h

/-- **Each field that leaves is read**, in order. -/
theorem forall₂_readFrom {found : List (Option StoredField)}
    (h : fs.mapM (ofField? store) = .ok found) :
    List.Forall₂ (fun f g => ∃ list, ReadFrom store f list g) (fs.filter leaves)
      (found.filterMap id) := by
  induction fs generalizing found with
  | nil =>
    cases h
    exact .nil
  | cons f rest ih =>
    rw [List.mapM_cons] at h
    obtain ⟨stored, hstored, h⟩ := except_bind_eq_ok.1 h
    obtain ⟨others, hothers, h⟩ := except_bind_eq_ok.1 h
    cases h
    have hleaves := isSome_of_ofField? hstored
    cases stored with
    | none =>
      rw [List.filter_cons_of_neg (by simp [← hleaves]), List.filterMap_cons_none rfl]
      exact ih hothers
    | some g =>
      rw [List.filter_cons_of_pos hleaves.symm]
      exact .cons (exists_readFrom hstored) (ih hothers)

end StoredField

namespace StoredAccess

open StoredField

variable {c : Config} {args item out : Tokens} {s : StructItem} {runtime : Path} {store : Expr}
  {access : StoredAccess}

/-! ## Structs -/

/-- Whether accessors are those of a struct with these fields: the ones that stay are left in it,
and each of the others is read. -/
structure DividesInto (store : Expr) (s : StructItem) (fs : List Field) (trailing : Bool)
    (access : StoredAccess) : Prop where
  fields : s.fields = .named fs trailing
  divided : divide store fs trailing = .ok (access.remainder.fields, access.stored)
  remainder : access.remainder = { s with
    fields := .named (fs.filter (!·.isMarked))
      (trailing || (fs.map Field.isMarked).getLast?.getD false) }
  stored : List.Forall₂ (fun f g => ∃ list, ReadFrom store f list g) (fs.filter Field.isMarked)
    access.stored

/-- What is related one by one to a list with an element is related to this one somewhere. -/
theorem exists_mem_of_forall₂ {α β : Type} {R : α → β → Prop} {as : List α} {bs : List β} {a : α}
    (h : List.Forall₂ R as bs) (ha : a ∈ as) : ∃ b ∈ bs, R a b := by
  induction h with
  | nil => cases ha
  | @cons a' b _ _ hab _ ih =>
    rcases List.mem_cons.1 ha with rfl | ha
    · exact ⟨b, List.mem_cons_self, hab⟩
    · obtain ⟨b', hb', hab'⟩ := ih ha
      exact ⟨b', List.mem_cons_of_mem _ hb', hab'⟩

/-- **Each marked field is read.** -/
theorem DividesInto.exists_readFrom {fs : List Field} {trailing : Bool} {f : Field}
    (h : DividesInto store s fs trailing access) (hf : f ∈ fs) (hmarked : f.isMarked = true) :
    ∃ list, ∃ g ∈ access.stored, ReadFrom store f list g := by
  obtain ⟨g, hg, list, hread⟩ := exists_mem_of_forall₂ h.stored (List.mem_filter.2 ⟨hf, hmarked⟩)
  exact ⟨list, g, hg, hread⟩

/-- Among fields with names, those leave that are marked. -/
theorem leaves_eq_of_named {fs : List Field} (h : ∀ f ∈ fs, f.name.isSome = true) :
    fs.map leaves = fs.map Field.isMarked ∧ fs.filter leaves = fs.filter Field.isMarked ∧
      fs.filter (!leaves ·) = fs.filter (!·.isMarked) :=
  ⟨List.map_congr_left fun f hf => leaves_eq (h f hf),
    List.filter_congr fun f hf => leaves_eq (h f hf),
    List.filter_congr fun f hf => by rw [leaves_eq (h f hf)]⟩

/-- **A struct that gets accessors has named fields**, and it is divided into those that stay and
those that are read. -/
theorem of_eq_ok (h : of s runtime store = .ok access) (hnamed : s.fields.Named) :
    access.runtime = runtime ∧ ∃ fs trailing, DividesInto store s fs trailing access := by
  unfold of at h
  obtain ⟨⟨fields, stored⟩, hdivided, h⟩ := except_bind_eq_ok.1 h
  dsimp only at h
  split at h
  next => cases h
  next hsome =>
    cases h
    refine ⟨rfl, ?_⟩
    cases hfields : s.fields with
    | named fs trailing =>
      rw [hfields] at hdivided hnamed
      obtain ⟨found, hfound, -⟩ := except_bind_eq_ok.1 hdivided
      have hnames : ∀ f ∈ fs, f.name.isSome = true := hnamed rfl
      obtain ⟨hlast, hleave, hstay⟩ := leaves_eq_of_named hnames
      refine ⟨fs, trailing, hfields, hdivided, ?_, ?_⟩ <;>
        rw [divideFields, divide_eq_ok hfound, hlast, hstay] at hdivided <;>
        cases hdivided
      · rfl
      · exact hleave ▸ forall₂_readFrom hfound
    -- nothing is read of fields without names
    | positional fs trailing =>
      rw [hfields, divideFields] at hdivided
      split at hdivided
      · cases hdivided
      · cases hdivided
        exact absurd rfl hsome
    | unit =>
      rw [hfields] at hdivided
      cases hdivided
      exact absurd rfl hsome

/-! ## Expansions -/

/-- An expansion that yields something, taken apart. -/
structure Expansion (c : Config) (args item out : Tokens) where
  list : ArgumentList
  runtime : Path
  store : Expr
  subject : StructItem
  access : StoredAccess
  list_eq : ArgumentList.parse args = .ok list
  runtime_eq : c.runtimeFor list = .ok runtime
  store_eq : c.store runtime = .ok store
  parse_eq : Item.parse item = .ok (.struct subject)
  access_eq : of subject runtime store = .ok access
  out_eq : out = access.tokens

/-- **What yields something is a struct's expansion.** -/
theorem exists_expansion (h : (expand c args item).result = .ok out) :
    Nonempty (Expansion c args item out) := by
  rw [expand, (carriesOut_inContext c args item).fresh_eq] at h
  obtain ⟨list, hlist, h⟩ := Outcome.result_bind_eq_ok.1 h
  obtain ⟨-, -, h⟩ := Outcome.result_bind_eq_ok.1 h
  obtain ⟨runtime, hruntime, h⟩ := Outcome.result_bind_eq_ok.1 h
  obtain ⟨store, hstore, h⟩ := Outcome.result_bind_eq_ok.1 h
  obtain ⟨parsed, hparsed, h⟩ := Outcome.result_bind_eq_ok.1 h
  rw [Outcome.result_liftM_syntax] at hlist hparsed
  rw [Outcome.result_liftM_failure] at hruntime hstore
  cases parsed with
  | struct s =>
    obtain ⟨access, haccess, h⟩ := Outcome.result_bind_eq_ok.1 h
    obtain ⟨-, -, h⟩ := Outcome.result_bind_eq_ok.1 h
    cases h
    exact ⟨⟨list, runtime, store, s, access, hlist, hruntime,
      Config.reportAt_eq_ok_iff.1 hstore, hparsed, Outcome.result_liftM_failure.1 haccess, rfl⟩⟩
  | _ => simp at h

/-- The struct of an expansion is divided. -/
theorem Expansion.divides (x : Expansion c args item out) :
    x.access.runtime = x.runtime ∧
      ∃ fs trailing, DividesInto x.store x.subject fs trailing x.access :=
  of_eq_ok x.access_eq (named_of_parse x.parse_eq)

end StoredAccess

end DeclSynth
