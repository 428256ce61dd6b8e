import DeclSynth.Proofs.StoredFields.Agreement
import DeclSynth.Proofs.StoredFields.Reading

/-!
# Marks of stored fields

A field's first mark is read, and all its marks are taken off. So a struct's accessors do not
depend on a mark behind another one of its field, whatever stands in it (`discarded_iff`):
where a struct gets accessors, the marks that are read are the first ones, and no mark goes
unread exactly where no field has two (`expand_marks`).
-/

namespace DeclSynth

open StoredField (mark spec unmarked ofField? ofArguments leaves ReadFrom)

/-- The marks of a field. -/
def Field.marks (f : Field) : List Attribute := f.attributes.filter (·.isNamed mark)

/-- A mark of a named field of a struct, and all that stands around it. -/
structure StructItem.Mark (s : StructItem) where
  above : List Field
  field : Field
  below : List Field
  trailing : Bool
  before : List Attribute
  attr : Attribute
  behind : List Attribute
  fields_eq : s.fields = .named (above ++ field :: below) trailing
  attributes_eq : field.attributes = before ++ attr :: behind
  isMark : attr.isNamed mark = true

/-! ## Fields that are read alike -/

namespace StoredField

variable {store : Expr} {f g : Field}

/-- **A field is read by its first mark**, and by what is left without marks. -/
theorem ofField?_congr (hmark : findAttribute mark f.attributes = findAttribute mark g.attributes)
    (hrest : unmarked f = unmarked g) : ofField? store f = ofField? store g := by
  obtain ⟨as, vis, name, ty⟩ := f
  obtain ⟨bs, vis', name', ty'⟩ := g
  simp only [unmarked, Field.mk.injEq] at hrest hmark
  obtain ⟨hstripped, rfl, rfl, rfl⟩ := hrest
  simp only [ofField?, ofArguments, hmark, hstripped]

end StoredField

namespace StoredAccess

variable {store : Expr} {fs gs : List Field}

/-- **Fields that are read alike are divided alike**, if the same ones stay. -/
theorem divide_congr (hread : fs.mapM (ofField? store) = gs.mapM (ofField? store))
    (hleave : fs.map leaves = gs.map leaves)
    (hstay : fs.filter (!leaves ·) = gs.filter (!leaves ·)) (trailing : Bool) :
    divide store fs trailing = divide store gs trailing := by
  cases hfound : gs.mapM (ofField? store) with
  | ok found => rw [divide_eq_ok (hread.trans hfound), divide_eq_ok hfound, hleave, hstay]
  | error e =>
    unfold divide
    rw [hread, hfound]
    rfl

end StoredAccess

/-! ## Marks -/

namespace StructItem.Mark

variable {s : StructItem} {runtime : Path} {store : Expr} {access : StoredAccess}

/-- Whether a mark is the first one of its field. -/
def IsFirst (m : s.Mark) : Prop := ∀ b ∈ m.before, b.isNamed mark = false

/-- The field with another attribute in place of the mark. -/
def fieldWith (m : s.Mark) (a : Attribute) : Field :=
  { m.field with attributes := m.before ++ a :: m.behind }

/-- The struct with another attribute in place of the mark. -/
def replaced (m : s.Mark) (a : Attribute) : StructItem :=
  { s with fields := .named (m.above ++ m.fieldWith a :: m.below) m.trailing }

/-- Whether a mark is discarded unread: any other mark in its place would do as well. -/
def Discarded (m : s.Mark) (runtime : Path) (store : Expr) : Prop :=
  ∀ a : Attribute, a.isNamed mark = true →
    StoredAccess.of (m.replaced a) runtime store = StoredAccess.of s runtime store

variable {m : s.Mark} {a : Attribute}

theorem fieldWith_attr (m : s.Mark) : m.fieldWith m.attr = m.field := by
  rw [fieldWith, ← m.attributes_eq]

theorem mem_fields (m : s.Mark) {f : Field} :
    f ∈ s.fields.toList ↔ f ∈ m.above ∨ f = m.field ∨ f ∈ m.below := by
  simp [m.fields_eq, Fields.toList]

/-- All fields around a mark have names. -/
theorem forall_named (m : s.Mark) (hnamed : s.fields.Named) :
    ∀ f ∈ s.fields.toList, f.name.isSome = true :=
  hnamed (by rw [m.fields_eq]; rfl)

theorem field_named (m : s.Mark) (hnamed : s.fields.Named) : m.field.name.isSome = true :=
  m.forall_named hnamed m.field (m.mem_fields.2 (.inr (.inl rfl)))

/-- The fields keep their names. -/
theorem named_replaced (hnamed : s.fields.Named) : (m.replaced a).fields.Named := by
  intro _ f hf
  rcases List.mem_append.1 hf with hf | hf
  · exact m.forall_named hnamed f (m.mem_fields.2 (.inl hf))
  · rcases List.mem_cons.1 hf with rfl | hf
    · exact m.field_named hnamed
    · exact m.forall_named hnamed f (m.mem_fields.2 (.inr (.inr hf)))

theorem isMarked_fieldWith (ha : a.isNamed mark = true) : (m.fieldWith a).isMarked = true := by
  simp [Field.isMarked, fieldWith, ha]

/-- The first mark of a field is found. -/
theorem findAttribute_of_isFirst (hm : m.IsFirst) (ha : a.isNamed mark = true) :
    findAttribute mark (m.fieldWith a).attributes = some a := by
  have hnone : m.before.find? (·.isNamed mark) = none :=
    List.find?_eq_none.2 fun b hb => by simp [hm b hb]
  rw [findAttribute, fieldWith, List.find?_append, hnone, Option.none_or]
  exact List.find?_cons_of_pos ha

/-- Behind another mark, a mark is not found. -/
theorem findAttribute_of_not_isFirst (hm : ¬ m.IsFirst) (a : Attribute) :
    findAttribute mark (m.fieldWith a).attributes = findAttribute mark m.before := by
  have hsome : (m.before.find? (·.isNamed mark)).isSome = true :=
    List.find?_isSome.2 (by simpa [IsFirst] using hm)
  rw [findAttribute, fieldWith, List.find?_append, Option.or_of_isSome hsome, findAttribute]

/-- No mark is left, whichever it was. -/
theorem unmarked_fieldWith (ha : a.isNamed mark = true) :
    unmarked (m.fieldWith a) = { m.field with
      attributes := stripAttribute mark (m.before ++ m.behind) } := by
  simp [unmarked, fieldWith, stripAttribute, ha]

/-- **A mark behind another one is discarded.** -/
theorem discarded_of_not_isFirst (hnamed : s.fields.Named) (hm : ¬ m.IsFirst) :
    m.Discarded runtime store := by
  intro a ha
  have hname := m.field_named hnamed
  have hread : ofField? store (m.fieldWith a) = ofField? store m.field := by
    rw [← m.fieldWith_attr]
    refine StoredField.ofField?_congr ?_ ?_
    · rw [findAttribute_of_not_isFirst hm, findAttribute_of_not_isFirst hm]
    · rw [unmarked_fieldWith ha, unmarked_fieldWith m.isMark]
  have hleaves (b : Attribute) (hb : b.isNamed mark = true) : leaves (m.fieldWith b) = true := by
    rw [StoredField.leaves_eq (f := m.fieldWith b) hname, isMarked_fieldWith hb]
  have hleave := hleaves a ha
  have hleft := hleaves m.attr m.isMark
  rw [fieldWith_attr] at hleft
  have hdivide : StoredAccess.divide store (m.above ++ m.fieldWith a :: m.below) m.trailing =
      StoredAccess.divide store (m.above ++ m.field :: m.below) m.trailing := by
    refine StoredAccess.divide_congr ?_ ?_ ?_ m.trailing
    · rw [List.mapM_append, List.mapM_append, List.mapM_cons, List.mapM_cons, hread]
    · simp [hleave, hleft]
    · simp [hleave, hleft]
  unfold StoredAccess.of
  rw [m.fields_eq]
  dsimp only [replaced, StoredAccess.divideFields]
  rw [hdivide]

/-- **The first mark of a field is not discarded**: its arguments may not be missing. -/
theorem not_discarded_of_isFirst (hnamed : s.fields.Named)
    (h : StoredAccess.of s runtime store = .ok access) (hm : m.IsFirst) :
    ¬ m.Discarded runtime store := by
  intro hdiscarded
  have hbare : ({ m.attr with form := .path } : Attribute).isNamed mark = true := m.isMark
  have hof := (hdiscarded _ hbare).trans h
  obtain ⟨-, fs, trailing, hdivides⟩ := StoredAccess.of_eq_ok hof (named_replaced hnamed)
  have hfields := hdivides.fields
  rw [replaced, Fields.named.injEq] at hfields
  obtain ⟨rfl, rfl⟩ := hfields
  obtain ⟨list, g, -, hread⟩ := hdivides.exists_readFrom
    (List.mem_append_right _ List.mem_cons_self) (isMarked_fieldWith hbare)
  obtain ⟨a, ha, hlist⟩ := hread.given
  rw [findAttribute_of_isFirst hm hbare] at ha
  cases ha
  cases hlist
  exact nomatch hread.default

/-- **The marks that are discarded** are those behind another one of their field. -/
theorem discarded_iff (hnamed : s.fields.Named)
    (h : StoredAccess.of s runtime store = .ok access) :
    m.Discarded runtime store ↔ ¬ m.IsFirst :=
  ⟨fun hdiscarded hm => not_discarded_of_isFirst hnamed h hm hdiscarded,
    discarded_of_not_isFirst hnamed⟩

/-- **All marks are the first ones** exactly where no field has two. -/
theorem forall_isFirst_iff {fs : List Field} {trailing : Bool} (h : s.fields = .named fs trailing) :
    (∀ m : s.Mark, m.IsFirst) ↔ ∀ f ∈ fs, f.marks.length ≤ 1 := by
  constructor
  · intro hfirst f hf
    match hmarks : f.marks with
    | [] => exact Nat.zero_le 1
    | [_] => exact Nat.le_refl 1
    | b :: a :: rest =>
      -- the second mark has the first one before it
      obtain ⟨before, behind, hattributes, -, hb, hbehind⟩ := List.filter_eq_cons_iff.1 hmarks
      obtain ⟨between, end_, hbehind, -, ha, -⟩ := List.filter_eq_cons_iff.1 hbehind
      obtain ⟨above, below, hfs⟩ := List.append_of_mem hf
      let m : s.Mark := ⟨above, f, below, trailing, before ++ b :: between, a, end_,
        by rw [h, hfs], by simp [hattributes, hbehind], ha⟩
      have := hfirst m b (by simp [m])
      simp [hb] at this
  · intro hone m b hb
    have hf : m.field ∈ fs := by
      have hmem := m.mem_fields.2 (.inr (.inl rfl))
      rwa [h] at hmem
    have hlength := hone m.field hf
    have hmarks : m.field.marks =
        m.before.filter (·.isNamed mark) ++ m.attr :: m.behind.filter (·.isNamed mark) := by
      rw [Field.marks, m.attributes_eq, List.filter_append, List.filter_cons, if_pos m.isMark]
    rw [hmarks, List.length_append, List.length_cons] at hlength
    have hempty : m.before.filter (·.isNamed mark) = [] := List.eq_nil_of_length_eq_zero (by omega)
    simpa using List.filter_eq_nil_iff.1 hempty b hb

end StructItem.Mark

namespace StoredAccess

variable {c : Config} {args item out : Tokens}

/-- **Which marks are read.** Where a struct gets accessors, those of each marked field are read
from the arguments of its first mark, all of them accepted. The other marks are discarded unread:
no mark is, exactly where no field has two. -/
theorem expand_marks (h : (expand c args item).result = .ok out) :
    ∃ (x : Expansion c args item out) (fs : List Field) (trailing : Bool),
      x.subject.fields = .named fs trailing ∧
      List.Forall₂ (fun f g => ∃ list, ReadFrom x.store f list g) (fs.filter Field.isMarked)
        x.access.stored ∧
      (∀ m : x.subject.Mark, m.Discarded x.runtime x.store ↔ ¬ m.IsFirst) ∧
      ((∀ m : x.subject.Mark, ¬ m.Discarded x.runtime x.store) ↔
        ∀ f ∈ fs, f.marks.length ≤ 1) := by
  obtain ⟨x⟩ := exists_expansion h
  obtain ⟨-, fs, trailing, hdivides⟩ := x.divides
  have hdiscarded (m : x.subject.Mark) : m.Discarded x.runtime x.store ↔ ¬ m.IsFirst :=
    StructItem.Mark.discarded_iff (named_of_parse x.parse_eq) x.access_eq
  refine ⟨x, fs, trailing, hdivides.fields, hdivides.stored, hdiscarded, ?_⟩
  rw [← StructItem.Mark.forall_isFirst_iff hdivides.fields]
  simp only [hdiscarded, not_not]

/-- `#[stored(label = value)]` -/
def markSample (label value : String) : Tokens :=
  op "#" ++ bracket (kw "stored" ++ paren (kw label ++ op "=" ++ lit value))

/-- `struct Settings { #[stored(default_value = 1)] volume: u32, title: String }` -/
def singleSample : Tokens :=
  kw "struct" ++ kw "Settings" ++ brace (
    markSample "default_value" "1" ++ kw "volume" ++ op ":" ++ kw "u32" ++ op "," ++
    kw "title" ++ op ":" ++ kw "String")

/-- The mark of a field that has no other one is read. -/
theorem expand_marks_single : ∃ (out : Tokens) (x : Expansion .default [] singleSample out),
    (expand .default [] singleSample).result = .ok out ∧ x.access.stored.length = 1 ∧
      ∀ m : x.subject.Mark, ¬ m.Discarded x.runtime x.store := by
  obtain ⟨out, hout⟩ := exists_eq_ok_of_isOk
    (x := (expand .default [] singleSample).result) (by decide +kernel)
  obtain ⟨x, fs, trailing, hfields, hread, -, hone⟩ := expand_marks hout
  have hsample : (structOf? singleSample).all (fun s =>
      (s.fields.toList.filter Field.isMarked).length == 1 &&
      s.fields.toList.all fun f => decide (f.marks.length ≤ 1)) = true := by
    decide +kernel
  have hsubject : structOf? singleSample = some x.subject := by rw [structOf?, x.parse_eq]
  rw [hsubject, Option.all_some, hfields] at hsample
  simp only [Fields.toList, Bool.and_eq_true, beq_iff_eq, List.all_eq_true,
    decide_eq_true_eq] at hsample
  exact ⟨out, x, hout, hread.length_eq ▸ hsample.1, hone.2 hsample.2⟩

/-- `struct S { #[stored(default_value = 1)] #[stored(bogus = 2)] a: u32 }` -/
def doubleSample : Tokens :=
  kw "struct" ++ kw "S" ++ brace (
    markSample "default_value" "1" ++ markSample "bogus" "2" ++ kw "a" ++ op ":" ++ kw "u32")

/-- Whether an attribute is a mark with arguments that are refused. -/
def isRefused (a : Attribute) : Bool :=
  a.isNamed mark && !(ArgumentList.ofAttribute a >>= (·.validate spec)).isOk

/-- A struct gets accessors although a mark of it, behind another one, has arguments that are
refused. -/
theorem exists_unread : ∃ (out : Tokens) (s : StructItem),
    (expand .default [] doubleSample).result = .ok out ∧
      Item.parse doubleSample = .ok (.struct s) ∧
      ∃ f ∈ s.fields.toList, ∃ a ∈ f.attributes, isRefused a = true := by
  obtain ⟨out, hout⟩ := exists_eq_ok_of_isOk
    (x := (expand .default [] doubleSample).result) (by decide +kernel)
  have hsample : (structOf? doubleSample).any (fun s =>
      s.fields.toList.any fun f => f.attributes.any isRefused) = true := by
    decide +kernel
  simp only [Option.any_eq_true, List.any_eq_true] at hsample
  obtain ⟨s, hs, hrefused⟩ := hsample
  exact ⟨out, s, hout, parse_eq_of_structOf? hs, hrefused⟩

end StoredAccess

end DeclSynth
