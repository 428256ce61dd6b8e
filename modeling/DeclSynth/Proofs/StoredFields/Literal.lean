import DeclSynth.Proofs.Lookup
import DeclSynth.Proofs.StoredFields.Functions
import DeclSynth.Proofs.Syntax.Fields
import Mathlib.Data.List.Find
import Mathlib.Data.List.Nodup

/-!
# Values that bodies build

The body of a function that is generated for a struct is one value of it. `Literal.read`
reads such a body back: which fields it sets, and to what. `Literal.evaluate` makes a
`Record` of it, given what the parameters are bound to and what `self` is, unless a
parameter or a field is there twice. The records of a struct hold a value in each stored
field and the marker in every other (`Fields.record`).
-/

namespace DeclSynth

open Sealed.Code (isComma Open)

/-! ## Records -/

/-- What a field is called: by its name, or by its place. -/
inductive FieldKey where
  | name (text : String)
  | place (n : Nat)
deriving DecidableEq, Repr

/-- What a field holds: a value, or the one value of a marker. -/
inductive Cell (α : Type) where
  | held (a : α)
  | marker
deriving DecidableEq, Repr

/-- What holds what another cell does, but for a change of the value. -/
def Cell.map {α β : Type} (change : α → β) : Cell α → Cell β
  | held a => .held (change a)
  | marker => .marker

/-- What the fields of a value hold; nothing where there is no such field. -/
abbrev Record (α : Type) : Type := FieldKey → Option (Cell α)

/-- The value without fields. -/
def Record.empty {α : Type} : Record α := fun _ => none

/-! ## Literals -/

/-- What a field is set to. -/
inductive Source where
  /-- A parameter. -/
  | variable (name : String)
  | marker
  /-- What an optional parameter holds, or else a clone of what a field of `self` does. -/
  | orClone (name field : String)
deriving DecidableEq, Repr

/-- A value of a struct as it is written; `rest` tells whether `self` is taken for the fields that
are not named. -/
inductive Literal where
  | unit
  | positional (sources : List Source)
  | named (inits : List (String × Source)) (rest : Bool)
deriving DecidableEq, Repr

/-- The source that tokens spell. -/
def Source.read : Tokens → Option Source
  | [.word name _] => some (.variable name)
  | [.punct ':' _ _, .punct ':' _ _, .word "core" _, .punct ':' _ _, .punct ':' _ _,
      .word "marker" _, .punct ':' _ _, .punct ':' _ _, .word "PhantomData" _] => some .marker
  | [.word name _, .punct '.' _ _, .word "unwrap_or_else" _, .group .parenthesis
      [.punct '|' _ _, .punct '|' _ _, .punct ':' _ _, .punct ':' _ _, .word "core" _,
        .punct ':' _ _, .punct ':' _ _, .word "clone" _, .punct ':' _ _, .punct ':' _ _,
        .word "Clone" _, .punct ':' _ _, .punct ':' _ _, .word "clone" _, .group .parenthesis
          [.punct '&' _ _, .word "self" _, .punct '.' _ _, .word field _] _] _] =>
    some (.orClone name field)
  | _ => none

/-- The parameter that a source uses. -/
def Source.parameter? : Source → Option String
  | .variable name | .orClone name _ => some name
  | .marker => none

/-- The field that tokens set, and its source; a name alone stands for both. -/
def readInit : Tokens → Option (String × Source)
  | [.word name _] => some (name, .variable name)
  | .word name _ :: .punct ':' _ _ :: source => (Source.read source).map (name, ·)
  | _ => none

/-- The fields that pieces set, and whether `self` is taken for the others. -/
def readInits : List Tokens → Option (List (String × Source) × Bool)
  | [] => some ([], false)
  | [[.punct '.' _ _, .punct '.' _ _, .word "self" _]] => some ([], true)
  | piece :: more => (readInit piece).bind fun i => (readInits more).map fun is => (i :: is.1, is.2)

/-- The pieces of tokens between commas, given the tokens of the piece so far; there is none behind
a last comma. -/
def cut (head : Tokens) : Tokens → List Tokens
  | [] => if head.isEmpty then [] else [head]
  | t :: more => if isComma t then head :: cut [] more else cut (head ++ [t]) more

namespace Literal

/-- The value that a body is. -/
def read : Tokens → Option Literal
  | [.word "Self" _] => some .unit
  | [.word "Self" _, .group .parenthesis body _] =>
    ((cut [] body).mapM Source.read).map .positional
  | [.word "Self" _, .group .brace body _] =>
    (readInits (cut [] body)).map fun is => .named is.1 is.2
  | _ => none

/-- The fields that are set, in the order in which they are written. -/
def keys : Literal → List FieldKey
  | unit => []
  | positional sources => (List.range sources.length).map .place
  | named inits _ => inits.map fun i => .name i.1

/-- Where the fields are set to, in the order in which they are written. -/
def sources : Literal → List Source
  | unit => []
  | positional sources => sources
  | named inits _ => inits.map (·.2)

/-- The parameters that are used, in the order in which they are written. -/
def parameters (l : Literal) : List String := l.sources.filterMap Source.parameter?

/-- Whether no field is taken from `self`. -/
def isWhole : Literal → Bool
  | named _ rest => !rest
  | _ => true

end Literal

/-! ## Evaluation -/

/-- What a parameter is bound to: a value, or perhaps one. -/
inductive Binding (α : Type) where
  | given (a : α)
  | optional (a : Option α)

/-- What a body is evaluated in: the parameters, the value that a method is called on, and how the
values of fields are cloned. -/
structure Scope (α : Type) where
  params : List (String × Binding α)
  self? : Option (Record α)
  clone : α → α

/-- What a source yields; nothing where it is of another type than what it is bound to. -/
def Source.cell? {α : Type} (sc : Scope α) : Source → Option (Cell α)
  | .variable name =>
    match sc.params.lookup name with
    | some (.given a) => some (.held a)
    | _ => none
  | .marker => some .marker
  | .orClone name field =>
    match sc.params.lookup name with
    | some (.optional (some a)) => some (.held a)
    | some (.optional none) => (sc.self?.bind (· (.name field))).map (Cell.map sc.clone)
    | _ => none

/-- The record of a value that is written with places. -/
def Record.ofCells {α : Type} (cells : List (Cell α)) : Record α
  | .place n => cells[n]?
  | .name _ => none

/-- A record with some fields set. -/
def Record.setAll {α : Type} (base : Record α) (cells : List (String × Cell α)) : Record α
  | .place n => base (.place n)
  | .name text => (cells.lookup text).or (base (.name text))

/-- The record that a value is; nothing where a parameter is there twice, or a field is set
twice. -/
def Literal.evaluate {α : Type} (sc : Scope α) (l : Literal) : Option (Record α) :=
  if (sc.params.map (·.1)).Nodup ∧ l.keys.Nodup then
    match l with
    | .unit => some .empty
    | .positional sources =>
      (sources.mapM fun source : Source => source.cell? sc).map Record.ofCells
    | .named inits rest =>
      (inits.mapM fun i : String × Source => (i.2.cell? sc).map (i.1, ·)).bind fun cells =>
        (if rest then sc.self? else some .empty).map (·.setAll cells)
  else none

/-- What a function yields that is one value. -/
def FnForm.call {α : Type} (fn : FnForm) (sc : Scope α) : Option (Record α) :=
  (Literal.read fn.body).bind (·.evaluate sc)

/-! ## The records of a struct -/

/-- What a field is called. -/
def BoundField.key (f : BoundField) : FieldKey :=
  match f.member with
  | .named name => .name name.text
  | .index n => .place n

/-- What a field holds: its value if it is stored, and else the marker. -/
def BoundField.cell {α : Type} (values : FieldKey → α) (f : BoundField) : Cell α :=
  if f.field.isStored then .held (values f.key) else .marker

namespace Fields

/-- What the fields are called, in declaration order. -/
def keys (fs : Fields) : List FieldKey := fs.bound.map BoundField.key

/-- **The record of some values**: each stored field holds its own, and every other the marker. -/
def record {α : Type} (fs : Fields) (values : FieldKey → α) : Record α := fun key =>
  (fs.bound.find? (·.key == key)).map (BoundField.cell values)

end Fields

/-! ## Reading bodies -/

section Reading

variable {β γ δ : Type} {ts : Tokens} {pieces : List Tokens}

/-- Tokens without commas belong to the piece that is read. -/
theorem cut_append (hopen : Open isComma ts) (head rest : Tokens) :
    cut head (ts ++ rest) = cut (head ++ ts) rest := by
  induction ts generalizing head with
  | nil => rw [List.nil_append, List.append_nil]
  | cons t ts ih =>
    obtain ⟨ht, hts⟩ := Sealed.Code.open_cons.1 hopen
    have hnot : ¬ isComma t = true := by rw [ht]; decide
    rw [List.cons_append, cut, if_neg hnot, ih hts, List.append_assoc, List.singleton_append]

/-- A piece ends at a comma. -/
theorem cut_comma (hopen : Open isComma ts) (rest : Tokens) :
    cut [] (ts ++ (op "," ++ rest)) = ts :: cut [] rest := by
  rw [cut_append hopen, List.nil_append]
  rfl

/-- Pieces with a comma between them are cut apart. -/
theorem cut_commas (hopen : ∀ p ∈ pieces, Open isComma p ∧ p ≠ []) :
    cut [] (commas pieces) = pieces := by
  induction pieces with
  | nil => rfl
  | cons p rest ih =>
    obtain ⟨hp, hsome⟩ := hopen p List.mem_cons_self
    cases rest with
    | nil =>
      have hcut := cut_append hp [] []
      rw [List.append_nil, List.nil_append] at hcut
      have hne : ¬ p.isEmpty = true := by simpa using hsome
      change cut [] p = [p]
      rw [hcut, cut, if_neg hne]
    | cons q more =>
      have hcommas : commas (p :: q :: more) = p ++ (op "," ++ commas (q :: more)) :=
        List.append_assoc _ _ _
      rw [hcommas, cut_comma hp, ih fun p' hp' => hopen p' (List.mem_cons_of_mem _ hp')]

/-- So are pieces with a comma behind each, whatever stands behind them. -/
theorem cut_eachWithComma (hopen : ∀ p ∈ pieces, Open isComma p) (rest : Tokens) :
    cut [] (eachWithComma pieces ++ rest) = pieces ++ cut [] rest := by
  induction pieces with
  | nil => rfl
  | cons p more ih =>
    have heach : eachWithComma (p :: more) ++ rest =
        p ++ (op "," ++ (eachWithComma more ++ rest)) := by
      cases more <;> simp [eachWithComma, separated]
    rw [heach, cut_comma (hopen p List.mem_cons_self),
      ih fun p' hp' => hopen p' (List.mem_cons_of_mem _ hp'), List.cons_append]

/-- What is read one by one. -/
theorem mapM_map_eq_some (read : γ → Option δ) {l : List β} {f : β → γ} {g : β → δ}
    (h : ∀ b ∈ l, read (f b) = some (g b)) : (l.map f).mapM read = some (l.map g) := by
  induction l with
  | nil => rfl
  | cons b rest ih =>
    rw [List.map_cons, List.mapM_cons, h b List.mem_cons_self,
      ih fun b' hb' => h b' (List.mem_cons_of_mem _ hb')]
    rfl

/-- A piece that sets a field is read as one. -/
theorem readInits_cons {piece : Tokens} {i : String × Source} (h : readInit piece = some i)
    (more : List Tokens) :
    readInits (piece :: more) = (readInits more).map fun is => (i :: is.1, is.2) := by
  rw [readInits, h]
  · cases readInits more <;> rfl
  · rintro _ _ _ _ _ rfl -
    cases h

/-- Pieces that set fields are read one by one. -/
theorem readInits_map {l : List β} {f : β → Tokens} {g : β → String × Source}
    (h : ∀ b ∈ l, readInit (f b) = some (g b)) (more : List Tokens) :
    readInits (l.map f ++ more) = (readInits more).map fun is => (l.map g ++ is.1, is.2) := by
  induction l with
  | nil => simp
  | cons b rest ih =>
    rw [List.map_cons, List.cons_append, readInits_cons (h b List.mem_cons_self),
      ih fun b' hb' => h b' (List.mem_cons_of_mem _ hb'), Option.map_map]
    rfl

/-- A value with names is read if its pieces are. -/
theorem Literal.read_named {l : List β} {f : β → Tokens} {g : β → String × Source}
    (hcut : cut [] ts = l.map f) (hread : ∀ b ∈ l, readInit (f b) = some (g b)) :
    Literal.read (kw "Self" ++ brace ts) = some (.named (l.map g) false) := by
  have hinits := readInits_map hread []
  rw [List.append_nil] at hinits
  change (readInits (cut [] ts)).map (fun is => Literal.named is.1 is.2) = _
  rw [hcut, hinits, readInits, Option.map_some, Option.map_some, List.append_nil]

/-- A value with places is read if its pieces are. -/
theorem Literal.read_positional {l : List β} {f : β → Tokens} {g : β → Source}
    (hcut : cut [] ts = l.map f) (hread : ∀ b ∈ l, Source.read (f b) = some (g b)) :
    Literal.read (kw "Self" ++ paren ts) = some (.positional (l.map g)) := by
  change ((cut [] ts).mapM Source.read).map Literal.positional = _
  rw [hcut, mapM_map_eq_some _ hread, Option.map_some]

end Reading

/-! ## Evaluating bodies -/

/-- Places are different keys. -/
theorem FieldKey.nodup_places (n : Nat) : ((List.range n).map place).Nodup :=
  List.Nodup.map_on (fun _ _ _ _ hsame => place.inj hsame) List.nodup_range

section Evaluate

variable {α β : Type} {sc : Scope α} {l : List β}

/-- A value with places is evaluated one place after the other. -/
theorem Literal.evaluate_positional {source : β → Source} {cell : β → Cell α}
    (hparams : (sc.params.map (·.1)).Nodup)
    (hcells : ∀ b ∈ l, (source b).cell? sc = some (cell b)) :
    (Literal.positional (l.map source)).evaluate sc = some (Record.ofCells (l.map cell)) := by
  have hkeys : (Literal.positional (l.map source)).keys.Nodup := FieldKey.nodup_places _
  rw [Literal.evaluate, if_pos ⟨hparams, hkeys⟩, mapM_map_eq_some _ hcells]
  rfl

/-- A value with names is evaluated one field after the other, and `self` is taken for the rest. -/
theorem Literal.evaluate_named {text : β → String} {source : β → Source} {cell : β → Cell α}
    {rest : Bool} {base : Record α} (hparams : (sc.params.map (·.1)).Nodup)
    (htexts : (l.map text).Nodup) (hcells : ∀ b ∈ l, (source b).cell? sc = some (cell b))
    (hbase : (if rest then sc.self? else some .empty) = some base) :
    (Literal.named (l.map fun b => (text b, source b)) rest).evaluate sc =
      some (base.setAll (l.map fun b => (text b, cell b))) := by
  have hkeys : (Literal.named (l.map fun b => (text b, source b)) rest).keys.Nodup := by
    rw [Literal.keys, List.map_map]
    refine List.Nodup.map_on (fun a ha b hb hsame => ?_) (List.Nodup.of_map text htexts)
    exact List.inj_on_of_nodup_map htexts ha hb (FieldKey.name.inj hsame)
  have hsources : ∀ b ∈ l, ((source b).cell? sc).map (text b, ·) = some (text b, cell b) := by
    intro b hb
    rw [hcells b hb, Option.map_some]
  rw [Literal.evaluate, if_pos ⟨hparams, hkeys⟩,
    mapM_map_eq_some (fun i : String × Source => (i.2.cell? sc).map (i.1, ·)) hsources,
    hbase]
  rfl

end Evaluate

/-! ## Fields and their keys -/

/-- The parameter that a field is bound to. -/
def FieldKey.parameter : FieldKey → String
  | name text => text
  | place n => (positionalBinding n).text

/-- Positional fields are bound to different parameters. -/
theorem positionalBinding_inj {m n : Nat}
    (h : (positionalBinding m).text = (positionalBinding n).text) : m = n := by
  have hlist := String.ofList_inj.1 h
  have hdigits := List.append_cancel_left hlist
  rw [← Nat.ofDigitChars_toDigits (b := 10) (n := m) (by decide) (by decide), hdigits,
    Nat.ofDigitChars_toDigits (by decide) (by decide)]

namespace Fields

variable {α : Type} {fs : Fields} {f : BoundField}

theorem mem_stored : f ∈ fs.stored ↔ f ∈ fs.bound ∧ f.field.isStored = true := List.mem_filter

theorem mem_typeLevel : f ∈ fs.typeLevel ↔ f ∈ fs.bound ∧ ¬ f.field.isStored = true := by
  simp [typeLevel]

/-- Together, the two lists hold all fields. -/
theorem stored_append_typeLevel_perm (fs : Fields) : (fs.stored ++ fs.typeLevel).Perm fs.bound :=
  List.filter_append_perm (fun f : BoundField => f.field.isStored) fs.bound

/-- A field that is bound is some field at a place. -/
theorem exists_of_mem_bound (hf : f ∈ fs.bound) :
    ∃ g ∈ fs.toList, ∃ i, f = .at i g := by
  obtain ⟨⟨g, i⟩, hg, rfl⟩ := List.mem_map.1 hf
  exact ⟨g, List.fst_mem_of_mem_zipIdx hg, i, rfl⟩

/-- A field is bound to the parameter of its key. -/
theorem binding_text (hf : f ∈ fs.bound) : f.binding.text = f.key.parameter := by
  obtain ⟨g, -, i, rfl⟩ := exists_of_mem_bound hf
  unfold BoundField.at BoundField.key
  split <;> rfl

/-- Fields that are laid out by name are addressed by the names they are bound to. -/
theorem member_of_named (hnamed : fs.Named) (hshape : fs.shape = .named) (hf : f ∈ fs.bound) :
    f.member = .named f.binding := by
  obtain ⟨g, hg, i, rfl⟩ := exists_of_mem_bound hf
  obtain ⟨name, hname⟩ := Option.isSome_iff_exists.1 (hnamed hshape g hg)
  rw [BoundField.at_of_named hname]

theorem name_of_named (hnamed : fs.Named) (hshape : fs.shape = .named) (hf : f ∈ fs.bound) :
    f.field.name = some f.binding := by
  obtain ⟨g, hg, i, rfl⟩ := exists_of_mem_bound hf
  obtain ⟨name, hname⟩ := Option.isSome_iff_exists.1 (hnamed hshape g hg)
  rw [BoundField.at_of_named hname, hname]

theorem key_of_named (hnamed : fs.Named) (hshape : fs.shape = .named) (hf : f ∈ fs.bound) :
    f.key = .name f.binding.text := by
  rw [BoundField.key, member_of_named hnamed hshape hf]

/-- Fields that are laid out by place are called by their places. -/
theorem keys_of_unnamed (hunnamed : fs.Unnamed) (hshape : fs.shape = .unnamed) :
    fs.keys = (List.range fs.bound.length).map .place := by
  have hplace : ∀ x ∈ fs.toList.zipIdx, (BoundField.at x.2 x.1).key = .place x.2 := by
    intro x hx
    rw [BoundField.at, hunnamed hshape x.1 (List.fst_mem_of_mem_zipIdx hx)]
    rfl
  rw [keys, bound, List.map_map, List.length_map, List.length_zipIdx, List.range_eq_range',
    ← List.zipIdx_map_snd 0 fs.toList, List.map_map]
  exact List.map_congr_left hplace

theorem bound_of_unit (hshape : fs.shape = .unit) : fs.bound = [] := by
  cases fs with
  | unit => rfl
  | named | positional => cases hshape

/-- Fields that are laid out by place have different keys. -/
theorem nodup_keys_of_shape (hunnamed : fs.Unnamed) (hshape : fs.shape ≠ .named) :
    fs.keys.Nodup := by
  cases hlayout : fs.shape with
  | named => exact absurd hlayout hshape
  | unnamed =>
    rw [keys_of_unnamed hunnamed hlayout]
    exact FieldKey.nodup_places _
  | unit =>
    rw [keys, bound_of_unit hlayout]
    exact List.nodup_nil

/-- Fields with different keys are bound to different parameters. -/
theorem nodup_parameters (hfs : fs.LaidOut) (hdistinct : fs.keys.Nodup) :
    (fs.bound.map (·.binding.text)).Nodup := by
  have hparameters : fs.bound.map (·.binding.text) = fs.keys.map FieldKey.parameter := by
    rw [keys, List.map_map]
    exact List.map_congr_left fun f hf => binding_text hf
  rw [hparameters]
  refine List.Nodup.map_on (fun a ha b hb hsame => ?_) hdistinct
  cases hlayout : fs.shape with
  | named =>
    obtain ⟨f, hf, rfl⟩ := List.mem_map.1 ha
    obtain ⟨g, hg, rfl⟩ := List.mem_map.1 hb
    rw [key_of_named hfs.named hlayout hf, key_of_named hfs.named hlayout hg] at hsame ⊢
    exact congrArg FieldKey.name hsame
  | unnamed =>
    rw [keys_of_unnamed hfs.unnamed hlayout, List.mem_map] at ha hb
    obtain ⟨m, -, rfl⟩ := ha
    obtain ⟨n, -, rfl⟩ := hb
    exact congrArg FieldKey.place (positionalBinding_inj hsame)
  | unit =>
    rw [keys, bound_of_unit hlayout] at ha
    cases ha

theorem nodup_storedParameters (hfs : fs.LaidOut) (hdistinct : fs.keys.Nodup) :
    (fs.stored.map (·.binding.text)).Nodup :=
  (nodup_parameters hfs hdistinct).sublist (List.filter_sublist.map _)

/-! ## Records of fields -/

variable {values : FieldKey → α}

/-- What the record holds in a field. -/
theorem record_key (hdistinct : fs.keys.Nodup) (hf : f ∈ fs.bound) :
    fs.record values f.key = some (f.cell values) := by
  rw [record, find?_key hdistinct hf, Option.map_some]

/-- The record of named fields is what sets each of them, in any order. -/
theorem setAll_eq_record {l : List BoundField} (hdistinct : fs.keys.Nodup)
    (hnames : ∀ f ∈ fs.bound, f.key = .name f.binding.text) (hperm : l.Perm fs.bound) :
    Record.empty.setAll (l.map fun f => (f.binding.text, f.cell values)) =
      fs.record values := by
  funext key
  rw [Fields.record, ← find?_perm hdistinct hperm]
  have hmem : ∀ f ∈ l, f.key = .name f.binding.text := fun f hf => hnames f (hperm.mem_iff.1 hf)
  cases key with
  | name text =>
    rw [Record.setAll, lookup_map, Record.empty, Option.or_none]
    congr 1
    refine List.find?_congr fun f hf => ?_
    rw [hmem f hf, Bool.eq_iff_iff, beq_iff_eq, beq_iff_eq, FieldKey.name.injEq]
  | place n =>
    have hnone : l.find? (·.key == .place n) = none := by
      refine List.find?_eq_none.2 fun f hf => ?_
      rw [hmem f hf]
      simp
    rw [hnone]
    rfl

/-- The record of positional fields is what sets them place by place. -/
theorem ofCells_eq_record (hkeys : fs.keys = (List.range fs.bound.length).map .place) :
    Record.ofCells (fs.bound.map (BoundField.cell values)) = fs.record values := by
  have hdistinct : fs.keys.Nodup := by
    rw [hkeys]
    exact FieldKey.nodup_places _
  have hmem : ∀ f ∈ fs.bound, ∃ n < fs.bound.length, f.key = .place n := by
    intro f hf
    have hkey : f.key ∈ fs.keys := List.mem_map_of_mem hf
    rw [hkeys, List.mem_map] at hkey
    obtain ⟨n, hn, hplace⟩ := hkey
    exact ⟨n, List.mem_range.1 hn, hplace.symm⟩
  funext key
  rw [Fields.record]
  cases key with
  | name text =>
    have hnone : fs.bound.find? (·.key == .name text) = none := by
      refine List.find?_eq_none.2 fun f hf => ?_
      obtain ⟨n, -, hplace⟩ := hmem f hf
      rw [hplace]
      simp
    rw [hnone]
    rfl
  | place n =>
    rw [Record.ofCells, List.getElem?_map]
    congr 1
    by_cases hn : n < fs.bound.length
    · have hkey : (fs.bound[n]).key = .place n := by
        have hat := congrArg (·[n]?) hkeys
        simpa [keys, hn] using hat
      rw [List.getElem?_eq_getElem hn, ← hkey]
      exact (find?_key hdistinct (List.getElem_mem hn)).symm
    · rw [List.getElem?_eq_none (Nat.le_of_not_lt hn), eq_comm, List.find?_eq_none]
      intro f hf hsame
      obtain ⟨m, hm, hplace⟩ := hmem f hf
      rw [hplace, beq_iff_eq] at hsame
      exact hn (FieldKey.place.inj hsame ▸ hm)

end Fields

end DeclSynth
