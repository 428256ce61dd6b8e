import DeclSynth.Declaration
import DeclSynth.Proofs.Syntax.Reader

/-!
# Named fields have names

A field between curly braces is read with its name (`yields_namedField`), and one between
parentheses without any. No other rule of the grammar makes a struct, so a struct that is
read has a name for each of its named fields (`named_of_parse`) and none for a positional
one (`laidOut_of_parse`).
-/

namespace DeclSynth

open DeclSynth.Parser

/-- If fields are laid out by name, each has one. -/
def Fields.Named (fs : Fields) : Prop :=
  fs.shape = .named → ∀ f ∈ fs.toList, f.name.isSome = true

/-- If fields are laid out by place, none has a name. -/
def Fields.Unnamed (fs : Fields) : Prop :=
  fs.shape = .unnamed → ∀ f ∈ fs.toList, f.name = none

/-- Fields have names exactly if they are laid out by name. -/
structure Fields.LaidOut (fs : Fields) : Prop where
  named : fs.Named
  unnamed : fs.Unnamed

/-- If an item is a struct, its fields are laid out. -/
def Item.LaidOut : Item → Prop
  | .struct s => s.fields.LaidOut
  | _ => True

/-- The same of an item behind its attributes, if there is one. -/
def FormLaidOut (form : Option Item) : Prop := ∀ item ∈ form, item.LaidOut

namespace Grammar

variable {α : Type} {P : α → Prop} {p : Parser α} {g : Grammar} {attributes : List Attribute}

/-! ## Structs -/

theorem yields_namedField (fields : Parser Unit) :
    Yields (namedField g fields) fun f => f.name.isSome = true := by
  refine yields_bind_any fun _ => yields_bind_any fun _ => yields_bind_any fun unnamed => ?_
  -- an underscore is taken as a word, any other name as an identifier
  refine yields_ite (yields_bind_any fun _ => ?_) (yields_bind_any fun _ => ?_) <;>
  refine yields_bind_any fun _ => yields_bind_any fun _ => yields_bind_any fun _ =>
    yields_bind_any fun _ => yields_ite ?_ ?_ <;>
  exact yields_bind_any fun _ => yields_pure rfl

theorem yields_namedFieldsTo (depth : Nat) :
    Yields (namedFieldsTo g depth) fun l => ∀ f ∈ l.values, f.name.isSome = true := by
  cases depth with
  | zero => exact yields_expected _
  | succ depth => exact yields_inside (yields_commaSeparated (yields_namedField _))

theorem yields_namedFields : Yields (namedFields g) Fields.LaidOut := by
  refine yields_bind_any fun _ => yields_bind (yields_namedFieldsTo _) fun l hl => ?_
  exact yields_pure ⟨fun _ => hl, nofun⟩

theorem yields_positionalFields : Yields (positionalFields g) Fields.LaidOut := by
  have hfields : Yields (inside .parenthesis <| commaSeparated do
      let attributes ← attributes g
      let vis ← visibility
      return (⟨attributes, vis, none, ← g.ty true⟩ : Field))
      fun l => ∀ f ∈ l.values, f.name = none :=
    yields_inside (yields_commaSeparated (yields_bind_any fun _ => yields_bind_any fun _ =>
      yields_bind_any fun _ => yields_pure rfl))
  exact yields_bind hfields fun l hl => yields_pure ⟨nofun, fun _ => hl⟩

theorem laidOut_unit : Fields.unit.LaidOut := ⟨nofun, nofun⟩

theorem yields_structData : Yields (structData g) fun data => data.2.LaidOut := by
  refine yields_bind_any fun early => yields_bind_any fun _ => yields_ite ?_ ?_
  · refine yields_bind yields_positionalFields fun fields hfields => yields_bind_any fun _ =>
      yields_bind_any fun _ => yields_ite (yields_pure hfields) (yields_expected_bind _ _)
  · refine yields_bind_any fun _ => yields_ite ?_ ?_
    · exact yields_bind yields_namedFields fun fields hfields => yields_pure hfields
    · exact yields_bind_any fun _ => yields_ite (yields_pure laidOut_unit) (yields_expected _)

theorem yields_structItem : Yields (structItem g attributes) fun s => s.fields.LaidOut := by
  refine yields_bind_any fun _ => yields_bind_any fun _ => yields_bind_any fun _ =>
    yields_bind_any fun _ => yields_bind yields_structData fun data hdata => ?_
  exact yields_pure hdata

/-! ## Items -/

theorem formLaidOut_none : FormLaidOut none := nofun

theorem formLaidOut_some {item : Item} (h : item.LaidOut) : FormLaidOut (some item) := by
  rintro _ ⟨⟩
  exact h

theorem formLaidOut_map {o : Option α} {f : α → Item} (h : ∀ a, (f a).LaidOut) :
    FormLaidOut (o.map f) := by
  cases o with
  | none => exact formLaidOut_none
  | some a => exact formLaidOut_some (h a)

theorem formLaidOut_ite {c : Prop} [Decidable c] {item : Item} (h : item.LaidOut) :
    FormLaidOut (if c then some item else none) := by
  split
  · exact formLaidOut_some h
  · exact formLaidOut_none

theorem yields_fnItem : Yields (fnItem g attributes) FormLaidOut :=
  yields_bind_any fun _ => yields_bind_any fun _ => yields_bind_any fun _ =>
    yields_ite (yields_pure formLaidOut_none)
      (yields_bind_any fun _ => yields_pure (formLaidOut_some trivial))

theorem yields_foreignItem : Yields (foreignItem g attributes) Item.LaidOut :=
  yields_bind_any fun _ => yields_bind_any fun _ => yields_pure trivial

theorem yields_externForm : Yields (externForm g attributes) Item.LaidOut :=
  yields_bind_any fun _ =>
    yields_ite (yields_bind_any fun _ => yields_pure trivial) yields_foreignItem

theorem yields_useItem : Yields (useItem g attributes) FormLaidOut :=
  yields_bind_any fun _ => yields_bind_any fun _ => yields_bind_any fun _ =>
    yields_bind_any fun _ => yields_bind_any fun _ =>
      yields_pure (formLaidOut_map fun _ => trivial)

theorem yields_modItem : Yields (modItem g attributes) Item.LaidOut := by
  refine yields_bind_any fun _ => yields_bind_any fun _ => yields_bind_any fun _ =>
    yields_bind_any fun _ => ?_
  -- the name is a word or an identifier, and the rest is the same
  refine yields_ite (yields_bind_any fun _ => ?_) (yields_bind_any fun _ => ?_) <;>
  exact yields_bind_any fun _ => yields_ite (yields_pure trivial) <| yields_bind_any fun _ =>
    yields_ite (yields_expected_bind _ _) (yields_bind_any fun _ => yields_pure trivial)

theorem yields_traitItem (aliasAllowed : Bool) :
    Yields (traitItem g attributes aliasAllowed) Item.LaidOut := by
  refine yields_bind_any fun _ => yields_ite ?_ ?_
  · refine yields_bind_any fun _ => yields_ite (yields_bind_any fun _ => yields_pure trivial) ?_
    refine yields_bind_any fun _ => yields_ite (yields_expected_bind _ _) ?_
    exact yields_bind_any fun _ => yields_bind_any fun _ => yields_bind_any fun _ =>
      yields_pure trivial
  · exact yields_bind_any fun _ => yields_bind_any fun _ => yields_bind_any fun _ =>
      yields_pure trivial

theorem yields_unionItem : Yields (unionItem g attributes) Item.LaidOut :=
  yields_bind_any fun _ => yields_pure trivial

theorem yields_implItem : Yields (do return (← implItem g attributes).map Item.impl) FormLaidOut :=
  yields_bind_any fun _ => yields_pure (formLaidOut_map fun _ => trivial)

theorem yields_some (h : Yields p P) {f : α → Item} (hf : ∀ a, P a → (f a).LaidOut) :
    Yields (do return some (f (← p))) FormLaidOut :=
  yields_bind h fun a ha => yields_pure (formLaidOut_some (hf a ha))

theorem yields_unsafeForm : Yields (unsafeForm g attributes) FormLaidOut := by
  refine yields_bind_any fun _ => yields_ite (yields_some (yields_traitItem _) fun _ => id) ?_
  refine yields_ite yields_implItem (yields_ite (yields_some yields_foreignItem fun _ => id) ?_)
  exact yields_some yields_modItem fun _ => id

theorem yields_itemForm : Yields (itemForm g attributes) FormLaidOut := by
  refine yields_bind_any fun _ => yields_ite yields_fnItem ?_
  refine yields_bind_any fun _ => yields_ite (yields_some yields_externForm fun _ => id) ?_
  refine yields_bind_any fun _ => yields_ite yields_useItem ?_
  refine yields_bind_any fun _ => yields_ite
    (yields_bind_any fun _ => yields_pure (formLaidOut_ite trivial)) ?_
  refine yields_bind_any fun _ => yields_ite
    (yields_bind_any fun _ => yields_pure (formLaidOut_ite trivial)) ?_
  refine yields_bind_any fun _ => yields_ite yields_unsafeForm ?_
  refine yields_bind_any fun _ => yields_ite (yields_some yields_modItem fun _ => id) ?_
  refine yields_bind_any fun _ => yields_ite
    (yields_bind_any fun _ => yields_pure (formLaidOut_ite trivial)) ?_
  refine yields_bind_any fun _ => yields_ite (yields_some yields_structItem fun _ => id) ?_
  refine yields_bind_any fun _ => yields_ite
    (yields_bind_any fun _ => yields_pure (formLaidOut_some trivial)) ?_
  refine yields_bind_any fun _ => yields_bind_any fun _ =>
    yields_ite (yields_some yields_unionItem fun _ => id) ?_
  refine yields_bind_any fun _ =>
    yields_ite (yields_some (yields_traitItem _) fun _ => id) ?_
  refine yields_bind_any fun _ => yields_bind_any fun _ =>
    yields_ite (yields_some (yields_traitItem _) fun _ => id) ?_
  refine yields_bind_any fun _ => yields_bind_any fun _ => yields_bind_any fun _ =>
    yields_ite yields_implItem ?_
  refine yields_bind_any fun _ =>
    yields_ite (yields_bind_any fun _ => yields_pure formLaidOut_none) ?_
  refine yields_bind_any fun _ => yields_bind_any fun _ => yields_ite
    (yields_bind_any fun _ => yields_pure (formLaidOut_some trivial)) ?_
  exact yields_bind_any fun _ => yields_expected _

theorem yields_itemRule : Yields (itemRule g) Item.LaidOut := by
  refine yields_bind
    (yields_verbatim (yields_unmentionedIf (yields_bind_any fun _ => yields_itemForm)))
    fun form hform => ?_
  refine yields_pure ?_
  cases hfound : form.1 with
  | none => exact trivial
  | some item => exact hform item hfound

end Grammar

/-- **The fields of a struct that is read are laid out.** -/
theorem laidOut_of_parse {item : Tokens} {s : StructItem} (h : Item.parse item = .ok (.struct s)) :
    s.fields.LaidOut :=
  of_parseWith (P := Item.LaidOut) h Grammar.yields_itemRule

/-- A struct that is read has a name for each of its named fields. -/
theorem named_of_parse {item : Tokens} {s : StructItem} (h : Item.parse item = .ok (.struct s)) :
    s.fields.Named :=
  (laidOut_of_parse h).named

end DeclSynth
