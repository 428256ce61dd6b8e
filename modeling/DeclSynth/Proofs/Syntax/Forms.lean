import DeclSynth.Proofs.Syntax.Reader

/-!
# Items that are read on their own

An item is read by the words it starts with. A module is read by the rule for modules and
a struct by the one for structs, and looking at the words ahead moves nothing
(`reads_itemForm`). So an item that turns out to be a module is the module that the
tokens are (`parseModule_of_parse`), and a struct is the struct (`parseStruct_of_parse`).
-/

namespace DeclSynth

open DeclSynth.Parser

namespace Grammar

variable {α : Type} {p : Parser α} {g : Grammar} {attributes : List Attribute}

/-- A module or a struct that was read between two states is read between them by its own rule. -/
def ReadAs (g : Grammar) (attributes : List Attribute) (r r' : Reader) : Option Item → Prop
  | some (.mod as vis unsafeWord name content) =>
    modItem g attributes r = .ok (.mod as vis unsafeWord name content, r')
  | some (.struct s) => structItem g attributes r = .ok (s, r')
  | _ => True

/-- Modules and structs are read by their own rules. -/
def Reads (g : Grammar) (attributes : List Attribute) (p : Parser (Option Item)) : Prop :=
  ∀ r form r', p r = .ok (form, r') → ReadAs g attributes r r' form

/-- What is read is neither a module nor a struct. -/
def Other : Option Item → Prop
  | some (.mod ..) | some (.struct _) => False
  | _ => True

theorem reads_of_other {p : Parser (Option Item)} (h : Yields p Other) : Reads g attributes p := by
  intro r form r' hp
  have hother := h r form r' hp
  cases form with
  | none => trivial
  | some item =>
    cases item with
    | mod => exact hother.elim
    | struct => exact hother.elim
    | _ => trivial

/-- Looking ahead moves nothing. -/
theorem reads_ahead {f : α → Parser (Option Item)} (hf : ∀ a, Reads g attributes (f a)) :
    Reads g attributes (ahead p >>= f) := by
  intro r form r' h
  obtain ⟨a, r₁, ha, hform⟩ := bind_eq_ok.1 h
  unfold ahead at ha
  split at ha
  · cases ha
    exact hf a r form r' hform
  · cases ha

theorem reads_ite {c : Prop} [Decidable c] {p q : Parser (Option Item)}
    (hp : Reads g attributes p) (hq : Reads g attributes q) :
    Reads g attributes (if c then p else q) := by
  split
  · exact hp
  · exact hq

/-! ## The forms of items -/

theorem other_map {o : Option α} {f : α → Item} (h : ∀ a, Other (some (f a))) :
    Other (o.map f) := by
  cases o with
  | none => trivial
  | some a => exact h a

theorem other_ite {c : Prop} [Decidable c] {item : Item} (h : Other (some item)) :
    Other (if c then some item else none) := by
  split
  · exact h
  · trivial

theorem yields_modItem_mod : Yields (modItem g attributes) fun item =>
    ∃ as vis unsafeWord name content, item = .mod as vis unsafeWord name content := by
  refine yields_bind_any fun _ => yields_bind_any fun _ => yields_bind_any fun _ =>
    yields_bind_any fun _ => ?_
  refine yields_ite (yields_bind_any fun _ => ?_) (yields_bind_any fun _ => ?_) <;>
  exact yields_bind_any fun _ => yields_ite (yields_pure ⟨_, _, _, _, _, rfl⟩) <|
    yields_bind_any fun _ => yields_ite (yields_expected_bind _ _)
      (yields_bind_any fun _ => yields_pure ⟨_, _, _, _, _, rfl⟩)

theorem reads_mod : Reads g attributes (do return some (← modItem g attributes)) := by
  intro r form r' h
  obtain ⟨item, r₁, hitem, hform⟩ := bind_eq_ok.1 h
  cases hform
  obtain ⟨as, vis, unsafeWord, name, content, rfl⟩ := yields_modItem_mod r item _ hitem
  exact hitem

theorem reads_struct :
    Reads g attributes (do return some (.struct (← structItem g attributes))) := by
  intro r form r' h
  obtain ⟨s, r₁, hs, hform⟩ := bind_eq_ok.1 h
  cases hform
  exact hs

theorem yields_some_other {p : Parser Item} (h : Yields p fun item => Other (some item)) :
    Yields (do return some (← p)) Other :=
  yields_bind h fun _ => yields_pure

theorem yields_enumItem_other : Yields (do return some (.enum (← enumItem g attributes))) Other :=
  yields_bind_any fun _ => yields_pure trivial

theorem yields_unionItem_other : Yields (do return some (← unionItem g attributes)) Other :=
  yields_some_other (yields_bind_any fun _ => yields_pure trivial)

theorem yields_traitItem_other (aliasAllowed : Bool) :
    Yields (do return some (← traitItem g attributes aliasAllowed)) Other := by
  refine yields_some_other ?_
  refine yields_bind_any fun _ => yields_ite ?_ ?_
  · refine yields_bind_any fun _ => yields_ite (yields_bind_any fun _ => yields_pure trivial) ?_
    refine yields_bind_any fun _ => yields_ite (yields_expected_bind _ _) ?_
    exact yields_bind_any fun _ => yields_bind_any fun _ => yields_bind_any fun _ =>
      yields_pure trivial
  · exact yields_bind_any fun _ => yields_bind_any fun _ => yields_bind_any fun _ =>
      yields_pure trivial

theorem yields_foreignItem_other :
    Yields (foreignItem g attributes) fun item => Other (some item) :=
  yields_bind_any fun _ => yields_bind_any fun _ => yields_pure trivial

theorem yields_externForm_other : Yields (do return some (← externForm g attributes)) Other :=
  yields_some_other <| yields_bind_any fun _ =>
    yields_ite (yields_bind_any fun _ => yields_pure trivial) yields_foreignItem_other

theorem yields_implItem_other :
    Yields (do return (← implItem g attributes).map Item.impl) Other :=
  yields_bind_any fun _ => yields_pure (other_map fun _ => trivial)

theorem yields_fnItem_other : Yields (fnItem g attributes) Other :=
  yields_bind_any fun _ => yields_bind_any fun _ => yields_bind_any fun _ =>
    yields_ite (yields_pure trivial) (yields_bind_any fun _ => yields_pure trivial)

theorem yields_useItem_other : Yields (useItem g attributes) Other :=
  yields_bind_any fun _ => yields_bind_any fun _ => yields_bind_any fun _ =>
    yields_bind_any fun _ => yields_bind_any fun _ => yields_pure (other_map fun _ => trivial)

theorem reads_unsafeForm : Reads g attributes (unsafeForm g attributes) := by
  refine reads_ahead fun _ => reads_ite (reads_of_other (yields_traitItem_other _)) ?_
  refine reads_ite (reads_of_other yields_implItem_other) ?_
  exact reads_ite (reads_of_other (yields_some_other yields_foreignItem_other)) reads_mod

/-- **Modules and structs are read by their own rules**, whatever words come before these. -/
theorem reads_itemForm : Reads g attributes (itemForm g attributes) := by
  refine reads_ahead fun _ => reads_ite (reads_of_other yields_fnItem_other) ?_
  refine reads_ahead fun _ => reads_ite (reads_of_other yields_externForm_other) ?_
  refine reads_ahead fun _ => reads_ite (reads_of_other yields_useItem_other) ?_
  refine reads_ahead fun _ => reads_ite
    (reads_of_other (yields_bind_any fun _ => yields_pure (other_ite trivial))) ?_
  refine reads_ahead fun _ => reads_ite
    (reads_of_other (yields_bind_any fun _ => yields_pure (other_ite trivial))) ?_
  refine reads_ahead fun _ => reads_ite reads_unsafeForm ?_
  refine reads_ahead fun _ => reads_ite reads_mod ?_
  refine reads_ahead fun _ => reads_ite
    (reads_of_other (yields_bind_any fun _ => yields_pure (other_ite trivial))) ?_
  refine reads_ahead fun _ => reads_ite reads_struct ?_
  -- no other form is a module or a struct
  refine reads_of_other ?_
  refine yields_bind_any fun _ => yields_ite yields_enumItem_other ?_
  refine yields_bind_any fun _ => yields_bind_any fun _ => yields_ite yields_unionItem_other ?_
  refine yields_bind_any fun _ => yields_ite (yields_traitItem_other _) ?_
  refine yields_bind_any fun _ => yields_bind_any fun _ => yields_ite (yields_traitItem_other _) ?_
  refine yields_bind_any fun _ => yields_bind_any fun _ => yields_bind_any fun _ =>
    yields_ite yields_implItem_other ?_
  refine yields_bind_any fun _ => yields_ite (yields_bind_any fun _ => yields_pure trivial) ?_
  refine yields_bind_any fun _ => yields_bind_any fun _ => yields_ite
    (yields_bind_any fun _ => yields_pure trivial) ?_
  exact yields_bind_any fun _ => yields_expected _

end Grammar

/-! ## Complete readings -/

open Grammar

/-- Where a complete reading starts. -/
def Reader.start (scope : Span) (ts : Tokens) : Reader :=
  ⟨ts, scope, none, .callSite, none, #[], #[]⟩

/-- A complete reading leaves nothing over, in a group or at the end. -/
theorem parseWith_eq_ok {α : Type} {rule : Grammar → Parser α} {scope : Span} {ts : Tokens}
    {a : α} :
    parseWith rule scope ts = .ok a ↔
      ∃ r, rule (Grammar.forTokens ts) (.start scope ts) = .ok (a, r) ∧ r.leftover = none ∧
        r.rest = [] := by
  unfold parseWith Parser.run
  change (rule (Grammar.forTokens ts) (.start scope ts) >>= fun out => _) = _ ↔ _
  cases hread : rule (Grammar.forTokens ts) (.start scope ts) with
  | error e => simp [bind, Except.bind]
  | ok out =>
    obtain ⟨b, r⟩ := out
    simp only [Except.ok.injEq, Prod.mk.injEq, bind, Except.bind]
    split
    · simp_all
    · simp_all
    · rename_i hleftover hrest
      constructor
      · rintro ⟨⟩
        exact ⟨r, ⟨rfl, rfl⟩, hleftover, hrest⟩
      · rintro ⟨_, ⟨rfl, rfl⟩, -, -⟩
        rfl

/-- What is captured is read without anything written before it. -/
theorem captured_eq_ok {α : Type} {p : Parser α} {r r' : Reader} {found : α × Tokens}
    (h : captured p r = .ok (found, r')) :
    ∃ r₁, p { r with written := #[] } = .ok (found.1, r₁) ∧
      r' = { r₁ with written := r.written } := by
  change (p { r with written := #[] } >>= fun out => _) = _ at h
  cases hread : p { r with written := #[] } with
  | error e => rw [hread] at h; cases h
  | ok out =>
    obtain ⟨a, r₁⟩ := out
    rw [hread] at h
    cases h
    exact ⟨r₁, rfl, rfl⟩

/-- What is written as it stood is read as it is, as far as anything but what is written goes. -/
theorem of_verbatim {α : Type} {p : Parser α} {r r' : Reader} {found : α × Tokens}
    (hr : r.written = #[]) (h : verbatim p r = .ok (found, r')) :
    ∃ r₁, p r = .ok (found.1, r₁) ∧ r₁.leftover = r'.leftover ∧ r₁.rest = r'.rest := by
  obtain ⟨_, _, ⟨⟩, h⟩ := bind_eq_ok.1 h
  obtain ⟨captured, r₂, hcaptured, h⟩ := bind_eq_ok.1 h
  obtain ⟨r₁, hread, rfl⟩ := captured_eq_ok hcaptured
  cases h
  rw [← hr] at hread
  exact ⟨r₁, hread, rfl, rfl⟩

/-- What may go unmentioned is read as it is, as far as anything but what is mentioned goes. -/
theorem of_unmentionedIf {α : Type} {unread : α → Bool} {p : Parser α} {r r' : Reader} {a : α}
    (h : unmentionedIf unread p r = .ok (a, r')) :
    ∃ r₁, p r = .ok (a, r₁) ∧ r₁.leftover = r'.leftover ∧ r₁.rest = r'.rest := by
  obtain ⟨_, _, ⟨⟩, h⟩ := bind_eq_ok.1 h
  obtain ⟨_, r₁, hread, h⟩ := bind_eq_ok.1 h
  cases h
  exact ⟨r₁, hread, rfl, rfl⟩

/-- The item that a reading comes to, behind its attributes. -/
theorem readAs_of_parse {ts : Tokens} {item : Item} (h : Item.parse ts = .ok item)
    (hform : ∀ tokens, item ≠ .verbatim tokens) :
    ∃ attributes r r',
      Grammar.attributes (forTokens ts) (.start .callSite ts) = .ok (attributes, r) ∧
      ReadAs (forTokens ts) attributes r r' (some item) ∧ r'.leftover = none ∧ r'.rest = [] := by
  obtain ⟨r', hread, hleftover, hrest⟩ := parseWith_eq_ok.1 h
  obtain ⟨⟨form, taken⟩, r₂, hverbatim, hitem⟩ := bind_eq_ok.1 hread
  obtain ⟨r₂, hunmentioned, hl₂, hr₂⟩ := of_verbatim rfl hverbatim
  obtain ⟨r₁, hbehind, hl₁, hr₁⟩ := of_unmentionedIf hunmentioned
  obtain ⟨attributes, r, hattributes, hbehind⟩ := bind_eq_ok.1 hbehind
  cases hitem
  cases form with
  | none => exact absurd rfl (hform taken)
  | some item =>
    exact ⟨attributes, r, r₁, hattributes, reads_itemForm r _ _ hbehind,
      hl₁.trans (hl₂.trans hleftover), hr₁.trans (hr₂.trans hrest)⟩

/-- **An item that is read as a module is the module that the tokens are.** -/
theorem parseModule_of_parse {ts : Tokens} {attributes : List Attribute} {vis : Visibility}
    {unsafeWord : Bool} {name : Ident} {content : Option (List Item)}
    (h : Item.parse ts = .ok (.mod attributes vis unsafeWord name content)) :
    Item.parseModule ts = .ok (.mod attributes vis unsafeWord name content) := by
  obtain ⟨before, r, r', hattributes, hread, hleftover, hrest⟩ := readAs_of_parse h nofun
  exact parseWith_eq_ok.2 ⟨r', bind_eq_ok.2 ⟨before, r, hattributes, hread⟩, hleftover, hrest⟩

/-- **An item that is read as a struct is the struct that the tokens are.** -/
theorem parseStruct_of_parse {ts : Tokens} {s : StructItem}
    (h : Item.parse ts = .ok (.struct s)) : StructItem.parse ts = .ok s := by
  obtain ⟨before, r, r', hattributes, hread, hleftover, hrest⟩ := readAs_of_parse h nofun
  exact parseWith_eq_ok.2 ⟨r', bind_eq_ok.2 ⟨before, r, hattributes, hread⟩, hleftover, hrest⟩

end DeclSynth
