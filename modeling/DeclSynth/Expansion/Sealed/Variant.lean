import DeclSynth.Argument
import DeclSynth.Declaration
import DeclSynth.Expansion.Outcome

/-!
# Variants of a sealed module

The structs of a module that are marked `#[variant]`, perhaps with the roles they play.
A role has to be declared, and a variant plays it once. Marks on anything but a struct
without parameters are refused.
-/

namespace DeclSynth.Sealed

/-- A variant: its name, how far it can be seen, whether its values hold state, and the roles it
plays, in the order in which they were listed. -/
structure Variant where
  name : Ident
  vis : Visibility
  hasPayload : Bool
  roles : List Ident

/-- Whether a variant plays a role. -/
def Variant.plays (v : Variant) (role : Ident) : Bool := v.roles.any role.sameName

namespace Variant

/-- The name of the attribute that marks a variant. -/
def mark : String := "variant"

/-- The roles that one mark lists. -/
def listedRoles (a : Attribute) : Except Failure (List Ident) :=
  match a.form with
  | .path => .ok []
  | .list body closing =>
    match parseWith (fun _ => Parser.commaSeparated Parser.ident) closing body with
    | .ok list => .ok list.values
    | .error e => .error (.ofSyntax e)
  | .nameValue span _ =>
    .error ((ExpandError.invalidArgument mark
      "a list of roles such as `#[variant(RoleA, RoleB)]`").at span)

/-- The roles of a variant with one more, which has to be declared and new. -/
def addRole (declared : List Ident) (own : List Ident) (role : Ident) :
    Except Failure (List Ident) :=
  if !declared.any role.sameName then .error ((ExpandError.undeclaredRole role.text).at role.span)
  else if own.any role.sameName then
    .error ((ExpandError.duplicateArgument role.text).at role.span)
  else .ok (own ++ [role])

/-- The roles of a variant with all that one mark lists. -/
def addListed (declared own : List Ident) (a : Attribute) : Except Failure (List Ident) := do
  (← listedRoles a).foldlM (addRole declared) own

/-- The roles that the marks among some attributes list. -/
def rolesOf (declared : List Ident) (attributes : List Attribute) : Except Failure (List Ident) :=
  (attributes.filter (·.isNamed mark)).foldlM (addListed declared) []

/-- A marked struct as a variant. -/
def ofStruct (s : StructItem) (roles : List Ident) : Outcome Variant := do
  if !s.generics.params.isEmpty then
    .fail (.unsupportedTarget "#[variant]" "a struct without generic parameters") s.generics.span
  else
    .log .trace "variant" [("variant", s.name.text), ("roles", toString roles.length)]
    return ⟨s.name, s.vis, (s.facts none).hasStored, roles⟩

/-- The variant that an item is, if it is marked. -/
def ofItem? (declared : List Ident) (item : Item) : Outcome (Option Variant) := do
  let attributes := item.attributes?.getD []
  match findAttribute mark attributes with
  | none => return none
  | some marker =>
    let roles ← rolesOf declared attributes
    match item with
    | .struct s => return some (← ofStruct s roles)
    | _ => .fail .variantNotStruct marker.span

end Variant

/-- An item without the marks of variants. -/
def unmarked (item : Item) : Item := item.mapAttributes (stripAttribute Variant.mark)

/-- An item as it is left behind: where a mark is found, all marks go. -/
def leftBehind (item : Item) : Item :=
  match findAttribute Variant.mark (item.attributes?.getD []) with
  | none => item
  | some _ => unmarked item

/-- The variants among items, in order, and the items without their marks: these go as an item is
looked at, before the next one is. -/
def takeMarks (declared : List Ident) : List Item → Outcome (List Variant × List Item)
  | [] => return ([], [])
  | item :: rest => do
    let found ← Variant.ofItem? declared item
    let (variants, items) ← takeMarks declared rest
    return (found.toList ++ variants, leftBehind item :: items)

end DeclSynth.Sealed
