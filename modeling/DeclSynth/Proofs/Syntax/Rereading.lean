import DeclSynth.Expansion.FieldAttribute
import DeclSynth.Proofs.Outcome
import DeclSynth.Proofs.Syntax.Forms

/-!
# Reading an attribute again

What the content of an attribute writes while it is read is read again, unless it is a value:
a path and a delimited list do not depend on how operators were spaced. Reading and writing meet
in `PathWritten`, the tokens that a path writes. So an attribute that was read from the content of
a literal and printed is read again, and prints the same (`exists_reread_of_ofLiteral?`).
-/

namespace DeclSynth

namespace Parser

variable {α β : Type} {p : Parser α} {f : α → Parser β} {P : α → Prop} {Q : β → Prop}
  {r r' : Reader} {ts us rest : Tokens}

/-! ## Taking tokens as they stand -/

/-- Tokens were written between two states, and nothing was left over in a group. -/
structure Writes (r r' : Reader) (ts : Tokens) : Prop where
  written : r'.written.toList = r.written.toList ++ ts
  leftover : r'.leftover = r.leftover

theorem Writes.refl (r : Reader) : Writes r r [] := ⟨(List.append_nil _).symm, rfl⟩

theorem Writes.trans {r₁ r₂ r₃ : Reader} (h : Writes r₁ r₂ ts) (h' : Writes r₂ r₃ us) :
    Writes r₁ r₃ (ts ++ us) :=
  ⟨by rw [h'.written, h.written, List.append_assoc], h'.leftover.trans h.leftover⟩

/-- Where these tokens come first and the others behind them, a reading takes the tokens and
writes them as they stand. -/
def Takes (p : Parser α) (ts rest : Tokens) (P : α → Prop) : Prop :=
  ∀ r : Reader, r.rest = ts ++ rest →
    ∃ a r', p r = .ok (a, r') ∧ P a ∧ r'.rest = rest ∧ Writes r r' ts

theorem takes_pure {a : α} (h : P a) : Takes (pure a) [] rest P :=
  fun r hr => ⟨a, r, rfl, h, hr, .refl r⟩

/-- **A sequence takes what its parts take**, one after the other. -/
theorem takes_bind (hp : Takes p ts (us ++ rest) P) (hf : ∀ a, P a → Takes (f a) us rest Q) :
    Takes (p >>= f) (ts ++ us) rest Q := by
  intro r hr
  obtain ⟨a, r₁, hread, ha, hrest, hwrites⟩ := hp r (hr.trans (List.append_assoc ..))
  obtain ⟨b, r₂, hread', hb, hrest', hwrites'⟩ := hf a ha r₁ hrest
  exact ⟨b, r₂, bind_eq_ok.2 ⟨a, r₁, hread, hread'⟩, hb, hrest', hwrites.trans hwrites'⟩

/-- A part that takes nothing leaves all tokens to what comes after it. -/
theorem takes_bind_left (hp : Takes p [] (us ++ rest) P)
    (hf : ∀ a, P a → Takes (f a) us rest Q) : Takes (p >>= f) us rest Q :=
  takes_bind hp hf

/-- A part that takes nothing may come behind the one that takes all tokens. -/
theorem takes_bind_right (hp : Takes p ts rest P) (hf : ∀ a, P a → Takes (f a) [] rest Q) :
    Takes (p >>= f) ts rest Q :=
  List.append_nil ts ▸ takes_bind hp hf

theorem takes_peek (test : Tokens → Bool) : Takes (peek test) [] rest (· = test rest) :=
  fun r hr => ⟨test r.rest, r, rfl, congrArg test hr, hr, .refl r⟩

theorem takes_peekAny (tests : List (Tokens → Bool)) :
    Takes (peekAny tests) [] rest (· = tests.any (· rest)) :=
  fun r hr => ⟨tests.any (· r.rest), r, rfl, by rw [hr]; rfl, hr, .refl r⟩

/-- **A name is taken as the word that it is.** -/
theorem takes_anyIdent (name : Ident) : Takes anyIdent name.tokens rest (· = name) := by
  rintro ⟨_, scope, within, last, leftover, written, mentioned⟩ rfl
  have hname : Ident.ofText? name.text name.span = some name := dif_pos name.valid
  have hread :
      anyIdent ⟨name.tokens ++ rest, scope, within, last, leftover, written, mentioned⟩ = .ok (name,
        ⟨rest, scope, within, name.span, leftover, written ++ name.tokens, mentioned⟩) := by
    rw [anyIdent, get_bind]
    simp only [Ident.tokens, List.cons_append, List.nil_append, hname]
    rfl
  exact ⟨name, _, hread, rfl, rfl, Array.toList_appendList, rfl⟩

/-- What is taken for a name is the word that comes first. -/
theorem writes_anyIdent {name : Ident} (h : anyIdent r = .ok (name, r')) :
    (∃ behind, r.rest = name.tokens ++ behind) ∧ Writes r r' name.tokens := by
  obtain ⟨ts, scope, within, last, leftover, written, mentioned⟩ := r
  rw [anyIdent, get_bind] at h
  cases ts with
  | nil => exact absurd h expected_ne_ok
  | cons first behind =>
    cases first with
    | word text span =>
      dsimp only at h
      cases hname : Ident.ofText? text span with
      | none =>
        rw [hname] at h
        exact absurd h expected_ne_ok
      | some found =>
        rw [hname] at h
        cases h
        have htokens : name.tokens = [.word text span] := by
          unfold Ident.ofText? at hname
          split at hname
          · rw [← Option.some.inj hname]
            rfl
          · cases hname
        rw [htokens]
        exact ⟨⟨behind, rfl⟩, Array.toList_appendList, rfl⟩
    | _ => exact absurd h expected_ne_ok

/-! ## The tokens of a path -/

/-- The operator between the names of a path. -/
def colons (s₁ s₂ : Span) : Tokens := [.punct ':' true s₁, .punct ':' false s₂]

/-- Where the operator stands, whatever follows it closely. -/
theorem isOp_colons_iff :
    isOp "::" ts = true ↔
      ∃ s₁ joint s₂ rest, ts = .punct ':' true s₁ :: .punct ':' joint s₂ :: rest := by
  constructor
  · intro h
    cases ts with
    | nil => cases h
    | cons first ts =>
      cases first with
      | punct c joint s₁ =>
        have hfirst : (':' == c && joint && true && startsOp [':'] ts) = true := h
        simp only [Bool.and_eq_true, beq_iff_eq, and_true] at hfirst
        obtain ⟨⟨rfl, rfl⟩, hsecond⟩ := hfirst
        cases ts with
        | nil => cases hsecond
        | cons second rest =>
          cases second with
          | punct c joint s₂ =>
            have hchar : (':' == c && true) = true := hsecond
            obtain rfl : ':' = c := by simpa using hchar
            exact ⟨s₁, joint, s₂, rest, rfl⟩
          | _ => cases hsecond
      | _ => cases h
  · rintro ⟨s₁, joint, s₂, rest, rfl⟩
    rfl

/-- The operator is written with its characters joint and nothing joint behind it. -/
theorem sign_colons {s₁ s₂ : Span} {joint : Bool}
    (h : r.rest = .punct ':' true s₁ :: .punct ':' joint s₂ :: rest) :
    sign "::" r = .ok (s₁, { r with rest, last := s₂, written := r.written ++ colons s₁ s₂ }) := by
  obtain ⟨_, scope, within, last, leftover, written, mentioned⟩ := r
  cases h
  rfl

theorem takes_sign {s₁ s₂ : Span} : Takes (sign "::") (colons s₁ s₂) rest fun _ => True :=
  fun _ hr => ⟨s₁, _, sign_colons hr, trivial, rfl, Array.toList_appendList, rfl⟩

theorem takes_sign? {s₁ s₂ : Span} : Takes (sign? "::") (colons s₁ s₂) rest (· = true) := by
  refine takes_bind_left (takes_peek (isOp "::")) ?_
  rintro _ rfl
  exact takes_bind_right takes_sign fun _ _ => takes_pure rfl

theorem takes_no_sign? (h : isOp "::" rest = false) :
    Takes (sign? "::") [] rest (· = false) := by
  refine takes_bind_left (takes_peek (isOp "::")) ?_
  rintro _ rfl
  rw [List.nil_append, h]
  exact takes_pure rfl

/-- What is read as the operator is written with nothing joint behind it. -/
theorem writes_sign? {found : Bool} (h : sign? "::" r = .ok (found, r')) :
    if found then ∃ s₁ s₂, Writes r r' (colons s₁ s₂) else r' = r := by
  obtain ⟨isOp, _, ⟨⟩, h⟩ := bind_eq_ok.1 h
  cases hop : Parser.isOp "::" r.rest with
  | false =>
    rw [hop] at h
    cases h
    rfl
  | true =>
    obtain ⟨s₁, joint, s₂, rest, hrest⟩ := isOp_colons_iff.1 hop
    rw [hop, if_pos rfl] at h
    obtain ⟨s, r₁, hsign, h⟩ := bind_eq_ok.1 h
    rw [sign_colons hrest] at hsign
    cases hsign
    cases h
    exact ⟨s₁, s₂, Array.toList_appendList, rfl⟩

end Parser

namespace Grammar

open DeclSynth.Parser

/-- The tokens that the names of a path write. -/
inductive PathWritten : List Ident → Tokens → Prop
  /-- The last name stands alone. -/
  | last {name : Ident} (word : isPathWord name.tokens = true) : PathWritten [name] name.tokens
  /-- Any other has the operator behind it. -/
  | cons {name : Ident} {names : List Ident} {ts : Tokens} (word : isPathWord name.tokens = true)
    (s₁ s₂ : Span) (rest : PathWritten names ts) :
    PathWritten (name :: names) (name.tokens ++ (colons s₁ s₂ ++ ts))

/-- One round of reading a path: the next name, and whether another one follows. -/
def pathStep : List Ident × Bool → Parser ((List Ident × Bool) ⊕ (List Ident × Bool)) :=
  fun (names, trailing) => do
    if !(← peek isPathWord) then return .inr (names.reverse, trailing)
    let name ← anyIdent
    if ← sign? "::" then return .inl (name :: names, true)
    return .inr ((name :: names).reverse, false)

/-- A path behind the operator that it may start with. -/
def pathBehind (colon : Bool) : Parser (Bool × List Ident) := do
  let (names, trailing) ← iterate pathStep ([], false)
  if names.isEmpty then
    let _ ← ident
    return (colon, [])
  if trailing then expected [.kind "path segment after `::`"]
  return (colon, names)

/-- A path is read by rounds. -/
theorem plainPath_eq : plainPath = sign? "::" >>= pathBehind := rfl

variable {names acc : List Ident} {ts rest : Tokens} {trailing : Bool} {r r' : Reader}

theorem takes_last_step {name : Ident} (word : isPathWord name.tokens = true)
    (h : isOp "::" rest = false) :
    Takes (pathStep (acc, trailing)) name.tokens rest
      (· = .inr ((name :: acc).reverse, false)) := by
  refine takes_bind_left (takes_peek isPathWord) ?_
  rintro _ rfl
  have hword : isPathWord (name.tokens ++ rest) = true := word
  rw [hword]
  refine takes_bind_right (takes_anyIdent name) ?_
  rintro _ rfl
  refine takes_bind_left (takes_no_sign? h) ?_
  rintro _ rfl
  exact takes_pure rfl

theorem takes_step {name : Ident} (word : isPathWord name.tokens = true) {s₁ s₂ : Span} :
    Takes (pathStep (acc, trailing)) (name.tokens ++ colons s₁ s₂) rest
      (· = .inl (name :: acc, true)) := by
  refine takes_bind_left (takes_peek isPathWord) ?_
  rintro _ rfl
  have hword : isPathWord (name.tokens ++ colons s₁ s₂ ++ rest) = true := word
  rw [hword]
  refine takes_bind (takes_anyIdent name) ?_
  rintro _ rfl
  refine takes_bind_right takes_sign? ?_
  rintro _ rfl
  exact takes_pure rfl

/-- **The tokens of a path are read as its names.** -/
theorem takes_rounds (h : PathWritten names ts) (hrest : isOp "::" rest = false) {n : Nat}
    (hn : names.length ≤ n) :
    Takes (iterateUpTo pathStep n (acc, trailing)) ts rest (· = (acc.reverse ++ names, false)) := by
  induction h generalizing acc trailing n with
  | last word =>
    obtain ⟨n, rfl⟩ := Nat.exists_eq_add_of_le' hn
    refine takes_bind_right (takes_last_step word hrest) ?_
    rintro _ rfl
    exact takes_pure (by rw [List.reverse_cons])
  | @cons name _ _ word s₁ s₂ _ ih =>
    obtain ⟨n, rfl⟩ := Nat.exists_eq_add_of_le' hn
    rw [← List.append_assoc]
    refine takes_bind (takes_step word) ?_
    rintro _ rfl
    have hnames : Takes (iterateUpTo pathStep (n + _) (name :: acc, true)) _ rest _ :=
      ih (Nat.le_add_left _ n)
    rwa [List.reverse_cons, List.append_assoc] at hnames

theorem PathWritten.length_le (h : PathWritten names ts) : names.length ≤ ts.length := by
  induction h with
  | last _ => exact Nat.le_refl _
  | cons _ _ _ _ ih =>
    simp only [List.length_cons, List.length_append, Ident.tokens, colons]
    omega

theorem PathWritten.ne_nil (h : PathWritten names ts) : names ≠ [] := by
  cases h <;> exact List.cons_ne_nil _ _

/-- A path is not taken for the operator, or for the word that an attribute may be. -/
theorem PathWritten.starts (h : PathWritten names ts) (rest : Tokens) :
    isOp "::" (ts ++ rest) = false ∧ isKw "unsafe" (ts ++ rest) = false := by
  have hword : ∀ (name : Ident) (rest : Tokens), isPathWord name.tokens = true →
      isKw "unsafe" (name.tokens ++ rest) = false := by
    intro name rest hname
    refine Bool.eq_false_iff.2 fun hmarked => ?_
    have htext : name.text = "unsafe" := eq_of_beq hmarked
    rw [Ident.tokens, htext] at hname
    cases hname
  cases h with
  | last word => exact ⟨rfl, hword _ _ word⟩
  | cons word s₁ s₂ h =>
    rw [List.append_assoc]
    exact ⟨rfl, hword _ _ word⟩

theorem takes_pathBehind (h : PathWritten names ts) (hrest : isOp "::" rest = false)
    (colon : Bool) : Takes (pathBehind colon) ts rest (· = (colon, names)) := by
  have hrounds : Takes (iterate pathStep ([], false)) ts rest (· = (names, false)) := by
    intro r hr
    have hfuel : names.length ≤ r.rest.length + 2 := by
      rw [hr, List.length_append]
      have := h.length_le
      omega
    have hnames : Takes (iterateUpTo pathStep (r.rest.length + 2) ([], false)) ts rest _ :=
      takes_rounds h hrest hfuel
    exact hnames r hr
  refine takes_bind_right hrounds ?_
  rintro _ rfl
  have hne : names.isEmpty = false := List.isEmpty_eq_false_iff.2 h.ne_nil
  dsimp only
  rw [hne]
  exact takes_pure rfl

/-- What a round writes. -/
inductive StepWrites (acc : List Ident) (trailing : Bool) (r r' : Reader) :
    (List Ident × Bool) ⊕ (List Ident × Bool) → Prop
  /-- Nothing, where no name comes first. -/
  | stop (word : isPathWord r.rest = false) (still : r' = r) :
    StepWrites acc trailing r r' (.inr (acc.reverse, trailing))
  /-- A name and the operator. -/
  | next {name : Ident} (word : isPathWord name.tokens = true) {s₁ s₂ : Span}
    (writes : Writes r r' (name.tokens ++ colons s₁ s₂)) :
    StepWrites acc trailing r r' (.inl (name :: acc, true))
  /-- A name that the operator does not follow. -/
  | last {name : Ident} (word : isPathWord name.tokens = true) (writes : Writes r r' name.tokens) :
    StepWrites acc trailing r r' (.inr ((name :: acc).reverse, false))

theorem writes_step {out : (List Ident × Bool) ⊕ (List Ident × Bool)}
    (h : pathStep (acc, trailing) r = .ok (out, r')) : StepWrites acc trailing r r' out := by
  obtain ⟨word, _, ⟨⟩, h⟩ := bind_eq_ok.1 h
  cases hword : isPathWord r.rest with
  | false =>
    rw [hword] at h
    cases h
    exact .stop hword rfl
  | true =>
    rw [hword] at h
    obtain ⟨name, r₁, hname, h⟩ := bind_eq_ok.1 h
    obtain ⟨⟨behind, hbehind⟩, hwrites⟩ := writes_anyIdent hname
    have hpath : isPathWord name.tokens = true := by
      rw [hbehind] at hword
      exact hword
    obtain ⟨found, r₂, hfound, h⟩ := bind_eq_ok.1 h
    have hsign := writes_sign? hfound
    cases found with
    | false =>
      cases h
      obtain rfl : r' = r₁ := hsign
      exact .last hpath hwrites
    | true =>
      cases h
      obtain ⟨s₁, s₂, hcolons⟩ := hsign
      exact .next hpath (hwrites.trans hcolons)

/-- **What a path writes are the tokens of its names**, if there are any and the operator does not
come last. -/
theorem writes_rounds {n : Nat} {ended : Bool}
    (h : iterateUpTo pathStep n (acc, trailing) r = .ok ((names, ended), r')) :
    names = acc.reverse ∧ isPathWord r.rest = false ∧ r' = r ∧ ended = trailing ∨
      names ≠ [] ∧ (ended = false →
        ∃ more ts, names = acc.reverse ++ more ∧ PathWritten more ts ∧ Writes r r' ts) := by
  induction n generalizing acc trailing r with
  | zero => exact absurd h fail_ne_ok
  | succ n ih =>
    obtain ⟨out, r₁, hstep, h⟩ := bind_eq_ok.1 h
    cases writes_step hstep with
    | stop word still =>
      cases h
      exact .inl ⟨rfl, word, still, rfl⟩
    | @next name word s₁ s₂ writes =>
      obtain ⟨rfl, -, -, rfl⟩ | ⟨hne, hmore⟩ := ih h
      · exact .inr ⟨by simp, nofun⟩
      · refine .inr ⟨hne, fun hended => ?_⟩
        obtain ⟨more, ts, rfl, hmore, hwrites⟩ := hmore hended
        refine ⟨name :: more, name.tokens ++ (colons s₁ s₂ ++ ts), ?_, .cons word s₁ s₂ hmore, ?_⟩
        · rw [List.reverse_cons, List.append_assoc, List.singleton_append]
        · rw [← List.append_assoc]
          exact writes.trans hwrites
    | @last name word writes =>
      cases h
      exact .inr ⟨by simp, fun _ => ⟨[name], name.tokens, List.reverse_cons, .last word, writes⟩⟩

/-- Where no word of a path comes first, no name does. -/
theorem not_ident (h : isPathWord r.rest = false) {found : Ident × Reader} :
    ident r ≠ .ok found := by
  intro hident
  rw [ident, get_bind] at hident
  cases hrest : r.rest with
  | nil =>
    rw [hrest] at hident
    exact absurd hident expected_ne_ok
  | cons first behind =>
    rw [hrest] at hident h
    cases first with
    | word text span =>
      have hfree : Ident.isReserved text = true := by
        have hname := (Bool.or_eq_false_iff.1 h).1
        simpa [isName] using hname
      dsimp only at hident
      rw [hfree, if_pos rfl] at hident
      exact absurd hident fail_ne_ok
    | _ => exact absurd hident expected_ne_ok

theorem writes_pathBehind {colon : Bool} {path : Bool × List Ident}
    (h : pathBehind colon r = .ok (path, r')) :
    ∃ names ts, path = (colon, names) ∧ PathWritten names ts ∧ Writes r r' ts := by
  obtain ⟨⟨names, ended⟩, r₁, hiterate, hend⟩ := bind_eq_ok.1 h
  obtain ⟨_, _, ⟨⟩, hrounds⟩ := bind_eq_ok.1 hiterate
  dsimp only at hend
  obtain ⟨rfl, hword, rfl, -⟩ | ⟨hne, hmore⟩ := writes_rounds hrounds
  · obtain ⟨i, r₂, hident, -⟩ := bind_eq_ok.1 hend
    exact absurd hident (not_ident hword)
  · rw [List.isEmpty_eq_false_iff.2 hne] at hend
    cases ended with
    | true =>
      obtain ⟨_, _, hexpected, -⟩ := bind_eq_ok.1 hend
      exact absurd hexpected expected_ne_ok
    | false =>
      obtain ⟨_, ts, rfl, hpath, hwrites⟩ := hmore rfl
      cases hend
      exact ⟨names, ts, rfl, hpath, hwrites⟩

/-- **An attribute's path is read again from what it writes**, before anything but the operator. -/
theorem rereads_attributePath {path : Bool × List Ident} (h : attributePath r = .ok (path, r')) :
    ∃ ts, Writes r r' ts ∧
      ∀ rest, isOp "::" rest = false → Takes attributePath ts rest (· = path) := by
  obtain ⟨word, _, ⟨⟩, h⟩ := bind_eq_ok.1 h
  cases hword : isKw "unsafe" r.rest with
  | true =>
    rw [hword, if_pos rfl] at h
    obtain ⟨name, r₁, hname, h⟩ := bind_eq_ok.1 h
    cases h
    obtain ⟨⟨behind, hbehind⟩, hwrites⟩ := writes_anyIdent hname
    refine ⟨name.tokens, hwrites, fun rest _ => takes_bind_left (takes_peek _) ?_⟩
    rintro _ rfl
    have hmarked : isKw "unsafe" (name.tokens ++ rest) = true := by
      rw [hbehind] at hword
      exact hword
    rw [hmarked, if_pos rfl]
    refine takes_bind_right (takes_anyIdent name) ?_
    rintro _ rfl
    exact takes_pure rfl
  | false =>
    rw [hword, if_neg Bool.false_ne_true, plainPath_eq] at h
    obtain ⟨colon, r₁, hcolon, h⟩ := bind_eq_ok.1 h
    obtain ⟨names, ts, rfl, hpath, hwrites⟩ := writes_pathBehind h
    have hsign := writes_sign? hcolon
    cases colon with
    | false =>
      obtain rfl : r₁ = r := hsign
      refine ⟨ts, hwrites, fun rest hrest => takes_bind_left (takes_peek _) ?_⟩
      obtain ⟨hop, hkw⟩ := hpath.starts rest
      rintro _ rfl
      rw [hkw, if_neg Bool.false_ne_true, plainPath_eq]
      refine takes_bind_left (takes_no_sign? hop) ?_
      rintro _ rfl
      exact takes_pathBehind hpath hrest false
    | true =>
      obtain ⟨s₁, s₂, hcolons⟩ := hsign
      refine ⟨colons s₁ s₂ ++ ts, hcolons.trans hwrites, fun rest hrest =>
        takes_bind_left (takes_peek _) ?_⟩
      rintro _ rfl
      have hkw : isKw "unsafe" (colons s₁ s₂ ++ ts ++ rest) = false := rfl
      rw [hkw, if_neg Bool.false_ne_true, plainPath_eq]
      refine takes_bind takes_sign? ?_
      rintro _ rfl
      exact takes_pathBehind hpath hrest true

/-! ## The content of an attribute -/

variable {α : Type} {P : α → Prop} {p : Parser α} {g : Grammar}

theorem takes_spanned (h : Takes p ts rest P) :
    Takes (spanned p) ts rest fun found => P found.1 := by
  intro r hr
  obtain ⟨a, r', hread, ha, hrest, hwrites⟩ := h r hr
  exact ⟨_, r', bind_eq_ok.2 ⟨r, r, rfl, bind_eq_ok.2 ⟨a, r', hread, rfl⟩⟩, ha, hrest, hwrites⟩

theorem takes_anyGroup (d : Delimiter) (body : Tokens) (span : Span) :
    Takes anyGroup [.group d body span] rest fun _ => True := by
  rintro ⟨_, scope, within, last, leftover, written, mentioned⟩ rfl
  exact ⟨_, _, rfl, trivial, rfl, Array.toList_appendList, rfl⟩

theorem writes_anyGroup {found : Delimiter × Tokens × Span} (h : anyGroup r = .ok (found, r')) :
    ∃ d body span, r.rest = .group d body span :: r'.rest ∧ Writes r r' [.group d body span] := by
  obtain ⟨ts, scope, within, last, leftover, written, mentioned⟩ := r
  rw [anyGroup, get_bind] at h
  cases ts with
  | nil => exact absurd h expected_ne_ok
  | cons first behind =>
    cases first with
    | group d body span =>
      cases h
      exact ⟨d, body, span, rfl, Array.toList_appendList, rfl⟩
    | _ => exact absurd h expected_ne_ok

/-- **The content of an attribute is read again from what it writes**, with any grammar, unless it
is a value. -/
theorem rereads_attributeContent {path : Bool × List Ident} {form : AttributeForm}
    (h : attributeContent g r = .ok ((path, form), r'))
    (hform : ∀ span value, form ≠ .nameValue span value) :
    ∃ ts, Writes r r' ts ∧ ∀ g', Takes (attributeContent g') ts [] fun _ => True := by
  obtain ⟨⟨path, start⟩, r₁, hspanned, hbehind⟩ := bind_eq_ok.1 h
  obtain ⟨_, _, ⟨⟩, hspanned⟩ := bind_eq_ok.1 hspanned
  obtain ⟨_, r₂, hpath, ⟨⟩⟩ := bind_eq_ok.1 hspanned
  obtain ⟨ts, hwrites, htakes⟩ := rereads_attributePath hpath
  obtain ⟨_, _, ⟨⟩, hbehind⟩ := bind_eq_ok.1 hbehind
  cases hgroup : [isGroup .parenthesis, isGroup .bracket, isGroup .brace].any (· r₁.rest) with
  | true =>
    rw [hgroup, if_pos rfl] at hbehind
    obtain ⟨found, r₂, hfound, ⟨⟩⟩ := bind_eq_ok.1 hbehind
    obtain ⟨d, body, span, -, hlist⟩ := writes_anyGroup hfound
    refine ⟨ts ++ [.group d body span], hwrites.trans hlist, fun g' => ?_⟩
    refine takes_bind (takes_spanned (htakes _ rfl)) fun _ _ => ?_
    refine takes_bind_left (takes_peekAny _) ?_
    rintro _ rfl
    have hgroup : [isGroup .parenthesis, isGroup .bracket, isGroup .brace].any
        (· [.group d body span]) = true := by
      cases d <;> rfl
    rw [List.append_nil, hgroup, if_pos rfl]
    exact takes_bind_right (takes_anyGroup d body span) fun _ _ => takes_pure trivial
  | false =>
    rw [hgroup, if_neg Bool.false_ne_true] at hbehind
    obtain ⟨_, _, ⟨⟩, hbehind⟩ := bind_eq_ok.1 hbehind
    cases hvalue : isOp "=" r₁.rest with
    | true =>
      rw [hvalue, if_pos rfl] at hbehind
      obtain ⟨_, r₂, -, hbehind⟩ := bind_eq_ok.1 hbehind
      obtain ⟨_, r₃, -, hbehind⟩ := bind_eq_ok.1 hbehind
      obtain ⟨_, _, ⟨⟩, ⟨⟩⟩ := bind_eq_ok.1 hbehind
      exact absurd rfl (hform _ _)
    | false =>
      rw [hvalue, if_neg Bool.false_ne_true] at hbehind
      cases hbehind
      refine ⟨ts, hwrites, fun g' => ?_⟩
      refine takes_bind_right (takes_spanned (htakes [] rfl)) fun _ _ => ?_
      refine takes_bind_left (takes_peekAny _) ?_
      rintro _ rfl
      refine takes_bind_left (takes_peek _) ?_
      rintro _ rfl
      exact takes_pure trivial

/-! ## Complete attributes -/

theorem recorded_eq_ok {found : α × Tokens} (h : recorded p r = .ok (found, r')) :
    ∃ r₁, p { r with written := #[] } = .ok (found.1, r₁) ∧ found.2 = r₁.written.toList := by
  obtain ⟨captured, r₂, hcaptured, hwrite⟩ := bind_eq_ok.1 h
  change (p { r with written := #[] } >>= fun out => _) = _ at hcaptured
  cases hread : p { r with written := #[] } with
  | error e =>
    rw [hread] at hcaptured
    cases hcaptured
  | ok out =>
    rw [hread] at hcaptured
    cases hcaptured
    cases hwrite
    exact ⟨out.2, rfl, rfl⟩

theorem takes_recorded (h : Takes p ts rest P) :
    Takes (recorded p) ts rest fun found => P found.1 ∧ found.2 = ts := by
  intro r hr
  obtain ⟨a, r', hread, ha, hrest, hwritten, hleftover⟩ := h { r with written := #[] } hr
  have hts : r'.written.toList = ts := hwritten
  refine ⟨(a, r'.written.toList), { r' with written := r.written ++ r'.written.toList }, ?_,
    ⟨ha, hts⟩, hrest, ?_, hleftover⟩
  · change (p { r with written := #[] } >>= fun out => _) >>= (fun out => _) = _
    rw [hread]
    rfl
  · rw [← hts]
    exact Array.toList_appendList

/-- **A group is taken where its content is taken whole.** -/
theorem takes_inside {d : Delimiter} {body : Tokens} (h : Takes p body [] P) (span : Span) :
    Takes (inside d p) [.group d body span] rest P := by
  rintro ⟨_, scope, within, last, leftover, written, mentioned⟩ rfl
  obtain ⟨a, inner, hread, ha, hrest, hwritten, hleftover⟩ :=
    h ⟨body, span.closing, some d, span.opening, leftover, #[], mentioned⟩
      (List.append_nil body).symm
  have hbody : inner.written.toList = body := hwritten
  rw [inside]
  refine ⟨a, { inner with
    rest, scope, within, last := span, leftover
    written := written.push (.group d body span) }, ?_, ha, rfl, Array.toList_push, rfl⟩
  refine bind_eq_ok.2 ⟨_, _, rfl, ?_⟩
  dsimp only [List.singleton_append]
  rw [if_pos rfl]
  refine bind_eq_ok.2 ⟨(), _, rfl, bind_eq_ok.2 ⟨a, inner, hread, ?_⟩⟩
  refine bind_eq_ok.2 ⟨inner, inner, rfl, bind_eq_ok.2 ⟨(), _, rfl, ?_⟩⟩
  rw [hrest, hbody, hleftover]
  cases leftover <;> rfl

theorem takes_hash : Takes (sign "#") (op "#") rest fun _ => True := by
  rintro ⟨_, scope, within, last, leftover, written, mentioned⟩ rfl
  exact ⟨_, _, rfl, trivial, rfl, Array.toList_appendList, rfl⟩

/-- **An attribute is read from its content between its signs**, and keeps the tokens. -/
theorem takes_oneAttribute {content : Tokens}
    (h : Takes (attributeContent g) content [] fun _ => True) :
    Takes (oneAttribute g false) (op "#" ++ bracket content) rest
      fun a => a.tokens = op "#" ++ bracket content := by
  have hparts : Takes (do
      let _ ← sign "#"
      inside .bracket (attributeContent g)) (op "#" ++ bracket content) rest fun _ => True :=
    takes_bind takes_hash fun _ _ => takes_inside h .callSite
  refine takes_bind_right (takes_spanned (takes_recorded hparts)) ?_
  rintro ⟨⟨_, tokens⟩, span⟩ ⟨-, rfl⟩
  exact takes_pure rfl

end Grammar

/-- An attribute as it is read from the tokens that it prints. -/
def Attribute.reread (a : Attribute) : Except SyntaxError Attribute :=
  parseWith (Grammar.oneAttribute · false) .callSite a.tokens

open DeclSynth.Parser

/-- **An attribute that was read from the content of a literal is read again from what it prints**,
and prints the same, unless it has a value. -/
theorem FieldAttribute.exists_reread_of_ofLiteral? {text : String} {a : Attribute}
    (h : ofLiteral? text = some a) (hform : ∀ span value, a.form ≠ .nameValue span value) :
    ∃ b, a.reread = .ok b ∧ b.tokens = a.tokens := by
  -- what the literal holds was read to its end, and printed between the signs of an attribute
  obtain ⟨content, htokens, htakes⟩ : ∃ content, a.tokens = op "#" ++ bracket content ∧
      ∀ g, Takes (Grammar.attributeContent g) content [] fun _ => True := by
    unfold ofLiteral? at h
    split at h
    · cases h
    · obtain ⟨ts, -, hread⟩ := Option.bind_eq_some_iff.1 h
      obtain ⟨r, hread, -, -⟩ := parseWith_eq_ok.1 (eq_ok_of_toOption hread)
      obtain ⟨⟨⟨⟨⟨colon, path⟩, form⟩, content⟩, span⟩, r₁, hspanned, ⟨⟩⟩ := bind_eq_ok.1 hread
      obtain ⟨_, _, ⟨⟩, hspanned⟩ := bind_eq_ok.1 hspanned
      obtain ⟨found, r₂, hrecorded, ⟨⟩⟩ := bind_eq_ok.1 hspanned
      obtain ⟨r₃, hcontent, hwritten⟩ := Grammar.recorded_eq_ok hrecorded
      obtain ⟨content', hwrites, htakes⟩ := Grammar.rereads_attributeContent hcontent hform
      have hsame : content' = content := by
        rw [← List.nil_append content']
        exact hwrites.written.symm.trans hwritten.symm
      exact ⟨content, rfl, hsame ▸ htakes⟩
  obtain ⟨b, r, hread, htokens', hrest, hwrites⟩ :=
    Grammar.takes_oneAttribute (htakes _) (.start .callSite a.tokens) (htokens.trans rfl)
  refine ⟨b, parseWith_eq_ok.2 ⟨r, hread, hwrites.leftover, hrest⟩, htokens'.trans htokens.symm⟩

end DeclSynth
