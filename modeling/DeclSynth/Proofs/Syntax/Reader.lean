import DeclSynth.Syntax.Parse

/-!
# What readings yield

`Yields p P` says that whatever a reading `p` yields satisfies `P`, whatever it is
read from. This is carried through sequences and repetitions, so that a list of
names is known to hold no reserved word (`yields_ident`, `yields_commaSeparated`)
and neither is a name that is read on its own (`not_isReserved_of_parse`).
-/

namespace DeclSynth.Parser

variable {α β σ : Type} {P : α → Prop} {Q : β → Prop} {p : Parser α} {f : α → Parser β}

/-- A sequence yields a value when both parts do, the second from where the first one stopped. -/
theorem bind_eq_ok {r : Reader} {result : β × Reader} :
    (p >>= f) r = .ok result ↔ ∃ a r', p r = .ok (a, r') ∧ f a r' = .ok result := by
  change (p r >>= fun pair => f pair.1 pair.2) = _ ↔ _
  cases h : p r with
  | error e => simp [bind, Except.bind]
  | ok pair =>
    constructor
    · exact fun hf => ⟨pair.1, pair.2, rfl, hf⟩
    · rintro ⟨a, r', ⟨⟩, hf⟩
      exact hf

/-- A reading that looks at the reader goes on where the reader is. -/
theorem get_bind (f : Reader → Parser β) (r : Reader) : (get >>= f) r = f r r := rfl

/-- Whatever a reading yields satisfies a property. -/
def Yields (p : Parser α) (P : α → Prop) : Prop := ∀ r a r', p r = .ok (a, r') → P a

theorem yields_pure {a : α} (h : P a) : Yields (pure a) P := by
  intro r b r' hb
  cases hb
  exact h

theorem yields_bind (hp : Yields p P) (hf : ∀ a, P a → Yields (f a) Q) : Yields (p >>= f) Q := by
  intro r b r' hb
  obtain ⟨a, r₁, ha, hb⟩ := bind_eq_ok.1 hb
  exact hf a (hp r a r₁ ha) r₁ b r' hb

theorem yields_bind_any (hf : ∀ a, Yields (f a) Q) : Yields (p >>= f) Q :=
  yields_bind (P := fun _ => True) (fun _ _ _ _ => trivial) fun a _ => hf a

theorem yields_throw (e : SyntaxError) : Yields (throw e) P := by
  intro r a r' h
  cases h

theorem yields_fail (cause : SyntaxCause) : Yields (fail cause) P :=
  yields_bind_any fun _ => yields_bind_any fun _ => yields_throw _

theorem yields_expected (wanted : List Wanted) : Yields (expected wanted) P := yields_fail _

/-- A reading that stops has no result. -/
theorem fail_ne_ok {cause : SyntaxCause} {r : Reader} {found : α × Reader} :
    fail cause r ≠ .ok found :=
  yields_fail (P := fun _ => False) cause r found.1 found.2

theorem expected_ne_ok {wanted : List Wanted} {r : Reader} {found : α × Reader} :
    expected wanted r ≠ .ok found :=
  fail_ne_ok

/-- Nothing follows what was not there. -/
theorem yields_expected_bind (wanted : List Wanted) (f : Unit → Parser α) :
    Yields (expected wanted >>= f) P :=
  yields_bind (P := fun _ => False) (yields_expected wanted) nofun

theorem yields_ite {c : Prop} [Decidable c] {q : Parser α} (hp : Yields p P) (hq : Yields q P) :
    Yields (if c then p else q) P := by
  split
  · exact hp
  · exact hq

theorem yields_inside {d : Delimiter} (h : Yields p P) : Yields (inside d p) P := by
  refine yields_bind_any fun _ => ?_
  split
  · refine yields_ite ?_ (yields_expected _)
    refine yields_bind_any fun _ => yields_bind h fun a ha => ?_
    exact yields_bind_any fun _ => yields_bind_any fun _ => yields_pure ha
  · exact yields_expected _

theorem yields_unmentionedIf {unread : α → Bool} (h : Yields p P) :
    Yields (unmentionedIf unread p) P :=
  yields_bind_any fun _ => yields_bind h fun _ ha => yields_bind_any fun _ => yields_pure ha

theorem yields_verbatim (h : Yields p P) : Yields (verbatim p) fun found => P found.1 := by
  refine yields_bind_any fun _ => yields_bind (P := fun found => P found.1) ?_ fun _ hfound => ?_
  · refine yields_bind_any fun _ => yields_bind_any fun _ => yields_bind h fun a ha => ?_
    exact yields_bind_any fun _ => yields_bind_any fun _ => yields_pure ha
  · exact yields_bind_any fun _ => yields_bind_any fun _ => yields_pure hfound

/-! ## Names -/

theorem text_of_ofText? {text : String} {span : Span} {i : Ident}
    (h : Ident.ofText? text span = some i) : i.text = text := by
  unfold Ident.ofText? at h
  split at h
  · rw [← Option.some.inj h]
  · cases h

/-- What is taken for an identifier is the word that comes first. -/
theorem text_of_anyIdent {r r' : Reader} {i : Ident} {t : String} {span : Span} {rest : Tokens}
    (hrest : r.rest = .word t span :: rest) (h : anyIdent r = .ok (i, r')) : i.text = t := by
  rw [anyIdent, get_bind, hrest] at h
  dsimp only at h
  cases hi : Ident.ofText? t span with
  | none =>
    rw [hi] at h
    exact absurd h expected_ne_ok
  | some j =>
    rw [hi] at h
    have hj : i = j := yields_bind_any (Q := (· = j)) (fun _ => yields_pure rfl) r i r' h
    rw [hj, text_of_ofText? hi]

/-- **A name that is read is no reserved word.** -/
theorem yields_ident : Yields ident fun i => Ident.isReserved i.text = false := by
  intro r i r' h
  rw [ident, get_bind] at h
  cases hrest : r.rest with
  | nil =>
    rw [hrest] at h
    exact absurd h expected_ne_ok
  | cons first rest =>
    rw [hrest] at h
    cases first with
    | word t span =>
      dsimp only at h
      cases hfree : Ident.isReserved t with
      | true =>
        rw [hfree, if_pos rfl] at h
        exact absurd h fail_ne_ok
      | false =>
        rw [hfree, if_neg Bool.false_ne_true] at h
        rw [text_of_anyIdent hrest h]
        exact hfree
    | _ => exact absurd h expected_ne_ok

/-! ## Repetition -/

/-- **What a repetition keeps satisfied from step to step holds in the end.** -/
theorem yields_iterate {σ : Type} {step : σ → Parser (σ ⊕ α)} {I : σ → Prop}
    (hstep : ∀ s, I s → Yields (step s) fun | .inl next => I next | .inr result => P result)
    {s : σ} (hs : I s) : Yields (iterate step s) P := by
  have hrounds : ∀ (n : Nat) (s : σ), I s → Yields (iterateUpTo step n s) P := by
    intro n
    induction n with
    | zero => exact fun _ _ => yields_fail _
    | succ n ih =>
      intro s hs
      refine yields_bind (hstep s hs) fun out hout => ?_
      cases out with
      | inl next => exact ih next hout
      | inr result => exact yields_pure hout
  exact yields_bind_any fun _ => hrounds _ s hs

/-- What holds of each value that is read holds of all values of a list. -/
theorem yields_commaSeparated (h : Yields p P) :
    Yields (commaSeparated p) fun l => ∀ v ∈ l.values, P v := by
  refine yields_iterate (I := fun s => ∀ v ∈ s.1, P v) ?_ nofun
  rintro ⟨values, trailing⟩ hvalues
  refine yields_bind_any fun stopped => ?_
  cases stopped with
  | true => exact yields_pure fun v hv => hvalues v (List.mem_reverse.1 hv)
  | false =>
    refine yields_bind h fun v hv => yields_bind_any fun ended => ?_
    have hmore : ∀ w ∈ v :: values, P w := List.forall_mem_cons.2 ⟨hv, hvalues⟩
    cases ended with
    | true => exact yields_pure fun w hw => hmore w (List.mem_reverse.1 hw)
    | false => exact yields_bind_any fun _ => yields_pure hmore

/-! ## Complete readings -/

theorem of_parseWith {rule : Grammar → Parser α} {scope : Span} {ts : Tokens} {a : α}
    (h : parseWith rule scope ts = .ok a) (hrule : Yields (rule (Grammar.forTokens ts)) P) :
    P a := by
  unfold parseWith Parser.run at h
  cases hread : rule (Grammar.forTokens ts) ⟨ts, scope, none, .callSite, none, #[], #[]⟩ with
  | error e =>
    simp [StateT.run, hread, bind, Except.bind] at h
  | ok pair =>
    simp only [StateT.run, hread, bind, Except.bind] at h
    split at h
    · cases h
    · cases h
    · cases h
      exact hrule _ _ _ hread

/-- **A name that is read on its own is no reserved word.** -/
theorem not_isReserved_of_parse {ts : Tokens} {i : Ident} (h : Ident.parse ts = .ok i) :
    Ident.isReserved i.text = false :=
  of_parseWith (P := fun i => Ident.isReserved i.text = false) h yields_ident

end DeclSynth.Parser
