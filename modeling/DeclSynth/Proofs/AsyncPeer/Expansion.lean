import DeclSynth.Proofs.InContext.Expanders

/-!
# When a function gets a peer

An expansion succeeds exactly when its arguments are valid, its item is a
function, and the function has a completion handler; what it yields is then
the function and, behind it, the peer that `AsyncPeer.of` makes
(`expand_eq_ok_iff`). Everything said of accepted functions starts here.
-/

namespace DeclSynth.AsyncPeer

variable {c : Config} {args item out : Tokens} {flag : Bool} {p : AsyncPeer}

/-- **The peer of an accepted function**, with all that was checked for it. -/
structure Arises (c : Config) (args item : Tokens) (flag : Bool) (p : AsyncPeer) : Prop where
  arguments : ∃ l, ArgumentList.parse args = .ok l ∧ l.validate spec = .ok () ∧
    inImplFlag l = .ok flag ∧ c.runtimeFor l = .ok p.runtime
  parsed : Item.parse item = .ok (.fn p.original)
  handled : CompletionHandler.ofSignature p.original.sig = .ok p.handler
  made : AsyncPeer.of p.original p.handler flag p.runtime c.asyncSuffix = .ok p

/-- A peer keeps what it is made of. -/
theorem of_eq_ok {f : FnItem} {h : CompletionHandler} {runtime : Path} {suffix : String}
    (hp : AsyncPeer.of f h flag runtime suffix = .ok p) :
    ∃ name : Ident, name.text = f.sig.name.plainText ++ suffix ∧
      p = { original := f
            handler := h
            sig := signature f.sig h name
            forwarded := (kept f.sig).filterMap fun (q, index) => forward? index q
            callee := calleeOf f.sig flag
            runtime } := by
  unfold AsyncPeer.of at hp
  rw [except_bind_eq_ok] at hp
  obtain ⟨name, hname, hp⟩ := hp
  exact ⟨name, Ident.text_of_ofText hname, (Except.ok.inj hp).symm⟩

/-- **An expansion yields a function and its peer**, and only those. -/
theorem expand_eq_ok_iff :
    (expand c args item).result = .ok out ↔
      ∃ flag p, Arises c args item flag p ∧ out = p.original.tokens ++ p.tokens := by
  rw [expand, (carriesOut_inContext c args item).fresh_eq]
  simp only [Outcome.result_bind_eq_ok, Outcome.result_liftM_syntax, Outcome.result_liftM_failure]
  constructor
  · rintro ⟨l, hl, ⟨⟩, hv, flag, hflag, runtime, hruntime, it, hit, hout⟩
    cases it with
    | fn f =>
      simp only [Outcome.result_bind_eq_ok, Outcome.result_liftM_failure,
        Outcome.result_liftM_name, Outcome.result_pure, Except.ok.injEq] at hout
      obtain ⟨h, hh, p, hp, ⟨⟩, -, rfl⟩ := hout
      obtain ⟨name, -, hfields⟩ := of_eq_ok hp
      -- what the peer is made of are its own fields, so `Arises` can speak of the peer alone
      have hf : p.original = f := by rw [hfields]
      have hr : p.runtime = runtime := by rw [hfields]
      have hhandler : p.handler = h := by rw [hfields]
      subst hf hr hhandler
      exact ⟨flag, p, ⟨⟨l, hl, hv, hflag, hruntime⟩, hit, hh, hp⟩, rfl⟩
    | _ => simp at hout
  · rintro ⟨flag, p, hp, rfl⟩
    obtain ⟨l, hl, hv, hflag, hruntime⟩ := hp.arguments
    refine ⟨l, hl, (), hv, flag, hflag, p.runtime, hruntime, .fn p.original, hp.parsed, ?_⟩
    simp only [Outcome.result_bind_eq_ok, Outcome.result_liftM_failure, Outcome.result_liftM_name]
    exact ⟨p.handler, hp.handled, p, hp.made, (), by simp, rfl⟩

/-- The signature of a peer, under the name it is given. -/
theorem Arises.sig_eq (hp : Arises c args item flag p) :
    ∃ name : Ident, name.text = p.original.sig.name.plainText ++ c.asyncSuffix ∧
      p.sig = signature p.original.sig p.handler name := by
  obtain ⟨name, hname, hp⟩ := of_eq_ok hp.made
  exact ⟨name, hname, by rw [hp]⟩

/-- Whether the arguments begin with the bare flag `in_impl`. -/
def GivesFlag (args : Tokens) : Prop :=
  ∃ l value qualified path, ArgumentList.parse args = .ok l ∧ l.positional = some value ∧
    value.outline = .path qualified path ∧ path.isIdent "in_impl"

/-- The flag of a peer is the one its arguments give. -/
theorem Arises.flag_iff (hp : Arises c args item flag p) :
    flag = true ↔ GivesFlag args := by
  obtain ⟨l, hl, -, hflag, -⟩ := hp.arguments
  unfold inImplFlag at hflag
  constructor
  · rintro rfl
    split at hflag
    · cases hflag
    · rename_i value hvalue
      simp only at hflag
      split at hflag
      · rename_i qualified path houtline
        split at hflag
        · rename_i hpath
          exact ⟨l, value, qualified, path, hl, hvalue, houtline, hpath⟩
        · cases hflag
      · cases hflag
  · rintro ⟨l', value, qualified, path, hl', hvalue, houtline, hpath⟩
    obtain rfl : l = l' := Except.ok.inj (hl.symm.trans hl')
    simp only [hvalue, houtline, inImpl, hpath, ↓reduceIte] at hflag
    exact (Except.ok.inj hflag).symm

/-- The last parameter of an accepted function holds its handler. -/
theorem Arises.last (hp : Arises c args item flag p) :
    CompletionHandler.last? p.original.sig = some p.handler ∧
      p.handler.call.inputs.length ≤ 1 := by
  have hh := hp.handled
  unfold CompletionHandler.ofSignature at hh
  simp only [except_bind_eq_ok] at hh
  obtain ⟨⟨⟩, -, ⟨⟩, -, hh⟩ := hh
  split at hh
  · cases hh
  · rename_i h hlast
    simp only [except_bind_eq_ok] at hh
    obtain ⟨⟨⟩, -, ⟨⟩, harity, ⟨⟩, -, hh⟩ := hh
    obtain rfl : h = p.handler := Except.ok.inj hh
    refine ⟨hlast, ?_⟩
    -- a second input is the one thing that the arity check refuses
    unfold CompletionHandler.checkArity at harity
    split at harity
    · cases harity
    · rename_i hne
      rcases hinputs : p.handler.call.inputs with - | ⟨first, - | ⟨second, rest⟩⟩
      · simp
      · simp
      · exact absurd hinputs (hne first second rest)

/-- What a check of the function and its handler computes holds of an accepted function. -/
theorem Arises.of_check (hp : Arises c args item flag p) (check : FnItem → CompletionHandler → Bool)
    (hcheck : ((Item.parse item).toOption.any fun
      | .fn f => (CompletionHandler.last? f.sig).any (check f)
      | _ => false) = true) : check p.original p.handler = true := by
  rw [hp.parsed] at hcheck
  simpa [Except.toOption, hp.last.1] using hcheck

end DeclSynth.AsyncPeer
