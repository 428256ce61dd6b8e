import DeclSynth.Expansion.AsyncPeer.Handler
import DeclSynth.Proofs.Scope

/-!
# The bound that makes a handler

A completion handler is found through one function bound: of the `impl` or
`dyn` type it has, of its type parameter, or of a predicate about that.
`Signature.site?` finds the bound with the `for<..>` around it, which
`CompletionHandler` leaves out, and `call_site?` says that it is the bound
the handler was taken from. What is called with is mentioned inside that
bound, so its free names are those of the signature or bound by the
handler's own `for<..>` (`mem_freeNames_of_site?`).
-/

namespace DeclSynth

/-- A function bound, and the `for<..>` of the predicate that it stands in. -/
structure CallSite where
  binder : Option Binder
  bound : Bound

/-- The lifetimes that the `for<..>` of a bound binds. -/
def Bound.lifetimes : Bound → List String
  | .trait _ _ binder _ => binderLifetimes binder
  | .lifetime _ | .capture .. | .verbatim _ => []

/-- The names that the arguments of a function bound mention. -/
def Bound.argumentNames (b : Bound) : List GenericName :=
  match b.call? with
  | some call => namesInTypes call.inputs
  | none => []

namespace CallSite

/-- The lifetimes that a handler's own `for<..>` binds, on the bound or on the predicate. -/
def lifetimes (s : CallSite) : List String := binderLifetimes s.binder ++ s.bound.lifetimes

/-- A handler is called with a lifetime that its own `for<..>` binds. -/
def PassesBound (s : CallSite) : Prop :=
  ∃ l ∈ s.lifetimes, GenericName.lifetime l ∈ s.bound.argumentNames

instance (s : CallSite) : Decidable s.PassesBound := inferInstanceAs (Decidable (∃ _ ∈ _, _))

/-- The first function bound among bounds that stand under a `for<..>`. -/
def ofBounds? (binder : Option Binder) (bounds : List Bound) : Option CallSite :=
  (bounds.find? (·.call?.isSome)).map (⟨binder, ·⟩)

/-- The function bound on a type parameter where it is declared. -/
def ofParam? (name : Ident) : GenericParam → Option CallSite
  | .type p => if p.name.sameName name then ofBounds? none p.bounds else none
  | .lifetime _ | .const _ => none

/-- The function bound in a predicate on a type parameter. -/
def ofPredicate? (name : Ident) : WherePredicate → Option CallSite
  | .type binder bounded bounds _ => if bounded.isIdent name then ofBounds? binder bounds else none
  | .lifetime .. => none

/-- The function bound on a type parameter, where it is declared or else in the where clause. -/
def ofName? (g : Generics) (name : Ident) : Option CallSite :=
  g.params.findSome? (ofParam? name) <|> g.predicates.findSome? (ofPredicate? name)

/-- The function bound of the object type that is the first of some arguments. -/
def ofBox? : Arguments → Option CallSite
  | .angle (.mk _ (.type (.traitObject _ _ bounds _) :: _) _) => ofBounds? none bounds
  | _ => none

/-- The function bound of a named type: a box's, or a type parameter's. -/
def ofPath? (g : Generics) (path : Path) : Option CallSite :=
  match path.segments.getLast? with
  | none => none
  | some segment =>
    if segment.name.text == "Box" then ofBox? segment.arguments else path.ident?.bind (ofName? g)

/-- The function bound of a handler's type. -/
def ofTy? (g : Generics) : Ty → Option CallSite
  | .paren _ elem => ofTy? g elem
  | .group _ elem => ofTy? g elem
  | .implTrait _ bounds _ => ofBounds? none bounds
  | .reference _ _ _ _ (.traitObject _ _ bounds _) => ofBounds? none bounds
  | .path _ none path => ofPath? g path
  | _ => none

/-- The call that is made at a site. -/
def call? (s : CallSite) : Option CallShape := s.bound.call?

end CallSite

/-- The function bound of a signature's completion handler. -/
def Signature.site? (s : Signature) : Option CallSite :=
  match s.inputs.getLast? with
  | some (.typed _ _ ty) => CallSite.ofTy? s.generics ty
  | _ => none

/-! ## The handler's call -/

namespace CallSite

theorem call_ofBounds? (binder : Option Binder) (bounds : List Bound) :
    (ofBounds? binder bounds).bind call? = callOfBounds? bounds := by
  unfold ofBounds? callOfBounds?
  induction bounds with
  | nil => rfl
  | cons b rest ih =>
    rw [List.find?_cons, List.findSome?_cons]
    cases hb : b.call? with
    | none => simpa [hb] using ih
    | some call => simp [hb, call?]

/-- A search through several places finds the same site and call. -/
theorem call_findSome? {α : Type} (site : α → Option CallSite) (call : α → Option CallShape)
    (h : ∀ a, (site a).bind call? = call a) (hsome : ∀ a s, site a = some s → (call? s).isSome)
    (l : List α) : (l.findSome? site).bind call? = l.findSome? call := by
  induction l with
  | nil => rfl
  | cons a rest ih =>
    rw [List.findSome?_cons, List.findSome?_cons, ← h a]
    cases hs : site a with
    | none => simpa using ih
    | some s =>
      obtain ⟨c, hc⟩ := Option.isSome_iff_exists.1 (hsome a s hs)
      simp [hc]

/-- The bound of a site makes a call. -/
theorem isSome_call_of_ofBounds? {binder : Option Binder} {bounds : List Bound} {s : CallSite}
    (h : ofBounds? binder bounds = some s) : s.call?.isSome := by
  unfold ofBounds? at h
  obtain ⟨b, hb, rfl⟩ := Option.map_eq_some_iff.1 h
  simpa [call?] using List.find?_some hb

theorem isSome_call_of_ofParam? {name : Ident} {g : GenericParam} {s : CallSite}
    (h : ofParam? name g = some s) : s.call?.isSome := by
  cases g with
  | type p =>
    simp only [ofParam?, Option.ite_none_right_eq_some] at h
    exact isSome_call_of_ofBounds? h.2
  | lifetime p => cases h
  | const p => cases h

theorem isSome_call_of_ofPredicate? {name : Ident} {w : WherePredicate} {s : CallSite}
    (h : ofPredicate? name w = some s) : s.call?.isSome := by
  cases w with
  | type binder bounded bounds trailing =>
    simp only [ofPredicate?, Option.ite_none_right_eq_some] at h
    exact isSome_call_of_ofBounds? h.2
  | lifetime l bounds trailing => cases h

theorem call_ofParam? (name : Ident) (g : GenericParam) :
    (ofParam? name g).bind call? = g.callOf? name := by
  cases g with
  | type p =>
    simp only [ofParam?, GenericParam.callOf?]
    split
    · exact call_ofBounds? none p.bounds
    · rfl
  | lifetime p => rfl
  | const p => rfl

theorem call_ofPredicate? (name : Ident) (w : WherePredicate) :
    (ofPredicate? name w).bind call? = w.callOf? name := by
  cases w with
  | type binder bounded bounds trailing =>
    simp only [ofPredicate?, WherePredicate.callOf?]
    split
    · exact call_ofBounds? binder bounds
    · rfl
  | lifetime l bounds trailing => rfl

/-- **The bound on a type parameter makes its call**, declared with it or in the where clause. -/
theorem call_ofName? (g : Generics) (name : Ident) :
    (ofName? g name).bind call? = g.callOf? name := by
  have hparams := call_findSome? (ofParam? name) (GenericParam.callOf? name)
    (call_ofParam? name) (fun _ _ => isSome_call_of_ofParam?) g.params
  have hpredicates := call_findSome? (ofPredicate? name) (WherePredicate.callOf? name)
    (call_ofPredicate? name) (fun _ _ => isSome_call_of_ofPredicate?) g.predicates
  have hclause : (g.clause.bind fun w => w.predicates.findSome? (WherePredicate.callOf? name)) =
      g.predicates.findSome? (WherePredicate.callOf? name) := by
    unfold Generics.predicates
    cases g.clause <;> rfl
  -- both searches try the parameters first, and what one of them finds makes a call
  unfold ofName? Generics.callOf?
  rw [← hparams, hclause, ← hpredicates]
  cases hs : g.params.findSome? (ofParam? name) with
  | none => simp
  | some s =>
    obtain ⟨q, -, hq⟩ := List.exists_of_findSome?_eq_some hs
    obtain ⟨call, hcall⟩ := Option.isSome_iff_exists.1 (isSome_call_of_ofParam? hq)
    simp [hcall]

theorem call_ofBox? (arguments : Arguments) :
    (ofBox? arguments).bind call? = (CompletionHandler.ofBox? arguments).map (·.call) := by
  fun_cases CompletionHandler.ofBox? arguments with
  | case1 turbofish span word bounds trailing rest comma =>
    simp [ofBox?, call_ofBounds?, Function.comp_def]
  | case2 arguments hne => simp [ofBox?]

/-- The bound of a named type makes its call. -/
theorem call_ofPath? (g : Generics) (path : Path) :
    (ofPath? g path).bind call? = (CompletionHandler.ofPath? g path).map (·.call) := by
  unfold ofPath? CompletionHandler.ofPath?
  cases path.segments.getLast? with
  | none => rfl
  | some segment =>
    dsimp only
    split
    · exact call_ofBox? segment.arguments
    · cases path.ident? with
      | none => rfl
      | some name =>
        simp only [Option.bind_some, call_ofName?, Option.pure_def, Option.bind_eq_bind]
        cases g.callOf? name <;> rfl

/-- **The bound in a handler's type makes the handler's call.** -/
theorem call_ofTy? (g : Generics) (ty : Ty) :
    (ofTy? g ty).bind call? = (CompletionHandler.ofTy? g ty).map (·.call) := by
  induction ty using CompletionHandler.ofTy?.induct with
  | case1 span elem ih => simpa [ofTy?, CompletionHandler.ofTy?] using ih
  | case2 span elem ih => simpa [ofTy?, CompletionHandler.ofTy?] using ih
  | case3 span bounds trailing =>
    simp [ofTy?, CompletionHandler.ofTy?, call_ofBounds?, Function.comp_def]
  | case4 span ampersand lifetime mutable span' word bounds trailing =>
    simp [ofTy?, CompletionHandler.ofTy?, call_ofBounds?, Function.comp_def]
  | case5 span path => simpa only [ofTy?, CompletionHandler.ofTy?] using call_ofPath? g path
  | case6 ty h1 h2 h3 h4 h5 => simp [ofTy?, CompletionHandler.ofTy?]

end CallSite

/-- **A signature's handler is called as its function bound says.** -/
theorem Signature.call_site? (s : Signature) :
    s.site?.bind CallSite.call? = (CompletionHandler.last? s).map (·.call) := by
  unfold Signature.site? CompletionHandler.last?
  rcases s.inputs.getLast? with - | (r | ⟨attributes, pat, ty⟩)
  · rfl
  · rfl
  · exact CallSite.call_ofTy? s.generics ty

/-! ## Free names at a site -/

section Names

variable {n : GenericName}

/-- **What a function is called with is mentioned by its bound**, but for the lifetimes that the
bound's own `for<..>` binds. -/
theorem Bound.mem_freeNames_of_argument {b : Bound} (hn : n ∈ b.argumentNames) :
    n ∈ b.freeNames ∨ ∃ l ∈ b.lifetimes, n = .lifetime l := by
  cases b with
  | trait parenthesized relaxed binder path =>
    simp only [Bound.argumentNames, Bound.call?] at hn
    rcases hlast : path.segments.getLast? with - | ⟨name, arguments⟩
    · simp [hlast] at hn
    · rw [hlast] at hn
      rcases arguments with - | angle | ⟨inputs, trailing, output⟩
      · simp at hn
      · simp at hn
      · have hinputs : n ∈ namesInTypes inputs := by
          dsimp only at hn
          split at hn
          · rename_i call hcall
            split at hcall
            · obtain rfl := Option.some.inj hcall
              exact hn
            · cases hcall
          · cases hn
        have hpath : n ∈ path.freeNames :=
          mem_freeNames_of_segment (List.mem_of_getLast? hlast)
            (List.mem_append_left (namesInOutput output) hinputs)
        by_cases hbound : ∃ l ∈ binderLifetimes binder, n = .lifetime l
        · exact .inr hbound
        · refine .inl (mem_unbound.2 ⟨List.mem_append_right _ hpath, fun l hl he => ?_⟩)
          exact hbound ⟨l, hl, he⟩
  | lifetime l => cases hn
  | capture captured trailing => cases hn
  | verbatim tokens => cases hn

namespace CallSite

variable {s : CallSite} {g : Generics} {name : Ident}

theorem eq_of_ofBounds? {binder : Option Binder} {bounds : List Bound}
    (h : ofBounds? binder bounds = some s) : s.binder = binder ∧ s.bound ∈ bounds := by
  unfold ofBounds? at h
  obtain ⟨b, hb, rfl⟩ := Option.map_eq_some_iff.1 h
  exact ⟨rfl, List.mem_of_find?_eq_some hb⟩

/-- A name is free at a site, or the handler's own `for<..>` on the predicate binds it. -/
def FreeIn (s : CallSite) (n : GenericName) (names : List GenericName) : Prop :=
  n ∈ names ∨ ∃ l ∈ binderLifetimes s.binder, n = .lifetime l

theorem FreeIn.mono {names names' : List GenericName} (h : s.FreeIn n names)
    (hsub : n ∈ names → n ∈ names') : s.FreeIn n names' :=
  h.imp_left hsub

theorem freeIn_ofBounds? {binder : Option Binder} {bounds : List Bound}
    (h : ofBounds? binder bounds = some s) (hn : n ∈ s.bound.freeNames) :
    n ∈ namesInBounds bounds :=
  mem_namesInBounds.2 ⟨s.bound, (eq_of_ofBounds? h).2, hn⟩

theorem freeIn_ofParam? {q : GenericParam} (h : ofParam? name q = some s)
    (hn : n ∈ s.bound.freeNames) : n ∈ q.freeNames := by
  cases q with
  | type p =>
    simp only [ofParam?, Option.ite_none_right_eq_some] at h
    exact List.mem_append_left _ (freeIn_ofBounds? h.2 hn)
  | lifetime p => cases h
  | const p => cases h

theorem freeIn_ofPredicate? {w : WherePredicate} (h : ofPredicate? name w = some s)
    (hn : n ∈ s.bound.freeNames) : s.FreeIn n w.freeNames := by
  cases w with
  | type binder bounded bounds trailing =>
    simp only [ofPredicate?, Option.ite_none_right_eq_some] at h
    -- the predicate's own `for<..>` hides what it binds from the signature
    by_cases hbound : ∃ l ∈ binderLifetimes binder, n = .lifetime l
    · exact .inr ((eq_of_ofBounds? h.2).1 ▸ hbound)
    · refine .inl (mem_unbound.2 ⟨List.mem_append_right _ (freeIn_ofBounds? h.2 hn), ?_⟩)
      exact fun l hl he => hbound ⟨l, hl, he⟩
  | lifetime l bounds trailing => cases h

/-- A bound on a type parameter mentions what the parameters do. -/
theorem freeIn_ofName? (h : ofName? g name = some s) (hn : n ∈ s.bound.freeNames) :
    s.FreeIn n g.freeNames := by
  unfold ofName? at h
  rw [Option.orElse_eq_orElse, Option.orElse_eq_or] at h
  rcases Option.or_eq_some_iff.1 h with hparam | ⟨-, hpredicate⟩
  · obtain ⟨q, hq, hs⟩ := List.exists_of_findSome?_eq_some hparam
    exact .inl (List.mem_append_left _ (List.mem_flatMap.2 ⟨q, hq, freeIn_ofParam? hs hn⟩))
  · obtain ⟨w, hw, hs⟩ := List.exists_of_findSome?_eq_some hpredicate
    exact (freeIn_ofPredicate? hs hn).mono fun h =>
      List.mem_append_right _ (List.mem_flatMap.2 ⟨w, hw, h⟩)

theorem freeIn_ofPath? {path : Path} (h : ofPath? g path = some s) (hn : n ∈ s.bound.freeNames) :
    s.FreeIn n (path.freeNames ++ g.freeNames) := by
  unfold ofPath? at h
  split at h
  · cases h
  · rename_i segment hlast
    split at h
    · refine .inl (List.mem_append_left _ ?_)
      refine mem_freeNames_of_segment (List.mem_of_getLast? hlast) ?_
      unfold ofBox? at h
      split at h
      · rename_i turbofish span word bounds trailing rest comma harguments
        rw [harguments]
        exact List.mem_append_left _ (freeIn_ofBounds? h hn)
      · cases h
    · obtain ⟨name, -, hs⟩ := Option.bind_eq_some_iff.1 h
      exact (freeIn_ofName? hs hn).mono (List.mem_append_right _)

/-- **A handler's bound mentions what its type and the parameters mention**, and nothing else. -/
theorem freeIn_ofTy? {ty : Ty} (h : ofTy? g ty = some s) (hn : n ∈ s.bound.freeNames) :
    s.FreeIn n (ty.freeNames ++ g.freeNames) := by
  induction ty using CompletionHandler.ofTy?.induct with
  | case1 span elem ih => exact ih h
  | case2 span elem ih => exact ih h
  | case3 span bounds trailing =>
    exact .inl (List.mem_append_left _ (freeIn_ofBounds? h hn))
  | case4 span ampersand lifetime mutable span' word bounds trailing =>
    refine .inl (List.mem_append_left _ ?_)
    have hbounds := freeIn_ofBounds? h hn
    cases lifetime with
    | none => exact hbounds
    | some l => exact List.mem_append_right _ hbounds
  | case5 span path => exact freeIn_ofPath? h hn
  | case6 ty h1 h2 h3 h4 h5 => simp [ofTy?] at h

end CallSite

/-- **What a handler is called with is free in the signature**, but for the lifetimes that the
handler's own `for<..>` binds. -/
theorem Signature.mem_freeNames_of_site? {sig : Signature} {s : CallSite} (hs : sig.site? = some s)
    (hn : n ∈ s.bound.argumentNames) :
    n ∈ sig.freeNames ∨ ∃ l ∈ s.lifetimes, n = .lifetime l := by
  rcases Bound.mem_freeNames_of_argument hn with hbound | ⟨l, hl, rfl⟩
  · unfold Signature.site? at hs
    split at hs
    · rename_i attributes pat ty hlast
      rcases CallSite.freeIn_ofTy? hs hbound with hfree | ⟨l, hl, rfl⟩
      · refine .inl ?_
        rcases List.mem_append.1 hfree with hty | hg
        · refine List.mem_append_left _ (List.mem_append_left _ ?_)
          exact List.mem_flatMap.2 ⟨_, List.mem_of_getLast? hlast, hty⟩
        · exact List.mem_append_right _ hg
      · exact .inr ⟨l, List.mem_append_left _ hl, rfl⟩
    · cases hs
  · exact .inr ⟨l, List.mem_append_right _ hl, rfl⟩

end Names

end DeclSynth
