import DeclSynth.Proofs.Diagnostics
import DeclSynth.Proofs.InContext.Expanders

/-!
# What was reported before

An expansion runs its expander in the context and finishes the context that is left. The
expander may read what was reported before, and none does (`Expander.carriesOut_run`): so
it does the same in any context, and a configuration that is not usable costs one error
and nothing else (`expansion_of_earlier`).
-/

namespace DeclSynth

open Context

/-! ## Finishing -/

/-- The tokens that a context makes of what an expander comes to. -/
def Context.close (kind : Expander) (item : Tokens) :
    Except Stop Tokens × Context → Except NameFault Tokens
  | (.ok tokens, cx) => .ok (cx.finish kind (.ok tokens) (kind.fallback item))
  | (.error (.failure f), cx) => .ok (cx.finish kind (.error f) (kind.fallback item))
  | (.error (.panic fault), _) => .error fault

/-- **An expansion finishes the context with all that its expander reports in a fresh one.** -/
theorem expandWith_eq (cx : Context) (kind : Expander) (args item : Tokens) :
    expandWith cx kind args item =
      close kind item ((kind.run cx.config args item).result,
        cx.add (kind.run cx.config args item).diagnostics) := by
  have hrun : kind.inContext args item ⟨cx, []⟩ = _ :=
    kind.carriesOut_run cx.config args item cx.diagnostics []
  rw [expandWith, hrun]
  rcases (kind.run cx.config args item).result with ((f | fault) | tokens) <;> rfl

namespace Context

/-- A body between its notices: where an expression is wanted, the notices go before it, inside
braces around all of it; elsewhere they go behind it. -/
def layOut (site : ExpansionSite) (body warnings errors : Tokens) : Tokens :=
  if site = .freestandingExpression ∧ errors ++ warnings ≠ [] then
    brace (errors ++ warnings ++ body)
  else body ++ warnings ++ errors

theorem errorTokens_ne_nil (d : Diagnostic) : d.errorTokens ≠ [] := by
  simp [Diagnostic.errorTokens, absolute, op, joined]

theorem warningTokens_ne_nil (d : Diagnostic) : d.warningTokens ≠ [] := by
  simp [Diagnostic.warningTokens, kw]

/-- Every diagnostic has its notice. -/
theorem notices_eq_nil {ds : Diagnostics} : ds.errorTokens ++ ds.warningTokens = [] ↔ ds = [] := by
  cases ds with
  | nil => exact ⟨fun _ => rfl, fun _ => rfl⟩
  | cons d rest =>
    refine ⟨fun h => ?_, nofun⟩
    obtain ⟨herrors, hwarnings⟩ := List.append_eq_nil_iff.1 h
    cases hd : d.isError with
    | true =>
      have hfirst : d ∈ Diagnostics.errors (d :: rest) := by simp [Diagnostics.errors, hd]
      exact absurd (List.flatMap_eq_nil_iff.1 herrors d hfirst) (errorTokens_ne_nil d)
    | false =>
      have hfirst : d ∈ Diagnostics.warnings (d :: rest) := by simp [Diagnostics.warnings, hd]
      exact absurd (List.flatMap_eq_nil_iff.1 hwarnings d hfirst) (warningTokens_ne_nil d)

theorem assemble_eq_layOut (site : ExpansionSite) (ds : Diagnostics) (body : Tokens) :
    assemble site ds body = layOut site body ds.warningTokens ds.errorTokens := by
  simp only [assemble, layOut, ne_eq, notices_eq_nil]

variable {raw : String} {e : ExpandError}

/-- A setting that is not usable is reported, and the default configuration takes its place. -/
theorem ofEnvironment_of_error (hblank : raw.toList.all Unicode.isWhiteSpace = false)
    (h : Config.ofJson raw = .error e) :
    ofEnvironment (some raw) = ⟨.default, [(e.at .callSite).diagnostic]⟩ := by
  have hload : Config.load (some raw) = .error e := by
    simp only [Config.load, hblank, h, Bool.false_eq_true, if_false]
  rw [ofEnvironment, hload]
  rfl

end Context

/-- What follows an expander's end in a context with earlier reports: the same fault, or the same
body and the earlier reports before the further ones. -/
theorem close_earlier (kind : Expander) (item : Tokens) (result : Except Stop Tokens) (c : Config)
    (further : Diagnostics) :
    (∃ fault, ∀ earlier, close kind item (result, ⟨c, earlier ++ further⟩) = .error fault) ∨
      ∃ (body : Tokens) (ds : Diagnostics), ∀ earlier,
        close kind item (result, ⟨c, earlier ++ further⟩) =
          .ok (Context.assemble kind.site (earlier ++ ds) body) := by
  rcases result with ((f | fault) | tokens)
  · refine .inr ⟨kind.fallback item, further ++ [f.diagnostic], fun earlier => ?_⟩
    simp only [close, finish, report, add, List.append_assoc]
  · exact .inl ⟨fault, fun _ => rfl⟩
  · exact .inr ⟨tokens, further, fun _ => rfl⟩

/-- **Nothing that was reported before plays a role.** In a context with earlier reports an expander
comes to the same and adds the same reports, in the same order, as in a fresh context. So where the
environment asks for a configuration that is not usable, the input becomes what it becomes under the
default configuration, but for one further error, which stands before all others. -/
theorem expansion_of_earlier (kind : Expander) (args item : Tokens) :
    (∀ (c : Config) (earlier : Diagnostics) (logged : List Event),
      let fresh := kind.inContext args item (.ofConfig c)
      kind.inContext args item ⟨⟨c, earlier⟩, logged⟩ =
        (fresh.1, ⟨⟨c, earlier ++ fresh.2.context.diagnostics⟩, logged ++ fresh.2.events⟩)) ∧
    ∀ (raw : String) (e : ExpandError),
      raw.toList.all Unicode.isWhiteSpace = false → Config.ofJson raw = .error e →
      (∃ fault, expandWith (.ofConfig .default) kind args item = .error fault ∧
        expand (some raw) kind args item = .error fault) ∨
      ∃ (body : Tokens) (ds : Diagnostics) (further : Tokens),
        expandWith (.ofConfig .default) kind args item =
          .ok (layOut kind.site body ds.warningTokens ds.errorTokens) ∧
        expand (some raw) kind args item =
          .ok (layOut kind.site body ds.warningTokens (further ++ ds.errorTokens)) ∧
        readNotices further = some [.error e.message] ∧
        readNotices (further ++ ds.errorTokens) =
          some (.error e.message :: ds.errors.map fun d => .error d.message) := by
  refine ⟨fun c earlier logged => kind.carriesOut_run c args item earlier logged,
    fun raw e hblank hbad => ?_⟩
  let outcome := kind.run .default args item
  let d := (e.at .callSite).diagnostic
  have hfresh : expandWith (.ofConfig .default) kind args item =
      close kind item (outcome.result, ⟨.default, [] ++ outcome.diagnostics⟩) := by
    rw [expandWith_eq]
    rfl
  have hbroken : expand (some raw) kind args item =
      close kind item (outcome.result, ⟨.default, [d] ++ outcome.diagnostics⟩) := by
    rw [expand, ofEnvironment_of_error hblank hbad, expandWith_eq]
    rfl
  rw [hfresh, hbroken]
  rcases close_earlier kind item outcome.result .default outcome.diagnostics with
    ⟨fault, hfault⟩ | ⟨body, ds, hbody⟩
  · exact .inl ⟨fault, hfault [], hfault [d]⟩
  · refine .inr ⟨body, ds, d.errorTokens, ?_, ?_, ?_, ?_⟩
    · rw [hbody [], assemble_eq_layOut]
      rfl
    · rw [hbody [d], assemble_eq_layOut]
      rfl
    · exact readNotices_errorTokens [d]
    · exact readNotices_errorTokens (d :: ds)

/-- A configuration that is no JSON at all costs one error. -/
theorem expansion_of_earlier_expectedValue :
    let e : ExpandError := .config "expected value at line 1 column 1"
    Config.ofJson "crate" = .error e ∧
      ((∃ fault, expandWith (.ofConfig .default) .stringify (kw "x") [] = .error fault ∧
        expand (some "crate") .stringify (kw "x") [] = .error fault) ∨
      ∃ (body : Tokens) (ds : Diagnostics) (further : Tokens),
        expandWith (.ofConfig .default) .stringify (kw "x") [] =
          .ok (layOut .freestandingExpression body ds.warningTokens ds.errorTokens) ∧
        expand (some "crate") .stringify (kw "x") [] =
          .ok (layOut .freestandingExpression body ds.warningTokens (further ++ ds.errorTokens)) ∧
        readNotices further = some [.error e.message] ∧
        readNotices (further ++ ds.errorTokens) =
          some (.error e.message :: ds.errors.map fun d => .error d.message)) := by
  intro e
  have hblank : "crate".toList.all Unicode.isWhiteSpace = false := by decide
  have hread : (Config.ofJson "crate").casesOn some (fun _ => none) = some e := by decide +kernel
  have hbad : Config.ofJson "crate" = .error e := by
    cases hjson : Config.ofJson "crate" with
    | ok c =>
      rw [hjson] at hread
      cases hread
    | error e' =>
      rw [hjson] at hread
      exact congrArg Except.error (Option.some.inj hread)
  exact ⟨hbad, (expansion_of_earlier .stringify (kw "x") []).2 "crate" e hblank hbad⟩

end DeclSynth
