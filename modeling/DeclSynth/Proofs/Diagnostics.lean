import DeclSynth.Expansion
import DeclSynth.Proofs.Text.Literal

/-!
# What becomes of reports

`readNotices` reads code that only makes the compiler print: one deprecated
constant for each warning, one `compile_error!` for each error. What takes the
place of an expansion is its body and such code, and the code reads back as
everything that was reported, in the order of the reports and with the failure
of the expansion last (`finish_reports`).
-/

namespace DeclSynth

/-! ## Notices -/

/-- What a piece of generated code makes the compiler print. -/
inductive Notice where
  | warning (message : String)
  | error (message : String)
deriving DecidableEq, Repr

/-- The note of the deprecated struct that tokens declare and use at once. -/
def readDeprecation : Tokens → Option String
  | [.punct '#' _ _, .group .bracket [.word "deprecated" _, .group .parenthesis
        [.word "note" _, .punct '=' _ _, .literal note _] _] _,
      .punct '#' _ _, .group .bracket [.word "allow" _, .group .parenthesis
        [.word "non_camel_case_types" _] _] _,
      .word "struct" _, .word declared _, .punct ';' _ _,
      .word "let" _, .word "_" _, .punct '=' _ _, .word used _, .punct ';' _ _] =>
    if declared = used then some (Literal.content note) else none
  | _ => none

/-- The notice that tokens start with, and what is left behind it. -/
def readNotice : Tokens → Option (Notice × Tokens)
  | .punct ':' _ _ :: .punct ':' _ _ :: .word "core" _ :: .punct ':' _ _ :: .punct ':' _ _ ::
      .word "compile_error" _ :: .punct '!' _ _ ::
      .group .brace [.literal message _] _ :: rest =>
    some (.error (Literal.content message), rest)
  | .word "const" _ :: .word "_" _ :: .punct ':' _ _ :: .group .parenthesis [] _ ::
      .punct '=' _ _ :: .group .brace body _ :: .punct ';' _ _ :: rest =>
    (readDeprecation body).map fun note => (.warning note, rest)
  | _ => none

/-- The notices that tokens consist of. -/
def readNotices (ts : Tokens) : Option (List Notice) :=
  if ts.isEmpty then some []
  else (readNotice ts).bind fun (n, rest) =>
    if rest.length < ts.length then (readNotices rest).map (n :: ·) else none
termination_by ts.length

variable {d : Diagnostic} {ds : Diagnostics} {ts rest : Tokens}

/-- An error is read from the code that is written for it. -/
theorem readNotice_errorTokens (d : Diagnostic) (rest : Tokens) :
    readNotice (d.errorTokens ++ rest) = some (.error d.message, rest) := by
  change some (Notice.error (Literal.content (Text.literal d.message)), rest) = _
  rw [Literal.content_literal]

/-- A warning is read from the code that is written for it. -/
theorem readNotice_warningTokens (d : Diagnostic) (rest : Tokens) :
    readNotice (d.warningTokens ++ rest) = some (.warning d.message, rest) := by
  change some (Notice.warning (Literal.content (Text.literal d.message)), rest) = _
  rw [Literal.content_literal]

/-- A notice is read before the ones behind it. -/
theorem readNotices_append {n : Notice} (hts : ts ≠ [])
    (h : readNotice (ts ++ rest) = some (n, rest)) :
    readNotices (ts ++ rest) = (readNotices rest).map (n :: ·) := by
  have hshorter : rest.length < (ts ++ rest).length := by
    have := List.length_pos_iff.2 hts
    rw [List.length_append]
    omega
  rw [readNotices, if_neg (by simp [hts]), h, Option.bind_some]
  exact if_pos hshorter

/-- **Code that is written for diagnostics, one by one, is read as their notices**, in order. -/
theorem readNotices_flatMap {write : Diagnostic → Tokens} {note : Diagnostic → Notice}
    (hwritten : ∀ d, write d ≠ [])
    (hread : ∀ d rest, readNotice (write d ++ rest) = some (note d, rest)) (ds : Diagnostics) :
    readNotices (ds.flatMap write) = some (ds.map note) := by
  induction ds with
  | nil => rw [List.flatMap_nil, readNotices]; rfl
  | cons d rest ih =>
    rw [List.flatMap_cons, readNotices_append (hwritten d) (hread d _), ih]
    rfl

/-- **The code for errors prints each error once**, in the order of the reports. -/
theorem readNotices_errorTokens (ds : Diagnostics) :
    readNotices ds.errorTokens = some (ds.errors.map fun d => .error d.message) :=
  readNotices_flatMap (fun _ => by simp [Diagnostic.errorTokens, absolute, op, joined])
    readNotice_errorTokens ds.errors

/-- **The code for warnings prints each warning once**, in the order of the reports. -/
theorem readNotices_warningTokens (ds : Diagnostics) :
    readNotices ds.warningTokens = some (ds.warnings.map fun d => .warning d.message) :=
  readNotices_flatMap (fun _ => by simp [Diagnostic.warningTokens, kw])
    readNotice_warningTokens ds.warnings

/-! ## Ends of expansions -/

namespace Context

/-- All that has been reported when an expansion ends: its own failure comes last. -/
def reported (cx : Context) (result : Except Failure Tokens) : Diagnostics :=
  cx.diagnostics ++ match result with
    | .ok _ => []
    | .error f => [f.diagnostic]

/-- The tokens that the notices are added to. -/
def body (result : Except Failure Tokens) (fallback : Tokens) : Tokens :=
  match result with
  | .ok tokens => tokens
  | .error _ => fallback

variable {cx : Context} {result : Except Failure Tokens} {f : Failure}

/-- An expansion ends with its body and all that has been reported. -/
theorem finish_eq (cx : Context) (kind : Expander) (result : Except Failure Tokens)
    (fallback : Tokens) :
    cx.finish kind result fallback =
      assemble kind.site (cx.reported result) (body result fallback) := by
  cases result with
  | ok tokens => simp only [finish, reported, body, List.append_nil]
  | error f => rfl

/-- A failure is the last error that is reported. -/
theorem getLast?_errors_reported (hf : result = .error f) :
    (cx.reported result).errors.getLast? = some f.diagnostic := by
  subst hf
  have herror : f.diagnostic.isError = true := rfl
  simp [reported, Diagnostics.errors, herror]

/-- **Nothing that is reported is lost.** An expansion ends with its body once, and with code that
prints every warning and every error once, in the order of their reports and with the expansion's
own failure last: behind the body, or, where an expression is wanted and anything was reported,
before it inside one pair of braces. -/
theorem finish_reports (cx : Context) (kind : Expander) (result : Except Failure Tokens)
    (fallback : Tokens) :
    ∃ warnings errors : Tokens,
      readNotices warnings =
        some ((cx.reported result).warnings.map fun d => .warning d.message) ∧
      readNotices errors = some ((cx.reported result).errors.map fun d => .error d.message) ∧
      (kind.site = .freestandingExpression ∧ cx.reported result ≠ [] →
        cx.finish kind result fallback = brace (errors ++ warnings ++ body result fallback)) ∧
      (¬ (kind.site = .freestandingExpression ∧ cx.reported result ≠ []) →
        cx.finish kind result fallback = body result fallback ++ warnings ++ errors) ∧
      ∀ f, result = .error f →
        (cx.reported result).errors.getLast? = some f.diagnostic ∧
        (kind.site = .freestandingExpression →
          cx.finish kind result fallback = brace (errors ++ warnings ++ fallback)) := by
  have hblock : kind.site = .freestandingExpression ∧ cx.reported result ≠ [] →
      cx.finish kind result fallback = brace ((cx.reported result).errorTokens ++
        (cx.reported result).warningTokens ++ body result fallback) := by
    intro h
    rw [finish_eq, assemble, if_pos h]
  refine ⟨_, _, readNotices_warningTokens _, readNotices_errorTokens _, hblock, fun h => ?_,
    fun f hf => ⟨getLast?_errors_reported hf, fun hsite => ?_⟩⟩
  · rw [finish_eq, assemble, if_neg h]
  -- the failure is reported too, so something is
  · have hreported : cx.reported result ≠ [] := by simp [reported, hf]
    rw [hblock ⟨hsite, hreported⟩, hf]
    rfl

end Context

end DeclSynth
