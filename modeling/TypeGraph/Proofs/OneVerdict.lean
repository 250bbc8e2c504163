/-
A schema gets one verdict.

A history is any list of requests to one schema: to validate it, to assert that it is
valid, to check it in some mode, to set its verdict, and to change anything else about
it.  However they follow one another, the cell of the verdict is filled at most once and
keeps what it was filled with.

What fills the cell depends on the request and on the schema as it is met, and on
nothing that was asked before: `filling` says what.  A request leaves the cell as it was,
or puts that in if the cell is empty (`serve_content`).  A pass of the validators notes
its start, so that passes can be counted in the log; a request starts one only if it asks
for a verdict and finds the cell empty (`serve_passes`), and then the cell is full.
-/
import TypeGraph.Proofs.Silence

namespace TypeGraph

/-! ### Requests and replies -/

/-- What is asked of a schema or done to it.  A change makes it another schema, except for the
cell of its verdict. -/
inductive Request
  | validate
  | assertValid
  | check (mode : String)
  | setVerdict (verdict : List Diagnostic)
  | change (into : Schema)

/-- A list of diagnostics, nothing at all, or a refusal. -/
inductive Reply
  | listed (diagnostics : List Diagnostic)
  | done
  | refused (fault : Fault)
  deriving DecidableEq

/-- The reply that is a refusal or else made of the answer. -/
def Reply.ofExcept {α : Type} (reply : α → Reply) : Except Fault α → Reply
  | .ok a => reply a
  | .error fault => .refused fault

/-- Whether the request asks for a verdict. -/
def Request.asksVerdict : Request → Bool
  | .validate | .assertValid => true
  | .check mode => mode == "normal" || mode == "strict"
  | .setVerdict _ | .change _ => false

/-- Whether the note is of the start of a pass. -/
def LogEntry.isStart : LogEntry → Bool
  | .started _ => true
  | _ => false

/-- How many passes a log tells of. -/
def LogEntry.passes (log : List LogEntry) : Nat := log.countP LogEntry.isStart

namespace Schema

/-- Serves one request. -/
def serve (S : Schema) : Request → Outcome Reply
  | .validate => S.validate.map .listed
  | .assertValid => S.assertValid.map (Reply.ofExcept fun _ => .done)
  | .check mode => (S.check mode).map (Reply.ofExcept .listed)
  | .setVerdict verdict => ⟨.done, [], S.setVerdict verdict⟩
  | .change into => ⟨.done, [], { into with verdict := S.verdict }⟩

/-- The schema after a history. -/
def after (S : Schema) : List Request → Schema
  | [] => S
  | r :: rest => (S.serve r).schema.after rest

/-- What a history leaves in the log. -/
def logOf (S : Schema) : List Request → List LogEntry
  | [] => []
  | r :: rest => (S.serve r).log ++ (S.serve r).schema.logOf rest

/-- How often the validators run in a history. -/
def passes (S : Schema) (history : List Request) : Nat := LogEntry.passes (S.logOf history)

variable {S : Schema} {verdict : List Diagnostic} {r : Request} {mode : String}

/-! ### Validation, with and without a verdict -/

theorem validate_of_filled (h : S.verdict.content = some verdict) :
    S.validate = ⟨verdict, [.reused S.summary], S⟩ := by
  simp only [validate, OneShot.getOrCompute, OneShot.isFilled, h]
  rfl

theorem validate_log_of_empty (h : S.verdict.content = none) :
    S.validate.log = [.started S.summary, .finished S.diagnose.length] := by
  simp only [validate, OneShot.getOrCompute, OneShot.isFilled, h]
  rfl

theorem validate_content_of_empty (h : S.verdict.content = none) :
    S.validate.schema.verdict.content = some S.diagnose := by
  simp only [validate, OneShot.getOrCompute, OneShot.isFilled, h, OneShot.set]
  rfl

/-! ### One request -/

theorem check_unknown (h : mode ∉ ["none", "normal", "strict"]) :
    S.check mode = ⟨.error (.unknownMode (Text.quoted mode)), [], S⟩ := by
  have hname : Mode.ofName? mode = none := by
    unfold Mode.ofName?
    split <;> simp_all
  rw [check, hname]

/-- A request for a verdict validates, whatever it makes of the verdict. -/
theorem serve_of_asksVerdict (h : r.asksVerdict = true) :
    (S.serve r).schema = S.validate.schema ∧ (S.serve r).log = S.validate.log := by
  cases r with
  | validate => exact ⟨rfl, rfl⟩
  | assertValid => exact ⟨rfl, rfl⟩
  | check mode =>
      simp only [Request.asksVerdict, Bool.or_eq_true, beq_iff_eq] at h
      rcases h with rfl | rfl <;> exact ⟨rfl, rfl⟩
  | setVerdict verdict => cases h
  | change into => cases h

theorem serve_check_of_not_asksVerdict (h : (Request.check mode).asksVerdict = false) :
    (S.serve (.check mode)).schema = S ∧ (S.serve (.check mode)).log = [] := by
  simp only [Request.asksVerdict, Bool.or_eq_false_iff, beq_eq_false_iff_ne] at h
  by_cases hnone : mode = "none"
  · subst hnone
    exact ⟨rfl, rfl⟩
  · rw [serve, check_unknown (by simp [h, hnone])]
    exact ⟨rfl, rfl⟩

/-- What a request puts into the cell if it finds it empty. -/
def filling (S : Schema) (r : Request) : Option (List Diagnostic) :=
  match r with
  | .setVerdict verdict => some verdict
  | _ => if r.asksVerdict then some S.diagnose else none

theorem filling_of_asksVerdict (h : r.asksVerdict = true) : S.filling r = some S.diagnose := by
  cases r with
  | setVerdict verdict => cases h
  | _ => rw [filling, if_pos h]; exact fun _ => Request.noConfusion

theorem serve_content (S : Schema) (r : Request) :
    (S.serve r).schema.verdict.content = S.verdict.content.or (S.filling r) := by
  cases hask : r.asksVerdict with
  | true =>
      rw [(serve_of_asksVerdict hask).1, filling_of_asksVerdict hask]
      cases hcontent : S.verdict.content with
      | none => rw [validate_content_of_empty hcontent]; rfl
      | some verdict => rw [validate_of_filled hcontent, hcontent]; rfl
  | false =>
      cases r with
      | validate => cases hask
      | assertValid => cases hask
      | check mode =>
          have hfilling : S.filling (.check mode) = none := by simp [filling, hask]
          rw [(serve_check_of_not_asksVerdict hask).1, hfilling, Option.or_none]
      | setVerdict verdict =>
          show some (S.verdict.content.getD verdict) = S.verdict.content.or (some verdict)
          cases S.verdict.content <;> rfl
      | change into =>
          show S.verdict.content = S.verdict.content.or none
          rw [Option.or_none]

theorem serve_passes (S : Schema) (r : Request) :
    LogEntry.passes (S.serve r).log =
      if r.asksVerdict = true ∧ S.verdict.content = none then 1 else 0 := by
  cases hask : r.asksVerdict with
  | true =>
      rw [(serve_of_asksVerdict hask).2]
      cases hcontent : S.verdict.content with
      | none => rw [validate_log_of_empty hcontent]; rfl
      | some verdict => rw [validate_of_filled hcontent]; rfl
  | false =>
      have hlog : (S.serve r).log = [] := by
        cases r with
        | check mode => exact (serve_check_of_not_asksVerdict hask).2
        | setVerdict verdict => rfl
        | change into => rfl
        | _ => cases hask
      rw [hlog]
      simp [LogEntry.passes]

/-! ### Whole histories -/

theorem after_append (history more : List Request) :
    S.after (history ++ more) = (S.after history).after more := by
  induction history generalizing S with
  | nil => rfl
  | cons r rest ih => exact ih

theorem passes_cons (r : Request) (rest : List Request) :
    S.passes (r :: rest) =
      LogEntry.passes (S.serve r).log + (S.serve r).schema.passes rest := by
  rw [passes, logOf, LogEntry.passes, List.countP_append]
  rfl

/-- A cell that is filled stays as it is. -/
theorem after_content_of_filled (h : S.verdict.content = some verdict) (history : List Request) :
    (S.after history).verdict.content = some verdict := by
  induction history generalizing S with
  | nil => exact h
  | cons r rest ih =>
      refine ih ?_
      rw [serve_content, h]
      rfl

/-- No pass is left to a schema that has its verdict, and one to a schema that has none. -/
theorem passes_le (S : Schema) (history : List Request) :
    S.passes history ≤ if S.verdict.content = none then 1 else 0 := by
  induction history generalizing S with
  | nil => exact Nat.zero_le _
  | cons r rest ih =>
      have hrest := ih (S.serve r).schema
      rw [serve_content] at hrest
      rw [passes_cons, serve_passes]
      cases hcontent : S.verdict.content with
      | some verdict =>
          rw [hcontent] at hrest
          simpa using hrest
      | none =>
          rw [hcontent, Option.none_or] at hrest
          by_cases hask : r.asksVerdict = true
          · -- The pass fills the cell, so there is none after it.
            rw [filling_of_asksVerdict hask, if_neg (Option.some_ne_none _)] at hrest
            rw [if_pos ⟨hask, rfl⟩, if_pos rfl]
            omega
          · have hle : (if S.filling r = none then 1 else 0) ≤ 1 := by split <;> omega
            rw [if_neg fun h => hask h.1, if_pos rfl]
            omega

theorem build_content {c : Catalog} {b : Blueprint} (h : build c b = .ok S) :
    S.verdict.content = if b.assumeValid then some [] else none := by
  unfold build at h
  cases hfound : c.collectAll (b.startingRefs c) with
  | error fault =>
      rw [hfound] at h
      cases h
  | ok found =>
      rw [hfound] at h
      cases h
      show (if b.assumeValid then OneShot.empty.set [] else .empty : OneShot _).content = _
      cases b.assumeValid <;> rfl

/-! ### The verdict of a history -/

/-- What holds of every request to `T`, whatever was asked of it before. -/
structure KeepsVerdict (T : Schema) : Prop where
  /-- The validators run for a request that asks for a verdict and finds none, and for no other. -/
  pass_iff : ∀ r, LogEntry.passes (T.serve r).log ≠ 0 ↔
    r ∈ [.validate, .assertValid, .check "normal", .check "strict"] ∧ T.verdict.content = none
  /-- What they find in the schema as it is then is what is kept. -/
  pass_kept : ∀ r, LogEntry.passes (T.serve r).log ≠ 0 →
    (T.serve r).schema.verdict.content = some T.diagnose
  /-- A request that starts no pass leaves the schema as it was, unless it is itself a change or
  gives the verdict that was missing. -/
  untouched : ∀ r, LogEntry.passes (T.serve r).log = 0 → (∀ into, r ≠ .change into) →
    (∀ verdict, r = .setVerdict verdict → T.verdict.content ≠ none) → (T.serve r).schema = T
  /-- Validating lists what is kept, and so does a check in the normal mode. -/
  listed : ∀ r ∈ [.validate, .check "normal"], ∃ verdict,
    (T.serve r).schema.verdict.content = some verdict ∧ (T.serve r).answer = .listed verdict
  /-- Asserting refuses, with all of what is kept, if that is anything. -/
  asserted : ∃ verdict, (T.serve .assertValid).schema.verdict.content = some verdict ∧
    (T.serve .assertValid).answer = if verdict = [] then .done else .refused (.invalid verdict)
  /-- A check in the strict mode refuses likewise. -/
  strict : ∃ verdict, (T.serve (.check "strict")).schema.verdict.content = some verdict ∧
    (T.serve (.check "strict")).answer =
      if verdict = [] then .listed [] else .refused (.invalid verdict)
  /-- A verdict that is given is kept if there is none. -/
  given : ∀ verdict, T.verdict.content = none →
    (T.serve (.setVerdict verdict)).schema.verdict.content = some verdict
  /-- A check that is to be left out lists nothing and leaves the schema alone. -/
  skipped : (T.serve (.check "none")).answer = .listed [] ∧ (T.serve (.check "none")).schema = T
  /-- An unknown mode is refused and leaves the schema alone. -/
  unknown : ∀ mode ∉ ["none", "normal", "strict"],
    (T.serve (.check mode)).answer = .refused (.unknownMode (Text.quoted mode)) ∧
      (T.serve (.check mode)).schema = T

theorem acceptVerdict_eq (verdict : List Diagnostic) :
    acceptVerdict verdict = if verdict = [] then .ok () else .error (.invalid verdict) := by
  cases verdict <;> rfl

/-- After a request for a verdict the cell holds what validating answers. -/
theorem serve_content_of_asksVerdict (h : r.asksVerdict = true) :
    (S.serve r).schema.verdict.content = some S.validate.answer := by
  rw [serve_content, filling_of_asksVerdict h]
  cases hcontent : S.verdict.content with
  | none => rw [validate_answer hcontent]; rfl
  | some verdict => rw [validate_of_filled hcontent]; rfl

/-- Where there is a verdict, another one is not taken in. -/
theorem setVerdict_of_filled (h : S.verdict.content ≠ none) (given : List Diagnostic) :
    S.setVerdict given = S := by
  obtain ⟨verdict, hverdict⟩ := Option.ne_none_iff_exists'.mp h
  have hcell : S.verdict.set given = S.verdict := by
    rw [OneShot.set, hverdict, Option.getD_some, ← hverdict]
  rw [setVerdict, hcell]

/-- Only a pass, a change or a verdict that is missing touches the schema. -/
theorem serve_schema_of_no_pass (hpass : ¬ (r.asksVerdict = true ∧ S.verdict.content = none))
    (hchange : ∀ into, r ≠ .change into)
    (hset : ∀ verdict, r = .setVerdict verdict → S.verdict.content ≠ none) :
    (S.serve r).schema = S := by
  cases hask : r.asksVerdict with
  | true =>
      have hfilled : S.verdict.content ≠ none := fun hempty => hpass ⟨hask, hempty⟩
      obtain ⟨verdict, hverdict⟩ := Option.ne_none_iff_exists'.mp hfilled
      rw [(serve_of_asksVerdict hask).1, validate_of_filled hverdict]
  | false =>
      cases r with
      | check mode => exact (serve_check_of_not_asksVerdict hask).1
      | setVerdict verdict => exact setVerdict_of_filled (hset verdict rfl) verdict
      | change into => exact absurd rfl (hchange into)
      | _ => cases hask

theorem keepsVerdict (T : Schema) : T.KeepsVerdict := by
  have hasks : ∀ r : Request, r.asksVerdict = true ↔
      r ∈ [.validate, .assertValid, .check "normal", .check "strict"] := by
    intro r
    cases r <;> simp [Request.asksVerdict]
  have hpass : ∀ r, LogEntry.passes (T.serve r).log ≠ 0 ↔
      r.asksVerdict = true ∧ T.verdict.content = none := by
    intro r
    rw [serve_passes]
    split <;> simp_all
  refine ⟨?_, ?_, ?_, ?_, ?_, ?_, ?_, ⟨rfl, rfl⟩, ?_⟩
  · intro r
    rw [hpass, hasks]
  · intro r hr
    obtain ⟨hask, hempty⟩ := (hpass r).mp hr
    rw [serve_content_of_asksVerdict hask, validate_answer hempty]
  · intro r hr
    exact serve_schema_of_no_pass fun hstarts => (hpass r).mpr hstarts hr
  · intro r hr
    refine ⟨T.validate.answer, serve_content_of_asksVerdict ?_, ?_⟩ <;>
      (rcases List.mem_pair.mp hr with rfl | rfl <;> rfl)
  · refine ⟨T.validate.answer, serve_content_of_asksVerdict rfl, ?_⟩
    show Reply.ofExcept (fun _ => .done) (acceptVerdict T.validate.answer) = _
    rw [acceptVerdict_eq]
    split <;> rfl
  · refine ⟨T.validate.answer, serve_content_of_asksVerdict rfl, ?_⟩
    show Reply.ofExcept .listed ((acceptVerdict T.validate.answer).map fun _ => []) = _
    rw [acceptVerdict_eq]
    split <;> rfl
  · intro verdict hempty
    rw [serve_content, hempty]
    rfl
  · intro mode hmode
    rw [serve, check_unknown hmode]
    exact ⟨rfl, rfl⟩

/--
**A schema gets one verdict.**  In any history of a schema the validators run at most
once, and a verdict, once kept, is kept for good.  At every point of the history a request
for a verdict runs them if there is none yet, keeps what they find, and from then on is
answered from what is kept; any other request leaves the verdict alone or sets it.  Where
no pass is started, nothing of the schema changes but by a request to change it or to set
the verdict it lacks.  A schema that is assumed to be valid has the empty verdict from the
start, and the validators never run.  The wording of a refusal is the messages of the
verdict, a blank line between them.
-/
theorem verdict_one_shot (S : Schema) (history : List Request) :
    S.passes history ≤ 1 ∧
      (∀ verdict, (S.after history).verdict.content = some verdict →
        ∀ more, (S.after (history ++ more)).verdict.content = some verdict) ∧
      (S.after history).KeepsVerdict ∧
      (∀ c b, build c b = .ok S → b.assumeValid = true →
        S.passes history = 0 ∧ (S.after history).verdict.content = some []) ∧
      ∀ verdict, (Fault.invalid verdict).message =
        "\n\n".intercalate (verdict.map Diagnostic.message) := by
  refine ⟨?_, ?_, keepsVerdict _, ?_, fun _ => rfl⟩
  · have hle := S.passes_le history
    split at hle <;> omega
  · intro verdict hverdict more
    rw [after_append]
    exact after_content_of_filled hverdict more
  · intro c b hbuild hassume
    have hcontent : S.verdict.content = some [] := by rw [build_content hbuild, if_pos hassume]
    have hle := S.passes_le history
    rw [hcontent, if_neg (Option.some_ne_none _)] at hle
    exact ⟨Nat.le_zero.mp hle, after_content_of_filled hcontent history⟩

/-- A schema without a query root: the check that is left out keeps no verdict, validating runs the
validators, and what they find then outlasts all that follows.  Assumed valid, it is never looked
at. -/
theorem verdict_rootless :
    (∃ S, build {} {} = .ok S ∧ S.passes [.check "none", .validate, .check "strict"] = 1 ∧
      ∀ more, (S.after ([.check "none", .validate] ++ more)).verdict.content =
        some [⟨.missingQuery, []⟩]) ∧
    ∃ S, build {} { assumeValid := true } = .ok S ∧ S.passes [.validate, .assertValid] = 0 := by
  refine ⟨?_, ?_⟩
  · obtain ⟨S, hbuild, hpasses, hkept⟩ := @exists_build {} {}
      (fun S => S.passes [.check "none", .validate, .check "strict"] = 1 ∧
        (S.after [.check "none", .validate]).verdict.content = some [⟨.missingQuery, []⟩])
      _ (by decide +kernel)
    exact ⟨S, hbuild, hpasses, (verdict_one_shot S _).2.1 _ hkept⟩
  · obtain ⟨S, hbuild, -⟩ := @exists_build {} { assumeValid := true } (fun _ => True) _
      (by decide +kernel)
    exact ⟨S, hbuild, ((verdict_one_shot S _).2.2.2.1 _ _ hbuild rfl).1⟩

end Schema

end TypeGraph
