/-
When the checks find nothing.

Each check is silent exactly when its part of `Certified` holds.  What needs care is
that checks skip: an argument, member or claim whose name came before is not
examined further, nor is a field that was written twice.  No skip goes without a
diagnostic of its own, so where nothing is reported nothing was skipped.

One rule depends on another.  An interface's argument is compared with the first
argument of that name, and it is the only one because the object's own fields have
been found in order.
-/
import TypeGraph.Proofs.Certified
import TypeGraph.Proofs.Unmodified

namespace TypeGraph

/-! ### Reporting on a condition -/

theorem unless_silent {p : Prop} [Decidable p] {d : Diagnostic} :
    (if p then [] else [d]) = [] ↔ p := by
  by_cases h : p <;> simp [h]

theorem when_silent {p : Prop} [Decidable p] {d : Diagnostic} :
    (if p then [d] else []) = [] ↔ ¬ p := by
  by_cases h : p <;> simp [h]

/-- A list must not be empty, and each of its elements is examined. -/
theorem nonempty_silent {α : Type} {l : List α} {d : Diagnostic} {check : α → List Diagnostic}
    {P : α → Prop} (hcheck : ∀ a, check a = [] ↔ P a) :
    (if l.isEmpty then [d] else []) ++ l.flatMap check = [] ↔ l ≠ [] ∧ ∀ a ∈ l, P a := by
  rw [List.append_eq_nil_iff, when_silent, List.flatMap_eq_nil_iff, List.isEmpty_iff]
  simp only [hcheck]

/-! ### Repeated names -/

section Repeats

variable {α β : Type} {name? : α → Option String} {report : α × Bool → List β}

private theorem markRepeatsFrom_silent (hrepeat : ∀ a, report (a, true) ≠ []) :
    ∀ (as : List α) (seen : List String),
      (markRepeatsFrom name? seen as).flatMap report = [] ↔
        (as.filterMap name?).Nodup ∧ (∀ name ∈ as.filterMap name?, name ∉ seen) ∧
          ∀ a ∈ as, report (a, false) = [] := by
  intro as
  induction as with
  | nil => intro seen; simp [markRepeatsFrom]
  | cons a rest ih =>
      intro seen
      rw [markRepeatsFrom]
      cases hname : name? a with
      | none =>
          simp only [List.flatMap_cons, List.append_eq_nil_iff, ih seen,
            List.filterMap_cons_none hname, List.forall_mem_cons]
          exact ⟨fun ⟨hfirst, hnodup, hfresh, hrest⟩ => ⟨hnodup, hfresh, hfirst, hrest⟩,
            fun ⟨hnodup, hfresh, hfirst, hrest⟩ => ⟨hfirst, hnodup, hfresh, hrest⟩⟩
      | some name =>
          simp only [List.flatMap_cons, List.append_eq_nil_iff, ih (name :: seen),
            List.filterMap_cons_some hname, List.nodup_cons, List.forall_mem_cons]
          by_cases hseen : name ∈ seen
          · have hmark : seen.contains name = true := List.contains_iff_mem.mpr hseen
            rw [hmark]
            simp [hrepeat a, hseen]
          · have hmark : seen.contains name = false := by simpa using hseen
            rw [hmark]
            refine ⟨?_, ?_⟩
            · intro ⟨hfirst, hnodup, hfresh, hrest⟩
              refine ⟨⟨fun hmem => hfresh name hmem List.mem_cons_self, hnodup⟩,
                ⟨hseen, fun n hn hmem => ?_⟩, hfirst, hrest⟩
              exact hfresh n hn (List.mem_cons_of_mem _ hmem)
            · intro ⟨⟨hnew, hnodup⟩, ⟨_, hfresh⟩, hfirst, hrest⟩
              refine ⟨hfirst, hnodup, fun n hn hmem => ?_, hrest⟩
              rcases List.mem_cons.mp hmem with heq | hmem
              · exact hnew (heq ▸ hn)
              · exact hfresh n hn hmem

/-- Where every repeat is reported, silence means that there is none and that every element was
examined and found right. -/
theorem markRepeats_silent (hrepeat : ∀ a, report (a, true) ≠ []) (as : List α) :
    (markRepeats name? as).flatMap report = [] ↔
      (as.filterMap name?).Nodup ∧ ∀ a ∈ as, report (a, false) = [] := by
  rw [markRepeats, markRepeatsFrom_silent hrepeat]
  simp

end Repeats

namespace Scope

variable {s : Scope}

/-! ### Names, arguments, fields -/

theorem checkName_silent {exempt : Bool} {name : String} {node : Option Source.Node} :
    s.checkName exempt name node = [] ↔ exempt = true ∨ s.schema.NameOk name := by
  unfold checkName Schema.NameOk
  by_cases hexempt : exempt = true
  · simp [hexempt]
  · by_cases hlegacy : name ∈ s.schema.legacyNames
    · simp [hlegacy]
    · cases Name.flaw? name <;> simp [hexempt, hlegacy]

theorem checkName_silent_of_not_exempt {name : String} {node : Option Source.Node} :
    s.checkName false name node = [] ↔ s.schema.NameOk name := by
  rw [checkName_silent]
  simp

/-- The arguments of a field and of a directive are examined alike. -/
theorem arguments_silent {nameOk : String → Prop} {report : Argument × Bool → List Diagnostic}
    (hrepeat : ∀ arg, report (arg, true) ≠ [])
    (hfirst : ∀ arg, report (arg, false) = [] ↔
      nameOk arg.name ∧ s.schema.catalog.acceptsInput arg.type = true) (args : List Argument) :
    (markRepeats (fun arg => some arg.name) args).flatMap report = [] ↔
      s.schema.ArgumentsOk nameOk args := by
  rw [markRepeats_silent hrepeat]
  simp only [hfirst, List.filterMap_eq_map']
  refine ⟨?_, ?_⟩
  · intro ⟨hdistinct, hall⟩
    exact ⟨fun arg harg => (hall arg harg).1, hdistinct, fun arg harg => (hall arg harg).2⟩
  · intro h
    exact ⟨h.distinct, fun arg harg => ⟨h.names arg harg, h.inputs arg harg⟩⟩

variable {S : Schema} {id : TypeId}

theorem checkArguments_silent {owner field : String} {args : List Argument} :
    (ofSchema S).checkArguments id.isIntrospection owner field args = [] ↔
      S.ArgumentsOk (S.OwnNameOk id) args := by
  refine arguments_silent (s := ofSchema S) ?_ ?_ args
  · intro arg
    simp [checkArgument]
  · intro arg
    have htype : (ofSchema S).checkArgumentType owner field arg = [] ↔
        S.catalog.acceptsInput arg.type = true := unless_silent
    simp only [checkArgument, List.append_eq_nil_iff, Bool.false_eq_true, if_false,
      checkName_silent, htype]
    rfl

theorem checkOutput_silent {owner field : String} {type : Ref} :
    (ofSchema S).checkOutput owner field type = [] ↔ S.catalog.isOutput type = true :=
  unless_silent

theorem checkInput_silent {owner field : String} {type : Ref} :
    (ofSchema S).checkInput owner field type = [] ↔ S.catalog.acceptsInput type = true :=
  unless_silent

/-- A field that was written twice is not examined, and is not silent either. -/
theorem checkFieldContent_silent {key : String} {f : Field} :
    (ofSchema S).checkFieldContent id.isIntrospection (S.catalog.typeDef id).name key f = [] ↔
      ((Locator.ofSchema S).nodes (.ofField (S.catalog.typeDef id).name key)).length ≤ 1 ∧
        S.catalog.isOutput f.type = true ∧ S.ArgumentsOk (S.OwnNameOk id) f.args := by
  unfold checkFieldContent
  by_cases honce : 1 < ((ofSchema S).locator.nodes
      (.ofField (S.catalog.typeDef id).name key)).length
  · rw [if_pos honce]
    simp only [List.cons_ne_nil, false_iff, not_and]
    intro hle
    exact absurd honce (Nat.not_lt.mpr hle)
  · rw [if_neg honce, List.append_eq_nil_iff, checkOutput_silent, checkArguments_silent]
    exact (and_iff_right (Nat.le_of_not_lt honce)).symm

theorem checkField_silent {key : String} {f : Field} :
    (ofSchema S).checkField id.isIntrospection (S.catalog.typeDef id).name (key, f) = [] ↔
      S.FieldOk id key f := by
  rw [checkField, List.append_eq_nil_iff, checkName_silent, checkFieldContent_silent]
  refine ⟨?_, ?_⟩
  · intro ⟨hname, honce, houtput, hargs⟩
    exact ⟨hname, honce, houtput, hargs⟩
  · intro h
    exact ⟨h.name, h.once, h.output, h.arguments⟩

theorem checkFields_silent : (ofSchema S).checkFields id = [] ↔ S.FieldsOk id := by
  refine (nonempty_silent (P := fun entry : String × Field => S.FieldOk id entry.1 entry.2)
    fun _ => checkField_silent).trans ?_
  refine ⟨?_, ?_⟩
  · intro ⟨hne, hall⟩
    exact ⟨hne, fun key f hf => hall (key, f) hf⟩
  · intro h
    exact ⟨h.nonempty, fun entry hentry => h.each entry.1 entry.2 hentry⟩

theorem checkInputField_silent {key : String} {f : Field} :
    (ofSchema S).checkInputField id.isIntrospection (S.catalog.typeDef id).name (key, f) = [] ↔
      S.OwnNameOk id key ∧ S.catalog.acceptsInput f.type = true := by
  rw [checkInputField, List.append_eq_nil_iff, checkName_silent, checkInput_silent]
  rfl

theorem checkInputObject_silent : (ofSchema S).checkInputObject id = [] ↔ S.InputFieldsOk id := by
  refine (nonempty_silent (P := fun entry : String × Field => S.OwnNameOk id entry.1 ∧
    S.catalog.acceptsInput entry.2.type = true) fun _ => checkInputField_silent).trans ?_
  refine ⟨?_, ?_⟩
  · intro ⟨hne, hall⟩
    exact ⟨hne, fun key f hf => (hall (key, f) hf).1, fun key f hf => (hall (key, f) hf).2⟩
  · intro h
    exact ⟨h.nonempty, fun entry hentry =>
      ⟨h.names entry.1 entry.2 hentry, h.inputs entry.1 entry.2 hentry⟩⟩

/-! ### Members and values -/

theorem checkMembers_silent {form : UnionForm} :
    (ofSchema S).checkMembers form id = [] ↔ S.MembersOk form.memberKind id := by
  have hsome : (ofSchema S).checkHasMembers form (S.catalog.typeDef id) = [] ↔
      (S.catalog.typeDef id).members ≠ [] :=
    when_silent.trans (not_congr List.isEmpty_iff)
  have hfirst : ∀ r, (ofSchema S).checkMember form (S.catalog.typeDef id).name (r, false) = [] ↔
      S.catalog.isKind form.memberKind r = true := fun _ => unless_silent
  show (ofSchema S).checkHasMembers form (S.catalog.typeDef id) ++
    (markRepeats S.catalog.name? (S.catalog.typeDef id).members).flatMap
      ((ofSchema S).checkMember form (S.catalog.typeDef id).name) = [] ↔ _
  rw [List.append_eq_nil_iff, markRepeats_silent (fun _ => List.cons_ne_nil _ _), hsome]
  simp only [hfirst]
  refine ⟨?_, ?_⟩
  · intro ⟨hne, hdistinct, hkinds⟩
    exact ⟨hne, hkinds, hdistinct⟩
  · intro h
    exact ⟨h.nonempty, h.distinct, h.kinds⟩

theorem checkValue_silent {v : EnumValue} :
    (ofSchema S).checkValue id.isIntrospection (S.catalog.typeDef id).name v = [] ↔
      S.ValueOk id v := by
  have honce : (ofSchema S).checkValueOnce (S.catalog.typeDef id).name v.name = [] ↔
      ((Locator.ofSchema S).nodes (.ofValue (S.catalog.typeDef id).name v.name)).length ≤ 1 :=
    when_silent.trans Nat.not_lt
  have hreserved : checkValueReserved (S.catalog.typeDef id).name v = [] ↔
      v.name ∉ ["true", "false", "null"] :=
    when_silent.trans (not_congr List.contains_iff_mem)
  rw [checkValue, List.append_eq_nil_iff, List.append_eq_nil_iff, honce, checkName_silent,
    hreserved]
  refine ⟨?_, ?_⟩
  · intro ⟨⟨honce, hname⟩, hfree⟩
    exact ⟨hname, honce, hfree⟩
  · intro h
    exact ⟨⟨h.once, h.name⟩, h.unreserved⟩

theorem checkEnum_silent : (ofSchema S).checkEnum id = [] ↔ S.ValuesOk id := by
  refine (nonempty_silent fun _ => checkValue_silent).trans ?_
  refine ⟨?_, ?_⟩
  · intro ⟨hne, hall⟩
    exact ⟨hne, hall⟩
  · intro h
    exact ⟨h.nonempty, h.each⟩

/-! ### Claims -/

/-- Among arguments of different names, the first of a name is the one of that name. -/
theorem find?_argument {args : List Argument} (hdistinct : (args.map Argument.name).Nodup)
    {name : String} {arg : Argument} :
    args.find? (fun a => a.name == name) = some arg ↔ arg ∈ args ∧ arg.name = name := by
  refine ⟨?_, ?_⟩
  · intro h
    exact ⟨List.mem_of_find?_eq_some h, by simpa using List.find?_some h⟩
  · intro ⟨hmem, hname⟩
    cases hfind : args.find? (fun a => a.name == name) with
    | none =>
        have hnot := List.find?_eq_none.mp hfind arg hmem
        simp [hname] at hnot
    | some other =>
        have hother : other.name = name := by simpa using List.find?_some hfind
        have heq := List.inj_on_of_nodup_map hdistinct (List.mem_of_find?_eq_some hfind) hmem
          (hother.trans hname.symm)
        rw [heq]

theorem checkExpectedArgument_silent {object interface : TypeDef} {field : String}
    {given : List Argument} {expected : Argument}
    (hdistinct : (given.map Argument.name).Nodup) :
    s.checkExpectedArgument object interface field given expected = [] ↔
      ∃ own ∈ given, own.name = expected.name ∧ expected.type.sameType own.type = true := by
  unfold checkExpectedArgument
  cases hfind : given.find? (fun arg => arg.name == expected.name) with
  | none =>
      simp only [List.cons_ne_nil, false_iff]
      intro ⟨own, hown, hname, _⟩
      rw [(find?_argument hdistinct).mpr ⟨hown, hname⟩] at hfind
      exact Option.some_ne_none own hfind
  | some arg =>
      obtain ⟨harg, hname⟩ := (find?_argument hdistinct).mp hfind
      show (if expected.type.sameType arg.type = true then [] else _) = [] ↔ _
      rw [unless_silent]
      refine ⟨fun hsame => ⟨arg, harg, hname, hsame⟩, ?_⟩
      intro ⟨own, hown, hown', hsame⟩
      rw [(find?_argument hdistinct).mpr ⟨hown, hown'⟩] at hfind
      rw [← Option.some.inj hfind]
      exact hsame

theorem checkAdditionalArgument_silent {object interface : TypeDef} {field : String}
    {expected : List Argument} {own : Argument} :
    s.checkAdditionalArgument object interface field expected own = [] ↔
      (own.name ∉ expected.map Argument.name → own.type.isNonNull = false) := by
  unfold checkAdditionalArgument
  rw [when_silent]
  by_cases hknown : own.name ∈ expected.map Argument.name <;> simp [hknown]

theorem checkObligation_silent {object interface : TypeDef} {key : String} {expected : Field}
    (hdistinct : ∀ given, object.fields.get? key = some given →
      (given.args.map Argument.name).Nodup) :
    s.checkObligation object interface (key, expected) = [] ↔
      ∃ given, object.fields.get? key = some given ∧ s.schema.Keeps given expected := by
  unfold checkObligation
  cases hget : object.fields.get? key with
  | none => simp
  | some given =>
      have htype : s.checkSharedType object interface key given expected = [] ↔
          s.schema.isSubtype given.type expected.type = true := unless_silent
      have hargs : s.checkSharedArguments object interface key given expected = [] ↔
          (∀ arg ∈ expected.args, ∃ own ∈ given.args,
            own.name = arg.name ∧ arg.type.sameType own.type = true) ∧
          ∀ own ∈ given.args, own.name ∉ expected.args.map Argument.name →
            own.type.isNonNull = false := by
        unfold checkSharedArguments
        rw [List.append_eq_nil_iff, List.flatMap_eq_nil_iff, List.flatMap_eq_nil_iff]
        simp only [checkExpectedArgument_silent (hdistinct given hget),
          checkAdditionalArgument_silent]
      show s.checkSharedType object interface key given expected ++
        s.checkSharedArguments object interface key given expected = [] ↔ _
      rw [List.append_eq_nil_iff, htype, hargs]
      refine ⟨?_, ?_⟩
      · intro ⟨hsub, htakes, hoptional⟩
        exact ⟨given, rfl, hsub, htakes, hoptional⟩
      · intro ⟨given', hgiven, hkeeps⟩
        cases hgiven
        exact ⟨hkeeps.type, hkeeps.takes, hkeeps.optional⟩

theorem checkConformance_silent {object interface : TypeDef}
    (hdistinct : ∀ key given, object.fields.get? key = some given →
      (given.args.map Argument.name).Nodup) :
    s.checkConformance object interface = [] ↔ s.schema.Conforms object interface := by
  rw [checkConformance, List.flatMap_eq_nil_iff]
  refine ⟨?_, ?_⟩
  · intro hall key expected hmem
    exact (checkObligation_silent (hdistinct key)).mp (hall (key, expected) hmem)
  · intro h entry hmem
    exact (checkObligation_silent (hdistinct entry.1)).mpr (h entry.1 entry.2 hmem)

theorem checkClaim_silent {object : TypeDef} {claim : Ref} :
    s.checkClaim object claim = [] ↔
      s.schema.catalog.isKind .interface claim = true ∧
        ∀ i, claim = .named i →
          s.checkConformance object (s.schema.catalog.typeDef i) = [] := by
  cases claim with
  | named i =>
      show (if s.schema.catalog.isKind .interface (.named i) = true then
        s.checkConformance object (s.schema.catalog.typeDef i) else _) = [] ↔ _
      by_cases hkind : s.schema.catalog.isKind .interface (.named i) = true
      · rw [if_pos hkind]
        simp [hkind]
      · rw [if_neg hkind]
        simp [hkind]
  | _ => simp [checkClaim, Catalog.isKind, Catalog.kind?, Ref.typeId?]

/-- The claims of an object whose own fields are in order. -/
theorem checkClaims_silent (hfields : S.FieldsOk id) :
    (ofSchema S).checkClaims id = [] ↔ S.ClaimsOk id := by
  have hdistinct : ∀ key given, (S.catalog.typeDef id).fields.get? key = some given →
      (given.args.map Argument.name).Nodup := by
    intro key given hget
    exact (hfields.each key given ((Table.get?_eq_some_iff _ _ _).mp hget)).arguments.distinct
  have hfirst : ∀ r, (ofSchema S).checkMarkedClaim (S.catalog.typeDef id) (r, false) = [] ↔
      S.catalog.isKind .interface r = true ∧
        ∀ i, r = .named i → S.Conforms (S.catalog.typeDef id) (S.catalog.typeDef i) := by
    intro r
    show (ofSchema S).checkClaim (S.catalog.typeDef id) r = [] ↔ _
    rw [checkClaim_silent]
    simp only [checkConformance_silent hdistinct]
    rfl
  show (markRepeats S.catalog.name? (S.catalog.typeDef id).interfaces).flatMap
    ((ofSchema S).checkMarkedClaim (S.catalog.typeDef id)) = [] ↔ _
  rw [markRepeats_silent (fun _ => List.cons_ne_nil _ _)]
  simp only [hfirst]
  refine ⟨?_, ?_⟩
  · intro ⟨hdist, hall⟩
    exact ⟨fun r hr => (hall r hr).1, hdist, fun i hi => (hall (.named i) hi).2 i rfl⟩
  · intro h
    exact ⟨h.distinct, fun r hr => ⟨h.kinds r hr, fun i hi => h.met i (hi ▸ hr)⟩⟩

/-! ### Types, directives, roots -/

theorem checkByKind_silent : (ofSchema S).checkByKind id = [] ↔ S.BodyOk id := by
  have hcatalog : (ofSchema S).catalog = S.catalog := rfl
  unfold checkByKind Schema.BodyOk
  rw [hcatalog]
  cases (S.catalog.typeDef id).kind with
  | scalar => exact iff_of_true rfl trivial
  | object =>
      show (ofSchema S).checkFields id ++ (ofSchema S).checkClaims id = [] ↔ _
      rw [List.append_eq_nil_iff, checkFields_silent]
      exact and_congr_right checkClaims_silent
  | interface => exact checkFields_silent
  | union => exact checkMembers_silent
  | inputUnion => exact checkMembers_silent
  | enum => exact checkEnum_silent
  | inputObject => exact checkInputObject_silent

theorem checkEntry_silent {r : Ref} :
    (ofSchema S).checkEntry r = [] ↔ ∃ id, r = .named id ∧ S.TypeOk id := by
  cases r with
  | named id =>
      show (ofSchema S).checkName _ _ _ ++ (ofSchema S).checkByKind id = [] ↔ _
      rw [List.append_eq_nil_iff, checkName_silent, checkByKind_silent]
      refine ⟨?_, ?_⟩
      · intro ⟨hname, hbody⟩
        exact ⟨id, rfl, hname, hbody⟩
      · intro ⟨id', hid, h⟩
        cases hid
        exact ⟨h.name, h.body⟩
  | _ => simp [checkEntry]

theorem checkDirectiveDef_silent {d : DirectiveDef} :
    (ofSchema S).checkDirectiveDef d = [] ↔ S.DirectiveOk d := by
  have hargs : (markRepeats (fun arg => some arg.name) d.args).flatMap
        ((ofSchema S).checkDirectiveArgument d.name) = [] ↔ S.ArgumentsOk S.NameOk d.args := by
    refine arguments_silent (s := ofSchema S) ?_ ?_ _
    · intro arg
      simp [checkDirectiveArgument]
    · intro arg
      have htype : (ofSchema S).checkDirectiveArgumentType d.name arg = [] ↔
          S.catalog.acceptsInput arg.type = true := unless_silent
      simp only [checkDirectiveArgument, List.append_eq_nil_iff, Bool.false_eq_true, if_false,
        checkName_silent_of_not_exempt, htype]
      rfl
  rw [checkDirectiveDef, List.append_eq_nil_iff, checkName_silent_of_not_exempt, hargs]
  refine ⟨?_, ?_⟩
  · intro ⟨hname, hargs⟩
    exact ⟨hname, hargs⟩
  · intro h
    exact ⟨h.name, h.arguments⟩

theorem checkDirective_silent {r : Ref} :
    (ofSchema S).checkDirective r = [] ↔
      ∃ id, r = .directive id ∧ S.DirectiveOk (S.catalog.directiveDef id) := by
  cases r with
  | directive id =>
      refine checkDirectiveDef_silent.trans ?_
      refine ⟨fun h => ⟨id, rfl, h⟩, ?_⟩
      intro ⟨id', hid, h⟩
      cases hid
      exact h
  | _ => simp [checkDirective]

theorem checkRoots_silent :
    (ofSchema S).checkRoots = [] ↔
      S.catalog.isKind .object S.query = true ∧ S.RootOk S.mutation ∧
        S.RootOk S.subscription := by
  have hroot : ∀ operation, (ofSchema S).checkRootKind operation = [] ↔
      S.RootOk (S.root operation) := by
    intro operation
    refine unless_silent.trans ?_
    rw [Bool.or_eq_true, decide_eq_true_eq]
    rfl
  have hpresent : (ofSchema S).checkQueryPresent = [] ↔ S.query ≠ .null := when_silent
  rw [checkRoots, List.append_eq_nil_iff, List.append_eq_nil_iff, List.append_eq_nil_iff,
    hpresent, hroot, hroot, hroot]
  refine ⟨?_, ?_⟩
  · intro ⟨⟨⟨hne, hquery⟩, hmutation⟩, hsubscription⟩
    exact ⟨hquery.resolve_left hne, hmutation, hsubscription⟩
  · intro ⟨hquery, hmutation, hsubscription⟩
    refine ⟨⟨⟨?_, Or.inr hquery⟩, hmutation⟩, hsubscription⟩
    intro hnull
    rw [hnull] at hquery
    exact Bool.noConfusion hquery

end Scope

namespace Schema

variable {S : Schema}

/-- The three passes, one after the other. -/
theorem diagnose_eq (S : Schema) :
    S.diagnose = (Scope.ofSchema S).checkRoots ++ (Scope.ofSchema S).checkDirectives ++
      (Scope.ofSchema S).checkTypes :=
  -- Neither the roots nor the directives take the index, so each pass is shown the same schema.
  rfl

/-- What the validators find in any schema: nothing if it is certified and its type map holds
nothing but types. -/
theorem diagnose_silent (S : Schema) :
    S.diagnose = [] ↔ S.Certified ∧ ∀ r ∈ S.types, ∃ id, r = .named id := by
  have hdirectives : (Scope.ofSchema S).checkDirectives = [] ↔
      ∀ r ∈ S.directives, ∃ id, r = .directive id ∧ S.DirectiveOk (S.catalog.directiveDef id) := by
    rw [Scope.checkDirectives, List.flatMap_eq_nil_iff]
    simp only [Scope.checkDirective_silent]
    rfl
  have htypes : (Scope.ofSchema S).checkTypes = [] ↔
      ∀ r ∈ S.types, ∃ id, r = .named id ∧ S.TypeOk id := by
    rw [Scope.checkTypes, List.flatMap_eq_nil_iff]
    simp only [Scope.checkEntry_silent]
    rfl
  rw [diagnose_eq, List.append_eq_nil_iff, List.append_eq_nil_iff, Scope.checkRoots_silent,
    hdirectives, htypes]
  refine ⟨?_, ?_⟩
  · intro ⟨⟨⟨hquery, hmutation, hsubscription⟩, hdirs⟩, htys⟩
    refine ⟨⟨hquery, hmutation, hsubscription, hdirs, ?_⟩, ?_⟩
    · intro id hid
      obtain ⟨id', heq, hok⟩ := htys (.named id) hid
      cases heq
      exact hok
    · intro r hr
      obtain ⟨id, heq, -⟩ := htys r hr
      exact ⟨id, heq⟩
  · intro ⟨hcert, hnamed⟩
    refine ⟨⟨⟨hcert.query, hcert.mutation, hcert.subscription⟩, hcert.directives⟩, ?_⟩
    intro r hr
    obtain ⟨id, heq⟩ := hnamed r hr
    exact ⟨id, heq, hcert.types id (heq ▸ hr)⟩

theorem Unmodified.diagnose_silent {c : Catalog} {b : Blueprint} (h : Unmodified c b S) :
    S.diagnose = [] ↔ S.Certified := by
  rw [Schema.diagnose_silent]
  refine and_iff_left ?_
  intro r hr
  obtain ⟨id, heq, -⟩ := (h.lists.mem_types r).mp hr
  exact ⟨id, heq⟩

/-- Validation answers with a fresh pass if no verdict is kept. -/
theorem validate_answer (hempty : S.verdict.content = none) :
    S.validate.answer = S.diagnose := by
  simp only [validate, OneShot.getOrCompute, hempty]
  rfl

/--
**An empty verdict certifies the schema.**  Validating a schema that was not edited, and
for which no verdict is kept, yields no diagnostic exactly if the schema is certified.
-/
theorem validate_eq_nil_iff_certified {c : Catalog} {b : Blueprint} (h : Unmodified c b S)
    (hempty : S.verdict.content = none) : S.validate.answer = [] ↔ S.Certified := by
  rw [validate_answer hempty]
  exact h.diagnose_silent

/-! ### A schema with a type of every kind -/

/-- A query root that searches pets by a filter.  `Dog` claims `Animal`, returns a more specific
list from its field, and lets the caller choose where the list starts. -/
def petCatalog : Catalog where
  types := #[
    { name := "Animal"
      body := .interfaceOf
        [("friends", { type := .list (.named (.own 0)), args := [limit] })] },
    { name := "Dog"
      body := .objectOf
        [("friends", { type := .nonNull (.list (.named (.own 1))), args := [limit, start] })]
        [.named (.own 0)] },
    { name := "Query"
      body := .objectOf
        [("pet", { type := .named (.own 0) }),
         ("search", { type := .named (.own 3), args := [filter] })]
        [] },
    { name := "Pet", body := .union [.named (.own 1)] },
    { name := "Search", body := .inputUnion [.named (.own 5)] },
    { name := "Filter", body := .inputObjectOf [("size", { type := .named (.own 6) })] },
    { name := "Size", body := .enum [{ name := "SMALL" }, { name := "LARGE" }] }]
where
  limit : Argument := { name := "first", type := Builtin.int.ref }
  start : Argument := { name := "after", type := Builtin.string.ref }
  filter : Argument := { name := "by", type := .named (.own 4) }

/-- Pets can be asked for by a query and by nothing else. -/
def petBlueprint : Blueprint where
  query := .named (.own 2)

theorem validate_certified_pets :
    ∃ S, Unmodified petCatalog petBlueprint S ∧ S.verdict.content = none ∧
      S.validate.answer = [] ∧ S.Certified := by
  obtain ⟨S, hbuild, hempty, hnil⟩ := @exists_build petCatalog petBlueprint
    (fun S => S.verdict.content = none ∧ S.validate.answer = []) _ (by decide +kernel)
  exact ⟨S, .built hbuild, hempty, hnil,
    (validate_eq_nil_iff_certified (.built hbuild) hempty).mp hnil⟩

end Schema

end TypeGraph
