/-
What an interface asks of an object is reported item by item.

An interface asks for several things, and each of them is met or violated on its own:
that a field is there, that it returns what is promised, that it takes each of the
promised arguments, that these have the promised types, and that it can do without the
others.  `obligations` lists them, in the order of the interface's fields, without a
look at which of them are met.  The check of a claim reports exactly those that are
violated, in that order.

What is asked of a field presupposes the field, so of a field that is not there nothing
else is asked; and the type of an argument is asked of the first one of its name.  An
object may give one name to two arguments.  That is wrong too, but it is said elsewhere.
-/
import TypeGraph.Proofs.TypeMap
import TypeGraph.Validation

namespace TypeGraph

/-! ### What is asked -/

/-- One thing that an interface asks of an object. -/
inductive Obligation
  /-- The object has the field. -/
  | provides (field : String)
  /-- Its field returns the promised type or a more specific one. -/
  | returns (field : String) (given promised : Ref)
  /-- Its field takes an argument of the promised name. -/
  | takes (field : String) (given : List Argument) (promised : Argument)
  /-- Its argument has the promised type. -/
  | agrees (field : String) (own promised : Argument)
  /-- Its argument was promised too, or else can be left out. -/
  | spares (field : String) (promised : List Argument) (own : Argument)

namespace Obligation

/-- The obligation is not met. -/
def Violated (S : Schema) (object : TypeDef) : Obligation → Prop
  | provides field => field ∉ object.fields.keys
  | returns _ given promised => S.isSubtype given promised = false
  | takes _ given promised => promised.name ∉ given.map Argument.name
  | agrees _ own promised => promised.type.sameType own.type = false
  | spares _ promised own => own.name ∉ promised.map Argument.name ∧ own.type.isNonNull = true

instance (S : Schema) (object : TypeDef) : DecidablePred (Violated S object)
  | provides field => inferInstanceAs (Decidable (field ∉ object.fields.keys))
  | returns _ given promised => inferInstanceAs (Decidable (S.isSubtype given promised = false))
  | takes _ given promised => inferInstanceAs (Decidable (promised.name ∉ given.map Argument.name))
  | agrees _ own promised => inferInstanceAs (Decidable (promised.type.sameType own.type = false))
  | spares _ promised own => inferInstanceAs
      (Decidable (own.name ∉ promised.map Argument.name ∧ own.type.isNonNull = true))

/-- What is reported if the obligation is not met. -/
def report (s : Scope) (object interface : TypeDef) : Obligation → Diagnostic
  | provides field => s.missingField object interface field
  | returns field given promised =>
    .reported (.fieldMismatch interface.name field (s.inspect promised) object.name
        (s.inspect given))
      [s.locator.typeNode? (.ofField interface.name field),
       s.locator.typeNode? (.ofField object.name field)]
  | takes field _ promised =>
    .reported (.argumentMissing interface.name field promised.name object.name)
      [s.locator.node? (.ofArgument interface.name field promised.name),
       s.locator.node? (.ofField object.name field)]
  | agrees field own promised =>
    .reported (.argumentMismatch interface.name field promised.name (s.inspect promised.type)
        object.name (s.inspect own.type))
      [s.locator.typeNode? (.ofArgument interface.name field promised.name),
       s.locator.typeNode? (.ofArgument object.name field promised.name)]
  | spares field _ own =>
    .reported (.argumentRequired object.name field own.name (s.inspect own.type) interface.name)
      [s.locator.typeNode? (.ofArgument object.name field own.name),
       s.locator.node? (.ofField interface.name field)]

theorem category_report (s : Scope) (object interface : TypeDef) (o : Obligation) :
    (o.report s object interface).category = .compatibility := by
  cases o <;> rfl

end Obligation

/-- What one promised argument asks of a field that takes the given ones: that there is one of
its name, and of the first of them that it has the type. -/
def argumentObligations (field : String) (given : List Argument) (promised : Argument) :
    List Obligation :=
  .takes field given promised ::
    (given.find? fun own => own.name == promised.name).toList.map (.agrees field · promised)

/-- What a promised field asks of the object's field of that name. -/
def fieldObligations (field : String) (given promised : Field) : List Obligation :=
  .returns field given.type promised.type ::
    (promised.args.flatMap (argumentObligations field given.args) ++
      given.args.map (.spares field promised.args))

/-- What an interface asks of an object, field by field. -/
def obligations (object interface : TypeDef) : List Obligation :=
  interface.fields.entries.flatMap fun promised =>
    .provides promised.1 :: (object.fields.get? promised.1).toList.flatMap
      (fieldObligations promised.1 · promised.2)

/-- The first argument of a name is missing where the name is. -/
theorem find?_argument_eq_none {args : List Argument} {name : String} :
    args.find? (fun a => a.name == name) = none ↔ name ∉ args.map Argument.name := by
  rw [List.find?_eq_none, List.mem_map]
  refine ⟨?_, ?_⟩
  · rintro h ⟨arg, harg, hname⟩
    exact h arg harg (beq_iff_eq.mpr hname)
  · intro h arg harg hname
    exact h ⟨arg, harg, beq_iff_eq.mp hname⟩

theorem mem_names_of_find?_argument {args : List Argument} {name : String} {arg : Argument}
    (h : args.find? (fun a => a.name == name) = some arg) : name ∈ args.map Argument.name := by
  by_contra hmissing
  rw [find?_argument_eq_none.mpr hmissing] at h
  cases h

/-- All but the field itself is asked of a field that both have. -/
theorem shared_of_mem_obligations {object interface : TypeDef} {o : Obligation}
    (h : o ∈ obligations object interface) (hfield : ∀ key, o ≠ .provides key) :
    ∃ key given promised, (key, promised) ∈ interface.fields.entries ∧
      object.fields.get? key = some given ∧ o ∈ fieldObligations key given promised := by
  obtain ⟨⟨key, promised⟩, hpromised, h⟩ := List.mem_flatMap.mp h
  rcases List.mem_cons.mp h with h | h
  · exact absurd h (hfield key)
  · obtain ⟨given, hgiven, h⟩ := List.mem_flatMap.mp h
    exact ⟨key, given, promised, hpromised, Option.mem_toList.mp hgiven, h⟩

theorem returns_mem_fieldObligations {key field : String} {given promised : Field}
    {found expected : Ref}
    (h : .returns key found expected ∈ fieldObligations field given promised) :
    key = field ∧ found = given.type ∧ expected = promised.type := by
  rcases List.mem_cons.mp h with h | h
  · cases h
    exact ⟨rfl, rfl, rfl⟩
  · simp [argumentObligations] at h

theorem agrees_mem_fieldObligations {key field : String} {given promised : Field}
    {own arg : Argument} (h : .agrees key own arg ∈ fieldObligations field given promised) :
    key = field ∧ arg ∈ promised.args ∧
      given.args.find? (fun a => a.name == arg.name) = some own := by
  rcases List.mem_cons.mp h with h | h
  · cases h
  · rcases List.mem_append.mp h with h | h
    · obtain ⟨arg', harg, h⟩ := List.mem_flatMap.mp h
      rcases List.mem_cons.mp h with h | h
      · cases h
      · obtain ⟨own', hown, h⟩ := List.mem_map.mp h
        cases h
        exact ⟨rfl, harg, Option.mem_toList.mp hown⟩
    · obtain ⟨own', -, h⟩ := List.mem_map.mp h
      cases h

/-! ### What is reported -/

namespace Scope

variable (s : Scope) (object interface : TypeDef)

/-- What is reported on one obligation. -/
def reportOn (o : Obligation) : List Diagnostic :=
  if o.Violated s.schema object then [o.report s object interface] else []

/-- Reporting on each obligation is reporting those that are violated. -/
theorem flatMap_reportOn (asked : List Obligation) :
    asked.flatMap (s.reportOn object interface) =
      (asked.filter (Obligation.Violated s.schema object ·)).map
        (Obligation.report s object interface) := by
  induction asked with
  | nil => rfl
  | cons o rest ih =>
      rw [List.flatMap_cons, ih, List.filter_cons, reportOn]
      by_cases h : o.Violated s.schema object
      · simp [h]
      · simp [h]

theorem checkExpectedArgument_eq (field : String) (given : List Argument) (promised : Argument) :
    s.checkExpectedArgument object interface field given promised =
      (argumentObligations field given promised).flatMap (s.reportOn object interface) := by
  unfold argumentObligations checkExpectedArgument
  rw [List.flatMap_cons]
  cases hfind : given.find? fun own => own.name == promised.name with
  | none =>
      have hmissing : Obligation.Violated s.schema object (.takes field given promised) :=
        find?_argument_eq_none.mp hfind
      rw [reportOn, if_pos hmissing]
      rfl
  | some own =>
      have hthere : ¬ Obligation.Violated s.schema object (.takes field given promised) :=
        not_not.mpr (mem_names_of_find?_argument hfind)
      rw [reportOn, if_neg hthere]
      -- What is left to ask is whether the first argument of the name has the type.
      cases hsame : promised.type.sameType own.type with
      | true => simp [reportOn, Obligation.Violated, hsame]
      | false => simp [reportOn, Obligation.Violated, Obligation.report, hsame]

theorem checkAdditionalArgument_eq (field : String) (promised : List Argument) (own : Argument) :
    s.checkAdditionalArgument object interface field promised own =
      s.reportOn object interface (.spares field promised own) := by
  unfold checkAdditionalArgument
  refine if_congr ?_ rfl rfl
  simp [Obligation.Violated]

theorem checkSharedType_eq (field : String) (given promised : Field) :
    s.checkSharedType object interface field given promised =
      s.reportOn object interface (.returns field given.type promised.type) := by
  unfold checkSharedType
  cases hsub : s.schema.isSubtype given.type promised.type with
  | true => simp [reportOn, Obligation.Violated, hsub]
  | false => simp [reportOn, Obligation.Violated, Obligation.report, hsub]

theorem checkObligation_eq (promised : String × Field) :
    s.checkObligation object interface promised =
      (Obligation.provides promised.1 :: (object.fields.get? promised.1).toList.flatMap
        (fieldObligations promised.1 · promised.2)).flatMap (s.reportOn object interface) := by
  rw [List.flatMap_cons, reportOn]
  unfold checkObligation
  cases hget : object.fields.get? promised.1 with
  | none =>
      have hlacks : Obligation.Violated s.schema object (.provides promised.1) :=
        (Table.get?_eq_none_iff _ _).mp hget
      rw [if_pos hlacks]
      rfl
  | some given =>
      have hhas : ¬ Obligation.Violated s.schema object (.provides promised.1) := by
        intro hlacks
        rw [(Table.get?_eq_none_iff _ _).mpr hlacks] at hget
        cases hget
      rw [if_neg hhas, List.nil_append, Option.toList_some, List.flatMap_singleton,
        fieldObligations, List.flatMap_cons, List.flatMap_append, List.flatMap_assoc,
        List.flatMap_map]
      show s.checkSharedType object interface promised.1 given promised.2 ++
        s.checkSharedArguments object interface promised.1 given promised.2 = _
      rw [checkSharedType_eq, checkSharedArguments]
      simp only [← checkExpectedArgument_eq, ← checkAdditionalArgument_eq]

/-- Conformance reports what is asked and not met, and nothing else. -/
theorem checkConformance_eq :
    s.checkConformance object interface =
      ((obligations object interface).filter (Obligation.Violated s.schema object ·)).map
        (Obligation.report s object interface) := by
  rw [← flatMap_reportOn, obligations, List.flatMap_assoc, checkConformance]
  exact List.flatMap_congr fun promised _ => s.checkObligation_eq object interface promised

end Scope

/-! ### When nothing is reported -/

namespace Schema

variable (S : Schema)

/-- A field keeps a promise.  Of several arguments with one name the first one counts. -/
structure Upholds (given promised : Field) : Prop where
  type : S.isSubtype given.type promised.type = true
  takes : ∀ arg ∈ promised.args, ∃ own,
    given.args.find? (fun a => a.name == arg.name) = some own ∧ arg.type.sameType own.type = true
  spares : ∀ own ∈ given.args, own.name ∉ promised.args.map Argument.name →
    own.type.isNonNull = false

/-- An object has every field of an interface and keeps what it promises. -/
def Honours (object interface : TypeDef) : Prop :=
  ∀ key promised, (key, promised) ∈ interface.fields.entries →
    ∃ given, object.fields.get? key = some given ∧ S.Upholds given promised

variable {S} {object interface : TypeDef}

theorem argumentObligations_met {field : String} {given : List Argument} {promised : Argument} :
    (∀ o ∈ argumentObligations field given promised, ¬ o.Violated S object) ↔
      ∃ own, given.find? (fun a => a.name == promised.name) = some own ∧
        promised.type.sameType own.type = true := by
  unfold argumentObligations
  rw [List.forall_mem_cons]
  cases hfind : given.find? fun a => a.name == promised.name with
  | none =>
      have hmissing : Obligation.Violated S object (.takes field given promised) :=
        find?_argument_eq_none.mp hfind
      simp [hmissing]
  | some own =>
      have hthere : ¬ Obligation.Violated S object (.takes field given promised) :=
        not_not.mpr (mem_names_of_find?_argument hfind)
      rw [and_iff_right hthere]
      simp [Obligation.Violated]

theorem fieldObligations_met {field : String} {given promised : Field} :
    (∀ o ∈ fieldObligations field given promised, ¬ o.Violated S object) ↔
      S.Upholds given promised := by
  have hspares : ∀ own, ¬ Obligation.Violated S object (.spares field promised.args own) ↔
      (own.name ∉ promised.args.map Argument.name → own.type.isNonNull = false) := by
    intro own
    simp [Obligation.Violated]
  simp only [fieldObligations, List.forall_mem_cons, List.forall_mem_append,
    List.forall_mem_flatMap, List.forall_mem_map, argumentObligations_met, hspares]
  refine ⟨?_, ?_⟩
  · rintro ⟨htype, htakes, hspares⟩
    exact ⟨by simpa [Obligation.Violated] using htype, htakes, hspares⟩
  · intro h
    exact ⟨by simp [Obligation.Violated, h.type], h.takes, h.spares⟩

/-- An object honours an interface if it meets all that is asked of it. -/
theorem obligations_met :
    (∀ o ∈ obligations object interface, ¬ o.Violated S object) ↔ S.Honours object interface := by
  have hfield : ∀ key promised,
      (∀ o ∈ Obligation.provides key :: (object.fields.get? key).toList.flatMap
        (fieldObligations key · promised), ¬ o.Violated S object) ↔
      ∃ given, object.fields.get? key = some given ∧ S.Upholds given promised := by
    intro key promised
    have hlacks : Obligation.Violated S object (.provides key) ↔
        object.fields.get? key = none := (Table.get?_eq_none_iff _ _).symm
    rw [List.forall_mem_cons, hlacks]
    cases object.fields.get? key with
    | none => simp
    | some given => simp [fieldObligations_met]
  rw [obligations, List.forall_mem_flatMap]
  refine ⟨?_, ?_⟩
  · intro h key promised hmem
    exact (hfield key promised).mp (h (key, promised) hmem)
  · intro h promised hmem
    exact (hfield promised.1 promised.2).mpr (h promised.1 promised.2 hmem)

/--
**What an interface asks for and an object lacks is reported.**  In any context, checking an
object against an interface leaves the reports that are there and adds one for each violated
obligation, in the order they are listed.  All of these are about compatibility, and there is
none exactly if the object honours the interface.
-/
theorem claim_reports_violations (ctx : Context) (object : TypeDef) {i : TypeId}
    (hi : ctx.schema.catalog.isKind .interface (.named i) = true) :
    (ctx.report (ctx.scope.checkClaim object (.named i))).reported =
      ctx.reported ++
        ((obligations object (ctx.schema.catalog.typeDef i)).filter
          (Obligation.Violated ctx.schema object ·)).map
          (Obligation.report ctx.scope object (ctx.schema.catalog.typeDef i)) ∧
    (∀ d ∈ ctx.scope.checkClaim object (.named i), d.category = .compatibility) ∧
    (ctx.scope.checkClaim object (.named i) = [] ↔
      ctx.schema.Honours object (ctx.schema.catalog.typeDef i)) := by
  have hclaim : ctx.scope.checkClaim object (.named i) =
      ((obligations object (ctx.schema.catalog.typeDef i)).filter
        (Obligation.Violated ctx.schema object ·)).map
        (Obligation.report ctx.scope object (ctx.schema.catalog.typeDef i)) := by
    rw [Scope.checkClaim]
    exact (if_pos hi).trans (ctx.scope.checkConformance_eq object _)
  rw [hclaim]
  refine ⟨rfl, ?_, ?_⟩
  · intro d hd
    obtain ⟨o, -, rfl⟩ := List.mem_map.mp hd
    exact o.category_report ctx.scope object _
  · rw [List.map_eq_nil_iff, List.filter_eq_nil_iff, ← obligations_met]
    simp only [decide_eq_true_eq]

/-- A disk that falls short of a shape in every way, and names one argument twice. -/
def diskCatalog : Catalog where
  types := #[
    { name := "Shape"
      body := .interfaceOf
        [("name", { type := Builtin.string.ref }),
         ("area", { type := .nonNull Builtin.float.ref
                    args := [{ name := "unit", type := Builtin.int.ref },
                             { name := "scale", type := Builtin.float.ref }] }),
         ("touches", { type := .named (.own 0) })] },
    { name := "Disk"
      body := .objectOf
        [("area", { type := Builtin.float.ref
                    args := [{ name := "unit", type := Builtin.string.ref },
                             { name := "unit", type := Builtin.int.ref },
                             { name := "round", type := .nonNull Builtin.boolean.ref }] }),
         ("touches", { type := .named (.own 1) })]
        [.named (.own 0)] }]

/-- Disks are asked for. -/
def diskBlueprint : Blueprint where
  query := .named (.own 1)

/-- What is said of the disk, one sentence for each way it falls short. -/
def diskFaults : List String :=
  ["Interface field Shape.name expected but Disk does not provide it.",
   "Interface field Shape.area expects type Float! but Disk.area is type Float.",
   "Interface field argument Shape.area(unit:) expects type Int but Disk.area(unit:) is type " ++
    "String.",
   "Interface field argument Shape.area(scale:) expected but Disk.area does not provide it.",
   "Object field argument Disk.area(round:) is of required type Boolean! but is not also " ++
    "provided by the Interface field Shape.area."]

theorem claim_reports_violations_disk :
    ∃ S ctx object, build diskCatalog diskBlueprint = .ok S ∧
      object = diskCatalog.typeDef (.own 1) ∧
      ctx = (Context.ofSchema S).report [.stated "Earlier."] ∧
      ctx.schema.catalog.isKind .interface (.named (.own 0)) = true ∧
      (ctx.report (ctx.scope.checkClaim object (.named (.own 0)))).reported =
        ctx.reported ++
          ((obligations object (ctx.schema.catalog.typeDef (.own 0))).filter
            (Obligation.Violated ctx.schema object ·)).map
            (Obligation.report ctx.scope object (ctx.schema.catalog.typeDef (.own 0))) ∧
      (ctx.report (ctx.scope.checkClaim object (.named (.own 0)))).reported.map
        Diagnostic.message = "Earlier." :: diskFaults := by
  obtain ⟨S, hbuild, hi, hmessages⟩ := @exists_build diskCatalog diskBlueprint
    (fun S =>
      let ctx := (Context.ofSchema S).report [.stated "Earlier."]
      ctx.schema.catalog.isKind .interface (.named (.own 0)) = true ∧
        (ctx.report (ctx.scope.checkClaim (diskCatalog.typeDef (.own 1))
          (.named (.own 0)))).reported.map Diagnostic.message = "Earlier." :: diskFaults)
    (fun _ => inferInstanceAs (Decidable (_ ∧ _))) (by decide +kernel)
  exact ⟨S, _, _, hbuild, rfl, rfl, hi, (claim_reports_violations _ _ hi).1, hmessages⟩

end Schema

end TypeGraph
