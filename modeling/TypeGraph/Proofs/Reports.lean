/-
What each check can report.

There are some twenty places where something is reported.  Here they are listed, check by
check: the problem, the nodes it points at, and which part of a definition it is about.  A
fact about all diagnostics is then a case for each place, and no check has to be opened for
it again.  When a place is reached is left out; `Silence` says when none is.
-/
import TypeGraph.Check.Directive
import TypeGraph.Check.NamedType
import TypeGraph.Check.Root

namespace TypeGraph

open TypeGraph.Source

/-- Marking repeats keeps the elements and their order. -/
theorem map_fst_markRepeats {α : Type} (name? : α → Option String) (as : List α) :
    (markRepeats name? as).map Prod.fst = as := by
  unfold markRepeats
  generalize ([] : List String) = seen
  induction as generalizing seen with
  | nil => rfl
  | cons a as ih =>
      rw [markRepeatsFrom]
      cases name? a with
      | none => rw [List.map_cons, ih]
      | some name => rw [List.map_cons, ih]

theorem mem_of_mem_markRepeats {α : Type} {name? : α → Option String} {as : List α}
    {marked : α × Bool} (h : marked ∈ markRepeats name? as) : marked.1 ∈ as := by
  have hmem := List.mem_map_of_mem (f := Prod.fst) h
  rwa [map_fst_markRepeats] at hmem

namespace Scope

variable (s : Scope)

/-! ### The places -/

/-- What is reported of the fields of an object or interface. -/
inductive FieldReport (t : TypeDef) : Diagnostic → Prop
  | none : FieldReport t (.pointing (.noFields t.name) (s.typeNodes t))
  | name {key : String} {f : Field} (hf : (key, f) ∈ t.fields.entries) (flaw : NameFlaw) :
      FieldReport t (.pointing (.badName flaw) (f.node.map SlotNode.toNode).toList)
  | twice (key : String) :
      FieldReport t (.pointing (.definedTwice (.field t.name key))
        (s.locator.nodes (.ofField t.name key)))
  | type (key : String) (type : Ref) :
      FieldReport t (.pointing (.notOutput (.field t.name key) (s.inspect type))
        (s.locator.typeNode? (.ofField t.name key)).toList)
  | argumentName {key : String} {f : Field} (hf : (key, f) ∈ t.fields.entries) {arg : Argument}
      (harg : arg ∈ f.args) (flaw : NameFlaw) :
      FieldReport t (.pointing (.badName flaw) (arg.node.map Node.input).toList)
  | argumentTwice (key : String) (arg : Argument) :
      FieldReport t (s.repeatedArgument t.name key arg)
  | argumentType (key : String) (arg : Argument) :
      FieldReport t (.pointing (.notInput (.argument t.name key arg.name) (s.inspect arg.type))
        (s.locator.typeNode? (.ofArgument t.name key arg.name)).toList)

/-- What is reported of the fields of an input object. -/
inductive InputFieldReport (t : TypeDef) : Diagnostic → Prop
  | none : InputFieldReport t (.pointing (.noInputFields t.name) (s.typeNodes t))
  | name {key : String} {f : Field} (hf : (key, f) ∈ t.fields.entries) (flaw : NameFlaw) :
      InputFieldReport t (.pointing (.badName flaw) (f.node.map SlotNode.toNode).toList)
  | type (key : String) (type : Ref) :
      InputFieldReport t (.pointing (.notInput (.field t.name key) (s.inspect type))
        (s.locator.typeNode? (.ofField t.name key)).toList)

/-- What is reported of the members of a union. -/
inductive MemberReport (form : UnionForm) (t : TypeDef) : Diagnostic → Prop
  | none : MemberReport form t (.pointing (.noMembers form t.name) (s.typeNodes t))
  | twice (member : String) : MemberReport form t (s.repeatedMember form t.name member)
  | kind (member : Ref) :
      MemberReport form t (.pointing (.memberKind form t.name (s.inspect member))
        (s.locator.nodes (.ofMember t.name (s.catalog.display member))))

/-- What is reported of the values of an enum. -/
inductive ValueReport (t : TypeDef) : Diagnostic → Prop
  | none : ValueReport t (.pointing (.noValues t.name) (s.typeNodes t))
  | twice (value : String) :
      ValueReport t (.pointing (.valueTwice t.name value) (s.locator.nodes (.ofValue t.name value)))
  | name {v : EnumValue} (hv : v ∈ t.values) (flaw : NameFlaw) :
      ValueReport t (.pointing (.badName flaw) (v.node.map Node.value).toList)
  | reserved {v : EnumValue} (hv : v ∈ t.values) :
      ValueReport t (.pointing (.reservedValue t.name v.name) (v.node.map Node.value).toList)

/-- What is reported of an object against an interface it claims. -/
inductive ConformanceReport (object interface : TypeDef) : Diagnostic → Prop
  | fieldMissing (key : String) : ConformanceReport object interface
      (s.missingField object interface key)
  | fieldType (key : String) (given expected : Ref) : ConformanceReport object interface
      (.reported (.fieldMismatch interface.name key (s.inspect expected) object.name
          (s.inspect given))
        [s.locator.typeNode? (.ofField interface.name key),
         s.locator.typeNode? (.ofField object.name key)])
  | argumentMissing (key argument : String) : ConformanceReport object interface
      (.reported (.argumentMissing interface.name key argument object.name)
        [s.locator.node? (.ofArgument interface.name key argument),
         s.locator.node? (.ofField object.name key)])
  | argumentType (key argument : String) (given expected : Ref) :
      ConformanceReport object interface
        (.reported (.argumentMismatch interface.name key argument (s.inspect expected) object.name
            (s.inspect given))
          [s.locator.typeNode? (.ofArgument interface.name key argument),
           s.locator.typeNode? (.ofArgument object.name key argument)])
  | argumentRequired (key : String) (arg : Argument) : ConformanceReport object interface
      (.reported (.argumentRequired object.name key arg.name (s.inspect arg.type) interface.name)
        [s.locator.typeNode? (.ofArgument object.name key arg.name),
         s.locator.node? (.ofField interface.name key)])

/-- What is reported of the claims of an object. -/
inductive ClaimReport (t : TypeDef) : Diagnostic → Prop
  | twice (claim : String) : ClaimReport t (s.repeatedClaim t claim)
  | kind (claim : Ref) : ClaimReport t (s.foreignClaim t claim)
  | unmet {i : TypeId} {d : Diagnostic} (hi : .named i ∈ t.interfaces)
      (hkind : s.catalog.isKind .interface (.named i) = true)
      (hd : s.ConformanceReport t (s.catalog.typeDef i) d) : ClaimReport t d

/-- What is reported of a named type. -/
inductive TypeReport (t : TypeDef) : Diagnostic → Prop
  | name (flaw : NameFlaw) :
      TypeReport t (.pointing (.badName flaw) (t.node.map Node.definition).toList)
  | field {d : Diagnostic} (hd : s.FieldReport t d) : TypeReport t d
  | inputField {d : Diagnostic} (hd : s.InputFieldReport t d) : TypeReport t d
  | member {form : UnionForm} {d : Diagnostic} (hd : s.MemberReport form t d) : TypeReport t d
  | value {d : Diagnostic} (hd : s.ValueReport t d) : TypeReport t d
  | claim {d : Diagnostic} (hd : s.ClaimReport t d) : TypeReport t d

/-- What is reported of an element of the list of directives. -/
inductive DirectiveReport : Ref → Diagnostic → Prop
  | name (id : DirectiveId) (flaw : NameFlaw) : DirectiveReport (.directive id)
      (.pointing (.badName flaw) ((s.catalog.directiveDef id).node.map Node.directive).toList)
  | argumentName {id : DirectiveId} {arg : Argument} (harg : arg ∈ (s.catalog.directiveDef id).args)
      (flaw : NameFlaw) : DirectiveReport (.directive id)
        (.pointing (.badName flaw) (arg.node.map Node.input).toList)
  | argumentTwice (id : DirectiveId) (arg : Argument) : DirectiveReport (.directive id)
      (s.repeatedDirectiveArgument (s.catalog.directiveDef id).name arg)
  | argumentType (id : DirectiveId) (arg : Argument) : DirectiveReport (.directive id)
      (.pointing (.notInput (.directiveArgument (s.catalog.directiveDef id).name arg.name)
          (s.inspect arg.type))
        (s.locator.typeNode?
          (.ofDirectiveArgument (s.catalog.directiveDef id).name arg.name)).toList)
  | other {r : Ref} (hr : r.isDirective = false) : DirectiveReport r
      (.pointing (.notDirective (s.inspect r)) (s.catalog.node? r).toList)

/-- What is reported of the root of an operation. -/
inductive RootReport : Operation → Diagnostic → Prop
  | missing : RootReport .query
      (.pointing .missingQuery (s.schema.node.map Node.schema).toList)
  | kind (operation : Operation) : RootReport operation
      (.pointing (.rootKind operation (s.inspect (s.schema.root operation)))
        (s.rootNode? operation).toList)

/-! ### Each check reports nothing else -/

variable {s} {d : Diagnostic} {id : TypeId}

theorem eq_or_mem_of_mem_ite {p : Prop} [Decidable p] {e : Diagnostic} {rest : List Diagnostic}
    (h : d ∈ if p then [e] else rest) : d = e ∨ d ∈ rest := by
  by_cases hp : p
  · rw [if_pos hp] at h
    exact Or.inl (List.mem_singleton.mp h)
  · rw [if_neg hp] at h
    exact Or.inr h

theorem eq_of_mem_when {p : Prop} [Decidable p] {e : Diagnostic}
    (h : d ∈ if p then [e] else []) : d = e :=
  (eq_or_mem_of_mem_ite h).resolve_right List.not_mem_nil

theorem eq_of_mem_unless {p : Prop} [Decidable p] {e : Diagnostic}
    (h : d ∈ if p then [] else [e]) : d = e := by
  rw [← ite_not] at h
  exact eq_of_mem_when h

theorem eq_of_mem_checkName {exempt : Bool} {name : String} {node : Option Node}
    (h : d ∈ s.checkName exempt name node) :
    ∃ flaw, d = .pointing (.badName flaw) node.toList := by
  unfold checkName at h
  split at h
  · exact absurd h List.not_mem_nil
  · split at h
    · next flaw _ => exact ⟨flaw, List.mem_singleton.mp h⟩
    · exact absurd h List.not_mem_nil

theorem fieldReport_of_mem_checkArguments {t : TypeDef} {key : String} {f : Field} {exempt : Bool}
    (hf : (key, f) ∈ t.fields.entries) (h : d ∈ s.checkArguments exempt t.name key f.args) :
    s.FieldReport t d := by
  obtain ⟨marked, hmarked, h⟩ := List.mem_flatMap.mp h
  have harg : marked.1 ∈ f.args := mem_of_mem_markRepeats hmarked
  rcases List.mem_append.mp h with hname | hrest
  · obtain ⟨flaw, rfl⟩ := eq_of_mem_checkName hname
    exact .argumentName hf harg flaw
  · rcases eq_or_mem_of_mem_ite hrest with rfl | htype
    · exact .argumentTwice key marked.1
    · obtain rfl := eq_of_mem_unless htype
      exact .argumentType key marked.1

theorem fieldReport_of_mem (h : d ∈ s.checkFields id) :
    s.FieldReport (s.catalog.typeDef id) d := by
  rcases List.mem_append.mp h with hempty | hfields
  · obtain rfl := eq_of_mem_when hempty
    exact .none
  · obtain ⟨⟨key, f⟩, hf, h⟩ := List.mem_flatMap.mp hfields
    rcases List.mem_append.mp h with hname | hcontent
    · obtain ⟨flaw, rfl⟩ := eq_of_mem_checkName hname
      exact .name hf flaw
    · rcases eq_or_mem_of_mem_ite hcontent with rfl | hcontent
      · exact .twice key
      · rcases List.mem_append.mp hcontent with htype | hargs
        · obtain rfl := eq_of_mem_unless htype
          exact .type key f.type
        · exact fieldReport_of_mem_checkArguments hf hargs

theorem inputFieldReport_of_mem (h : d ∈ s.checkInputObject id) :
    s.InputFieldReport (s.catalog.typeDef id) d := by
  rcases List.mem_append.mp h with hempty | hfields
  · obtain rfl := eq_of_mem_when hempty
    exact .none
  · obtain ⟨⟨key, f⟩, hf, h⟩ := List.mem_flatMap.mp hfields
    rcases List.mem_append.mp h with hname | htype
    · obtain ⟨flaw, rfl⟩ := eq_of_mem_checkName hname
      exact .name hf flaw
    · obtain rfl := eq_of_mem_unless htype
      exact .type key f.type

theorem memberReport_of_mem {form : UnionForm} (h : d ∈ s.checkMembers form id) :
    s.MemberReport form (s.catalog.typeDef id) d := by
  rcases List.mem_append.mp h with hempty | hmembers
  · obtain rfl := eq_of_mem_when hempty
    exact .none
  · obtain ⟨marked, -, h⟩ := List.mem_flatMap.mp hmembers
    rcases eq_or_mem_of_mem_ite h with rfl | hkind
    · exact .twice _
    · obtain rfl := eq_of_mem_unless hkind
      exact .kind marked.1

theorem valueReport_of_mem (h : d ∈ s.checkEnum id) :
    s.ValueReport (s.catalog.typeDef id) d := by
  rcases List.mem_append.mp h with hempty | hvalues
  · obtain rfl := eq_of_mem_when hempty
    exact .none
  · obtain ⟨v, hv, h⟩ := List.mem_flatMap.mp hvalues
    rcases List.mem_append.mp h with h | hreserved
    · rcases List.mem_append.mp h with honce | hname
      · obtain rfl := eq_of_mem_when honce
        exact .twice v.name
      · obtain ⟨flaw, rfl⟩ := eq_of_mem_checkName hname
        exact .name hv flaw
    · obtain rfl := eq_of_mem_when hreserved
      exact .reserved hv

theorem conformanceReport_of_mem {object interface : TypeDef}
    (h : d ∈ s.checkConformance object interface) : s.ConformanceReport object interface d := by
  obtain ⟨⟨key, expected⟩, -, h⟩ := List.mem_flatMap.mp h
  unfold checkObligation at h
  split at h
  · obtain rfl := List.mem_singleton.mp h
    exact .fieldMissing key
  · next given _ =>
    rcases List.mem_append.mp h with htype | hargs
    · obtain rfl := eq_of_mem_unless htype
      exact .fieldType key given.type expected.type
    · rcases List.mem_append.mp hargs with hexpected | hgiven
      · obtain ⟨arg, -, h⟩ := List.mem_flatMap.mp hexpected
        unfold checkExpectedArgument at h
        split at h
        · obtain rfl := List.mem_singleton.mp h
          exact .argumentMissing key arg.name
        · next own _ =>
          obtain rfl := eq_of_mem_unless h
          exact .argumentType key arg.name own.type arg.type
      · obtain ⟨own, -, h⟩ := List.mem_flatMap.mp hgiven
        obtain rfl := eq_of_mem_when h
        exact .argumentRequired key own

/-- A claim is reported for its name, for its kind, or for what the object does not meet. -/
theorem mem_checkClaims_cases (h : d ∈ s.checkClaims id) :
    (∃ claim, d = s.repeatedClaim (s.catalog.typeDef id) claim) ∨
    (∃ claim, d = s.foreignClaim (s.catalog.typeDef id) claim) ∨
    ∃ i, .named i ∈ (s.catalog.typeDef id).interfaces ∧
      s.catalog.isKind .interface (.named i) = true ∧
      d ∈ s.checkConformance (s.catalog.typeDef id) (s.catalog.typeDef i) := by
  obtain ⟨⟨claim, again⟩, hmarked, h⟩ := List.mem_flatMap.mp h
  have hclaim : claim ∈ (s.catalog.typeDef id).interfaces := mem_of_mem_markRepeats hmarked
  rcases eq_or_mem_of_mem_ite h with rfl | h
  · exact Or.inl ⟨_, rfl⟩
  · cases claim with
    | named i =>
        by_cases hkind : s.catalog.isKind .interface (.named i) = true
        · simp only [checkClaim, hkind, if_true] at h
          exact Or.inr (Or.inr ⟨i, hclaim, hkind, h⟩)
        · simp only [checkClaim, hkind] at h
          exact Or.inr (Or.inl ⟨_, List.mem_singleton.mp h⟩)
    | _ => exact Or.inr (Or.inl ⟨_, List.mem_singleton.mp h⟩)

theorem claimReport_of_mem (h : d ∈ s.checkClaims id) :
    s.ClaimReport (s.catalog.typeDef id) d := by
  rcases mem_checkClaims_cases h with ⟨claim, rfl⟩ | ⟨claim, rfl⟩ | ⟨i, hclaim, hkind, h⟩
  · exact .twice claim
  · exact .kind claim
  · exact .unmet hclaim hkind (conformanceReport_of_mem h)

theorem typeReport_of_mem (h : d ∈ s.checkNamedType id) :
    s.TypeReport (s.catalog.typeDef id) d := by
  rcases List.mem_append.mp h with hname | hbody
  · obtain ⟨flaw, rfl⟩ := eq_of_mem_checkName hname
    exact .name flaw
  · unfold checkByKind at hbody
    split at hbody
    · exact absurd hbody List.not_mem_nil
    · rcases List.mem_append.mp hbody with hfields | hclaims
      · exact .field (fieldReport_of_mem hfields)
      · exact .claim (claimReport_of_mem hclaims)
    · exact .field (fieldReport_of_mem hbody)
    · exact .member (memberReport_of_mem hbody)
    · exact .member (memberReport_of_mem hbody)
    · exact .value (valueReport_of_mem hbody)
    · exact .inputField (inputFieldReport_of_mem hbody)

theorem directiveReport_of_mem {r : Ref} (h : d ∈ s.checkDirective r) :
    s.DirectiveReport r d := by
  cases r with
  | directive id =>
      rcases List.mem_append.mp h with hname | hargs
      · obtain ⟨flaw, rfl⟩ := eq_of_mem_checkName hname
        exact .name id flaw
      · obtain ⟨marked, hmarked, h⟩ := List.mem_flatMap.mp hargs
        rcases List.mem_append.mp h with hname | hrest
        · obtain ⟨flaw, rfl⟩ := eq_of_mem_checkName hname
          exact .argumentName (mem_of_mem_markRepeats hmarked) flaw
        · rcases eq_or_mem_of_mem_ite hrest with rfl | htype
          · exact .argumentTwice id marked.1
          · obtain rfl := eq_of_mem_unless htype
            exact .argumentType id marked.1
  | _ =>
      obtain rfl := List.mem_singleton.mp h
      exact .other rfl

theorem rootReport_of_mem (h : d ∈ s.checkRoots) : ∃ operation, s.RootReport operation d := by
  have hkind : ∀ operation, d ∈ s.checkRootKind operation →
      ∃ operation, s.RootReport operation d := by
    intro operation h
    obtain rfl := eq_of_mem_unless h
    exact ⟨operation, .kind operation⟩
  simp only [checkRoots, List.mem_append] at h
  rcases h with ((hpresent | hquery) | hmutation) | hsubscription
  · obtain rfl := eq_of_mem_when hpresent
    exact ⟨.query, .missing⟩
  · exact hkind _ hquery
  · exact hkind _ hmutation
  · exact hkind _ hsubscription

end Scope

end TypeGraph
