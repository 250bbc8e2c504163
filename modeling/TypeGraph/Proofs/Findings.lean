/-
What is found, whatever the nodes.

A diagnostic says something and points somewhere.  Here two scopes are compared whose
definitions are the same but for the nodes.  Check by check they find the same
problems, provided that the few things a check asks beyond the definition in front of
it have the same answers in both: how the references that the schema mentions are
shown, which names are allowed, whether a field or value was written twice, and which
types may stand for which.
-/
import TypeGraph.Proofs.Bare
import TypeGraph.Proofs.Reach
import TypeGraph.Proofs.Reports
import TypeGraph.Validation

namespace TypeGraph

/-- What a diagnostic says: its wording and its category, but not where. -/
def Diagnostic.finding (d : Diagnostic) : String × Category := (d.message, d.category)

/-- What a problem says. -/
def Problem.finding (p : Problem) : String × Category := (p.message, p.category)

theorem map_finding_eq {ds es : List Diagnostic}
    (h : ds.map Diagnostic.problem = es.map Diagnostic.problem) :
    ds.map Diagnostic.finding = es.map Diagnostic.finding := by
  have hmap : ∀ l : List Diagnostic,
      l.map Diagnostic.finding = (l.map Diagnostic.problem).map Problem.finding := by
    intro l
    rw [List.map_map]
    rfl
  rw [hmap, hmap, h]

/-! ### Definitions that are the same but for the nodes -/

/-- A field under its key, without nodes. -/
def bareEntry (entry : String × Field) : String × Field := (entry.1, entry.2.bare)

theorem Argument.name_eq {a b : Argument} (h : a.bare = b.bare) : a.name = b.name :=
  (congrArg name h :)

theorem Argument.type_eq {a b : Argument} (h : a.bare = b.bare) : a.type = b.type :=
  (congrArg type h :)

theorem Field.type_eq {f g : Field} (h : f.bare = g.bare) : f.type = g.type :=
  (congrArg type h :)

theorem Field.args_eq {f g : Field} (h : f.bare = g.bare) :
    f.args.map Argument.bare = g.args.map Argument.bare :=
  (congrArg args h :)

theorem EnumValue.name_eq {v w : EnumValue} (h : v.bare = w.bare) : v.name = w.name :=
  (congrArg name h :)

theorem DirectiveDef.name_eq {d e : DirectiveDef} (h : d.bare = e.bare) : d.name = e.name :=
  (congrArg name h :)

theorem DirectiveDef.args_eq {d e : DirectiveDef} (h : d.bare = e.bare) :
    d.args.map Argument.bare = e.args.map Argument.bare :=
  (congrArg args h :)

namespace TypeDef

variable {t u : TypeDef}

theorem name_eq (h : t.bare = u.bare) : t.name = u.name := (congrArg name h :)

theorem kind_eq (h : t.bare = u.bare) : t.kind = u.kind := by
  rw [← t.kind_bare, h, kind_bare]

theorem interfaces_eq (h : t.bare = u.bare) : t.interfaces = u.interfaces := by
  rw [← t.interfaces_bare, h, interfaces_bare]

theorem members_eq (h : t.bare = u.bare) : t.members = u.members := by
  rw [← t.members_bare, h, members_bare]

theorem values_eq (h : t.bare = u.bare) :
    t.values.map EnumValue.bare = u.values.map EnumValue.bare := by
  rw [← t.values_bare, h, values_bare]

theorem entries_eq (h : t.bare = u.bare) :
    t.fields.entries.map bareEntry = u.fields.entries.map bareEntry := by
  have hfields := congrArg (fun d => d.fields.entries) h
  simp only [fields_bare] at hfields
  exact hfields

theorem get?_eq (h : t.bare = u.bare) (key : String) :
    (t.fields.get? key).map Field.bare = (u.fields.get? key).map Field.bare := by
  rw [← Table.get?_map (fun _ => Field.bare), ← Table.get?_map (fun _ => Field.bare),
    ← fields_bare, ← fields_bare, h]

theorem isEmpty_eq (h : t.bare = u.bare) : t.fields.isEmpty = u.fields.isEmpty := by
  have hentries := congrArg List.isEmpty (entries_eq h)
  rw [List.isEmpty_map, List.isEmpty_map] at hentries
  exact hentries

end TypeDef

/-- An argument is found by its name alone. -/
theorem find?_argument_eq {as bs : List Argument}
    (h : as.map Argument.bare = bs.map Argument.bare) (name : String) :
    (as.find? fun arg => arg.name == name).map Argument.bare =
      (bs.find? fun arg => arg.name == name).map Argument.bare := by
  have hfind : ∀ l : List Argument, (l.find? fun arg => arg.name == name).map Argument.bare =
      (l.map Argument.bare).find? fun arg => arg.name == name := by
    intro l
    rw [List.find?_map]
    rfl
  rw [hfind, hfind, h]

/-- Elements are marked as repeated by their names alone. -/
theorem markRepeats_eq {α β : Type} {strip : α → β} {name? : α → Option String}
    (hname : ∀ a b, strip a = strip b → name? a = name? b) {l m : List α}
    (h : l.map strip = m.map strip) :
    (markRepeats name? l).map (Prod.map strip id) =
      (markRepeats name? m).map (Prod.map strip id) := by
  unfold markRepeats
  -- The names seen so far are the same on both sides, whichever they are.
  generalize ([] : List String) = seen
  induction l generalizing m seen with
  | nil =>
      cases List.map_eq_nil_iff.mp h.symm
      rfl
  | cons a l ih =>
      cases m with
      | nil => cases h
      | cons b m =>
          obtain ⟨hab, hlm⟩ := List.cons.inj h
          simp only [markRepeatsFrom, hname a b hab]
          split <;> simp [hab, ih hlm]

/-- The references that stand where a schema expects a type or a directive: its roots, its
directives and the types of their arguments, its type map, and what the types among them
declare. -/
inductive Schema.Mentions (S : Schema) : Ref → Prop
  | root (operation : Operation) : Mentions S (S.root operation)
  | directive {r : Ref} (hr : r ∈ S.directives) : Mentions S r
  | argument {id : DirectiveId} {arg : Argument} (hid : .directive id ∈ S.directives)
      (harg : arg ∈ (S.catalog.directiveDef id).args) : Mentions S arg.type
  | entry {r : Ref} (hr : r ∈ S.types) : Mentions S r
  | declared {id : TypeId} {r : Ref} (hid : Mentions S (.named id))
      (hr : r ∈ (S.catalog.typeDef id).declared) : Mentions S r

namespace Scope

open Diagnostic (problem)

/-- The definitions are the same but for the nodes, and what is mentioned is shown alike. -/
structure Alike (s t : Scope) : Prop where
  catalog : s.catalog.bare = t.catalog.bare
  inspect : ∀ r, s.schema.Mentions r → s.inspect r = t.inspect r
  legacy : ∀ name, s.schema.legacyNames.contains name = t.schema.legacyNames.contains name

/-- And what is asked about one type that is mentioned, beyond its definition, has the same
answers. -/
structure AlikeOn (s t : Scope) (id : TypeId) : Prop extends Alike s t where
  mentioned : s.schema.Mentions (.named id)
  fields : (s.catalog.typeDef id).kind = .object ∨ (s.catalog.typeDef id).kind = .interface →
    ∀ entry ∈ (s.catalog.typeDef id).fields.entries,
      (1 < (s.locator.nodes (.ofField (s.catalog.typeDef id).name entry.1)).length ↔
        1 < (t.locator.nodes (.ofField (s.catalog.typeDef id).name entry.1)).length)
  values : ∀ v ∈ (s.catalog.typeDef id).values,
    (1 < (s.locator.nodes (.ofValue (s.catalog.typeDef id).name v.name)).length ↔
      1 < (t.locator.nodes (.ofValue (s.catalog.typeDef id).name v.name)).length)
  subtypes : (s.catalog.typeDef id).kind = .object →
    ∀ key given, (key, given) ∈ (s.catalog.typeDef id).fields.entries →
    ∀ expected, s.schema.isSubtype given.type expected = t.schema.isSubtype given.type expected

variable {s t : Scope}

namespace Alike

variable (h : s.Alike t)
include h

theorem typeDef (id : TypeId) : (s.catalog.typeDef id).bare = (t.catalog.typeDef id).bare := by
  rw [← Catalog.typeDef_bare, h.catalog, Catalog.typeDef_bare]

theorem directiveDef (id : DirectiveId) :
    (s.catalog.directiveDef id).bare = (t.catalog.directiveDef id).bare := by
  rw [← Catalog.directiveDef_bare, h.catalog, Catalog.directiveDef_bare]

theorem isKind (kind : Kind) (r : Ref) : s.catalog.isKind kind r = t.catalog.isKind kind r := by
  rw [← Catalog.isKind_bare, h.catalog, Catalog.isKind_bare]

theorem isOutput (r : Ref) : s.catalog.isOutput r = t.catalog.isOutput r := by
  rw [← Catalog.isOutput_bare, h.catalog, Catalog.isOutput_bare]

theorem acceptsInput (r : Ref) : s.catalog.acceptsInput r = t.catalog.acceptsInput r := by
  rw [← Catalog.acceptsInput_bare, h.catalog, Catalog.acceptsInput_bare]

theorem name? : s.catalog.name? = t.catalog.name? := by
  funext r
  rw [← Catalog.name?_bare, h.catalog, Catalog.name?_bare]

end Alike

/-! ### Names, fields, members -/

/-- Two lists that match element by element have the same problems if matching elements do. -/
theorem flatMap_problems {α β : Type} {strip : α → β} {l m : List α} {f g : α → List Diagnostic}
    (hlm : l.map strip = m.map strip)
    (h : ∀ a ∈ l, ∀ b ∈ m, strip a = strip b → (f a).map problem = (g b).map problem) :
    (l.flatMap f).map problem = (m.flatMap g).map problem := by
  induction l generalizing m with
  | nil =>
      cases List.map_eq_nil_iff.mp hlm.symm
      rfl
  | cons a l ih =>
      cases m with
      | nil => cases hlm
      | cons b m =>
          obtain ⟨hab, hrest⟩ := List.cons.inj hlm
          rw [List.flatMap_cons, List.flatMap_cons, List.map_append, List.map_append,
            h a List.mem_cons_self b List.mem_cons_self hab,
            ih hrest fun x hx y hy => h x (List.mem_cons_of_mem _ hx) y (List.mem_cons_of_mem _ hy)]

/-- The same list has the same problems if each element does. -/
theorem flatMap_problems_self {α : Type} {l : List α} {f g : α → List Diagnostic}
    (h : ∀ a ∈ l, (f a).map problem = (g a).map problem) :
    (l.flatMap f).map problem = (l.flatMap g).map problem := by
  refine @flatMap_problems α α id l l f g rfl ?_
  rintro a ha b - rfl
  exact h a ha

/-- Arguments that match are examined alike if the rest of the check is. -/
theorem flatMap_marked_problems {as bs : List Argument} {f g : Argument × Bool → List Diagnostic}
    (hab : as.map Argument.bare = bs.map Argument.bare)
    (h : ∀ a ∈ as, ∀ b again, a.name = b.name → a.type = b.type →
      (f (a, again)).map problem = (g (b, again)).map problem) :
    ((markRepeats (fun arg => some arg.name) as).flatMap f).map problem =
      ((markRepeats (fun arg => some arg.name) bs).flatMap g).map problem := by
  have hname : ∀ a b : Argument, a.bare = b.bare → some a.name = some b.name :=
    fun a b heq => congrArg some (Argument.name_eq heq)
  refine flatMap_problems (markRepeats_eq hname hab) ?_
  rintro ⟨a, again⟩ ha ⟨b, again'⟩ - heq
  obtain ⟨hbare, rfl⟩ := Prod.mk.inj heq
  exact h a (mem_of_mem_markRepeats ha) b again (Argument.name_eq hbare) (Argument.type_eq hbare)

theorem Alike.checkName (h : s.Alike t) (exempt : Bool) (name : String)
    (node node' : Option Source.Node) :
    (s.checkName exempt name node).map problem = (t.checkName exempt name node').map problem := by
  unfold Scope.checkName
  rw [h.legacy]
  split
  · rfl
  · split <;> rfl

theorem Alike.checkArguments (h : s.Alike t) (exempt : Bool) (owner field : String)
    {as bs : List Argument} (hshown : ∀ a ∈ as, s.schema.Mentions a.type)
    (hab : as.map Argument.bare = bs.map Argument.bare) :
    (s.checkArguments exempt owner field as).map problem =
      (t.checkArguments exempt owner field bs).map problem := by
  refine flatMap_marked_problems hab fun a ha b again hname htype => ?_
  have hchecked : (s.checkArgumentType owner field a).map problem =
      (t.checkArgumentType owner field b).map problem := by
    unfold checkArgumentType
    rw [hname, h.acceptsInput, h.inspect _ (hshown a ha), htype]
    split <;> rfl
  simp only [checkArgument, List.map_append, hname]
  rw [h.checkName _ _ _ (b.node.map Source.Node.input)]
  congr 1
  split
  · simp [repeatedArgument, Diagnostic.pointing, hname]
  · exact hchecked

theorem Alike.checkField (h : s.Alike t) (exempt : Bool) (owner key : String) {f g : Field}
    (hshown : s.schema.Mentions f.type) (hshownArgs : ∀ a ∈ f.args, s.schema.Mentions a.type)
    (hfg : f.bare = g.bare)
    (hcount : 1 < (s.locator.nodes (.ofField owner key)).length ↔
      1 < (t.locator.nodes (.ofField owner key)).length) :
    (s.checkField exempt owner (key, f)).map problem =
      (t.checkField exempt owner (key, g)).map problem := by
  have htype : f.type = g.type := Field.type_eq hfg
  have hargs : f.args.map Argument.bare = g.args.map Argument.bare := Field.args_eq hfg
  have houtput : (s.checkOutput owner key f.type).map problem =
      (t.checkOutput owner key g.type).map problem := by
    unfold checkOutput
    rw [h.isOutput, h.inspect _ hshown, htype]
    split <;> rfl
  simp only [Scope.checkField, checkFieldContent, List.map_append, hcount]
  rw [h.checkName _ _ _ (g.node.map Source.SlotNode.toNode)]
  congr 1
  split
  · rfl
  · rw [List.map_append, List.map_append, houtput, h.checkArguments _ _ _ hshownArgs hargs]

theorem AlikeOn.checkFields {id : TypeId} (h : s.AlikeOn t id)
    (hkind : (s.catalog.typeDef id).kind = .object ∨ (s.catalog.typeDef id).kind = .interface) :
    (s.checkFields id).map problem = (t.checkFields id).map problem := by
  have hdef := h.typeDef id
  have hcount := h.fields hkind
  simp only [Scope.checkFields, checkHasFields, TypeDef.isEmpty_eq hdef, List.map_append]
  rw [TypeDef.name_eq hdef] at hcount ⊢
  congr 1
  · split <;> rfl
  · refine flatMap_problems (TypeDef.entries_eq hdef) ?_
    rintro ⟨key, f⟩ hf ⟨key', g⟩ - heq
    obtain ⟨rfl, hfg⟩ := Prod.mk.inj heq
    exact h.checkField _ _ _ (h.mentioned.declared (TypeDef.type_mem_declared hf))
      (fun a ha => h.mentioned.declared (TypeDef.argument_mem_declared hf ha)) hfg (hcount _ hf)

theorem AlikeOn.checkInputObject {id : TypeId} (h : s.AlikeOn t id) :
    (s.checkInputObject id).map problem = (t.checkInputObject id).map problem := by
  have hinput : ∀ owner field type, s.schema.Mentions type →
      (s.checkInput owner field type).map problem =
        (t.checkInput owner field type).map problem := by
    intro owner field type hshown
    unfold checkInput
    rw [h.acceptsInput, h.inspect _ hshown]
    split <;> rfl
  have hdef := h.typeDef id
  simp only [Scope.checkInputObject, checkHasInputFields, TypeDef.isEmpty_eq hdef,
    TypeDef.name_eq hdef, List.map_append]
  congr 1
  · split <;> rfl
  · refine flatMap_problems (TypeDef.entries_eq hdef) ?_
    rintro ⟨key, f⟩ hf ⟨key', g⟩ - heq
    obtain ⟨rfl, hfg⟩ := Prod.mk.inj heq
    have htype : f.type = g.type := Field.type_eq hfg
    have hshown : s.schema.Mentions f.type := h.mentioned.declared (TypeDef.type_mem_declared hf)
    simp only [checkInputField, List.map_append, ← htype, hinput _ _ _ hshown]
    rw [h.checkName _ _ _ (g.node.map Source.SlotNode.toNode)]

theorem AlikeOn.checkMembers {id : TypeId} (h : s.AlikeOn t id) (form : UnionForm) :
    (s.checkMembers form id).map problem = (t.checkMembers form id).map problem := by
  have hkind : ∀ owner member, s.schema.Mentions member →
      (s.checkMemberKind form owner member).map problem =
        (t.checkMemberKind form owner member).map problem := by
    intro owner member hshown
    unfold checkMemberKind
    rw [h.isKind, h.inspect _ hshown]
    split <;> rfl
  have hdef := h.typeDef id
  simp only [Scope.checkMembers, checkHasMembers, ← TypeDef.members_eq hdef,
    TypeDef.name_eq hdef, h.name?, List.map_append]
  congr 1
  · split <;> rfl
  · refine flatMap_problems_self fun marked hmarked => ?_
    unfold checkMember
    rw [h.name?]
    split
    · rfl
    · exact hkind _ _ (h.mentioned.declared
        (TypeDef.member_mem_declared (mem_of_mem_markRepeats hmarked)))

theorem AlikeOn.checkEnum {id : TypeId} (h : s.AlikeOn t id) :
    (s.checkEnum id).map problem = (t.checkEnum id).map problem := by
  have hdef := h.typeDef id
  have hcount := h.values
  have hempty : (s.catalog.typeDef id).values.isEmpty = (t.catalog.typeDef id).values.isEmpty := by
    have hvalues := congrArg List.isEmpty (TypeDef.values_eq hdef)
    rwa [List.isEmpty_map, List.isEmpty_map] at hvalues
  simp only [Scope.checkEnum, checkHasValues, hempty, List.map_append]
  rw [TypeDef.name_eq hdef] at hcount ⊢
  congr 1
  · split <;> rfl
  · refine flatMap_problems (TypeDef.values_eq hdef) fun v hv w _ hvw => ?_
    have hname : v.name = w.name := EnumValue.name_eq hvw
    have honce := hcount v hv
    rw [hname] at honce
    simp only [checkValue, checkValueOnce, checkValueReserved, hname, honce, List.map_append]
    rw [h.checkName _ _ _ (w.node.map Source.Node.value)]
    congr 1
    · congr 1
      split <;> rfl
    · split <;> rfl

/-! ### Claims -/

section Conformance

variable {object object' interface interface' : TypeDef}

theorem Alike.checkSharedArguments (h : s.Alike t) (hobject : object.bare = object'.bare)
    (hinterface : interface.bare = interface'.bare) (field : String)
    {given given' expected expected' : Field} (hgiven : given.bare = given'.bare)
    (hexpected : expected.bare = expected'.bare)
    (hshown : ∀ a ∈ expected.args ++ given.args, s.schema.Mentions a.type) :
    (s.checkSharedArguments object interface field given expected).map problem =
      (t.checkSharedArguments object' interface' field given' expected').map problem := by
  have hgivenArgs : given.args.map Argument.bare = given'.args.map Argument.bare :=
    Field.args_eq hgiven
  have hexpectedArgs : expected.args.map Argument.bare = expected'.args.map Argument.bare :=
    Field.args_eq hexpected
  have hnames : expected.args.map Argument.name = expected'.args.map Argument.name := by
    have hmap := congrArg (List.map Argument.name) hexpectedArgs
    rwa [List.map_map, List.map_map] at hmap
  unfold Scope.checkSharedArguments
  rw [List.map_append, List.map_append]
  congr 1
  · refine flatMap_problems hexpectedArgs fun a ha b _ hab => ?_
    have hname : a.name = b.name := Argument.name_eq hab
    have htype : a.type = b.type := Argument.type_eq hab
    have hfound := find?_argument_eq hgivenArgs b.name
    simp only [checkExpectedArgument, hname, ← htype, TypeDef.name_eq hobject,
      TypeDef.name_eq hinterface, h.inspect _ (hshown a (List.mem_append_left _ ha))]
    cases hleft : given.args.find? fun arg => arg.name == b.name with
    | none =>
        rw [hleft] at hfound
        rw [Option.map_eq_none_iff.mp hfound.symm]
        rfl
    | some x =>
        rw [hleft] at hfound
        obtain ⟨y, hright, hxy⟩ := Option.map_eq_some_iff.mp hfound.symm
        have hmatch : y.type = x.type := Argument.type_eq hxy
        have hx : x ∈ given.args := List.mem_of_find?_eq_some hleft
        simp only [hright, hmatch, h.inspect _ (hshown x (List.mem_append_right _ hx))]
        split <;> rfl
  · refine flatMap_problems hgivenArgs fun a ha b _ hab => ?_
    have hname : a.name = b.name := Argument.name_eq hab
    have htype : a.type = b.type := Argument.type_eq hab
    simp only [checkAdditionalArgument, hname, ← htype, hnames, TypeDef.name_eq hobject,
      TypeDef.name_eq hinterface, h.inspect _ (hshown a (List.mem_append_right _ ha))]
    split <;> rfl

theorem Alike.checkConformance (h : s.Alike t) (hobject : object.bare = object'.bare)
    (hinterface : interface.bare = interface'.bare)
    (hshown : ∀ r ∈ object.declared ++ interface.declared, s.schema.Mentions r)
    (hsub : ∀ key given, (key, given) ∈ object.fields.entries → ∀ expected,
      s.schema.isSubtype given.type expected = t.schema.isSubtype given.type expected) :
    (s.checkConformance object interface).map problem =
      (t.checkConformance object' interface').map problem := by
  refine flatMap_problems (TypeDef.entries_eq hinterface) ?_
  rintro ⟨key, expected⟩ hentry ⟨key', expected'⟩ - heq
  obtain ⟨rfl, hexpected⟩ := Prod.mk.inj heq
  have hfound := TypeDef.get?_eq hobject key
  unfold checkObligation
  cases hleft : object.fields.get? key with
  | none =>
      rw [hleft] at hfound
      rw [Option.map_eq_none_iff.mp hfound.symm]
      simp [missingField, Diagnostic.reported, Diagnostic.pointing, TypeDef.name_eq hobject,
        TypeDef.name_eq hinterface]
  | some given =>
      rw [hleft] at hfound
      obtain ⟨given', hright, hgiven⟩ := Option.map_eq_some_iff.mp hfound.symm
      have hmem : (key, given) ∈ object.fields.entries := (Table.get?_eq_some_iff _ _ _).mp hleft
      have hgivenType : given'.type = given.type := Field.type_eq hgiven
      have hexpectedType : expected.type = expected'.type := Field.type_eq hexpected
      have hgivenShown : s.schema.Mentions given.type :=
        hshown _ (List.mem_append_left _ (TypeDef.type_mem_declared hmem))
      have hexpectedShown : s.schema.Mentions expected.type :=
        hshown _ (List.mem_append_right _ (TypeDef.type_mem_declared hentry))
      have hargsShown : ∀ a ∈ expected.args ++ given.args, s.schema.Mentions a.type := by
        intro a ha
        rcases List.mem_append.mp ha with ha | ha
        · exact hshown _ (List.mem_append_right _ (TypeDef.argument_mem_declared hentry ha))
        · exact hshown _ (List.mem_append_left _ (TypeDef.argument_mem_declared hmem ha))
      simp only [hright, List.map_append,
        h.checkSharedArguments hobject hinterface key hgiven.symm hexpected hargsShown]
      congr 1
      simp only [checkSharedType, hgivenType, hsub key given hmem, TypeDef.name_eq hobject,
        TypeDef.name_eq hinterface, ← hexpectedType, h.inspect _ hgivenShown,
        h.inspect _ hexpectedShown]
      split <;> rfl

end Conformance

theorem AlikeOn.checkClaims {id : TypeId} (h : s.AlikeOn t id)
    (hkind : (s.catalog.typeDef id).kind = .object) :
    (s.checkClaims id).map problem = (t.checkClaims id).map problem := by
  have hdef := h.typeDef id
  have hforeign : ∀ claim, s.schema.Mentions claim →
      (s.foreignClaim (s.catalog.typeDef id) claim).problem =
        (t.foreignClaim (t.catalog.typeDef id) claim).problem := by
    intro claim hshown
    simp [foreignClaim, Diagnostic.pointing, h.inspect _ hshown, TypeDef.name_eq hdef]
  simp only [Scope.checkClaims, ← TypeDef.interfaces_eq hdef, h.name?]
  refine flatMap_problems_self fun marked hmarked => ?_
  have hclaimed : s.schema.Mentions marked.1 :=
    h.mentioned.declared (TypeDef.claim_mem_declared (mem_of_mem_markRepeats hmarked))
  unfold checkMarkedClaim
  rw [h.name?]
  split
  · simp [repeatedClaim, Diagnostic.pointing, TypeDef.name_eq hdef]
  · unfold checkClaim
    rw [h.isKind]
    split
    · next hclaim =>
        split
        · refine h.checkConformance hdef (h.typeDef _) ?_ (h.subtypes hkind)
          intro r hr
          rcases List.mem_append.mp hr with hr | hr
          · exact h.mentioned.declared hr
          · exact (hclaim ▸ hclaimed).declared hr
        · simp [hforeign _ hclaimed]
    · simp [hforeign _ hclaimed]

/-! ### Types, directives, roots -/

theorem AlikeOn.checkNamedType {id : TypeId} (h : s.AlikeOn t id) :
    (s.checkNamedType id).map problem = (t.checkNamedType id).map problem := by
  have hdef := h.typeDef id
  have hsame : (t.catalog.typeDef id).kind = (s.catalog.typeDef id).kind :=
    (TypeDef.kind_eq hdef).symm
  simp only [Scope.checkNamedType, checkByKind, checkObject, List.map_append, hsame,
    TypeDef.name_eq hdef]
  rw [h.checkName _ _ _ ((t.catalog.typeDef id).node.map Source.Node.definition)]
  congr 1
  cases hkind : (s.catalog.typeDef id).kind with
  | scalar => rfl
  | object =>
      simp only [List.map_append]
      rw [h.checkFields (Or.inl hkind), h.checkClaims hkind]
  | interface => exact h.checkFields (Or.inr hkind)
  | union => exact h.checkMembers .output
  | inputUnion => exact h.checkMembers .input
  | enum => exact h.checkEnum
  | inputObject => exact h.checkInputObject

theorem Alike.checkDirective (h : s.Alike t) {r : Ref} (hr : r ∈ s.schema.directives) :
    (s.checkDirective r).map problem = (t.checkDirective r).map problem := by
  cases r with
  | directive id =>
      have hdef := h.directiveDef id
      have hdirective : (s.catalog.directiveDef id).name = (t.catalog.directiveDef id).name :=
        DirectiveDef.name_eq hdef
      simp only [Scope.checkDirective, checkDirectiveDef, List.map_append, hdirective]
      rw [h.checkName _ _ _ ((t.catalog.directiveDef id).node.map Source.Node.directive)]
      congr 1
      refine flatMap_marked_problems (DirectiveDef.args_eq hdef)
        fun a ha b again hname htype => ?_
      simp only [checkDirectiveArgument, checkDirectiveArgumentType, List.map_append, hname,
        ← htype, h.acceptsInput, h.inspect _ (.argument hr ha)]
      rw [h.checkName _ _ _ (b.node.map Source.Node.input)]
      congr 1
      split
      · simp [repeatedDirectiveArgument, Diagnostic.pointing, hname]
      · split <;> rfl
  | _ => simp [Scope.checkDirective, h.inspect _ (.directive hr), Diagnostic.pointing]

theorem Alike.checkRoots (h : s.Alike t)
    (hroot : ∀ operation, s.schema.root operation = t.schema.root operation) :
    s.checkRoots.map problem = t.checkRoots.map problem := by
  have hkind : ∀ operation, (s.checkRootKind operation).map problem =
      (t.checkRootKind operation).map problem := by
    intro operation
    simp only [checkRootKind, ← hroot, h.isKind, h.inspect _ (.root operation)]
    split <;> rfl
  have hquery : s.schema.query = t.schema.query := hroot .query
  have hpresent : s.checkQueryPresent.map problem = t.checkQueryPresent.map problem := by
    unfold checkQueryPresent
    rw [hquery]
    split <;> rfl
  simp only [Scope.checkRoots, List.map_append, hpresent, hkind]

end Scope

end TypeGraph
