/-
No name goes unexamined.

Directives, types, fields, arguments, values and input fields each have a name, and each sort
is examined from a loop of its own.  Here the places where a name stands are listed once, in
the order in which they are written, and the objections to names that validation reports are
shown to be those to the names of that list, one by one and in its order.

Two things make places drop out.  What belongs to a type that describes schemas is never
examined.  And a field that was written more than once is reported as such, and then its
arguments are left alone; a repeated argument or value, on the other hand, is examined like
the first.

What counts as a bad name is said apart from the tests that find it: by the characters that
may stand in a name, and where.
-/
import TypeGraph.Proofs.Reports
import TypeGraph.Proofs.Silence

namespace TypeGraph

open TypeGraph.Source

/-! ### The grammar -/

namespace Name

/-- The character stands between two others, or is one of them. -/
def InRange (first last c : Char) : Prop := first.toNat ≤ c.toNat ∧ c.toNat ≤ last.toNat

/-- The characters a name may begin with: `[_A-Za-z]`. -/
def Starts (c : Char) : Prop := c = '_' ∨ InRange 'A' 'Z' c ∨ InRange 'a' 'z' c

/-- The characters a name may go on with: `[_A-Za-z0-9]`. -/
def Continues (c : Char) : Prop := Starts c ∨ InRange '0' '9' c

instance (first last c : Char) : Decidable (InRange first last c) :=
  inferInstanceAs (Decidable (_ ∧ _))

instance (c : Char) : Decidable (Starts c) := inferInstanceAs (Decidable (_ ∨ _))

instance (c : Char) : Decidable (Continues c) := inferInstanceAs (Decidable (_ ∨ _))

/-- The name begins as only names of introspection do. -/
def Reserved (name : String) : Prop := ['_', '_'] <+: name.toList

/-- The name is empty, begins or goes on with a wrong character, or is reserved. -/
def Violates (name : String) : Prop :=
  name = "" ∨ (∃ c ∈ name.toList.head?, ¬ Starts c) ∨ (∃ c ∈ name.toList.tail, ¬ Continues c) ∨
    Reserved name

instance (name : String) : Decidable (Reserved name) :=
  inferInstanceAs (Decidable (_ <+: _))

instance (name : String) : Decidable (Violates name) :=
  -- Only the characters of the name are tried, not all there are.
  haveI := Option.decidableExistsMem (p := fun c => ¬ Starts c) name.toList.head?
  haveI := List.decidableBEx (fun c => ¬ Continues c) name.toList.tail
  inferInstanceAs (Decidable (_ ∨ _))

/-- What is said of a bad name. -/
def complaint (name : String) : NameFlaw :=
  if Reserved name then .reserved name else .malformed name

theorem isStart_iff {c : Char} : isStart c = true ↔ Starts c := by
  have hupper : c.isUpper = true ↔ InRange 'A' 'Z' c := decide_eq_true_iff
  have hlower : c.isLower = true ↔ InRange 'a' 'z' c := by
    show (decide ('a'.val ≤ c.val) && decide (c.val ≤ 'z'.val)) = true ↔ InRange 'a' 'z' c
    rw [Bool.and_eq_true, decide_eq_true_iff, decide_eq_true_iff]
    rfl
  show (c == '_' || (c.isUpper || c.isLower)) = true ↔ Starts c
  rw [Bool.or_eq_true, Bool.or_eq_true, beq_iff_eq, hupper, hlower]
  rfl

theorem isPart_iff {c : Char} : isPart c = true ↔ Continues c := by
  rw [isPart, Bool.or_eq_true, isStart_iff, Char.isDigit_iff_toNat]
  rfl

theorem isReserved_iff {name : String} : isReserved name.toList = true ↔ Reserved name := by
  unfold Reserved isReserved
  split
  · next rest heq => simp [heq]
  · next hnot =>
      refine iff_of_false Bool.false_ne_true ?_
      rintro ⟨rest, heq⟩
      exact hnot rest heq.symm

theorem matchesGrammar_iff {cs : List Char} :
    matchesGrammar cs = true ↔
      cs ≠ [] ∧ (∀ c ∈ cs.head?, Starts c) ∧ ∀ c ∈ cs.tail, Continues c := by
  cases cs with
  | nil => simp [matchesGrammar]
  | cons c rest => simp [matchesGrammar, isStart_iff, isPart_iff]

/-- A name has a flaw just if it violates the grammar. -/
theorem flaw?_eq (name : String) :
    flaw? name = if Violates name then some (complaint name) else none := by
  have hempty : name = "" ↔ name.toList = [] := String.toList_eq_nil_iff.symm
  by_cases hreserved : Reserved name
  · have hviolates : Violates name := .inr (.inr (.inr hreserved))
    rw [flaw?, if_pos (isReserved_iff.mpr hreserved), if_pos hviolates, complaint,
      if_pos hreserved]
  · have hgrammar : matchesGrammar name.toList = true ↔ ¬ Violates name := by
      simp only [matchesGrammar_iff, Violates, hempty, hreserved, or_false, not_or, not_exists,
        not_and, not_not, ne_eq]
    rw [flaw?, if_neg (mt isReserved_iff.mp hreserved), complaint, if_neg hreserved]
    by_cases hviolates : Violates name
    · rw [if_neg (fun h => hgrammar.mp h hviolates), if_pos hviolates]
    · rw [if_pos (hgrammar.mpr hviolates), if_neg hviolates]

example : Violates "" ∧ Violates "é" ∧ Violates "a-b" ∧ Violates "__a" ∧ ¬ Violates "_a_1" := by
  decide +kernel

end Name

/-! ### The places where names stand -/

/-- A name at its place, with the node that an objection to it points at. -/
structure Naming where
  name : String
  node : Option Node

/-- The name of an argument. -/
def Argument.naming (arg : Argument) : Naming := ⟨arg.name, arg.node.map Node.input⟩

/-- The name of a value. -/
def EnumValue.naming (v : EnumValue) : Naming := ⟨v.name, v.node.map Node.value⟩

/-- The key of a field, whatever the field is called itself. -/
def Field.naming (entry : String × Field) : Naming :=
  ⟨entry.1, entry.2.node.map SlotNode.toNode⟩

/-- The name of a directive, then those of its arguments. -/
def DirectiveDef.namings (d : DirectiveDef) : List Naming :=
  ⟨d.name, d.node.map Node.directive⟩ :: d.args.map Argument.naming

namespace Schema

variable (S : Schema)

/-- The key of a field, then the names of its arguments, unless the field was written more than
once. -/
def fieldNamings (owner : String) (entry : String × Field) : List Naming :=
  Field.naming entry ::
    if ((Locator.ofSchema S).nodes (.ofField owner entry.1)).length ≤ 1 then
      entry.2.args.map Argument.naming
    else []

/-- The names inside a type. -/
def bodyNamings (t : TypeDef) : List Naming :=
  match t.kind with
  | .object | .interface => t.fields.entries.flatMap (S.fieldNamings t.name)
  | .enum => t.values.map EnumValue.naming
  | .inputObject => t.fields.entries.map Field.naming
  | .scalar | .union | .inputUnion => []

/-- The name of a type, then the names inside it. -/
def typeNamings (t : TypeDef) : List Naming :=
  ⟨t.name, t.node.map Node.definition⟩ :: S.bodyNamings t

/-- The names of an entry of the type map, if it does not describe schemas. -/
def entryNamings : Ref → List Naming
  | .named id => if id.isIntrospection then [] else S.typeNamings (S.catalog.typeDef id)
  | _ => []

/-- The names of an element of the list of directives. -/
def directiveNamings : Ref → List Naming
  | .directive id => (S.catalog.directiveDef id).namings
  | _ => []

/-- The names of a schema: those of its directives, then those of its types. -/
def namings : List Naming :=
  S.directives.flatMap S.directiveNamings ++ S.types.flatMap S.entryNamings

end Schema

/-! ### Objections -/

/-- The problem is that an enum has a value no enum may have. -/
def Problem.isReservedValue : Problem → Bool
  | reservedValue _ _ => true
  | _ => false

/-- The diagnostic objects to how a name is formed. -/
def Diagnostic.OnName (d : Diagnostic) : Prop :=
  d.category = .name ∧ d.problem.isReservedValue = false

instance (d : Diagnostic) : Decidable d.OnName := inferInstanceAs (Decidable (_ ∧ _))

namespace Naming

/-- The name is bad, and not on the list of names that may be. -/
def Bad (legacy : List String) (p : Naming) : Prop := p.name ∉ legacy ∧ Name.Violates p.name

instance (legacy : List String) (p : Naming) : Decidable (p.Bad legacy) :=
  inferInstanceAs (Decidable (_ ∧ _))

/-- The objection to a bad name. -/
def objection (p : Naming) : Diagnostic :=
  .pointing (.badName (Name.complaint p.name)) p.node.toList

/-- The objections to the bad ones among the names. -/
def objections (legacy : List String) (ps : List Naming) : List Diagnostic :=
  (ps.filter fun p => p.Bad legacy).map objection

/-- What the findings have to say on how names are formed is said of these names, unless they
are exempt. -/
def Covers (legacy : List String) (exempt : Bool) (ps : List Naming) (ds : List Diagnostic) :
    Prop :=
  (ds.filter fun d => d.OnName) = if exempt then [] else objections legacy ps

/-! Findings that are made in the same steps as a list of names cover it. -/

namespace Covers

variable {legacy : List String} {exempt : Bool}

theorem append {ps qs : List Naming} {ds es : List Diagnostic} (hds : Covers legacy exempt ps ds)
    (hes : Covers legacy exempt qs es) : Covers legacy exempt (ps ++ qs) (ds ++ es) := by
  have hboth : objections legacy (ps ++ qs) = objections legacy ps ++ objections legacy qs := by
    rw [objections, List.filter_append, List.map_append]
    rfl
  unfold Covers at hds hes ⊢
  rw [List.filter_append, hds, hes, hboth]
  cases exempt with
  | false => rfl
  | true => rfl

theorem cons {p : Naming} {ps : List Naming} {ds es : List Diagnostic}
    (hds : Covers legacy exempt [p] ds) (hes : Covers legacy exempt ps es) :
    Covers legacy exempt (p :: ps) (ds ++ es) :=
  hds.append hes

theorem flatMap {α : Type} {places : α → List Naming} {find : α → List Diagnostic}
    (h : ∀ a, Covers legacy exempt (places a) (find a)) (as : List α) :
    Covers legacy exempt (as.flatMap places) (as.flatMap find) := by
  induction as with
  | nil =>
      cases exempt with
      | false => rfl
      | true => rfl
  | cons a as ih => exact (h a).append ih

theorem map {α : Type} {place : α → Naming} {find : α → List Diagnostic}
    (h : ∀ a, Covers legacy exempt [place a] (find a)) (as : List α) :
    Covers legacy exempt (as.map place) (as.flatMap find) := by
  rw [List.map_eq_flatMap]
  exact flatMap h as

/-- That a name came before does not keep it from being examined. -/
theorem markRepeats {α : Type} {name? : α → Option String} {place : α → Naming}
    {find : α × Bool → List Diagnostic}
    (h : ∀ marked, Covers legacy exempt [place marked.1] (find marked)) (as : List α) :
    Covers legacy exempt (as.map place) ((TypeGraph.markRepeats name? as).flatMap find) := by
  have hmap := map h (TypeGraph.markRepeats name? as)
  rwa [← Function.comp_def place, ← List.map_map, map_fst_markRepeats] at hmap

theorem of_silent {ds : List Diagnostic} (h : ∀ d ∈ ds, ¬ d.OnName) :
    Covers legacy exempt [] ds := by
  have hnone : (ds.filter fun d => d.OnName) = [] := by
    rw [List.filter_eq_nil_iff]
    intro d hd
    rw [decide_eq_true_eq]
    exact h d hd
  unfold Covers
  rw [hnone]
  cases exempt with
  | false => rfl
  | true => rfl

theorem of_category {ds : List Diagnostic} (h : ∀ d ∈ ds, d.category ≠ .name) :
    Covers legacy exempt [] ds :=
  of_silent fun d hd honName => h d hd honName.1

theorem single {d : Diagnostic} (h : ¬ d.OnName) : Covers legacy exempt [] [d] := by
  refine of_silent fun e he => ?_
  rw [List.mem_singleton.mp he]
  exact h

theorem nil : Covers legacy exempt [] [] := of_silent (by nofun)

theorem ite {p : Prop} [Decidable p] {ps qs : List Naming} {ds es : List Diagnostic}
    (hds : Covers legacy exempt ps ds) (hes : Covers legacy exempt qs es) :
    Covers legacy exempt (if p then ps else qs) (if p then ds else es) := by
  by_cases hp : p
  · rw [if_pos hp, if_pos hp]
    exact hds
  · rw [if_neg hp, if_neg hp]
    exact hes

/-- A check that reports on a condition, and not on names. -/
theorem rule {p : Prop} [Decidable p] {ds es : List Diagnostic}
    (hds : Covers legacy exempt [] ds) (hes : Covers legacy exempt [] es) :
    Covers legacy exempt [] (if p then ds else es) := by
  rw [← ite_self (c := p) ([] : List Naming)]
  exact hds.ite hes

/-- Names that are exempt are as good as none. -/
theorem of_exempt {ps : List Naming} {ds : List Diagnostic} (h : Covers legacy exempt ps ds) :
    Covers legacy false (if exempt then [] else ps) ds := by
  unfold Covers at h ⊢
  rw [h]
  cases exempt with
  | false => rfl
  | true => rfl

end Covers

end Naming

namespace Scope

open Naming

variable {S : Schema}

/-! ### Each check, by the names it examines -/

theorem checkName_covers (exempt : Bool) (name : String) (node : Option Node) :
    Covers S.legacyNames exempt [⟨name, node⟩] ((ofSchema S).checkName exempt name node) := by
  unfold Covers checkName
  rw [Name.flaw?_eq]
  cases exempt with
  | true => simp
  | false =>
      by_cases hmem : name ∈ S.legacyNames
      · simp [objections, Bad, ofSchema, hmem]
      · by_cases hviolates : Name.Violates name
        · have hexamined : ¬ ((ofSchema S).schema.legacyNames.contains name || false) = true := by
            simpa [ofSchema] using hmem
          have hbad : objections S.legacyNames [⟨name, node⟩] = [objection ⟨name, node⟩] := by
            simp [objections, Bad, hmem, hviolates]
          rw [if_neg hexamined, if_pos hviolates, hbad]
          rfl
        · simp [objections, Bad, ofSchema, hmem, hviolates]

/-! #### Fields -/

theorem checkArgument_covers (exempt : Bool) (owner field : String) (marked : Argument × Bool) :
    Covers S.legacyNames exempt [marked.1.naming]
      ((ofSchema S).checkArgument exempt owner field marked) := by
  refine (checkName_covers ..).append (.rule (.single ?_) (.rule .nil (.single ?_)))
  · nofun
  · nofun

theorem checkField_covers (exempt : Bool) (owner : String) (entry : String × Field) :
    Covers S.legacyNames exempt (S.fieldNamings owner entry)
      ((ofSchema S).checkField exempt owner entry) := by
  refine (checkName_covers ..).cons ?_
  simp only [← Nat.not_lt, ite_not]
  refine .ite (.single ?_) (.append (.rule .nil (.single ?_)) ?_)
  · nofun
  · nofun
  · exact .markRepeats (checkArgument_covers exempt owner entry.1) entry.2.args

theorem checkFields_covers (id : TypeId) :
    Covers S.legacyNames id.isIntrospection
      ((S.catalog.typeDef id).fields.entries.flatMap
        (S.fieldNamings (S.catalog.typeDef id).name))
      ((ofSchema S).checkFields id) := by
  refine .append (.rule (.single ?_) .nil) ?_
  · nofun
  · exact .flatMap (checkField_covers id.isIntrospection _) _

theorem checkInputField_covers (exempt : Bool) (owner : String) (entry : String × Field) :
    Covers S.legacyNames exempt [Field.naming entry]
      ((ofSchema S).checkInputField exempt owner entry) := by
  refine (checkName_covers ..).append (.rule .nil (.single ?_))
  nofun

theorem checkInputObject_covers (id : TypeId) :
    Covers S.legacyNames id.isIntrospection
      ((S.catalog.typeDef id).fields.entries.map Field.naming)
      ((ofSchema S).checkInputObject id) := by
  refine .append (.rule (.single ?_) .nil) ?_
  · nofun
  · exact .map (checkInputField_covers id.isIntrospection _) _

/-! #### Members and values -/

theorem checkMembers_covers (exempt : Bool) (form : UnionForm) (id : TypeId) :
    Covers S.legacyNames exempt [] ((ofSchema S).checkMembers form id) := by
  refine .of_category fun d hd => ?_
  cases memberReport_of_mem hd <;> nofun

/-- A reserved value is reported under the same category, but not as a bad name. -/
theorem checkValue_covers (exempt : Bool) (owner : String) (v : EnumValue) :
    Covers S.legacyNames exempt [v.naming] ((ofSchema S).checkValue exempt owner v) := by
  refine .append (.append (.rule (.single ?_) .nil) (checkName_covers ..)) (.rule (.single ?_) .nil)
  · nofun
  · nofun

theorem checkEnum_covers (id : TypeId) :
    Covers S.legacyNames id.isIntrospection ((S.catalog.typeDef id).values.map EnumValue.naming)
      ((ofSchema S).checkEnum id) := by
  refine .append (.rule (.single ?_) .nil) ?_
  · nofun
  · exact .map (checkValue_covers id.isIntrospection _) _

/-! #### Types -/

theorem checkClaims_covers (exempt : Bool) (id : TypeId) :
    Covers S.legacyNames exempt [] ((ofSchema S).checkClaims id) := by
  refine .of_category fun d hd => ?_
  cases claimReport_of_mem hd with
  | unmet _ _ hd => cases hd <;> nofun
  | _ => nofun

theorem checkByKind_covers (id : TypeId) :
    Covers S.legacyNames id.isIntrospection (S.bodyNamings (S.catalog.typeDef id))
      ((ofSchema S).checkByKind id) := by
  have hsame : (ofSchema S).catalog = S.catalog := rfl
  unfold checkByKind Schema.bodyNamings
  rw [hsame]
  cases (S.catalog.typeDef id).kind with
  | scalar => exact .nil
  | object =>
      have hboth := (checkFields_covers (S := S) id).append (checkClaims_covers _ id)
      rwa [List.append_nil] at hboth
  | interface => exact checkFields_covers id
  | union => exact checkMembers_covers _ .output id
  | inputUnion => exact checkMembers_covers _ .input id
  | enum => exact checkEnum_covers id
  | inputObject => exact checkInputObject_covers id

theorem checkEntry_covers (r : Ref) :
    Covers S.legacyNames false (S.entryNamings r) ((ofSchema S).checkEntry r) := by
  cases r with
  | named id => exact ((checkName_covers ..).cons (checkByKind_covers id)).of_exempt
  | _ => exact .single (by nofun)

/-! #### Directives and roots -/

theorem checkDirectiveArgument_covers (directive : String) (marked : Argument × Bool) :
    Covers S.legacyNames false [marked.1.naming]
      ((ofSchema S).checkDirectiveArgument directive marked) := by
  refine (checkName_covers ..).append (.rule (.single ?_) (.rule .nil (.single ?_)))
  · nofun
  · nofun

theorem checkDirective_covers (r : Ref) :
    Covers S.legacyNames false (S.directiveNamings r) ((ofSchema S).checkDirective r) := by
  cases r with
  | directive id =>
      exact (checkName_covers ..).cons (.markRepeats (checkDirectiveArgument_covers _) _)
  | _ => exact .single (by nofun)

theorem checkRoots_covers : Covers S.legacyNames false [] (ofSchema S).checkRoots := by
  refine .of_category fun d hd => ?_
  obtain ⟨operation, hreport⟩ := rootReport_of_mem hd
  cases hreport <;> nofun

end Scope

namespace Schema

open Naming

/-- The whole of validation covers the names of the schema. -/
theorem diagnose_covers (S : Schema) : Covers S.legacyNames false S.namings S.diagnose := by
  rw [diagnose_eq]
  have hroots := Scope.checkRoots_covers (S := S)
  have hdirectives := Covers.flatMap (Scope.checkDirective_covers (S := S)) S.directives
  have htypes := Covers.flatMap (Scope.checkEntry_covers (S := S)) S.types
  exact (hroots.append hdirectives).append htypes

/--
**No name goes unexamined.**  Apart from reserved values, what validation finds on names is one
objection to each bad name of the schema that is not allowed as a legacy name, in the order in
which the names stand: directives with their arguments, then types with what is named inside
them.  A name is bad if it is empty, begins or goes on with a character that may not stand
there, or begins with two underscores; and it is these names that have a flaw, called reserved
if they begin with two underscores and malformed if not.
-/
theorem names_examined_in_order (S : Schema) :
    (S.diagnose.filter fun d => d.category = .name ∧ d.problem.isReservedValue = false) =
      (S.namings.filter fun p => p.name ∉ S.legacyNames ∧ Name.Violates p.name).map
        (fun p => .pointing (.badName (Name.complaint p.name)) p.node.toList) ∧
    ∀ name, Name.flaw? name =
      if Name.Violates name then some (Name.complaint name) else none :=
  ⟨S.diagnose_covers, Name.flaw?_eq⟩

end Schema

end TypeGraph
