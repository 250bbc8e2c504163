/-
Fields and values that are written twice.

A definition and its extensions may write one field of a type, or one value of an enum,
several times.  A run over the schema counts the nodes.  Two or more are reported, in one
diagnostic for each time the field or value is listed, and it points at all of them; a type
lists a field once, so there is one diagnostic for a field.  Nothing but its name is checked
of such a field, and nothing is different for the other fields.

A diagnostic is told by its wording.  Where a field or value is checked, no other problem is
worded so.  Elsewhere in a run one may be, since the wording puts a dot between a type and its
field and does not say where a name ends: the field `b.c` of a type `A` and the field `c` of a
type `A.b` are called the same.  If no type has a dot or a blank in its name, this does not
happen.
-/
import TypeGraph.Proofs.EnumValues
import TypeGraph.Proofs.FieldNodes
import TypeGraph.Proofs.Reports
import TypeGraph.Proofs.Wording

namespace TypeGraph

open TypeGraph.Source

/-! ### Which part of a run a problem comes from -/

/-- A repetition in a type and what is wrong with an enum is said of that type; a run says nothing
in words of its own. -/
def Problem.IsAbout (name : Option String) : Problem → Prop
  | definedTwice (.field owner _) | definedTwice (.argument owner _ _) | noValues owner
  | valueTwice owner _ | reservedValue owner _ => name = some owner
  | stated _ _ => False
  | _ => True

theorem Problem.isAbout_of_saidOfEnum {p : Problem} {owner said : String}
    (h : p.saidOfEnum? = some (owner, said)) : ∀ name, p.IsAbout name → name = some owner := by
  intro name habout
  cases p with
  | noValues | valueTwice | reservedValue =>
      cases h
      exact habout
  | _ => cases h

/-- The diagnostics of one problem. -/
def withProblem (p : Problem) (found : List Diagnostic) : List Diagnostic :=
  found.filter fun d => d.problem = p

section WithProblem

variable {p : Problem}

theorem withProblem_append (front back : List Diagnostic) :
    withProblem p (front ++ back) = withProblem p front ++ withProblem p back :=
  List.filter_append front back

theorem withProblem_flatMap {α : Type} (l : List α) (f : α → List Diagnostic) :
    withProblem p (l.flatMap f) = l.flatMap fun a => withProblem p (f a) :=
  List.filter_flatMap

theorem withProblem_eq_nil {found : List Diagnostic} (h : ∀ d ∈ found, d.problem ≠ p) :
    withProblem p found = [] :=
  List.filter_eq_nil_iff.mpr fun d hd => by simpa using h d hd

end WithProblem

/-- What is to be said if something has these nodes: nothing, unless there are two or more. -/
def ifTwice (p : Problem) (nodes : List Node) : List Diagnostic :=
  if 1 < nodes.length then [.pointing p nodes] else []

theorem withProblem_ifTwice {p q : Problem} (nodes : List Node) :
    withProblem p (ifTwice q nodes) = if q = p then ifTwice p nodes else [] := by
  unfold ifTwice
  by_cases htwice : 1 < nodes.length <;> by_cases hq : q = p <;>
    simp [withProblem, Diagnostic.pointing, htwice, hq]

/-- The same for each element that calls for it. -/
theorem flatMap_ite_eq {α : Type} (l : List α) (calls : α → Prop) [DecidablePred calls]
    (found : List Diagnostic) :
    (l.flatMap fun a => if calls a then found else []) =
      (List.replicate (l.countP fun a => calls a) found).flatten := by
  induction l with
  | nil => rfl
  | cons a rest ih =>
      rw [List.flatMap_cons, ih, List.countP_cons]
      by_cases ha : calls a <;> simp [ha, List.replicate_succ]

/-- The nodes of a value, those of the definition before those of extensions. -/
def TypeDef.nodesOfValue (t : TypeDef) (value : String) : List Node :=
  (t.valueNodes.filter fun node => node.name = value).map Node.value

namespace Scope

variable {s : Scope} {t : TypeDef} {d : Diagnostic}

theorem FieldReport.isAbout (h : s.FieldReport t d) : d.problem.IsAbout (some t.name) := by
  cases h with
  | twice key => rfl
  | argumentTwice key arg => rfl
  | _ => trivial

theorem ValueReport.isAbout (h : s.ValueReport t d) : d.problem.IsAbout (some t.name) := by
  cases h with
  | name hv flaw => trivial
  | _ => rfl

theorem ClaimReport.isAbout (h : s.ClaimReport t d) : d.problem.IsAbout (some t.name) := by
  cases h with
  | unmet hi hkind hd => cases hd <;> trivial
  | _ => trivial

theorem TypeReport.isAbout (h : s.TypeReport t d) : d.problem.IsAbout (some t.name) := by
  cases h with
  | name flaw => trivial
  | field hd => exact hd.isAbout
  | inputField hd => cases hd <;> trivial
  | member hd => cases hd <;> trivial
  | value hd => exact hd.isAbout
  | claim hd => exact hd.isAbout

theorem DirectiveReport.isAbout {r : Ref} (h : s.DirectiveReport r d) : d.problem.IsAbout none := by
  cases h <;> trivial

theorem RootReport.isAbout {operation : Operation} (h : s.RootReport operation d) :
    d.problem.IsAbout none := by
  cases h <;> trivial

theorem isAbout_of_mem_checkRoots (h : d ∈ s.checkRoots) : d.problem.IsAbout none := by
  obtain ⟨operation, hreport⟩ := rootReport_of_mem h
  exact hreport.isAbout

theorem isAbout_of_mem_checkDirectives (h : d ∈ s.checkDirectives) : d.problem.IsAbout none := by
  obtain ⟨r, -, hmem⟩ := List.mem_flatMap.mp h
  exact (directiveReport_of_mem hmem).isAbout

/-! ### One field, one value -/

theorem problem_of_mem_checkArguments {exempt : Bool} {owner field : String} {args : List Argument}
    (h : d ∈ s.checkArguments exempt owner field args) (key : String) :
    d.problem ≠ .definedTwice (.field owner key) := by
  obtain ⟨marked, -, h⟩ := List.mem_flatMap.mp h
  rcases List.mem_append.mp h with hname | hrest
  · obtain ⟨flaw, rfl⟩ := eq_of_mem_checkName hname
    exact Problem.noConfusion
  · rcases eq_or_mem_of_mem_ite hrest with rfl | htype
    · simp [repeatedArgument, Diagnostic.pointing]
    · obtain rfl := eq_of_mem_unless htype
      exact Problem.noConfusion

theorem withProblem_when {p q : Problem} {nodes : List Node} {test : Prop} [Decidable test]
    (h : q ≠ p) : withProblem p (if test then [.pointing q nodes] else []) = [] := by
  refine withProblem_eq_nil fun d hd => ?_
  obtain rfl := eq_of_mem_when hd
  exact h

theorem withProblem_checkName {exempt : Bool} {name : String} {node : Option Node} {p : Problem}
    (hp : ∀ flaw, .badName flaw ≠ p) : withProblem p (s.checkName exempt name node) = [] := by
  refine withProblem_eq_nil fun d hd => ?_
  obtain ⟨flaw, rfl⟩ := eq_of_mem_checkName hd
  exact hp flaw

/-- Among what is said of a field there is at most this, that it is written twice. -/
theorem withProblem_checkField (exempt : Bool) (owner key : String) (entry : String × Field) :
    withProblem (.definedTwice (.field owner key)) (s.checkField exempt owner entry) =
      if entry.1 = key then
        ifTwice (.definedTwice (.field owner key)) (s.locator.nodes (.ofField owner key))
      else [] := by
  have hrest : withProblem (.definedTwice (.field owner key))
      (s.checkOutput owner entry.1 entry.2.type ++
        s.checkArguments exempt owner entry.1 entry.2.args) = [] := by
    refine withProblem_eq_nil fun d hd => ?_
    rcases List.mem_append.mp hd with htype | hargs
    · obtain rfl := eq_of_mem_unless htype
      exact Problem.noConfusion
    · exact problem_of_mem_checkArguments hargs key
  have hcontent : withProblem (.definedTwice (.field owner key))
      (s.checkFieldContent exempt owner entry.1 entry.2) =
      withProblem (.definedTwice (.field owner key))
        (ifTwice (.definedTwice (.field owner entry.1))
          (s.locator.nodes (.ofField owner entry.1))) := by
    unfold checkFieldContent ifTwice
    dsimp only
    by_cases htwice : 1 < (s.locator.nodes (.ofField owner entry.1)).length
    · rw [if_pos htwice, if_pos htwice]
    · rw [if_neg htwice, if_neg htwice, hrest]
      rfl
  rw [checkField, withProblem_append, withProblem_checkName fun _ => Problem.noConfusion,
    List.nil_append, hcontent, withProblem_ifTwice]
  by_cases hkey : entry.1 = key <;> simp [hkey]

/-- Among what is said of a value there is at most this, that it is written twice. -/
theorem withProblem_checkValue (exempt : Bool) (owner value : String) (v : EnumValue) :
    withProblem (.valueTwice owner value) (s.checkValue exempt owner v) =
      if v.name = value then
        ifTwice (.valueTwice owner value) (s.locator.nodes (.ofValue owner value))
      else [] := by
  have hreserved : withProblem (.valueTwice owner value) (checkValueReserved owner v) = [] :=
    withProblem_when Problem.noConfusion
  rw [checkValue, withProblem_append, withProblem_append,
    withProblem_checkName fun _ => Problem.noConfusion, hreserved, List.append_nil,
    List.append_nil]
  show withProblem _ (ifTwice (.valueTwice owner v.name)
    (s.locator.nodes (.ofValue owner v.name))) = _
  rw [withProblem_ifTwice]
  by_cases hname : v.name = value <;> simp [hname]

/-! ### One type -/

variable (s)

/-- Of an object or interface a field is reported once for each time it is listed. -/
theorem withProblem_checkFields (id : TypeId) (key : String) :
    withProblem (.definedTwice (.field (s.catalog.typeDef id).name key)) (s.checkFields id) =
      (List.replicate ((s.catalog.typeDef id).fields.keys.count key)
        (ifTwice (.definedTwice (.field (s.catalog.typeDef id).name key))
          (s.locator.nodes (.ofField (s.catalog.typeDef id).name key)))).flatten := by
  have hempty : withProblem (.definedTwice (.field (s.catalog.typeDef id).name key))
      (s.checkHasFields (s.catalog.typeDef id)) = [] := withProblem_when Problem.noConfusion
  rw [checkFields, withProblem_append, hempty, List.nil_append, withProblem_flatMap]
  simp only [withProblem_checkField]
  rw [flatMap_ite_eq, Table.keys, List.count, List.countP_map]
  rfl

/-- Of an enum a value is reported once for each time it is listed. -/
theorem withProblem_checkEnum (id : TypeId) (value : String) :
    withProblem (.valueTwice (s.catalog.typeDef id).name value) (s.checkEnum id) =
      (List.replicate ((s.catalog.typeDef id).valueNames.count value)
        (ifTwice (.valueTwice (s.catalog.typeDef id).name value)
          (s.locator.nodes (.ofValue (s.catalog.typeDef id).name value)))).flatten := by
  have hempty : withProblem (.valueTwice (s.catalog.typeDef id).name value)
      (s.checkHasValues (s.catalog.typeDef id)) = [] := withProblem_when Problem.noConfusion
  rw [checkEnum, withProblem_append, hempty, List.nil_append, withProblem_flatMap]
  simp only [withProblem_checkValue]
  rw [flatMap_ite_eq, TypeDef.valueNames, List.count, List.countP_map]
  rfl

/-- The name and the claims of a type add nothing to what is reported of its fields. -/
theorem withProblem_checkNamedType_field {id : TypeId} {p : Problem}
    (hkind : (s.catalog.typeDef id).kind = .object ∨ (s.catalog.typeDef id).kind = .interface)
    (hp : ∃ place, p = .definedTwice place) :
    withProblem p (s.checkNamedType id) = withProblem p (s.checkFields id) := by
  obtain ⟨place, rfl⟩ := hp
  have hclaims : withProblem (.definedTwice place) (s.checkClaims id) = [] := by
    refine withProblem_eq_nil fun d hd => ?_
    cases claimReport_of_mem hd with
    | unmet hi hkind hd => cases hd <;> exact Problem.noConfusion
    | _ => exact Problem.noConfusion
  rw [checkNamedType, withProblem_append, withProblem_checkName fun _ => Problem.noConfusion,
    List.nil_append, checkByKind]
  rcases hkind with hkind | hkind
  · rw [hkind]
    show withProblem _ (s.checkFields id ++ s.checkClaims id) = _
    rw [withProblem_append, hclaims, List.append_nil]
  · rw [hkind]

theorem withProblem_checkNamedType_value {id : TypeId} {p : Problem}
    (hkind : (s.catalog.typeDef id).kind = .enum) (hp : ∀ flaw, .badName flaw ≠ p) :
    withProblem p (s.checkNamedType id) = withProblem p (s.checkEnum id) := by
  rw [checkNamedType, withProblem_append, withProblem_checkName hp, List.nil_append, checkByKind,
    hkind]

end Scope

/-! ### The whole run -/

namespace Schema

variable {c : Catalog} {b : Blueprint} {S : Schema}

/-- What a run says of a type is said where the type is checked. -/
theorem withProblem_diagnose {Q : TypeId → Prop} (h : S.Lists Q) {id : TypeId}
    (hid : .named id ∈ S.types) {p : Problem}
    (hp : ∀ name, p.IsAbout name → name = some (S.catalog.typeDef id).name) :
    withProblem p S.diagnose = withProblem p ((Scope.ofSchema S).checkNamedType id) := by
  have hnone : ¬ p.IsAbout none := fun habout => nomatch hp none habout
  have hroots : withProblem p (Scope.ofSchema S).checkRoots = [] :=
    withProblem_eq_nil fun d hd heq => hnone (heq ▸ Scope.isAbout_of_mem_checkRoots hd)
  have hdirectives : withProblem p (Scope.ofSchema S).checkDirectives = [] :=
    withProblem_eq_nil fun d hd heq => hnone (heq ▸ Scope.isAbout_of_mem_checkDirectives hd)
  rw [diagnose_eq, withProblem_append, withProblem_append, hroots, hdirectives, List.nil_append,
    List.nil_append, Scope.checkTypes, withProblem_flatMap]
  refine Locator.flatMap_eq_of_unique h.nodup hid fun r hr hne => ?_
  obtain ⟨j, rfl, -⟩ := (h.mem_types r).mp hr
  refine withProblem_eq_nil fun d hd heq => ?_
  have habout : p.IsAbout (some (S.catalog.typeDef j).name) :=
    heq ▸ (Scope.typeReport_of_mem hd).isAbout
  have hname : (S.catalog.typeDef j).name = (S.catalog.typeDef id).name :=
    Option.some.inj (hp _ habout)
  exact hne (congrArg Ref.named (h.eq_of_name_eq hr hid hname))

/-- Every problem of a run is about a type of the type map, or about none. -/
theorem isAbout_of_mem_diagnose {Q : TypeId → Prop} (h : S.Lists Q) {d : Diagnostic}
    (hd : d ∈ S.diagnose) :
    d.problem.IsAbout none ∨
      ∃ id, .named id ∈ S.types ∧ d.problem.IsAbout (some (S.catalog.typeDef id).name) := by
  rw [diagnose_eq, List.mem_append, List.mem_append] at hd
  rcases hd with (hroot | hdirective) | htype
  · exact Or.inl (Scope.isAbout_of_mem_checkRoots hroot)
  · exact Or.inl (Scope.isAbout_of_mem_checkDirectives hdirective)
  · obtain ⟨r, hr, hmem⟩ := List.mem_flatMap.mp htype
    obtain ⟨id, rfl, -⟩ := (h.mem_types r).mp hr
    exact Or.inr ⟨id, hr, (Scope.typeReport_of_mem hmem).isAbout⟩

end Schema

/-! ### Wording -/

/-- The lines at which a diagnostic points. -/
def Diagnostic.lines (d : Diagnostic) : List Int := d.locations.map Location.line

/-- The diagnostics of one wording. -/
def withMessage (text : String) (found : List Diagnostic) : List Diagnostic :=
  found.filter fun d => d.message = text

/-- Where only one problem is worded so, its diagnostics are those of the wording. -/
theorem withMessage_eq_withProblem {p : Problem} {found : List Diagnostic}
    (h : ∀ d ∈ found, d.message = p.message → d.problem = p) :
    withMessage p.message found = withProblem p found := by
  refine List.filter_congr fun d hd => ?_
  rw [decide_eq_decide]
  refine ⟨h d hd, ?_⟩
  intro hproblem
  rw [Diagnostic.message, hproblem]

namespace Scope

variable {s : Scope} {exempt : Bool} {owner key : String} {d : Diagnostic}

/-- Of what is said of a field one problem only is worded so. -/
theorem problem_of_mem_checkField {f : Field} (hd : d ∈ s.checkField exempt owner (key, f))
    (h : d.message = (Problem.definedTwice (.field owner key)).message) :
    d.problem = .definedTwice (.field owner key) := by
  -- All but repetitions open with another word.
  have hname : ∀ {name node}, d ∉ s.checkName exempt name node := by
    intro name node hname
    obtain ⟨flaw, rfl⟩ := eq_of_mem_checkName hname
    cases flaw with
    | reserved => exact absurd (Problem.openingWord_eq rfl rfl h) (by decide)
    | malformed => exact absurd (Problem.openingWord_eq rfl rfl h) (by decide)
  rcases List.mem_append.mp hd with hnamed | hcontent
  · exact absurd hnamed hname
  rcases eq_or_mem_of_mem_ite hcontent with rfl | hdeeper
  · rfl
  rcases List.mem_append.mp hdeeper with htype | hargs
  · obtain rfl := eq_of_mem_unless htype
    exact absurd (Problem.openingWord_eq rfl rfl h) (by decide)
  obtain ⟨marked, -, harg⟩ := List.mem_flatMap.mp hargs
  rcases List.mem_append.mp harg with hnamed | hrest
  · exact absurd hnamed hname
  rcases eq_or_mem_of_mem_ite hrest with rfl | htype
  · exact absurd h Problem.own_argument_message_ne
  · obtain rfl := eq_of_mem_unless htype
    exact absurd (Problem.openingWord_eq rfl rfl h) (by decide)

/-- And so of what is said of a value. -/
theorem problem_of_mem_checkValue {v : EnumValue} (hd : d ∈ s.checkValue exempt owner v)
    (h : d.message = (Problem.valueTwice owner v.name).message) :
    d.problem = .valueTwice owner v.name := by
  rcases List.mem_append.mp hd with hd | hreserved
  · rcases List.mem_append.mp hd with htwice | hname
    · obtain rfl := eq_of_mem_when htwice
      rfl
    · obtain ⟨flaw, rfl⟩ := eq_of_mem_checkName hname
      cases flaw with
      | reserved => exact absurd (Problem.openingWord_eq rfl rfl h) (by decide)
      | malformed => exact absurd (Problem.openingWord_eq rfl rfl h) (by decide)
  · obtain rfl := eq_of_mem_when hreserved
    exact Problem.eq_valueTwice_of_own_message rfl h

end Scope

namespace Schema

variable {c : Catalog} {b : Blueprint} {S : Schema}

section Run

variable {Q : TypeId → Prop} (h : S.Lists Q) {d : Diagnostic} (hd : d ∈ S.diagnose)
include h hd

theorem problem_ne_stated (text : String) (category : Category) :
    d.problem ≠ .stated text category := by
  intro heq
  rcases isAbout_of_mem_diagnose h hd with habout | ⟨_, _, habout⟩
  · rw [heq] at habout
    exact habout
  · rw [heq] at habout
    exact habout

/-- What is about a type alone is about one of the type map. -/
theorem exists_type_of_isAbout {owner : String}
    (howner : ∀ name, d.problem.IsAbout name → name = some owner) :
    ∃ id, .named id ∈ S.types ∧ (S.catalog.typeDef id).name = owner := by
  rcases isAbout_of_mem_diagnose h hd with habout | ⟨id, hid, habout⟩
  · exact nomatch howner _ habout
  · exact ⟨id, hid, Option.some.inj (howner _ habout)⟩

/-- If no type has a dot in its name and this one no blank, then what is said of its field is said
of nothing else. -/
theorem problem_of_field_message
    (hdots : ∀ id, .named id ∈ S.types → '.' ∉ (S.catalog.typeDef id).name.toList) {id : TypeId}
    (hid : .named id ∈ S.types) (hblank : ' ' ∉ (S.catalog.typeDef id).name.toList) {key : String}
    (hmessage : d.message =
      (Problem.definedTwice (.field (S.catalog.typeDef id).name key)).message) :
    d.problem = .definedTwice (.field (S.catalog.typeDef id).name key) := by
  have howner : ∀ owner, (∀ name, d.problem.IsAbout name → name = some owner) →
      '.' ∉ owner.toList := by
    intro owner habout
    obtain ⟨j, hj, rfl⟩ := exists_type_of_isAbout h hd habout
    exact hdots j hj
  have hword := Problem.openingWord?_of_message_eq (problem_ne_stated h hd) rfl hmessage
  rcases Problem.eq_definedTwice_of_opening hword with
    ⟨owner, field, heq⟩ | ⟨owner, field, arg, heq⟩
  · rw [Diagnostic.message, heq] at hmessage
    rw [heq] at howner ⊢
    obtain ⟨rfl, rfl⟩ :=
      Problem.field_of_message_eq (hdots id hid) (howner owner fun _ h => h) hmessage
    rfl
  · rw [Diagnostic.message, heq] at hmessage
    rw [heq] at howner
    exact absurd hmessage
      (Problem.argument_message_ne (hdots id hid) (howner owner fun _ h => h) hblank)

/-- If no type has a blank in its name, then what is said of a value is said of nothing else. -/
theorem problem_of_value_message
    (hblanks : ∀ id, .named id ∈ S.types → ' ' ∉ (S.catalog.typeDef id).name.toList)
    {id : TypeId} (hid : .named id ∈ S.types) {value : String}
    (hmessage : d.message = (Problem.valueTwice (S.catalog.typeDef id).name value).message) :
    d.problem = .valueTwice (S.catalog.typeDef id).name value := by
  have hword := Problem.openingWord?_of_message_eq (problem_ne_stated h hd) rfl hmessage
  obtain ⟨owner, said, hsaid⟩ := Problem.exists_saidOfEnum hword
  obtain ⟨j, hj, rfl⟩ := exists_type_of_isAbout h hd (Problem.isAbout_of_saidOfEnum hsaid)
  exact Problem.eq_valueTwice_of_message hsaid (hblanks id hid) (hblanks j hj) hmessage

end Run

/-! ### Fields and values of a schema -/

/-- What is said of a field of an object or interface, and of how often it is written. -/
structure FieldWriting (S : Schema) (id : TypeId) (key : String) (f : Field) : Prop where
  /-- Where the field is checked, this sentence is said once if it has two nodes or more, and then
  points at all of them; otherwise it is not said. -/
  own :
    withMessage
        ("Field " ++ (S.catalog.typeDef id).name ++ "." ++ key ++ " can only be defined once.")
        ((Scope.ofSchema S).checkField id.isIntrospection (S.catalog.typeDef id).name (key, f)) =
      ifTwice (.definedTwice (.field (S.catalog.typeDef id).name key))
        ((S.catalog.typeDef id).fieldNodes key)
  /-- In a whole run it is said nowhere else, if no type has a dot in its name and this one no
  blank. -/
  reported :
    (∀ j, .named j ∈ S.types → '.' ∉ (S.catalog.typeDef j).name.toList) →
    ' ' ∉ (S.catalog.typeDef id).name.toList →
    withMessage
        ("Field " ++ (S.catalog.typeDef id).name ++ "." ++ key ++ " can only be defined once.")
        S.diagnose =
      ifTwice (.definedTwice (.field (S.catalog.typeDef id).name key))
        ((S.catalog.typeDef id).fieldNodes key)
  /-- If it is reported, only the name of the field is checked beside it. -/
  alone : 1 < ((S.catalog.typeDef id).fieldNodes key).length →
    (Scope.ofSchema S).checkField id.isIntrospection (S.catalog.typeDef id).name (key, f) =
      (Scope.ofSchema S).checkName id.isIntrospection key (f.node.map SlotNode.toNode) ++
        [.pointing (.definedTwice (.field (S.catalog.typeDef id).name key))
          ((S.catalog.typeDef id).fieldNodes key)]
  /-- What is said of another field is the same whatever nodes this one has. -/
  apart : ∀ T : Schema, T.forgetting id key = S.forgetting id key →
    ∀ other g, (other, g) ∈ (S.catalog.typeDef id).fields.entries → other ≠ key →
      (Scope.ofSchema T).checkField id.isIntrospection (S.catalog.typeDef id).name (other, g) =
        (Scope.ofSchema S).checkField id.isIntrospection (S.catalog.typeDef id).name (other, g)

/-- What is said of the values of an enum, and of how often they are written. -/
structure ValueWriting (S : Schema) (id : TypeId) : Prop where
  /-- Where a value is checked, this sentence is said once if it has two nodes or more. -/
  own : ∀ v ∈ (S.catalog.typeDef id).values,
    withMessage
        ("Enum type " ++ (S.catalog.typeDef id).name ++ " can include value " ++ v.name ++
          " only once.")
        ((Scope.ofSchema S).checkValue id.isIntrospection (S.catalog.typeDef id).name v) =
      ifTwice (.valueTwice (S.catalog.typeDef id).name v.name)
        ((S.catalog.typeDef id).nodesOfValue v.name)
  /-- In a whole run it is said as often as the value is listed and nowhere else, if no type has a
  blank in its name. -/
  reported : (∀ j, .named j ∈ S.types → ' ' ∉ (S.catalog.typeDef j).name.toList) → ∀ value,
    withMessage
        ("Enum type " ++ (S.catalog.typeDef id).name ++ " can include value " ++ value ++
          " only once.")
        S.diagnose =
      (List.replicate ((S.catalog.typeDef id).valueNames.count value)
        (ifTwice (.valueTwice (S.catalog.typeDef id).name value)
          ((S.catalog.typeDef id).nodesOfValue value))).flatten

theorem Unmodified.fieldWriting (h : Unmodified c b S) {id : TypeId} (hid : .named id ∈ S.types)
    (hkind : (S.catalog.typeDef id).kind = .object ∨ (S.catalog.typeDef id).kind = .interface)
    {key : String} {f : Field} (hf : (key, f) ∈ (S.catalog.typeDef id).fields.entries) :
    S.FieldWriting id key f := by
  have hnodes : (Scope.ofSchema S).locator.nodes (.ofField (S.catalog.typeDef id).name key) =
      (S.catalog.typeDef id).fieldNodes key := Locator.nodes_field h.lists hid key
  refine ⟨?own, ?reported, ?alone, ?apart⟩
  case own =>
    rw [← Problem.message_definedTwice_field, withMessage_eq_withProblem fun d hd hmessage =>
      Scope.problem_of_mem_checkField hd hmessage, Scope.withProblem_checkField, if_pos rfl, hnodes]
  case reported =>
    intro hdots hblank
    have hlisted : (S.catalog.typeDef id).fields.keys.count key = 1 :=
      List.count_eq_one_of_mem (S.catalog.typeDef id).fields.nodup (List.mem_map.mpr ⟨_, hf, rfl⟩)
    have hfields := (Scope.ofSchema S).withProblem_checkFields id key
    rw [show (Scope.ofSchema S).catalog = S.catalog from rfl, hnodes, hlisted, List.replicate_one,
      List.flatten_singleton] at hfields
    rw [← Problem.message_definedTwice_field, withMessage_eq_withProblem fun d hd hmessage =>
        problem_of_field_message h.lists hd hdots hid hblank hmessage,
      withProblem_diagnose (p := .definedTwice (.field _ key)) h.lists hid fun _ habout => habout,
      (Scope.ofSchema S).withProblem_checkNamedType_field hkind ⟨_, rfl⟩, hfields]
  case alone =>
    intro htwice
    rw [Scope.checkField, Scope.checkFieldContent, hnodes, if_pos htwice]
  case apart =>
    intro T hsame other g _ hne
    exact Scope.checkField_eq_of_forgetting hsame hne id.isIntrospection g

theorem Unmodified.valueWriting (h : Unmodified c b S) {id : TypeId} (hid : .named id ∈ S.types)
    (hkind : (S.catalog.typeDef id).kind = .enum) : S.ValueWriting id := by
  have hnodes : ∀ value,
      (Scope.ofSchema S).locator.nodes (.ofValue (S.catalog.typeDef id).name value) =
        (S.catalog.typeDef id).nodesOfValue value := by
    intro value
    rw [TypeDef.nodesOfValue, ← Locator.nodes_ofType_value]
    exact Locator.nodes_ofSchema h.lists hid ⟨rfl, by simp [Locator.Key.ofValue]⟩
  refine ⟨?own, ?reported⟩
  case own =>
    intro v _
    show withMessage (Problem.valueTwice (S.catalog.typeDef id).name v.name).message _ = _
    rw [withMessage_eq_withProblem fun d hd hmessage =>
      Scope.problem_of_mem_checkValue hd hmessage, Scope.withProblem_checkValue, if_pos rfl, hnodes]
  case reported =>
    intro hblanks value
    have hvalues := (Scope.ofSchema S).withProblem_checkEnum id value
    rw [show (Scope.ofSchema S).catalog = S.catalog from rfl, hnodes] at hvalues
    show withMessage (Problem.valueTwice (S.catalog.typeDef id).name value).message _ = _
    rw [withMessage_eq_withProblem fun d hd hmessage =>
        problem_of_value_message h.lists hd hblanks hid hmessage,
      withProblem_diagnose (p := .valueTwice _ value) h.lists hid fun _ habout => habout,
      (Scope.ofSchema S).withProblem_checkNamedType_value hkind fun _ => Problem.noConfusion,
      hvalues]

/--
Of a field of an object or interface it is said once, where it is checked, that it is defined twice,
if it has two nodes or more among those of the definition and its extensions; and then nothing else
is said of it but for its name.  Of a value of an enum it is said each time it is listed.  In a
whole run nothing else is worded so, unless a dot or a blank in a type's name makes two names read
alike.
-/
theorem written_twice_reported (h : Unmodified c b S) {id : TypeId} (hid : .named id ∈ S.types) :
    ((S.catalog.typeDef id).kind = .object ∨ (S.catalog.typeDef id).kind = .interface →
      ∀ key f, (key, f) ∈ (S.catalog.typeDef id).fields.entries → S.FieldWriting id key f) ∧
    ((S.catalog.typeDef id).kind = .enum → S.ValueWriting id) :=
  ⟨fun hkind _ _ hf => h.fieldWriting hid hkind hf, fun hkind => h.valueWriting hid hkind⟩

/-- A field and a value that are written in a definition and again in an extension.  The value is
listed twice, too. -/
def paletteCatalog : Catalog where
  types := #[
    { name := "Query"
      body := .objectOf
        [("hue", { type := .named (.own 1) }), ("size", { type := Builtin.int.ref })] []
      node := some { kind := .object, name := "Query", fields := [slot "hue" 2, slot "size" 3] }
      extensions := [some { kind := .interface, name := "Query", fields := [slot "hue" 6] }] },
    { name := "Hue"
      body := .enum [{ name := "RED" }, { name := "BLUE" }, { name := "RED" }]
      node := some { kind := .enum, name := "Hue", values := [value "RED" 10, value "BLUE" 11] }
      extensions := [none, some { kind := .enum, name := "Hue", values := [value "RED" 14] }] }]
where
  slot (name : String) (line : Int) : SlotNode :=
    .field { name := name, type := .named "Hue" none, loc := some ⟨line, 3⟩ }
  value (name : String) (line : Int) : ValueNode := { name := name, loc := some ⟨line, 3⟩ }

/-- Hues are asked for by a query. -/
def paletteBlueprint : Blueprint where
  query := .named (.own 0)

/-- The lines at which a run over the palette points, and what it says there. -/
def paletteFaults : List (String × List Int) :=
  [("Field Query.hue can only be defined once.", [2, 6]),
   ("Enum type Hue can include value RED only once.", [10, 14]),
   ("Enum type Hue can include value RED only once.", [10, 14])]

theorem written_twice_reported_palette :
    ∃ S, Unmodified paletteCatalog paletteBlueprint S ∧
      .named (.own 0) ∈ S.types ∧ .named (.own 1) ∈ S.types ∧
      (∀ entry ∈ (S.catalog.typeDef (.own 0)).fields.entries,
        S.FieldWriting (.own 0) entry.1 entry.2) ∧
      (S.catalog.typeDef (.own 0)).fields.keys = ["hue", "size"] ∧
      S.ValueWriting (.own 1) ∧
      (∀ j, .named j ∈ S.types → '.' ∉ (S.catalog.typeDef j).name.toList ∧
        ' ' ∉ (S.catalog.typeDef j).name.toList) ∧
      S.diagnose.map (fun d => (d.message, d.lines)) = paletteFaults := by
  obtain ⟨S, hbuild, hquery, hhue, hkeys, hfaults, hnames⟩ :=
    @exists_build paletteCatalog paletteBlueprint
      (fun S => .named (.own 0) ∈ S.types ∧ .named (.own 1) ∈ S.types ∧
        (S.catalog.typeDef (.own 0)).fields.keys = ["hue", "size"] ∧
        S.diagnose.map (fun d => (d.message, d.lines)) = paletteFaults ∧
        ∀ r ∈ S.types, ∀ id ∈ r.typeId?, '.' ∉ (S.catalog.typeDef id).name.toList ∧
          ' ' ∉ (S.catalog.typeDef id).name.toList)
      _ (by decide +kernel)
  have hcatalog : S.catalog = paletteCatalog := (build_ok hbuild).1
  have hfields := (written_twice_reported (.built hbuild) hquery).1
    (Or.inl (by rw [hcatalog]; decide +kernel))
  have hvalues := (written_twice_reported (.built hbuild) hhue).2
    (by rw [hcatalog]; decide +kernel)
  exact ⟨S, .built hbuild, hquery, hhue, fun entry hentry => hfields _ _ hentry, hkeys, hvalues,
    fun j hj => hnames _ hj j rfl, hfaults⟩

/-- Types and values whose names read alike: the field `b.c` of `A` and the field `c` of `A.b`, a
field of `argument A` and an argument of a field of `A`, and two values of two enums. -/
def namesakeCatalog : Catalog where
  types := #[
    objectOf "A" [("b.c", [2], []), ("d", [3], [repeated, repeated])],
    objectOf "A.b" [("c", [6, 7], [])],
    objectOf "argument A" [("d(x:)", [10], [])],
    enumOf "E" "F can include value G" [13],
    enumOf "E can include value F" "G" [16, 17]]
where
  repeated : Argument := { name := "x", type := Builtin.int.ref }
  slot (name : String) (line : Int) : SlotNode :=
    .field { name := name, type := .named "Int" none, loc := some ⟨line, 3⟩ }
  value (name : String) (line : Int) : ValueNode := { name := name, loc := some ⟨line, 3⟩ }
  objectOf (name : String) (fields : List (String × List Int × List Argument)) : TypeDef :=
    { name := name
      body := .objectOf
        (fields.map fun entry => (entry.1, { type := Builtin.int.ref, args := entry.2.2 })) []
      node := some
        { kind := .object, name := name
          fields := fields.flatMap fun entry => entry.2.1.map (slot entry.1) } }
  enumOf (name member : String) (lines : List Int) : TypeDef :=
    { name := name
      body := .enum [{ name := member }]
      node := some { kind := .enum, name := name, values := lines.map (value member) } }

/-- All these names are allowed. -/
def namesakeBlueprint : Blueprint where
  query := .named (.own 0)
  types := (List.range 5).map fun i => .named (.own i)
  legacyNames := ["A.b", "b.c", "argument A", "d(x:)", "E can include value F",
    "F can include value G"]

/-- The field `b.c` of `A`, that of `argument A` and the value of `E` are written once.  Yet what is
said of their namesakes is, word for word, that they are there twice. -/
theorem namesakes_reported :
    ∃ S, build namesakeCatalog namesakeBlueprint = .ok S ∧
      (∀ r ∈ namesakeBlueprint.types, r ∈ S.types) ∧
      (((S.catalog.typeDef (.own 0)).fieldNodes "b.c").length = 1 ∧
        (withMessage
          ("Field " ++ (S.catalog.typeDef (.own 0)).name ++ "." ++ "b.c" ++
            " can only be defined once.") S.diagnose).map Diagnostic.lines = [[6, 7]]) ∧
      (((S.catalog.typeDef (.own 2)).fieldNodes "d(x:)").length = 1 ∧
        (withMessage
          ("Field " ++ (S.catalog.typeDef (.own 2)).name ++ "." ++ "d(x:)" ++
            " can only be defined once.") S.diagnose).map Diagnostic.lines = [[]]) ∧
      (((S.catalog.typeDef (.own 3)).nodesOfValue "F can include value G").length = 1 ∧
        (withMessage
          ("Enum type " ++ (S.catalog.typeDef (.own 3)).name ++ " can include value " ++
            "F can include value G" ++ " only once.") S.diagnose).map Diagnostic.lines =
          [[16, 17]]) :=
  exists_build (by decide +kernel)

end Schema

end TypeGraph
