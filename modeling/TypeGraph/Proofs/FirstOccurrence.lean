/-
Of several elements with one name the first is examined.

Four lists of a schema may repeat a name: the arguments of a field, those of a directive,
the members of a union and the interfaces an object claims.  Their loops carry along the
names that came before.  Here it is said what that comes to, without a word about how it
is carried: whether the element at a place repeats a name is a matter of the list and the
place, an element that does so is reported and not examined, and any other is examined.
An element without a name, a wrapped type or a plain value, repeats nothing and nothing
repeats it.

The loops differ in how a name is read, in what they examine, and in that the name of an
argument is checked whether or not it is repeated.  These are parameters here, so there
is one law for all of them.
-/
import Mathlib.Data.Finset.Card
import Mathlib.Data.Finset.Insert
import TypeGraph.Proofs.Reports
import TypeGraph.Proofs.TypeMap

namespace TypeGraph

open TypeGraph.Source

/-! ### Places where a name is repeated -/

section Repeats

variable {α : Type} (name? : α → Option String)

/-- The element at the place has a name, and an earlier one has the same. -/
def RepeatsAt (as : List α) (i : Nat) : Prop :=
  ∃ j < i, ∃ name ∈ as[i]?.bind name?, name ∈ as[j]?.bind name?

instance (as : List α) (i : Nat) : Decidable (RepeatsAt name? as i) :=
  inferInstanceAs (Decidable (∃ j < i, ∃ name ∈ as[i]?.bind name?, name ∈ as[j]?.bind name?))

/-- The elements that repeat no name. -/
def examined (as : List α) : List α :=
  (as.zipIdx.filter fun entry => ¬ RepeatsAt name? as entry.2).map Prod.fst

variable {name?}

theorem not_repeatsAt_zero (as : List α) : ¬ RepeatsAt name? as 0 := by
  rintro ⟨j, hj, -⟩
  exact absurd hj (Nat.not_lt_zero j)

/-- Behind a first element a name is repeated if it is that element's or is repeated anyway. -/
theorem repeatsAt_succ (a : α) (rest : List α) (i : Nat) :
    RepeatsAt name? (a :: rest) (i + 1) ↔
      (∃ name ∈ rest[i]?.bind name?, name ∈ name? a) ∨ RepeatsAt name? rest i := by
  refine ⟨?_, ?_⟩
  · rintro ⟨j, hj, name, hname, hearlier⟩
    cases j with
    | zero => exact Or.inl ⟨name, hname, hearlier⟩
    | succ j => exact Or.inr ⟨j, Nat.lt_of_succ_lt_succ hj, name, hname, hearlier⟩
  · rintro (⟨name, hname, hearlier⟩ | ⟨j, hj, name, hname, hearlier⟩)
    · exact ⟨0, Nat.succ_pos i, name, hname, hearlier⟩
    · exact ⟨j + 1, Nat.succ_lt_succ hj, name, hname, hearlier⟩

/-! ### What the marks say -/

/-- The mark of an element says whether its name was seen, and its name, if any, is seen next. -/
theorem markRepeatsFrom_cons (seen : List String) (a : α) (rest : List α) :
    markRepeatsFrom name? seen (a :: rest) =
      (a, decide (∃ name ∈ name? a, name ∈ seen)) ::
        markRepeatsFrom name? ((name? a).toList ++ seen) rest := by
  rw [markRepeatsFrom]
  cases name? a with
  | none => simp
  | some name => simp

/-- A mark is set where the name was seen before the list or is repeated in it. -/
theorem getElem?_markRepeatsFrom (as : List α) (seen : List String) (i : Nat) :
    (markRepeatsFrom name? seen as)[i]? =
      as[i]?.map fun a =>
        (a, decide ((∃ name ∈ name? a, name ∈ seen) ∨ RepeatsAt name? as i)) := by
  induction as generalizing seen i with
  | nil => rfl
  | cons a rest ih =>
      rw [markRepeatsFrom_cons]
      cases i with
      | zero => simp [not_repeatsAt_zero]
      | succ i =>
          rw [List.getElem?_cons_succ, List.getElem?_cons_succ, ih]
          cases hb : rest[i]? with
          | none => rfl
          | some b =>
              have hmark : ((∃ name ∈ name? b, name ∈ (name? a).toList ++ seen) ∨
                    RepeatsAt name? rest i) ↔
                  (∃ name ∈ name? b, name ∈ seen) ∨ RepeatsAt name? (a :: rest) (i + 1) := by
                rw [repeatsAt_succ, hb]
                simp only [List.mem_append, Option.mem_toList, Option.bind_some, and_or_left,
                  exists_or]
                exact or_assoc.trans or_left_comm
              simp only [Option.map_some, hmark]

theorem markRepeats_eq_zipIdx (as : List α) :
    markRepeats name? as =
      as.zipIdx.map fun entry => (entry.1, decide (RepeatsAt name? as entry.2)) := by
  refine List.ext_getElem? fun i => ?_
  rw [markRepeats, getElem?_markRepeatsFrom, List.getElem?_map, List.getElem?_zipIdx]
  cases as[i]? with
  | none => rfl
  | some a => simp

/-! ### Which elements are examined

Each law follows the list with the names seen so far.
-/

/-- The elements whose name is neither among `seen` nor borne by an earlier element. -/
def examinedFrom (name? : α → Option String) (seen : List String) (as : List α) : List α :=
  ((markRepeatsFrom name? seen as).filter fun marked => !marked.2).map Prod.fst

theorem examinedFrom_cons (seen : List String) (a : α) (rest : List α) :
    examinedFrom name? seen (a :: rest) =
      (if ∃ name ∈ name? a, name ∈ seen then [] else [a]) ++
        examinedFrom name? ((name? a).toList ++ seen) rest := by
  rw [examinedFrom, markRepeatsFrom_cons]
  by_cases hseen : ∃ name ∈ name? a, name ∈ seen
  · simp only [hseen, decide_true, Bool.not_true, List.filter_cons, if_true]
    rfl
  · simp only [hseen, decide_false, Bool.not_false, List.filter_cons, if_true, if_false]
    rfl

theorem filter_first_append {p : Prop} [Decidable p] {q : α → Bool} {a : α} (ha : q a = false)
    (rest : List α) : (if p then [] else [a]).filter q ++ rest = rest := by
  split
  · rfl
  · rw [List.filter_cons_of_neg (Bool.eq_false_iff.mp ha), List.filter_nil, List.nil_append]

theorem examined_eq (as : List α) : examined name? as = examinedFrom name? [] as := by
  rw [examinedFrom, ← markRepeats, markRepeats_eq_zipIdx, List.filter_map, List.map_map, examined]
  simp [Function.comp_def]

/-- Of a name not seen yet the first element is examined, and of one seen none. -/
theorem filter_examinedFrom_name (as : List α) (seen : List String) (name : String) :
    (examinedFrom name? seen as).filter (fun a => name? a = some name) =
      if name ∈ seen then [] else (as.filter fun a => name? a = some name).take 1 := by
  induction as generalizing seen with
  | nil => simp [examinedFrom, markRepeatsFrom]
  | cons a rest ih =>
      rw [examinedFrom_cons, List.filter_append, ih]
      by_cases ha : name? a = some name
      · by_cases hseen : name ∈ seen
        · simp [ha, hseen]
        · simp [ha, hseen]
      · have hkeep : name ∈ (name? a).toList ++ seen ↔ name ∈ seen := by simp [ha]
        rw [filter_first_append (by simpa using ha), List.filter_cons_of_neg (by simpa using ha)]
        simp only [hkeep]

/-- Every element without a name is examined. -/
theorem filter_examinedFrom_none (as : List α) (seen : List String) :
    (examinedFrom name? seen as).filter (fun a => name? a = none) =
      as.filter fun a => name? a = none := by
  induction as generalizing seen with
  | nil => rfl
  | cons a rest ih =>
      rw [examinedFrom_cons, List.filter_append, ih]
      cases ha : name? a with
      | none => simp [ha]
      | some name =>
          rw [filter_first_append (by simp [ha]), List.filter_cons_of_neg (by simp [ha])]

theorem card_insert_sdiff {names seen : Finset String} {name : String} (hname : name ∉ seen) :
    (insert name names \ seen).card = (names \ insert name seen).card + 1 := by
  rw [Finset.insert_sdiff_of_notMem _ hname, Finset.sdiff_insert, ← Finset.erase_insert_eq_erase,
    Finset.card_erase_add_one (Finset.mem_insert_self _ _)]

/-- A name is marked as often as it comes, but for the first time if it was not seen. -/
theorem countP_markRepeatsFrom (as : List α) (seen : List String) :
    (markRepeatsFrom name? seen as).countP Prod.snd +
        ((as.filterMap name?).toFinset \ seen.toFinset).card =
      (as.filterMap name?).length := by
  induction as generalizing seen with
  | nil => simp [markRepeatsFrom]
  | cons a rest ih =>
      rw [markRepeatsFrom_cons, List.countP_cons]
      have hrest := ih ((name? a).toList ++ seen)
      cases ha : name? a with
      | none =>
          rw [ha] at hrest
          rw [List.filterMap_cons_none ha]
          simpa using hrest
      | some name =>
          rw [ha] at hrest
          rw [List.filterMap_cons_some ha, List.length_cons, List.toFinset_cons]
          have hseen : ((some name).toList ++ seen).toFinset = insert name seen.toFinset := by
            simp
          rw [hseen] at hrest
          by_cases hname : name ∈ seen
          · have hmem : name ∈ seen.toFinset := List.mem_toFinset.mpr hname
            rw [Finset.insert_eq_of_mem hmem] at hrest
            rw [Finset.insert_sdiff_of_mem _ hmem]
            simp only [Option.mem_some_iff, exists_eq_left', hname, decide_true, if_true]
            omega
          · have hmem : name ∉ seen.toFinset := fun h => hname (List.mem_toFinset.mp h)
            rw [card_insert_sdiff hmem]
            simp only [Option.mem_some_iff, exists_eq_left', hname, decide_false,
              Bool.false_eq_true, if_false]
            omega

end Repeats

/-! ### A loop that examines first occurrences -/

/-- What one of the loops does with an element: how it reads its name, what it says of it in
any case, what it says if the name is repeated, and what it says otherwise.  Repetition, and
nothing else here, is reported as a duplicate. -/
structure Examination (α : Type) where
  name? : α → Option String
  always : α → List Diagnostic
  repeated : α → Diagnostic
  deeper : α → List Diagnostic
  always_other : ∀ a, ∀ d ∈ always a, d.category ≠ .duplicate
  repeated_duplicate : ∀ a, (repeated a).category = .duplicate
  deeper_other : ∀ a, ∀ d ∈ deeper a, d.category ≠ .duplicate

namespace Examination

variable {α : Type} (e : Examination α)

/-- What is said of an element, if it is marked and if not. -/
def say (marked : α × Bool) : List Diagnostic :=
  e.always marked.1 ++ if marked.2 then [e.repeated marked.1] else e.deeper marked.1

/-- What is said of the element at a place of a list. -/
def sayAt (as : List α) (entry : α × Nat) : List Diagnostic :=
  e.always entry.1 ++
    if RepeatsAt e.name? as entry.2 then [e.repeated entry.1] else e.deeper entry.1

/-- The diagnostics are those of a loop over the list that examines the first occurrence of
each name. -/
structure FirstOnly (as : List α) (found : List Diagnostic) : Prop where
  /-- What is said of each element comes in the order of the list. -/
  inOrder : found = as.zipIdx.flatMap (e.sayAt as)
  /-- A duplicate is reported at a place exactly if a name is repeated there. -/
  reported : ∀ entry ∈ as.zipIdx,
    (∃ d ∈ e.sayAt as entry, d.category = .duplicate) ↔ RepeatsAt e.name? as entry.2
  /-- The duplicates and the distinct names are together as many as the named elements. -/
  counted :
    found.countP (fun d => d.category = .duplicate) + (as.filterMap e.name?).toFinset.card =
      (as.filterMap e.name?).length
  /-- Of the elements of a name exactly the first is examined. -/
  named : ∀ name,
    (examined e.name? as).filter (fun a => e.name? a = some name) =
      (as.filter fun a => e.name? a = some name).take 1
  /-- Every element without a name is examined. -/
  nameless :
    (examined e.name? as).filter (fun a => e.name? a = none) =
      as.filter fun a => e.name? a = none

variable {e}

theorem countP_duplicate_eq_zero {found : List Diagnostic}
    (h : ∀ d ∈ found, d.category ≠ .duplicate) :
    found.countP (fun d => d.category = .duplicate) = 0 :=
  List.countP_eq_zero.mpr fun d hd => by simpa using h d hd

/-- An element is reported as a duplicate once if it is marked, and else not at all. -/
theorem countP_say (marked : α × Bool) :
    (e.say marked).countP (fun d => d.category = .duplicate) = if marked.2 then 1 else 0 := by
  rw [say, List.countP_append, countP_duplicate_eq_zero (e.always_other marked.1), Nat.zero_add]
  cases marked.2 with
  | true => simp [e.repeated_duplicate]
  | false => simpa using countP_duplicate_eq_zero (e.deeper_other marked.1)

theorem countP_flatMap_say (marks : List (α × Bool)) :
    (marks.flatMap e.say).countP (fun d => d.category = .duplicate) = marks.countP Prod.snd := by
  induction marks with
  | nil => rfl
  | cons marked rest ih =>
      rw [List.flatMap_cons, List.countP_append, ih, countP_say, List.countP_cons, Nat.add_comm]

theorem sayAt_eq (as : List α) (entry : α × Nat) :
    e.sayAt as entry = e.say (entry.1, decide (RepeatsAt e.name? as entry.2)) := by
  simp only [say, sayAt, decide_eq_true_eq]

theorem duplicate_sayAt (as : List α) (entry : α × Nat) :
    (∃ d ∈ e.sayAt as entry, d.category = .duplicate) ↔ RepeatsAt e.name? as entry.2 := by
  have hpos : (∃ d ∈ e.sayAt as entry, d.category = .duplicate) ↔
      0 < (e.sayAt as entry).countP fun d => d.category = .duplicate := by
    simp only [List.countP_pos_iff, decide_eq_true_eq]
  rw [hpos, sayAt_eq, countP_say]
  by_cases hrepeat : RepeatsAt e.name? as entry.2 <;> simp [hrepeat]

/-- A loop over the marked elements examines the first occurrence of each name. -/
theorem firstOnly (as : List α) : e.FirstOnly as ((markRepeats e.name? as).flatMap e.say) where
  inOrder := by
    rw [markRepeats_eq_zipIdx, List.flatMap_map]
    exact List.flatMap_congr fun entry _ => (sayAt_eq as entry).symm
  reported := fun entry _ => duplicate_sayAt as entry
  counted := by
    rw [countP_flatMap_say]
    simpa [markRepeats] using countP_markRepeatsFrom as []
  named := fun name => by
    rw [examined_eq, filter_examinedFrom_name, if_neg List.not_mem_nil]
  nameless := by rw [examined_eq, filter_examinedFrom_none]

end Examination

/-! ### The four loops -/

namespace Scope

variable (s : Scope)

theorem category_of_mem_checkName {exempt : Bool} {name : String} {node : Option Node}
    {d : Diagnostic} (h : d ∈ s.checkName exempt name node) : d.category ≠ .duplicate := by
  obtain ⟨flaw, rfl⟩ := eq_of_mem_checkName h
  exact Category.noConfusion

theorem category_of_mem_checkClaim {object : TypeDef} {claim : Ref} {d : Diagnostic}
    (h : d ∈ s.checkClaim object claim) : d.category ≠ .duplicate := by
  unfold checkClaim at h
  split at h
  · split at h
    · cases conformanceReport_of_mem h <;> exact Category.noConfusion
    · obtain rfl := List.mem_singleton.mp h
      exact Category.noConfusion
  · obtain rfl := List.mem_singleton.mp h
    exact Category.noConfusion

/-- The loop over the arguments of a field. -/
def argumentExamination (exempt : Bool) (owner field : String) : Examination Argument where
  name? := fun arg => some arg.name
  always := fun arg => s.checkName exempt arg.name (arg.node.map Node.input)
  repeated := s.repeatedArgument owner field
  deeper := s.checkArgumentType owner field
  always_other := fun _ _ h => s.category_of_mem_checkName h
  repeated_duplicate := fun _ => rfl
  deeper_other := fun _ _ h => by
    obtain rfl := eq_of_mem_unless h
    exact Category.noConfusion

/-- The loop over the arguments of a directive. -/
def directiveExamination (directive : String) : Examination Argument where
  name? := fun arg => some arg.name
  always := fun arg => s.checkName false arg.name (arg.node.map Node.input)
  repeated := s.repeatedDirectiveArgument directive
  deeper := s.checkDirectiveArgumentType directive
  always_other := fun _ _ h => s.category_of_mem_checkName h
  repeated_duplicate := fun _ => rfl
  deeper_other := fun _ _ h => by
    obtain rfl := eq_of_mem_unless h
    exact Category.noConfusion

/-- The loop over the members of a union of either form. -/
def memberExamination (form : UnionForm) (owner : String) : Examination Ref where
  name? := s.catalog.name?
  always := fun _ => []
  repeated := fun member => s.repeatedMember form owner ((s.catalog.name? member).getD "")
  deeper := s.checkMemberKind form owner
  always_other := fun _ _ h => absurd h List.not_mem_nil
  repeated_duplicate := fun _ => rfl
  deeper_other := fun _ _ h => by
    obtain rfl := eq_of_mem_unless h
    exact Category.noConfusion

/-- The loop over the interfaces an object claims. -/
def claimExamination (object : TypeDef) : Examination Ref where
  name? := s.catalog.name?
  always := fun _ => []
  repeated := fun claim => s.repeatedClaim object ((s.catalog.name? claim).getD "")
  deeper := s.checkClaim object
  always_other := fun _ _ h => absurd h List.not_mem_nil
  repeated_duplicate := fun _ => rfl
  deeper_other := fun _ _ h => s.category_of_mem_checkClaim h

/--
The four loops examine the first occurrence of each name: over the arguments of a field that is
written at most once, over those of a directive, over the members of a union of either form and
over the interfaces an object claims.
-/
theorem loops_examine_first (s : Scope) :
    (∀ exempt owner key f, (s.locator.nodes (.ofField owner key)).length ≤ 1 →
      ∃ found,
        s.checkField exempt owner (key, f) =
          s.checkName exempt key (f.node.map SlotNode.toNode) ++
            s.checkOutput owner key f.type ++ found ∧
        (s.argumentExamination exempt owner key).FirstOnly f.args found) ∧
    (∀ d : DirectiveDef, ∃ found,
      s.checkDirectiveDef d = s.checkName false d.name (d.node.map Node.directive) ++ found ∧
      (s.directiveExamination d.name).FirstOnly d.args found) ∧
    (∀ form id, ∃ found,
      s.checkMembers form id = s.checkHasMembers form (s.catalog.typeDef id) ++ found ∧
      (s.memberExamination form (s.catalog.typeDef id).name).FirstOnly
        (s.catalog.typeDef id).members found) ∧
    ∀ id, (s.claimExamination (s.catalog.typeDef id)).FirstOnly
      (s.catalog.typeDef id).interfaces (s.checkClaims id) := by
  refine ⟨?fields, ?directives, ?members, ?claims⟩
  case fields =>
    intro exempt owner key f honce
    refine ⟨s.checkArguments exempt owner key f.args, ?_, Examination.firstOnly f.args⟩
    rw [checkField, checkFieldContent, if_neg (Nat.not_lt.mpr honce), List.append_assoc]
  case directives =>
    intro d
    exact ⟨_, rfl, Examination.firstOnly d.args⟩
  case members =>
    intro form id
    exact ⟨_, rfl, Examination.firstOnly (e := s.memberExamination _ _) _⟩
  case claims =>
    intro id
    exact Examination.firstOnly (e := s.claimExamination _) _

/-- A field that takes three arguments of one name.  Of the first two neither can be passed in. -/
def echoField : Field where
  type := Builtin.string.ref
  args := [{ name := "text", type := .named (.own 0) },
           { name := "text", type := .named (.own 0) },
           { name := "__by", type := Builtin.int.ref },
           { name := "text", type := Builtin.string.ref }]

/-- A directive that takes two arguments of one name. -/
def echoDirective : DirectiveDef where
  name := "echo"
  args := [{ name := "times", type := .null }, { name := "times", type := .null },
           { name := "by", type := .null }]

/-- An object with that field, an interface and a union.  The object claims the interface twice and
a list of it twice; of the members of the union two bear one name, and two stand there twice that
bear none. -/
def echoCatalog : Catalog where
  types := #[
    { name := "Query"
      body := .objectOf [("echo", echoField)]
        [.list (.named (.own 1)), .named (.own 1), .list (.named (.own 1)), .named (.own 1)] },
    { name := "Node", body := .interfaceOf [("echo", { type := Builtin.string.ref })] },
    { name := "Both"
      body := .union
        [.nonNull (.named (.own 0)), .named (.own 0), .element 0, .value 0,
         .nonNull (.named (.own 0)), .value 0] }]
  directives := #[echoDirective]
  elements := #[.enumValue { name := "Query" }]
  values := #[.text "Query"]

/-- Echoes are asked for. -/
def echoBlueprint : Blueprint where
  query := .named (.own 0)
  types := [.named (.own 2)]
  directives := [.directive (.own 0)]

/-- What is said of the field, of the directive, of the members and of the claims: the first of each
name is examined and the others are not, and each that has no name is. -/
def echoFaults : List (List String) :=
  [["The type of Query.echo(text:) must be Input Type but got: Query.",
    "Field argument Query.echo(text:) can only be defined once.",
    "Name \"__by\" must not begin with \"__\", which is reserved by GraphQL introspection.",
    "Field argument Query.echo(text:) can only be defined once."],
   ["The type of @echo(times:) must be Input Type but got: None.",
    "Argument @echo(times:) can only be defined once.",
    "The type of @echo(by:) must be Input Type but got: None."],
   ["Union type Both can only include Object types, it cannot include Query!.",
    "Union type Both can only include type Query once.",
    "Union type Both can only include Object types, it cannot include 'Query'.",
    "Union type Both can only include Object types, it cannot include Query!.",
    "Union type Both can only include Object types, it cannot include 'Query'."],
   ["Type Query must only implement Interface types, it cannot implement [Node].",
    "Type Query must only implement Interface types, it cannot implement [Node].",
    "Type Query can only implement Node once."]]

/-- What the four loops say, each about its list. -/
def echoReports (s : Scope) : List (List Diagnostic) :=
  [s.checkField false "Query" ("echo", echoField), s.checkDirectiveDef echoDirective,
   s.checkMembers .output (.own 2), s.checkClaims (.own 0)]

theorem loops_examine_first_echo :
    ∃ S s, Schema.build echoCatalog echoBlueprint = .ok S ∧ s = Scope.ofSchema S ∧
      (s.locator.nodes (.ofField "Query" "echo")).length ≤ 1 ∧
      s.echoReports.map (List.map Diagnostic.message) = echoFaults ∧
      (∃ found,
        s.checkField false "Query" ("echo", echoField) =
          s.checkName false "echo" (echoField.node.map SlotNode.toNode) ++
            s.checkOutput "Query" "echo" echoField.type ++ found ∧
        (s.argumentExamination false "Query" "echo").FirstOnly echoField.args found) ∧
      (∃ found,
        s.checkDirectiveDef echoDirective = s.checkName false "echo" none ++ found ∧
        (s.directiveExamination "echo").FirstOnly echoDirective.args found) ∧
      (∃ found,
        s.checkMembers .output (.own 2) =
          s.checkHasMembers .output (echoCatalog.typeDef (.own 2)) ++ found ∧
        (s.memberExamination .output "Both").FirstOnly (echoCatalog.typeDef (.own 2)).members
          found) ∧
      (s.claimExamination (echoCatalog.typeDef (.own 0))).FirstOnly
        (echoCatalog.typeDef (.own 0)).interfaces (s.checkClaims (.own 0)) := by
  obtain ⟨S, hbuild, honce, hmessages⟩ := @Schema.exists_build echoCatalog echoBlueprint
    (fun S => ((ofSchema S).locator.nodes (.ofField "Query" "echo")).length ≤ 1 ∧
      (ofSchema S).echoReports.map (List.map Diagnostic.message) = echoFaults)
    _ (by decide +kernel)
  have hcatalog : (ofSchema S).catalog = echoCatalog := (Schema.build_ok hbuild).1
  obtain ⟨hfields, hdirectives, hmembers, hclaims⟩ := loops_examine_first (ofSchema S)
  rw [hcatalog] at hmembers hclaims
  exact ⟨S, _, hbuild, rfl, honce, hmessages, hfields _ _ _ _ honce, hdirectives echoDirective,
    hmembers .output (.own 2), hclaims (.own 0)⟩

end Scope

end TypeGraph
