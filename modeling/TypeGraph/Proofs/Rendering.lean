/-
The text of a type tells which type it is.

A diagnostic shows a type as it is written in a schema document: a list stands in brackets,
what is never null has a mark after it, and a named type is its name.  All wrappers are
flattened into one text.  It can be read back from the end.  The last character is a bracket,
a mark, or one that may stand in a name, and so it tells the outermost wrapper; with that
taken off, the one before tells the next.  What is left is a name, and among the types of one
schema a name is borne by one type.

So where a diagnostic sets the type that was expected against the one that was found, the two
look different: the check that reports it has found them different.
-/
import TypeGraph.Proofs.Obligations
import TypeGraph.Proofs.Possible
import TypeGraph.Proofs.Reports
import TypeGraph.Proofs.SameType
import TypeGraph.Proofs.Silence
import TypeGraph.Proofs.Substitution

namespace TypeGraph

/-! ### Reading a text from its end -/

theorem Name.isPart_of_matchesGrammar {cs : List Char} (h : matchesGrammar cs = true) :
    ∀ ch ∈ cs, isPart ch = true := by
  cases cs with
  | nil => cases h
  | cons first rest =>
      obtain ⟨hfirst, hrest⟩ := Bool.and_eq_true_iff.mp h
      intro ch hch
      rcases List.mem_cons.mp hch with rfl | hch
      · rw [isPart, hfirst, Bool.true_or]
      · exact List.all_eq_true.mp hrest ch hch

/-- A name ends with a character that may stand in a name. -/
theorem Name.getLast?_of_matchesGrammar {cs : List Char} (h : matchesGrammar cs = true) :
    ∃ ch, cs.getLast? = some ch ∧ isPart ch = true := by
  have hne : cs ≠ [] := by
    rintro rfl
    cases h
  exact ⟨cs.getLast hne, List.getLast?_eq_some_getLast hne,
    isPart_of_matchesGrammar h _ (List.getLast_mem hne)⟩

/-- The character that a wrapper puts last. -/
def Wrapper.mark : Wrapper → Char
  | list => ']'
  | nonNull => '!'

theorem Wrapper.mark_injective : Function.Injective mark := by
  intro v w h
  cases v with
  | list =>
      cases w with
      | list => rfl
      | nonNull => cases h
  | nonNull =>
      cases w with
      | list => cases h
      | nonNull => rfl

/-- No wrapper ends as a name may. -/
theorem Wrapper.not_isPart_mark (w : Wrapper) : Name.isPart w.mark = false := by
  cases w <;> rfl

/-- The outermost wrapper, if there is any. -/
def Ref.outermost (r : Ref) : Option Wrapper := r.wrappers.head?

namespace Catalog

variable {c : Catalog} {a b : Ref} {i j : TypeId}

/-- The grammar allows the name of the type. -/
def Writable (c : Catalog) (id : TypeId) : Prop :=
  Name.matchesGrammar (c.typeDef id).name.toList = true

/-- The last character is the mark of the outermost wrapper, or else one of a name. -/
theorem getLast?_display (ha : a.namedType? = some i) (hi : c.Writable i) :
    ∃ ch, (c.display a).toList.getLast? = some ch ∧
      ∀ w, ch = w.mark ↔ a.outermost = some w := by
  cases a with
  | named id =>
      cases ha
      obtain ⟨ch, hlast, hpart⟩ := Name.getLast?_of_matchesGrammar hi
      refine ⟨ch, hlast, fun w => iff_of_false ?_ nofun⟩
      rintro rfl
      rw [w.not_isPart_mark] at hpart
      cases hpart
  | list a =>
      refine ⟨Wrapper.list.mark, ?_, fun w => ?_⟩
      · rw [display, String.toList_append]
        exact List.getLast?_concat
      · rw [Wrapper.mark_injective.eq_iff]
        exact Option.some_inj.symm
  | nonNull a =>
      refine ⟨Wrapper.nonNull.mark, ?_, fun w => ?_⟩
      · rw [display, String.toList_append]
        exact List.getLast?_concat
      · rw [Wrapper.mark_injective.eq_iff]
        exact Option.some_inj.symm
  | _ => cases ha

theorem outermost_eq_of_display_eq (ha : a.namedType? = some i) (hb : b.namedType? = some j)
    (hi : c.Writable i) (hj : c.Writable j) (h : c.display a = c.display b) :
    a.outermost = b.outermost := by
  obtain ⟨ch, hlast, htells⟩ := getLast?_display ha hi
  obtain ⟨ch', hlast', htells'⟩ := getLast?_display hb hj
  rw [h, hlast', Option.some_inj] at hlast
  subst hlast
  exact Option.ext fun w => (htells w).symm.trans (htells' w)

/-- The text of a reference tells its wrappers and the name of its type. -/
theorem wrappers_name_of_display_eq (ha : a.namedType? = some i) (hb : b.namedType? = some j)
    (hi : c.Writable i) (hj : c.Writable j) (h : c.display a = c.display b) :
    a.wrappers = b.wrappers ∧ (c.typeDef i).name = (c.typeDef j).name := by
  induction a generalizing b with
  | named id =>
      have houter := outermost_eq_of_display_eq ha hb hi hj h
      cases b with
      | named id' =>
          cases ha
          cases hb
          exact ⟨rfl, h⟩
      | list b => cases houter
      | nonNull b => cases houter
      | _ => cases hb
  | list a ih =>
      have houter := outermost_eq_of_display_eq ha hb hi hj h
      cases b with
      | list b =>
          rw [display, display, String.append_left_inj, String.append_right_inj] at h
          obtain ⟨hwrappers, hname⟩ := ih (b := b) ha hb h
          exact ⟨congrArg (Wrapper.list :: ·) hwrappers, hname⟩
      | named id => cases houter
      | nonNull b => cases houter
      | _ => cases hb
  | nonNull a ih =>
      have houter := outermost_eq_of_display_eq ha hb hi hj h
      cases b with
      | nonNull b =>
          rw [display, display, String.append_left_inj] at h
          obtain ⟨hwrappers, hname⟩ := ih (b := b) ha hb h
          exact ⟨congrArg (Wrapper.nonNull :: ·) hwrappers, hname⟩
      | named id => cases houter
      | list b => cases houter
      | _ => cases hb
  | _ => cases ha

theorem inspect_eq_display (ha : a.namedType? = some i) : c.inspect a = c.display a := by
  cases a with
  | value n => cases ha
  | _ => rfl

/-! ### Equality by content -/

theorem sameRef_eq_true_iff (sameBearer : Bearer → Bearer → Bool)
    (ha : a.namedType? = some i) (hb : b.namedType? = some j) :
    c.sameRef sameBearer a b = true ↔ a = b := by
  unfold sameRef
  induction a generalizing b with
  | named id =>
      cases b with
      | named id' => simp [valueOf, Value.same]
      | list b => simp [valueOf, Value.same, Value.sameNumber, Value.number?]
      | nonNull b => simp [valueOf, Value.same, Value.sameNumber, Value.number?]
      | _ => cases hb
  | list a ih =>
      cases b with
      | list b => rw [valueOf, valueOf, Value.same, ih (b := b) ha hb, Ref.list.injEq]
      | named id => simp [valueOf, Value.same, Value.sameNumber, Value.number?]
      | nonNull b => simp [valueOf, Value.same, Value.sameNumber, Value.number?]
      | _ => cases hb
  | nonNull a ih =>
      cases b with
      | nonNull b => rw [valueOf, valueOf, Value.same, ih (b := b) ha hb, Ref.nonNull.injEq]
      | named id => simp [valueOf, Value.same, Value.sameNumber, Value.number?]
      | list b => simp [valueOf, Value.same, Value.sameNumber, Value.number?]
      | _ => cases hb
  | _ => cases ha

theorem sameContent_eq_true_iff (ha : a.namedType? = some i) (hb : b.namedType? = some j) :
    c.sameContent a b = true ↔ a = b := by
  have hnumber : (c.valueOf a).isNotANumber = false := by
    cases a with
    | named id => rfl
    | list a => rfl
    | nonNull a => rfl
    | _ => cases ha
  rw [sameContent, hnumber, Bool.not_false, Bool.true_and, sameRef_eq_true_iff _ ha hb]

end Catalog

/-! ### Types set against each other -/

/-- What a problem sets against each other, as it is shown: the type expected and the one
found. -/
def Problem.contrast? : Problem → Option (String × String)
  | fieldMismatch _ _ expected _ found => some (expected, found)
  | argumentMismatch _ _ _ expected _ found => some (expected, found)
  | _ => none

namespace Problem

/-- A text in which the place of a field is taken as one. -/
theorem append_field (text owner dot field rest : String) :
    text ++ owner ++ dot ++ field ++ rest = text ++ (owner ++ dot ++ field) ++ rest := by
  simp only [String.append_assoc]

theorem append_argument (text owner dot field opening argument closing rest : String) :
    text ++ owner ++ dot ++ field ++ opening ++ argument ++ (closing ++ rest) =
      text ++ (owner ++ dot ++ field ++ opening ++ argument ++ closing) ++ rest := by
  simp only [String.append_assoc]

/-- These are the problems that are worded so. -/
theorem message_of_contrast? {p : Problem} {expected found : String}
    (h : p.contrast? = some (expected, found)) :
    ∃ promise place, p.message =
      promise ++ " expects type " ++ expected ++ " but " ++ place ++ " is type " ++ found ++
        "." := by
  cases p with
  | fieldMismatch interface field expected' owner found' =>
      cases h
      refine ⟨"Interface field " ++ interface ++ "." ++ field, owner ++ "." ++ field, ?_⟩
      exact congrArg (· ++ found ++ ".") (append_field _ owner "." field " is type ")
  | argumentMismatch interface field argument expected' owner found' =>
      cases h
      refine ⟨"Interface field argument " ++ interface ++ "." ++ field ++ "(" ++ argument ++ ":)",
        owner ++ "." ++ field ++ "(" ++ argument ++ ":)", ?_⟩
      have hclosed : ∀ text : String,
          text ++ ":)" ++ " expects type " = text ++ ":) expects type " :=
        fun _ => String.append_assoc
      rw [← append_argument _ owner "." field "(" argument ":)" " is type ", hclosed]
      rfl
  | _ => cases h

end Problem

namespace Scope

variable {s : Scope} {d : Diagnostic} {id : TypeId}

/-- Of a named type, only its claims are reported with two types. -/
theorem mem_checkClaims_of_contrast (h : d ∈ s.checkNamedType id)
    (hd : d.problem.contrast? ≠ none) : d ∈ s.checkClaims id := by
  rcases List.mem_append.mp h with hname | hbody
  · obtain ⟨flaw, rfl⟩ := eq_of_mem_checkName hname
    exact absurd rfl hd
  · unfold checkByKind at hbody
    split at hbody
    · exact absurd hbody List.not_mem_nil
    · rcases List.mem_append.mp hbody with hfields | hclaims
      · cases fieldReport_of_mem hfields <;> exact absurd rfl hd
      · exact hclaims
    · cases fieldReport_of_mem hbody <;> exact absurd rfl hd
    · cases memberReport_of_mem hbody <;> exact absurd rfl hd
    · cases memberReport_of_mem hbody <;> exact absurd rfl hd
    · cases valueReport_of_mem hbody <;> exact absurd rfl hd
    · cases inputFieldReport_of_mem hbody <;> exact absurd rfl hd

end Scope

namespace Schema

variable {c : Catalog} {b : Blueprint} {S : Schema}

/-- A reference to a type of the schema, under any wrappers, whose name the grammar allows. -/
def ProperRef (S : Schema) (r : Ref) : Prop :=
  ∃ id, r.namedType? = some id ∧ .named id ∈ S.types ∧ S.catalog.Writable id

/-- An object sets a type of its own against one of an interface it claims: the type of a field,
or that of the first argument of a name.  The type of the interface comes first. -/
inductive Contrasts (S : Schema) : Problem → Ref → Ref → Prop
  | field {o i : TypeId} {key : String} {given promised : Field} (ho : .named o ∈ S.types)
      (hi : .named i ∈ (S.catalog.typeDef o).interfaces)
      (hpromised : (key, promised) ∈ (S.catalog.typeDef i).fields.entries)
      (hgiven : (S.catalog.typeDef o).fields.get? key = some given) :
      Contrasts S (.fieldMismatch (S.catalog.typeDef i).name key
        (S.catalog.inspect promised.type) (S.catalog.typeDef o).name
        (S.catalog.inspect given.type)) promised.type given.type
  | argument {o i : TypeId} {key : String} {given promised : Field} {arg own : Argument}
      (ho : .named o ∈ S.types) (hi : .named i ∈ (S.catalog.typeDef o).interfaces)
      (hpromised : (key, promised) ∈ (S.catalog.typeDef i).fields.entries)
      (hgiven : (S.catalog.typeDef o).fields.get? key = some given) (harg : arg ∈ promised.args)
      (hown : given.args.find? (fun a => a.name == arg.name) = some own) :
      Contrasts S (.argumentMismatch (S.catalog.typeDef i).name key arg.name
        (S.catalog.inspect arg.type) (S.catalog.typeDef o).name
        (S.catalog.inspect own.type)) arg.type own.type

theorem exists_claim_of_contrast {d : Diagnostic} (h : d ∈ S.diagnose)
    (hd : d.problem.contrast? ≠ none) :
    ∃ o i, .named o ∈ S.types ∧ .named i ∈ (S.catalog.typeDef o).interfaces ∧
      d ∈ (Scope.ofSchema S).checkConformance (S.catalog.typeDef o) (S.catalog.typeDef i) := by
  rw [diagnose_eq, List.mem_append, List.mem_append] at h
  rcases h with (hroots | hdirectives) | htypes
  · obtain ⟨operation, hreport⟩ := Scope.rootReport_of_mem hroots
    cases hreport <;> exact absurd rfl hd
  · obtain ⟨r, -, hr⟩ := List.mem_flatMap.mp hdirectives
    cases Scope.directiveReport_of_mem hr <;> exact absurd rfl hd
  · obtain ⟨r, hr, hentry⟩ := List.mem_flatMap.mp htypes
    cases r with
    | named o =>
        have hclaims := Scope.mem_checkClaims_of_contrast hentry hd
        rcases Scope.mem_checkClaims_cases hclaims with ⟨_, rfl⟩ | ⟨_, rfl⟩ | ⟨i, hi, -, hmem⟩
        · exact absurd rfl hd
        · exact absurd rfl hd
        · exact ⟨o, i, hr, hi, hmem⟩
    | _ =>
        obtain rfl := List.mem_singleton.mp hentry
        exact absurd rfl hd

/-- Two types that are set against each other are not the same type. -/
theorem contrasts_of_mem_diagnose {d : Diagnostic} {expected found : String} (h : d ∈ S.diagnose)
    (hd : d.problem.contrast? = some (expected, found)) :
    ∃ X Y, S.Contrasts d.problem X Y ∧ expected = S.catalog.inspect X ∧
      found = S.catalog.inspect Y ∧ X ≠ Y := by
  obtain ⟨o, i, ho, hi, hmem⟩ := exists_claim_of_contrast h (by rw [hd]; nofun)
  rw [Scope.checkConformance_eq] at hmem
  obtain ⟨obligation, hasked, rfl⟩ := List.mem_map.mp hmem
  obtain ⟨hasked, hviolated⟩ := List.mem_filter.mp hasked
  have hviolated := of_decide_eq_true hviolated
  cases obligation with
  | returns key given promised =>
      cases hd
      obtain ⟨field, f, g, hg, hf, hasked⟩ := shared_of_mem_obligations hasked nofun
      obtain ⟨rfl, rfl, rfl⟩ := returns_mem_fieldObligations hasked
      refine ⟨g.type, f.type, .field ho hi hg hf, rfl, rfl, ?_⟩
      intro heq
      have hsub : S.isSubtype f.type g.type = false := hviolated
      rw [heq, isSubtype_refl] at hsub
      cases hsub
  | agrees key own arg =>
      cases hd
      obtain ⟨field, f, g, hg, hf, hasked⟩ := shared_of_mem_obligations hasked nofun
      obtain ⟨rfl, harg, hown⟩ := agrees_mem_fieldObligations hasked
      refine ⟨arg.type, own.type, .argument ho hi hg hf harg hown, rfl, rfl, ?_⟩
      intro heq
      have hsame : arg.type.sameType own.type = false := hviolated
      rw [Ref.sameType_eq_true_iff.mpr heq] at hsame
      cases hsame
  | _ => cases hd

/-- The text of a proper reference is that of no other. -/
theorem Lists.eq_of_inspect_eq {Q : TypeId → Prop} (h : S.Lists Q) {x y : Ref}
    (hx : S.ProperRef x) (hy : S.ProperRef y)
    (htext : S.catalog.inspect x = S.catalog.inspect y) : x = y := by
  obtain ⟨i, hxi, himem, hi⟩ := hx
  obtain ⟨j, hyj, hjmem, hj⟩ := hy
  rw [Catalog.inspect_eq_display hxi, Catalog.inspect_eq_display hyj] at htext
  obtain ⟨hwrappers, hname⟩ := Catalog.wrappers_name_of_display_eq hxi hyj hi hj htext
  obtain rfl := h.eq_of_name_eq himem hjmem hname
  rw [Ref.eq_iff_wrappers_core, Ref.core_eq_named hxi, Ref.core_eq_named hyj]
  exact ⟨hwrappers, rfl⟩

/--
**The text of a type identifies it.**  In a schema that was not edited, take any two references,
under whatever wrappers, to types of the schema whose names the grammar allows.  They are shown
by the same text if and only if they are the same type, and also if and only if they are equal by
content.  So a diagnostic that says which type was expected and which was found, both of this
sort, never shows one text for both.
-/
theorem inspect_identifies (h : Unmodified c b S) :
    (∀ x y, S.ProperRef x → S.ProperRef y →
      (S.catalog.inspect x = S.catalog.inspect y ↔ x.sameType y = true) ∧
      (x.sameType y = true ↔ S.catalog.sameContent x y = true)) ∧
    ∀ d ∈ S.diagnose, ∀ expected found, d.problem.contrast? = some (expected, found) →
      (∃ promise place, d.message = promise ++ " expects type " ++ expected ++ " but " ++ place ++
        " is type " ++ found ++ ".") ∧
      ∃ X Y, S.Contrasts d.problem X Y ∧ expected = S.catalog.inspect X ∧
        found = S.catalog.inspect Y ∧ (S.ProperRef X → S.ProperRef Y → expected ≠ found) := by
  refine ⟨?identified, ?contrasted⟩
  case identified =>
    intro x y hx hy
    rw [Ref.sameType_eq_true_iff]
    refine ⟨⟨h.lists.eq_of_inspect_eq hx hy, congrArg _⟩, ?_⟩
    obtain ⟨i, hxi, -⟩ := hx
    obtain ⟨j, hyj, -⟩ := hy
    exact (Catalog.sameContent_eq_true_iff hxi hyj).symm
  case contrasted =>
    intro d hd expected found hcontrast
    refine ⟨Problem.message_of_contrast? hcontrast, ?_⟩
    obtain ⟨X, Y, hXY, rfl, rfl, hne⟩ := contrasts_of_mem_diagnose hd hcontrast
    exact ⟨X, Y, hXY, rfl, rfl, fun hX hY htext => hne (h.lists.eq_of_inspect_eq hX hY htext)⟩

/-- A library promises shelves of books by topic, and a query claims to be one that may leave a
shelf out, and whose caller may leave the topic out. -/
def shelfCatalog : Catalog where
  types := #[
    { name := "Library"
      body := .interfaceOf [("shelves", { type := promised, args := [topic (.nonNull text)] })] },
    { name := "Query"
      body := .objectOf [("shelves", { type := given, args := [topic text] })]
        [.named (.own 0)] },
    { name := "Book", body := .objectOf [("title", { type := text })] [] }]
where
  text : Ref := Builtin.string.ref
  topic (type : Ref) : Argument := { name := "topic", type }
  book : Ref := .nonNull (.named (.own 2))
  promised : Ref := .nonNull (.list (.nonNull (.list book)))
  given : Ref := .nonNull (.list (.list book))

def shelfBlueprint : Blueprint where
  query := .named (.own 1)

/-- The two types differ in one mark inside, and so do their texts. -/
theorem inspect_identifies_shelf :
    ∃ S, Unmodified shelfCatalog shelfBlueprint S ∧ S.ProperRef shelfCatalog.promised ∧
      S.ProperRef shelfCatalog.given ∧
      S.catalog.inspect shelfCatalog.promised ≠ S.catalog.inspect shelfCatalog.given ∧
      ∃ d ∈ S.diagnose, ∃ X Y, S.Contrasts d.problem X Y ∧
        S.catalog.inspect X = "[[Book!]!]!" ∧ S.catalog.inspect Y = "[[Book!]]!" := by
  obtain ⟨S, hbuild, hmem, hname, hshown⟩ := @exists_build shelfCatalog shelfBlueprint
    (fun S => .named (.own 2) ∈ S.types ∧
      Name.matchesGrammar (S.catalog.typeDef (.own 2)).name.toList = true ∧
      some ("[[Book!]!]!", "[[Book!]]!") ∈ S.diagnose.map fun d => d.problem.contrast?)
    _ (by decide +kernel)
  obtain ⟨hidentified, hcontrasted⟩ := inspect_identifies (.built hbuild)
  have hproper : ∀ r : Ref, r.namedType? = some (.own 2) → S.ProperRef r :=
    fun r hr => ⟨.own 2, hr, hmem, hname⟩
  obtain ⟨d, hd, hcontrast⟩ := List.mem_map.mp hshown
  obtain ⟨-, X, Y, hXY, hX, hY, -⟩ := hcontrasted d hd _ _ hcontrast
  refine ⟨S, .built hbuild, hproper _ rfl, hproper _ rfl, ?_, d, hd, X, Y, hXY, hX.symm, hY.symm⟩
  rw [Ne, (hidentified _ _ (hproper _ rfl) (hproper _ rfl)).1]
  decide

end Schema

end TypeGraph
