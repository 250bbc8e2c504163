/-
What the walk over a catalog reaches.

A definition mentions references in the places its kind has, and a type refers to
the named types under them.  `Reaches` is the least set of types that holds what a
blueprint starts from and is closed under referring.

The walk finds that set.  It tests whether a type was seen by its name and whether
two types conflict by their identity, and it shares one table between all the
references it starts from, so neither half is immediate.  `Walk` is what stays true
throughout: what has been entered stands under its own name, nothing outside the
set is entered or waiting, and whatever an entered type refers to has been entered
or still waits.  When nothing waits, the last part says that the table is closed.
-/
import TypeGraph.Schema.Basic

namespace TypeGraph

/-! ### Mentioning and referring -/

/-- A definition mentions a reference, in one of the places its kind has. -/
inductive TypeDef.Mentions (t : TypeDef) : Ref → Prop
  | field {key : String} {f : Field} (hkind : t.kind = .object ∨ t.kind = .interface)
      (hf : (key, f) ∈ t.fields.entries) : Mentions t f.type
  | argument {key : String} {f : Field} {arg : Argument}
      (hkind : t.kind = .object ∨ t.kind = .interface) (hf : (key, f) ∈ t.fields.entries)
      (harg : arg ∈ f.args) : Mentions t arg.type
  | claim {r : Ref} (hkind : t.kind = .object) (hr : r ∈ t.interfaces) : Mentions t r
  | member {r : Ref} (hkind : t.kind = .union ∨ t.kind = .inputUnion) (hr : r ∈ t.members) :
      Mentions t r
  | inputField {key : String} {f : Field} (hkind : t.kind = .inputObject)
      (hf : (key, f) ∈ t.fields.entries) : Mentions t f.type

/-- One type refers to another: it mentions it, under any wrappers. -/
def Catalog.RefersTo (c : Catalog) (i j : TypeId) : Prop :=
  ∃ r, (c.typeDef i).Mentions r ∧ r.namedType? = some j

namespace Blueprint

/-- The references a blueprint gives, with the type of schemas and the types of the arguments of
its directives. -/
inductive Initial (b : Blueprint) (c : Catalog) : Ref → Prop
  | query : Initial b c b.query
  | mutation : Initial b c b.mutation
  | subscription : Initial b c b.subscription
  | type {r : Ref} (hr : r ∈ b.types) : Initial b c r
  | schema : Initial b c Builtin.schema.ref
  | argument {id : DirectiveId} {arg : Argument} (hid : .directive id ∈ b.directives)
      (harg : arg ∈ (c.directiveDef id).args) : Initial b c arg.type

/-- The types that a blueprint reaches. -/
inductive Reaches (b : Blueprint) (c : Catalog) : TypeId → Prop
  | start {r : Ref} {id : TypeId} (hr : b.Initial c r) (hid : r.namedType? = some id) :
      Reaches b c id
  | step {i j : TypeId} (hi : Reaches b c i) (hij : c.RefersTo i j) : Reaches b c j

end Blueprint

namespace TypeDef

private theorem mem_fieldReferences {fields : Table Field} {r : Ref} :
    r ∈ fields.values.flatMap references.fieldReferences ↔
      ∃ key f, (key, f) ∈ fields.entries ∧ (r = f.type ∨ ∃ arg ∈ f.args, r = arg.type) := by
  simp only [Table.values, List.mem_flatMap, List.mem_map, references.fieldReferences,
    List.mem_cons]
  refine ⟨?_, ?_⟩
  · intro h
    obtain ⟨f, ⟨⟨key, f'⟩, hf, rfl⟩, hr⟩ := h
    refine ⟨key, f', hf, ?_⟩
    rcases hr with hr | ⟨arg, harg, hr⟩
    · exact Or.inl hr
    · exact Or.inr ⟨arg, harg, hr.symm⟩
  · intro h
    obtain ⟨key, f, hf, hr⟩ := h
    refine ⟨f, ⟨(key, f), hf, rfl⟩, ?_⟩
    rcases hr with hr | ⟨arg, harg, hr⟩
    · exact Or.inl hr
    · exact Or.inr ⟨arg, harg, hr.symm⟩

theorem mentions_of_mem_references {t : TypeDef} {r : Ref} (h : r ∈ t.references) :
    t.Mentions r := by
  obtain ⟨name, body, node, extensions⟩ := t
  cases body with
  | object fields interfaces =>
      rcases List.mem_append.mp h with h | h
      · obtain ⟨key, f, hf, rfl | ⟨arg, harg, rfl⟩⟩ := mem_fieldReferences.mp h
        · exact .field (Or.inl rfl) hf
        · exact .argument (Or.inl rfl) hf harg
      · exact .claim rfl h
  | interface fields =>
      obtain ⟨key, f, hf, rfl | ⟨arg, harg, rfl⟩⟩ := mem_fieldReferences.mp h
      · exact .field (Or.inr rfl) hf
      · exact .argument (Or.inr rfl) hf harg
  | union members => exact .member (Or.inl rfl) h
  | inputUnion members => exact .member (Or.inr rfl) h
  | inputObject fields =>
      obtain ⟨f, hf, rfl⟩ := List.mem_map.mp h
      obtain ⟨⟨key, f'⟩, hf', rfl⟩ := List.mem_map.mp hf
      exact @Mentions.inputField _ key f'.toField rfl (List.mem_map.mpr ⟨(key, f'), hf', rfl⟩)
  | scalar => exact absurd h List.not_mem_nil
  | enum values => exact absurd h List.not_mem_nil

-- A mention fixes the kind, and with it the one or two bodies that have such a place.
theorem mem_references_of_mentions {t : TypeDef} {r : Ref} (h : t.Mentions r) :
    r ∈ t.references := by
  obtain ⟨name, body, node, extensions⟩ := t
  cases h with
  | field hkind hf =>
      cases body with
      | object fields interfaces =>
          exact List.mem_append_left _ (mem_fieldReferences.mpr ⟨_, _, hf, Or.inl rfl⟩)
      | interface fields => exact mem_fieldReferences.mpr ⟨_, _, hf, Or.inl rfl⟩
      | _ => rcases hkind with hkind | hkind <;> cases hkind
  | argument hkind hf harg =>
      cases body with
      | object fields interfaces =>
          exact List.mem_append_left _
            (mem_fieldReferences.mpr ⟨_, _, hf, Or.inr ⟨_, harg, rfl⟩⟩)
      | interface fields =>
          exact mem_fieldReferences.mpr ⟨_, _, hf, Or.inr ⟨_, harg, rfl⟩⟩
      | _ => rcases hkind with hkind | hkind <;> cases hkind
  | claim hkind hr =>
      cases body with
      | object fields interfaces => exact List.mem_append_right _ hr
      | _ => cases hkind
  | member hkind hr =>
      cases body with
      | union members => exact hr
      | inputUnion members => exact hr
      | _ => rcases hkind with hkind | hkind <;> cases hkind
  | inputField hkind hf =>
      cases body with
      | inputObject fields =>
          obtain ⟨⟨key, f⟩, hmem, he⟩ := List.mem_map.mp hf
          cases he
          exact List.mem_map.mpr ⟨f, List.mem_map.mpr ⟨(key, f), hmem, rfl⟩, rfl⟩
      | _ => cases hkind

/-- The list of references holds what the definition mentions. -/
theorem mem_references_iff {t : TypeDef} {r : Ref} : r ∈ t.references ↔ t.Mentions r :=
  ⟨mentions_of_mem_references, mem_references_of_mentions⟩

end TypeDef

/-- What a type refers to, in the order it is declared: field by field its type and then the
types of its arguments, after them the interfaces, or else the members. -/
def TypeDef.declared (t : TypeDef) : List Ref :=
  t.fields.entries.flatMap (fun entry => entry.2.type :: entry.2.args.map Argument.type) ++
    t.interfaces ++ t.members

theorem TypeDef.references_eq_declared (t : TypeDef) : t.references = t.declared := by
  obtain ⟨name, body, node, extensions⟩ := t
  have hvalues : ∀ fields : Table Field, fields.values.flatMap references.fieldReferences =
      fields.entries.flatMap fun entry => entry.2.type :: entry.2.args.map Argument.type := by
    intro fields
    rw [Table.values, List.flatMap_map]
    rfl
  cases body with
  | object fields interfaces =>
      simp only [references, declared, TypeDef.fields, TypeDef.interfaces, members, hvalues,
        List.append_nil]
  | interface fields =>
      simp only [references, declared, TypeDef.fields, TypeDef.interfaces, members, hvalues,
        List.append_nil]
  | inputObject fields =>
      -- An input field has no arguments, so each field contributes its type alone.
      simp only [references, declared, TypeDef.fields, TypeDef.interfaces, members,
        List.append_nil, Table.values, Table.map, List.map_map, List.flatMap_map]
      exact List.map_eq_flatMap
  | _ => rfl

namespace TypeDef

variable {t : TypeDef} {key : String} {f : Field}

theorem type_mem_declared (hf : (key, f) ∈ t.fields.entries) : f.type ∈ t.declared :=
  List.mem_append_left _ (List.mem_append_left _
    (List.mem_flatMap.mpr ⟨(key, f), hf, List.mem_cons_self⟩))

theorem argument_mem_declared (hf : (key, f) ∈ t.fields.entries) {arg : Argument}
    (harg : arg ∈ f.args) : arg.type ∈ t.declared :=
  List.mem_append_left _ (List.mem_append_left _
    (List.mem_flatMap.mpr ⟨(key, f), hf, List.mem_cons_of_mem _ (List.mem_map_of_mem harg)⟩))

theorem claim_mem_declared {r : Ref} (hr : r ∈ t.interfaces) : r ∈ t.declared :=
  List.mem_append_left _ (List.mem_append_right _ hr)

theorem member_mem_declared {r : Ref} (hr : r ∈ t.members) : r ∈ t.declared :=
  List.mem_append_right _ hr

end TypeDef

/-- The list the collection starts from holds the initial references. -/
theorem Blueprint.mem_startingRefs_iff {b : Blueprint} {c : Catalog} {r : Ref} :
    r ∈ b.startingRefs c ↔ b.Initial c r := by
  simp only [startingRefs, List.mem_append, List.mem_cons, List.not_mem_nil, or_false,
    List.mem_flatMap]
  refine ⟨?_, ?_⟩
  · intro h
    rcases h with (((rfl | rfl | rfl) | hr) | rfl) | ⟨d, hd, hr⟩
    · exact .query
    · exact .mutation
    · exact .subscription
    · exact .type hr
    · exact .schema
    · cases d with
      | directive id =>
          obtain ⟨arg, harg, rfl⟩ := List.mem_map.mp hr
          exact .argument hd harg
      | _ => exact absurd hr List.not_mem_nil
  · intro h
    cases h with
    | query => exact Or.inl (Or.inl (Or.inl (Or.inl rfl)))
    | mutation => exact Or.inl (Or.inl (Or.inl (Or.inr (Or.inl rfl))))
    | subscription => exact Or.inl (Or.inl (Or.inl (Or.inr (Or.inr rfl))))
    | type hr => exact Or.inl (Or.inl (Or.inr hr))
    | schema => exact Or.inl (Or.inr rfl)
    | argument hid harg => exact Or.inr ⟨_, hid, List.mem_map.mpr ⟨_, harg, rfl⟩⟩

namespace Catalog

variable {c : Catalog} {found final : Table TypeId} {l next : Loop} {ref : Ref}
  {new : Option TypeId} {outcome : Except Fault (Table TypeId)}

/-! ### What stays true while the walk runs -/

/-- The type has been entered, under its name. -/
def Entered (c : Catalog) (found : Table TypeId) (id : TypeId) : Prop :=
  found.get? (c.typeDef id).name = some id

/-- The type has been entered, or a pending reference leads to it. -/
def Leads (c : Catalog) (l : Loop) (id : TypeId) : Prop :=
  c.Entered l.found id ∨ ∃ r ∈ l.pending, r.namedType? = some id

/-- What the walk knows while it runs, `Q` being the types it may reach. -/
structure Walk (c : Catalog) (Q : TypeId → Prop) (l : Loop) : Prop where
  /-- Every type stands under its own name. -/
  named : ∀ name id, l.found.get? name = some id → (c.typeDef id).name = name
  /-- Nothing else has been entered. -/
  reached : ∀ name id, l.found.get? name = some id → Q id
  /-- Nothing else is waiting. -/
  awaited : ∀ r ∈ l.pending, ∀ id, r.namedType? = some id → Q id
  /-- What an entered type refers to has been entered or is waiting. -/
  closed : ∀ i j, c.Entered l.found i → c.RefersTo i j → c.Leads l j

/-- What has been entered stays. -/
theorem turn_entered (h : c.turn l = .go ref new next) {id : TypeId}
    (hid : c.Entered l.found id) : c.Entered next.found id := by
  obtain ⟨rest, -, ⟨-, rfl, -⟩ | ⟨id', -, rfl, -, hnew⟩⟩ := turn_go h
  · exact hid
  · unfold Entered at hid ⊢
    rw [expand, Table.get?_insert]
    by_cases hname : (c.typeDef id).name = (c.typeDef id').name
    · rw [hname, hnew] at hid
      cases hid
    · rw [if_neg hname]
      exact hid

/-- A turn enters the type its reference leads to. -/
theorem turn_enters (h : c.turn l = .go ref new next) {id : TypeId}
    (hid : ref.namedType? = some id) : c.Entered next.found id := by
  obtain ⟨rest, -, ⟨-, rfl, hknown⟩ | ⟨id', -, rfl, hid', -⟩⟩ := turn_go h
  · exact hknown id hid
  · rw [hid] at hid'
    cases hid'
    exact Table.get?_insert_self _ _ _

/-- What a turn does not take off is still pending. -/
theorem turn_pending (h : c.turn l = .go ref new next) {r : Ref} (hr : r ∈ l.pending) :
    r = ref ∨ r ∈ next.pending := by
  obtain ⟨rest, hpending, hturn⟩ := turn_go h
  rw [hpending] at hr
  rcases List.mem_cons.mp hr with rfl | hr
  · exact Or.inl rfl
  · refine Or.inr ?_
    rcases hturn with ⟨-, rfl, -⟩ | ⟨id, -, rfl, -, -⟩
    · exact hr
    · exact List.mem_append_right _ hr

/-- A turn loses track of no type. -/
theorem turn_leads (h : c.turn l = .go ref new next) {id : TypeId} (hid : c.Leads l id) :
    c.Leads next id := by
  rcases hid with hid | ⟨r, hr, hid⟩
  · exact Or.inl (turn_entered h hid)
  · rcases turn_pending h hr with rfl | hr
    · exact Or.inl (turn_enters h hid)
    · exact Or.inr ⟨r, hr, hid⟩

/-- A turn keeps what the walk knows. -/
theorem turn_walk {Q : TypeId → Prop} (hQ : ∀ i j, Q i → c.RefersTo i j → Q j)
    (hw : c.Walk Q l) (h : c.turn l = .go ref new next) : c.Walk Q next := by
  have hleads : ∀ i j, c.Entered l.found i → c.RefersTo i j → c.Leads next j :=
    fun i j hi hij => turn_leads h (hw.closed i j hi hij)
  obtain ⟨rest, hpending, ⟨-, rfl, -⟩ | ⟨id', -, rfl, hid', -⟩⟩ := turn_go h
  · refine ⟨hw.named, hw.reached, ?_, hleads⟩
    intro r hr
    refine hw.awaited r ?_
    rw [hpending]
    exact List.mem_cons_of_mem _ hr
  · have hawaited : ∀ r ∈ ref :: rest, ∀ id, r.namedType? = some id → Q id :=
      hpending ▸ hw.awaited
    have hQnew : Q id' := hawaited ref List.mem_cons_self id' hid'
    refine ⟨?_, ?_, ?_, ?_⟩
    · intro name id hid
      rw [expand, Table.get?_insert] at hid
      split at hid
      · next hname => cases hid; exact hname.symm
      · exact hw.named name id hid
    · intro name id hid
      rw [expand, Table.get?_insert] at hid
      split at hid
      · cases hid; exact hQnew
      · exact hw.reached name id hid
    · intro r hr id hid
      rcases List.mem_append.mp hr with hr | hr
      · exact hQ id' id hQnew ⟨r, TypeDef.mem_references_iff.mp hr, hid⟩
      · exact hawaited r (List.mem_cons_of_mem _ hr) id hid
    · intro i j hi hij
      -- Either the type was there before, or it is the new one and its references now wait.
      unfold Entered at hi
      rw [expand, Table.get?_insert] at hi
      split at hi
      · cases hi
        obtain ⟨r, hr, hj⟩ := hij
        exact Or.inr ⟨r, List.mem_append_left _ (TypeDef.mem_references_iff.mpr hr), hj⟩
      · exact hleads i j hi hij

/-! ### The whole walk -/

/-- A walk that ends well knows what it knew on the way, with nothing left to follow. -/
theorem walk_ok {Q : TypeId → Prop} (hQ : ∀ i j, Q i → c.RefersTo i j → Q j)
    (hw : c.Walk Q l) (h : c.walk l = .ok final) :
    c.Walk Q ⟨final, []⟩ ∧ ∀ id, c.Leads l id → c.Entered final id := by
  induction l using walk.induct c with
  | case1 l outcome hstop =>
      rw [walk_of_stop hstop] at h
      subst h
      rcases turn_stop hstop with ⟨hnil, hfinal⟩ | ⟨_, _, _, _, _, _, _, _, herror⟩
      · cases hfinal
        obtain ⟨found, pending⟩ := l
        cases hnil
        refine ⟨hw, fun id hid => ?_⟩
        rcases hid with hid | ⟨r, hr, -⟩
        · exact hid
        · exact absurd hr List.not_mem_nil
      · cases herror
  | case2 l ref new next hgo ih =>
      rw [walk_of_go hgo] at h
      obtain ⟨hfinal, hleads⟩ := ih (turn_walk hQ hw hgo) h
      exact ⟨hfinal, fun id hid => hleads id (turn_leads hgo hid)⟩

/-- A walk that is refused has met two types of one name. -/
theorem walk_error {Q : TypeId → Prop} (hQ : ∀ i j, Q i → c.RefersTo i j → Q j) {fault : Fault}
    (hw : c.Walk Q l) (h : c.walk l = .error fault) :
    ∃ i j, Q i ∧ Q j ∧ i ≠ j ∧ (c.typeDef i).name = (c.typeDef j).name ∧
      fault = .ambiguousName (c.typeDef i).name := by
  induction l using walk.induct c with
  | case1 l outcome hstop =>
      rw [walk_of_stop hstop] at h
      subst h
      rcases turn_stop hstop with ⟨-, hok⟩ | ⟨ref, rest, id, known, hpending, hid, hknown, hne, hfault⟩
      · cases hok
      · cases hfault
        have href : ref ∈ l.pending := by
          rw [hpending]
          exact List.mem_cons_self
        exact ⟨id, known, hw.awaited ref href id hid, hw.reached _ known hknown, hne.symm,
          (hw.named _ known hknown).symm, rfl⟩
  | case2 l ref new next hgo ih =>
      rw [walk_of_go hgo] at h
      exact ih (turn_walk hQ hw hgo) h

/-- A turn does not look past the reference it takes off. -/
theorem turn_append (h : c.turn l = .go ref new next) (later : List Ref) :
    c.turn ⟨l.found, l.pending ++ later⟩ = .go ref new ⟨next.found, next.pending ++ later⟩ := by
  obtain ⟨found, pending⟩ := l
  cases pending with
  | nil => cases h
  | cons first rest =>
      simp only [turn, List.cons_append] at h ⊢
      split at h
      · cases h
      · cases h
        rfl
      · cases h
        simp only [expand, List.append_assoc]

theorem turn_append_error {fault : Fault} (h : c.turn l = .stop (.error fault))
    (later : List Ref) : c.turn ⟨l.found, l.pending ++ later⟩ = .stop (.error fault) := by
  obtain ⟨found, pending⟩ := l
  cases pending with
  | nil => cases h
  | cons first rest =>
      simp only [turn, List.cons_append] at h ⊢
      split at h
      · exact h
      · cases h
      · cases h

/-- Following two lists one after the other is following their concatenation. -/
theorem walk_append (l : Loop) (later : List Ref) :
    c.walk ⟨l.found, l.pending ++ later⟩ = c.walk l >>= fun after => c.walk ⟨after, later⟩ := by
  induction l using walk.induct c with
  | case1 l outcome hstop =>
      rw [walk_of_stop hstop]
      rcases turn_stop hstop with ⟨hnil, rfl⟩ | ⟨_, _, _, _, _, _, _, _, rfl⟩
      · rw [hnil]
        rfl
      · rw [walk_of_stop (turn_append_error hstop later)]
        rfl
  | case2 l ref new next hgo ih => rw [walk_of_go hgo, walk_of_go (turn_append hgo later), ih]

/-- The references a collection starts from are followed as one list. -/
theorem foldlM_collect (refs : List Ref) (found : Table TypeId) :
    refs.foldlM c.collect found = c.walk ⟨found, refs⟩ := by
  induction refs generalizing found with
  | nil => exact (walk_nil found).symm
  | cons ref rest ih =>
      rw [List.foldlM_cons, show ref :: rest = [ref] ++ rest from rfl,
        walk_append ⟨found, [ref]⟩ rest]
      exact congrArg _ (funext ih)

end Catalog

end TypeGraph
