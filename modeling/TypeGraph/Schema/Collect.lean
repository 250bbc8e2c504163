/-
Collecting the types of a schema.

The walk is a loop over a table of the types found so far, by name, and a list of
references still to be followed.  A turn of the loop takes the first reference off
the list: if it leads to a type not found yet, the type is entered and its own
references are put on the list, before the rest.  So the table lists the types in the
order a depth-first walk first reaches them.  A second type under a name already taken
ends the walk.

The walk ends on every catalog, cyclic or not.  `unexplored` counts the references
of the types whose name is not in the table.  A turn that enters a type moves its
references from that count to the pending list, and every turn takes one reference
off the list.
-/
import TypeGraph.Catalog
import TypeGraph.Fault

namespace TypeGraph

namespace Catalog

variable (c : Catalog)

/-- Whether no type of that name has been found. -/
def isUnexplored (found : Table TypeId) (id : TypeId) : Bool :=
  (found.get? (c.typeDef id).name).isNone

/-- How many references the types not found yet have. -/
def unexplored (found : Table TypeId) : Nat :=
  ((c.typeIds.filter (c.isUnexplored found)).flatMap c.references).length

section Filtered

variable {ι α : Type} (items : ι → List α) {before after : ι → Bool}

private theorem length_flatMap_filter_le (hsub : ∀ i, after i = true → before i = true)
    (l : List ι) :
    ((l.filter after).flatMap items).length ≤ ((l.filter before).flatMap items).length := by
  induction l with
  | nil => simp
  | cons i rest ih =>
      cases ha : after i with
      | true =>
          rw [List.filter_cons_of_pos ha, List.filter_cons_of_pos (hsub i ha), List.flatMap_cons,
            List.flatMap_cons, List.length_append, List.length_append]
          omega
      | false =>
          rw [List.filter_cons_of_neg (Bool.eq_false_iff.mp ha)]
          cases hb : before i with
          | true =>
              rw [List.filter_cons_of_pos hb, List.flatMap_cons, List.length_append]
              omega
          | false =>
              rw [List.filter_cons_of_neg (Bool.eq_false_iff.mp hb)]
              exact ih

private theorem length_add_flatMap_filter_le (hsub : ∀ i, after i = true → before i = true)
    {x : ι} (hx : before x = true) (hx' : after x = false) {l : List ι} (hmem : x ∈ l) :
    (items x).length + ((l.filter after).flatMap items).length ≤
      ((l.filter before).flatMap items).length := by
  -- On both sides of `x` the larger filter keeps no less; at `x` it alone keeps the items.
  obtain ⟨front, back, rfl⟩ := List.append_of_mem hmem
  have hfront := length_flatMap_filter_le items hsub front
  have hback := length_flatMap_filter_le items hsub back
  rw [List.filter_append, List.filter_append, List.filter_cons_of_pos hx,
    List.filter_cons_of_neg (Bool.eq_false_iff.mp hx')]
  simp only [List.flatMap_append, List.flatMap_cons, List.length_append]
  omega

end Filtered

/-- Entering a type leaves nothing unexplored that was explored. -/
theorem isUnexplored_of_insert {found : Table TypeId} {name : String} {id i : TypeId}
    (h : c.isUnexplored (found.insert name id) i = true) : c.isUnexplored found i = true := by
  simp only [isUnexplored, Table.get?_insert] at h ⊢
  split at h
  · simp at h
  · exact h

/-- Entering a type moves at least its references out of the unexplored ones. -/
theorem references_add_unexplored_le {found : Table TypeId} {id : TypeId}
    (h : found.get? (c.typeDef id).name = none) :
    (c.references id).length + c.unexplored (found.insert (c.typeDef id).name id)
      ≤ c.unexplored found := by
  by_cases hmem : id ∈ c.typeIds
  · exact length_add_flatMap_filter_le c.references (fun _ => c.isUnexplored_of_insert)
      (by simp [isUnexplored, h]) (by simp [isUnexplored]) hmem
  · rw [c.references_of_not_mem hmem, List.length_nil, Nat.zero_add]
    exact length_flatMap_filter_le c.references (fun _ => c.isUnexplored_of_insert) c.typeIds

/-- The loop of a walk between two turns: what has been found, and what is still to be
followed. -/
structure Loop where
  found : Table TypeId
  pending : List Ref

/-- What a turn of the loop does: it ends the walk with an outcome, or it takes a reference off,
expands the type it leads to if that is new, and leaves the loop to go on with. -/
inductive Turn
  | stop (outcome : Except Fault (Table TypeId))
  | go (taken : Ref) (expanded : Option TypeId) (next : Loop)

/-- The type that is to be expanded when a reference is followed: the one it leads to, unless that
was found before. -/
def visit (found : Table TypeId) (ref : Ref) : Except Fault (Option TypeId) :=
  match ref.namedType? with
  | none => .ok none
  | some id =>
    match found.get? (c.typeDef id).name with
    | none => .ok (some id)
    | some known => if known = id then .ok none else .error (.ambiguousName (c.typeDef id).name)

/-- Enters a type and puts what it refers to before the rest. -/
def expand (id : TypeId) (l : Loop) : Loop where
  found := l.found.insert (c.typeDef id).name id
  pending := c.references id ++ l.pending

/-- One turn of the loop. -/
def turn (l : Loop) : Turn :=
  match l.pending with
  | [] => .stop (.ok l.found)
  | ref :: rest =>
    match c.visit l.found ref with
    | .error fault => .stop (.error fault)
    | .ok none => .go ref none ⟨l.found, rest⟩
    | .ok (some id) => .go ref (some id) (c.expand id ⟨l.found, rest⟩)

section Turns

variable {c} {found : Table TypeId} {ref : Ref} {id : TypeId} {l next : Loop}
  {new : Option TypeId} {outcome : Except Fault (Table TypeId)}

theorem visit_none (h : c.visit found ref = .ok none) :
    ∀ id, ref.namedType? = some id → found.get? (c.typeDef id).name = some id := by
  intro id hid
  unfold visit at h
  rw [hid] at h
  dsimp only at h
  split at h
  · cases h
  · next known hknown =>
      split at h
      · next heq => rw [hknown, heq]
      · cases h

theorem visit_some (h : c.visit found ref = .ok (some id)) :
    ref.namedType? = some id ∧ found.get? (c.typeDef id).name = none := by
  unfold visit at h
  split at h
  · cases h
  · next hid =>
      split at h
      · next hnew =>
          cases h
          exact ⟨hid, hnew⟩
      · split at h <;> cases h

theorem visit_error {fault : Fault} (h : c.visit found ref = .error fault) :
    ∃ id known, ref.namedType? = some id ∧ found.get? (c.typeDef id).name = some known ∧
      known ≠ id ∧ fault = .ambiguousName (c.typeDef id).name := by
  unfold visit at h
  split at h
  · cases h
  · next id hid =>
      split at h
      · cases h
      · next known hknown =>
          split at h
          · cases h
          · next hne =>
              cases h
              exact ⟨id, known, hid, hknown, hne, rfl⟩

/-- What a turn does that goes on: it passes a reference by, or enters a type. -/
theorem turn_go (h : c.turn l = .go ref new next) :
    ∃ rest, l.pending = ref :: rest ∧
      ((new = none ∧ next = ⟨l.found, rest⟩ ∧
          ∀ id, ref.namedType? = some id → l.found.get? (c.typeDef id).name = some id) ∨
        ∃ id, new = some id ∧ next = c.expand id ⟨l.found, rest⟩ ∧
          ref.namedType? = some id ∧ l.found.get? (c.typeDef id).name = none) := by
  unfold turn at h
  split at h
  · cases h
  · next first rest hpending =>
      split at h
      · cases h
      · next hvisit =>
          cases h
          exact ⟨rest, hpending, Or.inl ⟨rfl, rfl, visit_none hvisit⟩⟩
      · next id hvisit =>
          cases h
          exact ⟨rest, hpending, Or.inr ⟨id, rfl, rfl, visit_some hvisit⟩⟩

/-- What a turn does that ends the walk: nothing is left, or a name is taken by another type. -/
theorem turn_stop (h : c.turn l = .stop outcome) :
    (l.pending = [] ∧ outcome = .ok l.found) ∨
      ∃ ref rest id known, l.pending = ref :: rest ∧ ref.namedType? = some id ∧
        l.found.get? (c.typeDef id).name = some known ∧ known ≠ id ∧
        outcome = .error (.ambiguousName (c.typeDef id).name) := by
  unfold turn at h
  split at h
  · next hpending =>
      cases h
      exact Or.inl ⟨hpending, rfl⟩
  · next ref rest hpending =>
      split at h
      · next fault hvisit =>
          cases h
          obtain ⟨id, known, hid, hknown, hne, rfl⟩ := visit_error hvisit
          exact Or.inr ⟨ref, rest, id, known, hpending, hid, hknown, hne, rfl⟩
      · cases h
      · cases h

end Turns

/-- What is still to be followed, now or later. -/
def Loop.size (l : Loop) : Nat := l.pending.length + c.unexplored l.found

/-- A turn leaves less to be followed. -/
theorem size_lt_of_turn {l next : Loop} {ref : Ref} {new : Option TypeId}
    (h : c.turn l = .go ref new next) : next.size c < l.size c := by
  obtain ⟨rest, hpending, ⟨-, rfl, -⟩ | ⟨id, -, rfl, -, hnew⟩⟩ := turn_go h
  · simp only [Loop.size, hpending, List.length_cons]
    omega
  · have hmoved := c.references_add_unexplored_le hnew
    simp only [Loop.size, expand, hpending, List.length_append, List.length_cons]
    omega

/-- Follows the pending references, turn by turn, until none is left. -/
def walk (l : Loop) : Except Fault (Table TypeId) :=
  match _h : c.turn l with
  | .stop outcome => outcome
  | .go _ _ next => walk next
termination_by l.size c
decreasing_by exact c.size_lt_of_turn _h

section Outcomes

variable {c} {l next : Loop}

theorem walk_of_stop {outcome : Except Fault (Table TypeId)} (h : c.turn l = .stop outcome) :
    c.walk l = outcome := by
  rw [walk]
  split
  · next heq => rw [h] at heq; cases heq; rfl
  · next heq => rw [h] at heq; cases heq

theorem walk_of_go {ref : Ref} {new : Option TypeId} (h : c.turn l = .go ref new next) :
    c.walk l = c.walk next := by
  rw [walk]
  split
  · next heq => rw [h] at heq; cases heq
  · next heq => rw [h] at heq; cases heq; rfl

theorem walk_nil (found : Table TypeId) : c.walk ⟨found, []⟩ = .ok found := walk_of_stop rfl

end Outcomes

/-- Follows one reference and all that it leads to. -/
def collect (found : Table TypeId) (ref : Ref) : Except Fault (Table TypeId) :=
  c.walk ⟨found, [ref]⟩

/-- Follows several references, one after the other. -/
def collectAll (refs : List Ref) : Except Fault (Table TypeId) :=
  refs.foldlM c.collect Table.empty

end Catalog

end TypeGraph
