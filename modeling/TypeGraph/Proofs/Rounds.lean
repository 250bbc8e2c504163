/-
The walk ends, and how many rounds it takes.

A round is a turn of the walk's loop that goes on, seen from outside: the next reference is
taken off the list, and if it leads to a type not found yet, the type is entered and expanded,
that is, what it refers to is put on the list.  `turn` is what the walk repeats, so what is
counted here is what it takes off and puts on.  The list may grow in a round, and it may hold a
type many times, so neither its length nor the number of types found tells that the loop comes to
an end.  Together they do: a type that is expanded takes its references out of those that the
types not found yet still have in store.

What the rounds have done can be read off two lists, the references taken off and the types
expanded.  The table has grown by the types expanded, in their order, so no type is expanded
twice, in one call or in several that share the table.  And what was put on the list has been
taken off, or is still there.
-/
import Mathlib.Data.List.Nodup
import TypeGraph.Proofs.FirstReach

namespace TypeGraph

namespace Catalog

variable (c : Catalog)

/-- One round is a turn of the loop that goes on: the reference it takes off, and the type it
expands, if it does. -/
def Round (l : Loop) (ref : Ref) (new : Option TypeId) (next : Loop) : Prop :=
  c.turn l = .go ref new next

/-- The next turn ends the loop, with that outcome. -/
def Stops (l : Loop) (outcome : Except Fault (Table TypeId)) : Prop :=
  c.turn l = .stop outcome

/-- Rounds one after the other, with the references they took off and the types they expanded. -/
inductive Rounds : Loop → List Ref → List TypeId → Loop → Prop
  | none {l : Loop} : Rounds l [] [] l
  | more {first mid last : Loop} {ref : Ref} {new : Option TypeId} {taken : List Ref}
      {expanded : List TypeId} (hround : c.Round first ref new mid)
      (hrest : Rounds mid taken expanded last) :
      Rounds first (ref :: taken) (new.toList ++ expanded) last

/-- Calls one after the other, each from a reference of its own into the table that the one
before has left.  The last one may still be running; `left` are the references of the calls
that have not begun. -/
inductive Calls : Table TypeId → List Ref → List TypeId → Loop → List Ref → Prop
  | none {found : Table TypeId} {refs : List Ref} : Calls found refs [] ⟨found, []⟩ refs
  | running {found : Table TypeId} {ref : Ref} {left taken : List Ref} {expanded : List TypeId}
      {last : Loop} (hrounds : c.Rounds ⟨found, [ref]⟩ taken expanded last) :
      Calls found (ref :: left) expanded last left
  | next {found after : Table TypeId} {ref : Ref} {rest left taken : List Ref}
      {expanded more : List TypeId} {last : Loop}
      (hrounds : c.Rounds ⟨found, [ref]⟩ taken expanded ⟨after, []⟩)
      (hrest : Calls after rest more last left) :
      Calls found (ref :: rest) (expanded ++ more) last left

/-- What is entered for a type. -/
def entry (id : TypeId) : String × TypeId := ((c.typeDef id).name, id)

variable {c} {first last l : Loop} {ref : Ref} {new : Option TypeId} {taken : List Ref}
  {expanded : List TypeId} {outcome : Except Fault (Table TypeId)}

/-! ### One round -/

/-- A round enters the type it expands, after those that are there. -/
theorem Round.entries_eq (h : c.Round first ref new last) :
    last.found.entries = first.found.entries ++ new.toList.map c.entry := by
  obtain ⟨rest, -, ⟨rfl, rfl, -⟩ | ⟨id, rfl, rfl, -, hnew⟩⟩ := turn_go h
  · exact (List.append_nil _).symm
  · exact Table.entries_insert_of_get?_eq_none _ _ _ hnew

/-- What was pending and what the round puts there is taken off or pending. -/
theorem Round.pending_perm (h : c.Round first ref new last) :
    (ref :: last.pending).Perm
      (first.pending ++ new.toList.flatMap fun id => (c.typeDef id).declared) := by
  obtain ⟨rest, hpending, ⟨rfl, rfl, -⟩ | ⟨id, rfl, rfl, -, -⟩⟩ := turn_go h
  · rw [hpending, Option.toList_none, List.flatMap_nil, List.append_nil]
  · rw [hpending, Option.toList_some, List.flatMap_singleton, expand, references,
      TypeDef.references_eq_declared]
    exact List.perm_append_comm.cons ref

/-- A loop that ends well has nothing left to follow. -/
theorem Stops.eq_finished {final : Table TypeId} (h : c.Stops l (.ok final)) :
    l = ⟨final, []⟩ := by
  obtain ⟨found, pending⟩ := l
  rcases turn_stop h with ⟨hnil, hok⟩ | ⟨_, _, _, _, _, _, _, _, herror⟩
  · cases hok
    cases hnil
    rfl
  · cases herror

/-! ### All rounds of a call -/

/-- No loop goes round for ever, whatever it starts from. -/
theorem wellFounded_round :
    WellFounded fun later earlier : Loop => ∃ ref new, c.Round earlier ref new later := by
  refine Subrelation.wf ?_ (InvImage.wf (Loop.size c) Nat.lt_wfRel.wf)
  rintro later earlier ⟨ref, new, hround⟩
  exact c.size_lt_of_turn hround

/-- Every loop comes to a stop, and it stops with the outcome of the walk. -/
theorem exists_rounds (l : Loop) :
    ∃ taken expanded last, c.Rounds l taken expanded last ∧ c.Stops last (c.walk l) := by
  -- On the turns to come, not on the list: that may be longer after a turn.
  induction l using walk.induct c with
  | case1 l outcome hstop =>
      refine ⟨[], [], l, .none, ?_⟩
      rw [walk_of_stop hstop]
      exact hstop
  | case2 l ref new next hgo ih =>
      obtain ⟨taken, expanded, last, hrounds, hstops⟩ := ih
      refine ⟨ref :: taken, new.toList ++ expanded, last, .more hgo hrounds, ?_⟩
      rw [walk_of_go hgo]
      exact hstops

theorem Rounds.entries_eq (h : c.Rounds first taken expanded last) :
    last.found.entries = first.found.entries ++ expanded.map c.entry := by
  induction h with
  | none => rw [List.map_nil, List.append_nil]
  | more hround _ ih => rw [ih, hround.entries_eq, List.map_append, List.append_assoc]

theorem Rounds.pending_perm (h : c.Rounds first taken expanded last) :
    (taken ++ last.pending).Perm
      (first.pending ++ expanded.flatMap fun id => (c.typeDef id).declared) := by
  induction h with
  | none => simp
  | @more first mid last ref new taken expanded hround _ ih =>
      have hlater := ih.cons ref
      have hnow := hround.pending_perm.append_right
        (expanded.flatMap fun id => (c.typeDef id).declared)
      rw [List.flatMap_append, ← List.append_assoc]
      exact hlater.trans hnow

theorem Rounds.walk_eq (h : c.Rounds first taken expanded last) :
    c.walk first = c.walk last := by
  induction h with
  | none => rfl
  | more hround _ ih => rw [walk_of_go hround, ih]

/-! ### All calls -/

variable {found : Table TypeId} {refs left : List Ref}

theorem Calls.entries_eq (h : c.Calls found refs expanded last left) :
    last.found.entries = found.entries ++ expanded.map c.entry := by
  induction h with
  | none => rw [List.map_nil, List.append_nil]
  | running hrounds => exact hrounds.entries_eq
  | next hrounds _ ih => rw [ih, hrounds.entries_eq, List.map_append, List.append_assoc]

/-- No two types of one name are expanded, since a table has a name only once. -/
theorem Calls.nodup_expanded (h : c.Calls found refs expanded last left) : expanded.Nodup := by
  have hkeys := last.found.nodup
  rw [h.entries_eq, List.map_append, List.nodup_append] at hkeys
  have hnames : (expanded.map fun id => (c.typeDef id).name).Nodup := by
    have hall := hkeys.2.1
    rwa [List.map_map] at hall
  exact hnames.of_map _

/-- The calls come to an end, with the outcome of collecting from all their references. -/
theorem exists_calls (found : Table TypeId) (refs : List Ref) :
    ∃ expanded last left, c.Calls found refs expanded last left ∧
      c.Stops last (refs.foldlM c.collect found) ∧ (last.pending = [] → left = []) := by
  induction refs generalizing found with
  | nil => exact ⟨[], ⟨found, []⟩, [], .none, rfl, fun _ => rfl⟩
  | cons ref rest ih =>
      obtain ⟨taken, expanded, last, hrounds, hstops⟩ := exists_rounds (c := c) ⟨found, [ref]⟩
      rw [List.foldlM_cons]
      change c.Stops last (c.collect found ref) at hstops
      cases hcall : c.collect found ref with
      | error fault =>
          rw [hcall] at hstops
          refine ⟨expanded, last, rest, .running hrounds, hstops, ?_⟩
          intro hnil
          rcases turn_stop hstops with ⟨-, hok⟩ | ⟨_, _, _, _, hpending, -⟩
          · cases hok
          · rw [hnil] at hpending
            cases hpending
      | ok after =>
          rw [hcall] at hstops
          obtain rfl := hstops.eq_finished
          obtain ⟨more, last, left, hcalls, hends⟩ := ih after
          exact ⟨expanded ++ more, last, left, .next hrounds hcalls, hends⟩

/-- Making a schema ends as its calls do, and its types are those that were expanded. -/
theorem exists_calls_build (c : Catalog) (b : Blueprint) :
    ∃ expanded last left, c.Calls .empty (b.startingRefs c) expanded last left ∧
      ((∃ S, Schema.build c b = .ok S ∧ S.types = expanded.map .named ∧ last.pending = [] ∧
          left = []) ∨
        ∃ fault, Schema.build c b = .error fault ∧ c.Stops last (.error fault)) := by
  obtain ⟨expanded, last, left, hcalls, hstops, hleft⟩ :=
    exists_calls (c := c) .empty (b.startingRefs c)
  refine ⟨expanded, last, left, hcalls, ?_⟩
  rw [foldlM_collect] at hstops
  cases hbuild : Schema.build c b with
  | error fault =>
      rw [Schema.build_error.mp hbuild] at hstops
      exact Or.inr ⟨fault, rfl, hstops⟩
  | ok S =>
      obtain ⟨-, -, final, hwalk, hmap⟩ := Schema.build_ok hbuild
      rw [hwalk] at hstops
      obtain rfl := hstops.eq_finished
      have hentries : final.entries = expanded.map c.entry := hcalls.entries_eq
      refine Or.inl ⟨S, rfl, ?_, rfl, hleft rfl⟩
      rw [Schema.types, hmap]
      show (final.entries.map fun entry => (entry.1, Ref.named entry.2)).map Prod.snd = _
      rw [hentries, List.map_map, List.map_map]
      rfl

/--
**Collecting ends, and expands each type once.**  No loop goes round for ever, from whatever
table and list, and a call from any reference comes to a stop with its outcome.  If it does not
fail, it has entered the types that it expanded, and has taken off the reference it started from
and the references of those types, each exactly once.  Over any calls that share a table no type
is expanded twice; and those that make a schema expand just the types of its type map.
-/
theorem collection_ends (c : Catalog) :
    (WellFounded fun later earlier : Loop => ∃ ref new, c.Round earlier ref new later) ∧
    (∀ found ref, ∃ taken expanded last,
      c.Rounds ⟨found, [ref]⟩ taken expanded last ∧ c.Stops last (c.collect found ref)) ∧
    (∀ found ref taken expanded final, c.Rounds ⟨found, [ref]⟩ taken expanded ⟨final, []⟩ →
      c.collect found ref = .ok final ∧
      final.entries = found.entries ++ expanded.map (fun id => ((c.typeDef id).name, id)) ∧
      taken.Perm (ref :: expanded.flatMap fun id => (c.typeDef id).declared) ∧
      taken.length = 1 + (expanded.flatMap fun id => (c.typeDef id).declared).length) ∧
    (∀ found refs expanded last left, c.Calls found refs expanded last left →
      expanded.Nodup) ∧
    ∀ b : Blueprint, ∃ expanded last left, c.Calls .empty (b.startingRefs c) expanded last left ∧
      ((∃ S, Schema.build c b = .ok S ∧ S.types = expanded.map .named ∧ last.pending = [] ∧
          left = []) ∨
        ∃ fault, Schema.build c b = .error fault ∧ c.Stops last (.error fault)) := by
  refine ⟨wellFounded_round, fun found ref => exists_rounds ⟨found, [ref]⟩, ?counted, ?once,
    exists_calls_build c⟩
  case counted =>
    intro found ref taken expanded final hrounds
    have hperm := hrounds.pending_perm
    rw [List.append_nil] at hperm
    refine ⟨?_, hrounds.entries_eq, hperm, ?_⟩
    · exact hrounds.walk_eq.trans (walk_nil final)
    · rw [hperm.length_eq, List.length_append, List.length_singleton]
  case once =>
    intro found refs expanded last left hcalls
    exact hcalls.nodup_expanded

/-- A call that enters these types, and no others, has expanded them. -/
theorem exists_rounds_of_collect (c : Catalog) (found : Table TypeId) (ref : Ref)
    (ids : List TypeId)
    (h : (c.collect found ref).toOption.any (fun final =>
      decide (final.entries = found.entries ++ ids.map c.entry)) = true) :
    ∃ taken final, c.collect found ref = .ok final ∧
      c.Rounds ⟨found, [ref]⟩ taken ids ⟨final, []⟩ := by
  obtain ⟨taken, expanded, last, hrounds, hstops⟩ := exists_rounds (c := c) ⟨found, [ref]⟩
  change c.Stops last (c.collect found ref) at hstops
  cases hcollect : c.collect found ref with
  | error fault =>
      rw [hcollect] at h
      cases h
  | ok final =>
      rw [hcollect] at h hstops
      obtain rfl := hstops.eq_finished
      have hgrown : final.entries = found.entries ++ expanded.map c.entry := hrounds.entries_eq
      rw [of_decide_eq_true h, List.append_right_inj] at hgrown
      obtain rfl : ids = expanded := by
        have hids := congrArg (List.map Prod.snd) hgrown
        simpa [entry, Function.comp_def] using hids
      exact ⟨taken, final, rfl, hrounds⟩

/-- A query refers to a text, to an input object and back to itself, and the input object to a
number and back to itself.  A call for the query takes off six references to enter those four
types; a second call for the query takes off that one reference only. -/
theorem collection_ends_ring :
    ∃ taken found again, Schema.ringCatalog.Rounds ⟨.empty, [.named (.own 0)]⟩ taken
        [.own 0, .builtin .string, .own 1, .builtin .int] ⟨found, []⟩ ∧ taken.length = 6 ∧
      Schema.ringCatalog.Rounds ⟨found, [.named (.own 0)]⟩ again [] ⟨found, []⟩ ∧
        again.length = 1 := by
  obtain ⟨-, -, hcounted, -, -⟩ := collection_ends Schema.ringCatalog
  obtain ⟨taken, found, hcollect, hrounds⟩ := exists_rounds_of_collect Schema.ringCatalog .empty
    (.named (.own 0)) [.own 0, .builtin .string, .own 1, .builtin .int] (by decide +kernel)
  have hagain : ((Schema.ringCatalog.collect .empty (.named (.own 0))).toOption.all fun found =>
      found.get? "Query" = some (.own 0)) = true := by decide +kernel
  rw [hcollect] at hagain
  have hrounds' : Schema.ringCatalog.Rounds ⟨found, [.named (.own 0)]⟩ [.named (.own 0)] []
      ⟨found, []⟩ := by
    refine .more (turn_known ?_) .none
    intro id hid
    cases hid
    exact of_decide_eq_true hagain
  exact ⟨taken, found, _, hrounds, (hcounted _ _ _ _ _ hrounds).2.2.2, hrounds',
    (hcounted _ _ _ _ _ hrounds').2.2.2⟩

end Catalog

end TypeGraph
