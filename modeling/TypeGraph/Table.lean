/-
Insertion-ordered tables.

A table maps names to entries and remembers the order in which the names first
came.  Writing to a name that is already there changes its entry and not its
place.  That no name occurs twice is part of the type.
-/
namespace TypeGraph

/-- Entries by name, in the order the names were first written. -/
structure Table (α : Type) where
  entries : List (String × α)
  nodup : (entries.map Prod.fst).Nodup

namespace Table

variable {α β : Type}

/-- The table without entries. -/
def empty : Table α := ⟨[], List.nodup_nil⟩

instance : Inhabited (Table α) := ⟨empty⟩

/-- The names in order. -/
def keys (t : Table α) : List String := t.entries.map Prod.fst

/-- The entries in order, without their names. -/
def values (t : Table α) : List α := t.entries.map Prod.snd

/-- How many names there are. -/
def size (t : Table α) : Nat := t.entries.length

/-- Whether there is no entry. -/
def isEmpty (t : Table α) : Bool := t.entries.isEmpty

/-- The entry under a name. -/
def get? (t : Table α) (name : String) : Option α := t.entries.lookup name

/-- The entries with that of `name` replaced, where it stands. -/
def replaceEntry (name : String) (a : α) (entry : String × α) : String × α :=
  if entry.1 = name then (name, a) else entry

theorem keys_replaceEntry (name : String) (a : α) (entries : List (String × α)) :
    (entries.map (replaceEntry name a)).map Prod.fst = entries.map Prod.fst := by
  induction entries with
  | nil => rfl
  | cons e rest ih =>
      simp only [List.map_cons, ih, List.cons.injEq, and_true, replaceEntry]
      split <;> simp_all

/-- Writes an entry: in place if the name is there, at the end otherwise. -/
def insert (t : Table α) (name : String) (a : α) : Table α :=
  if h : name ∈ t.keys then
    ⟨t.entries.map (replaceEntry name a), by rw [keys_replaceEntry]; exact t.nodup⟩
  else
    ⟨t.entries ++ [(name, a)], by
      rw [List.map_append, List.nodup_append]
      refine ⟨t.nodup, by simp, ?_⟩
      intro x hx y hy
      simp only [List.map_cons, List.map_nil, List.mem_singleton] at hy
      rw [hy]
      exact fun hxy => h (hxy ▸ hx)⟩

/-- Removes a name and its entry. -/
def erase (t : Table α) (name : String) : Table α :=
  ⟨t.entries.filter fun entry => entry.1 ≠ name,
    t.nodup.sublist (List.filter_sublist.map Prod.fst)⟩

/-- The table of a list of pairs; of two pairs with one name the later gives the entry and the
earlier the place. -/
def ofList (pairs : List (String × α)) : Table α :=
  pairs.foldl (fun t pair => t.insert pair.1 pair.2) empty

/-- Changes every entry, looking at its name. -/
def map (f : String → α → β) (t : Table α) : Table β :=
  ⟨t.entries.map fun entry => (entry.1, f entry.1 entry.2), by
    simpa [List.map_map, Function.comp_def] using t.nodup⟩

/-! ### What the operations do to a look-up -/

@[simp] theorem get?_empty (name : String) : (empty : Table α).get? name = none := rfl

private theorem lookup_cons_ite (e : String × α) (rest : List (String × α)) (n : String) :
    (e :: rest).lookup n = if n = e.1 then some e.2 else rest.lookup n := by
  rw [List.lookup_cons]
  by_cases h : n = e.1
  · simp [h]
  · rw [beq_false_of_ne h, if_neg h]

theorem get?_eq_none_iff (t : Table α) (name : String) : t.get? name = none ↔ name ∉ t.keys := by
  unfold get? keys
  induction t.entries with
  | nil => simp
  | cons e rest ih =>
      rw [lookup_cons_ite]
      by_cases h : name = e.1 <;> simp [h, ih]

private theorem lookup_append_single (entries : List (String × α)) (name n : String) (a : α)
    (h : name ∉ entries.map Prod.fst) :
    (entries ++ [(name, a)]).lookup n = if n = name then some a else entries.lookup n := by
  induction entries with
  | nil => simp [lookup_cons_ite]
  | cons e rest ih =>
      simp only [List.map_cons, List.mem_cons, not_or] at h
      rw [List.cons_append, lookup_cons_ite, lookup_cons_ite, ih h.2]
      by_cases hn : n = name
      · have hne : ¬ n = e.1 := hn ▸ h.1
        simp [hn, hn ▸ hne]
      · simp [hn]

private theorem lookup_map_replaceEntry (entries : List (String × α)) (name n : String) (a : α)
    (h : name ∈ entries.map Prod.fst) :
    (entries.map (replaceEntry name a)).lookup n
      = if n = name then some a else entries.lookup n := by
  have other : ∀ l : List (String × α), n ≠ name →
      (l.map (replaceEntry name a)).lookup n = l.lookup n := by
    intro l hn
    induction l with
    | nil => rfl
    | cons e rest ih =>
        rw [List.map_cons, lookup_cons_ite, lookup_cons_ite, ih]
        by_cases he : e.1 = name
        · simp [replaceEntry, he, hn]
        · simp [replaceEntry, he]
  by_cases hn : n = name
  · subst hn
    rw [if_pos rfl]
    clear other
    induction entries with
    | nil => simp at h
    | cons e rest ih =>
        rw [List.map_cons, lookup_cons_ite]
        by_cases he : n = e.1
        · simp [replaceEntry, ← he]
        · have hrest : n ∈ rest.map Prod.fst := by
            rw [List.map_cons, List.mem_cons] at h
            exact h.resolve_left he
          simp [replaceEntry, he, Ne.symm he, ih hrest]
  · rw [if_neg hn, other entries hn]

/-- A written name reads back what was written, and no other name is touched. -/
theorem get?_insert (t : Table α) (name n : String) (a : α) :
    (t.insert name a).get? n = if n = name then some a else t.get? n := by
  unfold insert get?
  split
  · next h => exact lookup_map_replaceEntry _ _ _ _ h
  · next h => exact lookup_append_single _ _ _ _ h

@[simp] theorem get?_insert_self (t : Table α) (name : String) (a : α) :
    (t.insert name a).get? name = some a := by
  simp [get?_insert]

private theorem lookup_eq_some_iff {entries : List (String × α)} (name : String) (a : α)
    (h : (entries.map Prod.fst).Nodup) :
    entries.lookup name = some a ↔ (name, a) ∈ entries := by
  induction entries with
  | nil => simp
  | cons e rest ih =>
      rw [List.map_cons, List.nodup_cons] at h
      rw [lookup_cons_ite, List.mem_cons]
      by_cases hn : name = e.1
      · -- No later entry has this name, so the first one is the one meant.
        have hrest : (name, a) ∉ rest := fun hmem => h.1 (hn ▸ List.mem_map_of_mem hmem)
        rw [if_pos hn, or_iff_left hrest, Option.some.injEq]
        constructor
        · rintro rfl
          rw [hn]
        · rintro rfl
          rfl
      · have hne : (name, a) ≠ e := fun he => hn (he ▸ rfl)
        rw [if_neg hn, ih h.2, or_iff_right hne]

/-- What is read under a name is what stands there. -/
theorem get?_eq_some_iff (t : Table α) (name : String) (a : α) :
    t.get? name = some a ↔ (name, a) ∈ t.entries :=
  lookup_eq_some_iff name a t.nodup

/-- The values are what can be read. -/
theorem mem_values_iff (t : Table α) (a : α) : a ∈ t.values ↔ ∃ name, t.get? name = some a := by
  simp only [values, List.mem_map, get?_eq_some_iff]
  constructor
  · rintro ⟨⟨name, _⟩, hmem, rfl⟩
    exact ⟨name, hmem⟩
  · rintro ⟨name, hmem⟩
    exact ⟨(name, a), hmem, rfl⟩

private theorem lookup_map_entry (f : String → α → β) (entries : List (String × α))
    (name : String) :
    (entries.map fun entry => (entry.1, f entry.1 entry.2)).lookup name
      = (entries.lookup name).map (f name) := by
  induction entries with
  | nil => rfl
  | cons e rest ih =>
      rw [List.map_cons, lookup_cons_ite, lookup_cons_ite, ih]
      by_cases hn : name = e.1
      · simp [hn]
      · simp [hn]

/-- Changing every entry changes what is read, name by name. -/
@[simp] theorem get?_map (f : String → α → β) (t : Table α) (name : String) :
    (t.map f).get? name = (t.get? name).map (f name) :=
  lookup_map_entry f t.entries name

/-- A new name goes to the end. -/
theorem entries_insert_of_get?_eq_none (t : Table α) (name : String) (a : α)
    (h : t.get? name = none) : (t.insert name a).entries = t.entries ++ [(name, a)] := by
  unfold insert
  rw [dif_neg ((get?_eq_none_iff t name).mp h)]

end Table

end TypeGraph
