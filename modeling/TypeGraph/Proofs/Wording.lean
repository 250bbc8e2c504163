/-
The words in which a problem is reported.

The first word of a message depends on the kind of problem and not on the names it quotes.
So problems whose messages open differently are never worded alike.  Where a message goes on
after a quoted name with a dot or a blank, the name is found again, provided that it has no
such character itself.
-/
import TypeGraph.Diagnostic

namespace TypeGraph

/-! ### First words -/

/-- The text has a blank, and the word stands before the first one. -/
def OpensWith (word text : String) : Prop :=
  ' ' ∈ text.toList ∧ text.toList.takeWhile (· != ' ') = word.toList

instance (word text : String) : Decidable (OpensWith word text) :=
  inferInstanceAs
    (Decidable (' ' ∈ text.toList ∧ text.toList.takeWhile (· != ' ') = word.toList))

theorem takeWhile_ne_append {sep : Char} {front : List Char} (h : sep ∈ front)
    (back : List Char) :
    (front ++ back).takeWhile (· != sep) = front.takeWhile (· != sep) := by
  induction front with
  | nil => cases h
  | cons ch rest ih =>
      rw [List.cons_append, List.takeWhile_cons, List.takeWhile_cons]
      by_cases hch : ch = sep
      · simp [hch]
      · have hrest : sep ∈ rest := (List.mem_cons.mp h).resolve_left (Ne.symm hch)
        rw [ih hrest]

theorem OpensWith.append {word text : String} (h : OpensWith word text) (rest : String) :
    OpensWith word (text ++ rest) := by
  unfold OpensWith at h ⊢
  rw [String.toList_append]
  exact ⟨List.mem_append_left _ h.1, (takeWhile_ne_append h.1 _).trans h.2⟩

theorem OpensWith.unique {word word' text : String} (h : OpensWith word text)
    (h' : OpensWith word' text) : word = word' :=
  String.toList_inj.mp (h.2.symm.trans h'.2)

/-! ### Names in a text -/

/-- What stands before a mark is found again, if the mark does not occur in it. -/
theorem separated_inj {sep : Char} {mark : String} (hmark : mark.toList = [sep])
    {a a' b b' : String} (ha : sep ∉ a.toList) (ha' : sep ∉ a'.toList)
    (h : a ++ mark ++ b = a' ++ mark ++ b') : a = a' ∧ b = b' := by
  have hbefore : ∀ {x y : String}, sep ∉ x.toList →
      (x ++ mark ++ y).toList.takeWhile (· != sep) = x.toList := by
    intro x y hx
    have hpass : ∀ ch ∈ x.toList, (ch != sep) = true := by
      intro ch hch
      rw [bne_iff_ne]
      exact fun heq => hx (heq ▸ hch)
    simp [String.toList_append, hmark, List.takeWhile_append_of_pos hpass]
  have hname : a = a' := by
    rw [← String.toList_inj, ← hbefore ha (y := b), h, hbefore ha']
  subst hname
  exact ⟨rfl, (String.append_right_inj _).mp h⟩

namespace Problem

/-- The first word of a problem's message, unless the words are the reporter's own. -/
def openingWord? : Problem → Option String
  | missingQuery | rootKind .query _ => some "Query"
  | rootKind .mutation _ => some "Mutation"
  | rootKind .subscription _ => some "Subscription"
  | notDirective _ | notType _ => some "Expected"
  | badName (.reserved _) => some "Name"
  | badName (.malformed _) => some "Names"
  | definedTwice (.field _ _) | definedTwice (.argument _ _ _) => some "Field"
  | definedTwice (.directiveArgument _ _) => some "Argument"
  | notOutput _ _ | notInput _ _ => some "The"
  | noFields _ | claimTwice _ _ | claimKind _ _ => some "Type"
  | noValues _ | valueTwice _ _ | reservedValue _ _ => some "Enum"
  | noMembers .output _ | memberTwice .output _ _ | memberKind .output _ _ => some "Union"
  | noInputFields _ | noMembers .input _ | memberTwice .input _ _ | memberKind .input _ _ =>
    some "Input"
  | fieldMissing _ _ _ | fieldMismatch _ _ _ _ _ | argumentMissing _ _ _ _
  | argumentMismatch _ _ _ _ _ _ => some "Interface"
  | argumentRequired _ _ _ _ _ => some "Object"
  | stated _ _ => none

theorem opensWith {p : Problem} {word : String} (h : p.openingWord? = some word) :
    OpensWith word p.message := by
  cases p with
  | rootKind form _ | badName form | noMembers form _ | memberTwice form _ _
  | memberKind form _ _ | definedTwice form =>
      cases form <;> cases h <;> dsimp only [message, NameFlaw.message, Coordinate.title]
      all_goals repeat' first | decide +kernel | with_reducible apply OpensWith.append
  | stated _ _ => cases h
  | _ =>
      cases h
      dsimp only [message]
      repeat' first | decide +kernel | with_reducible apply OpensWith.append

/-- Problems that are worded alike open with the same word. -/
theorem openingWord_eq {p q : Problem} {word word' : String} (hp : p.openingWord? = some word)
    (hq : q.openingWord? = some word') (h : p.message = q.message) : word = word' := by
  have hopens := opensWith hp
  rw [h] at hopens
  exact hopens.unique (opensWith hq)

theorem stated_of_openingWord?_eq_none {p : Problem} (h : p.openingWord? = none) :
    ∃ text category, p = stated text category := by
  cases p with
  | stated text category => exact ⟨text, category, rfl⟩
  | rootKind form _ | badName form | noMembers form _ | memberTwice form _ _
  | memberKind form _ _ | definedTwice form => cases form <;> cases h
  | _ => cases h

/-- What is worded as a problem of the given opening has that opening, unless it is in the
reporter's own words. -/
theorem openingWord?_of_message_eq {p q : Problem} {word : String}
    (hstated : ∀ text category, p ≠ stated text category) (hq : q.openingWord? = some word)
    (h : p.message = q.message) : p.openingWord? = some word := by
  cases hp : p.openingWord? with
  | none =>
      obtain ⟨text, category, heq⟩ := stated_of_openingWord?_eq_none hp
      exact absurd heq (hstated text category)
  | some word' => rw [openingWord_eq hp hq h]

/-! ### Fields that are defined twice -/

theorem eq_definedTwice_of_opening {p : Problem} (h : p.openingWord? = some "Field") :
    (∃ owner key, p = definedTwice (.field owner key)) ∨
      ∃ owner key arg, p = definedTwice (.argument owner key arg) := by
  cases p with
  | definedTwice place =>
      cases place with
      | field owner key => exact Or.inl ⟨owner, key, rfl⟩
      | argument owner key arg => exact Or.inr ⟨owner, key, arg, rfl⟩
      | directiveArgument directive arg => simp [openingWord?] at h
  | rootKind form _ | badName form | noMembers form _ | memberTwice form _ _
  | memberKind form _ _ => cases form <;> simp [openingWord?] at h
  | _ => simp [openingWord?] at h

theorem message_definedTwice_field (owner key : String) :
    (definedTwice (.field owner key)).message =
      "Field " ++ owner ++ "." ++ key ++ " can only be defined once." := by
  have hopen : "Field" ++ " " = "Field " := by decide +kernel
  show "Field" ++ " " ++ (owner ++ "." ++ key) ++ " can only be defined once." = _
  simp only [hopen, String.append_assoc]

/-- If no type has a dot in its name, the field is told by what is said of it. -/
theorem field_of_message_eq {owner owner' key key' : String} (hdot : '.' ∉ owner.toList)
    (hdot' : '.' ∉ owner'.toList)
    (h : (definedTwice (.field owner' key')).message = (definedTwice (.field owner key)).message) :
    owner' = owner ∧ key' = key :=
  have hmark : ".".toList = ['.'] := by decide +kernel
  separated_inj hmark hdot' hdot
    ((String.append_right_inj _).mp ((String.append_left_inj _).mp h))

/-- What is said of an argument and of a field differs by what stands between these words. -/
theorem text_of_argument_message_eq {owner owner' key key' arg : String}
    (h : (definedTwice (.argument owner' key' arg)).message =
      (definedTwice (.field owner key)).message) :
    "argument " ++ owner' ++ "." ++ (key' ++ "(" ++ arg ++ ":)") = owner ++ "." ++ key := by
  have hopen : "Field argument" ++ " " = "Field" ++ " " ++ "argument " := by decide +kernel
  have hplace : "Field argument" ++ " " ++ (Coordinate.argument owner' key' arg).text =
      "Field" ++ " " ++ (Coordinate.field owner key).text := (String.append_left_inj _).mp h
  rw [hopen, String.append_assoc, String.append_right_inj] at hplace
  rw [← show _ = owner ++ "." ++ key from hplace]
  simp only [Coordinate.text, String.append_assoc]

/-- Nor is the same said of an argument, if the type of the field has no blank in its name. -/
theorem argument_message_ne {owner owner' key key' arg : String} (hdot : '.' ∉ owner.toList)
    (hdot' : '.' ∉ owner'.toList) (hblank : ' ' ∉ owner.toList) :
    (definedTwice (.argument owner' key' arg)).message ≠
      (definedTwice (.field owner key)).message := by
  intro h
  have hmark : ".".toList = ['.'] := by decide +kernel
  have hword : '.' ∉ ("argument " ++ owner').toList := by
    simpa [String.toList_append] using hdot'
  -- Read as the place of a field, that of the argument belongs to a type of two words.
  obtain ⟨rfl, -⟩ := separated_inj hmark hword hdot (text_of_argument_message_eq h)
  exact hblank (by simp [String.toList_append])

/-- And never of an argument of the field itself: that is longer. -/
theorem own_argument_message_ne {owner key arg : String} :
    (definedTwice (.argument owner key arg)).message ≠
      (definedTwice (.field owner key)).message := by
  intro h
  have hlength := congrArg String.length (text_of_argument_message_eq h)
  have hword : 0 < "argument ".length := by decide +kernel
  simp only [String.length_append] at hlength
  omega

/-! ### Enums -/

/-- The enum that a problem is about, and what is said after its name. -/
def saidOfEnum? : Problem → Option (String × String)
  | noValues owner => some (owner, "must define one or more values.")
  | valueTwice owner value => some (owner, "can include value " ++ (value ++ " only once."))
  | reservedValue owner value => some (owner, "cannot include value: " ++ (value ++ "."))
  | _ => none

theorem exists_saidOfEnum {p : Problem} (h : p.openingWord? = some "Enum") :
    ∃ owner said, p.saidOfEnum? = some (owner, said) := by
  cases p with
  | noValues | valueTwice | reservedValue => exact ⟨_, _, rfl⟩
  | rootKind form _ | badName form | noMembers form _ | memberTwice form _ _
  | memberKind form _ _ | definedTwice form => cases form <;> simp [openingWord?] at h
  | _ => simp [openingWord?] at h

theorem message_of_saidOfEnum {p : Problem} {owner said : String}
    (h : p.saidOfEnum? = some (owner, said)) :
    p.message = "Enum type " ++ (owner ++ " " ++ said) := by
  have hnone : " must define one or more values." = " " ++ "must define one or more values." := by
    decide +kernel
  have htwice : " can include value " = " " ++ "can include value " := by decide +kernel
  have hreserved : " cannot include value: " = " " ++ "cannot include value: " := by
    decide +kernel
  cases p with
  | noValues owner =>
      cases h
      show "Enum type " ++ owner ++ " must define one or more values." = _
      rw [hnone]
      simp only [String.append_assoc]
  | valueTwice owner value =>
      cases h
      show "Enum type " ++ owner ++ " can include value " ++ value ++ " only once." = _
      rw [htwice]
      simp only [String.append_assoc]
  | reservedValue owner value =>
      cases h
      show "Enum type " ++ owner ++ " cannot include value: " ++ value ++ "." = _
      rw [hreserved]
      simp only [String.append_assoc]
  | _ => cases h

/-- What is said after the name tells the three problems of an enum apart, and the value. -/
theorem eq_valueTwice_of_said {p : Problem} {owner value : String}
    (h : p.saidOfEnum? = some (owner, "can include value " ++ (value ++ " only once."))) :
    p = valueTwice owner value := by
  have hcan : OpensWith "can" ("can include value " ++ (value ++ " only once.")) :=
    OpensWith.append (by decide +kernel) _
  cases p with
  | noValues owner' =>
      obtain ⟨-, hsaid⟩ := Prod.mk.inj (Option.some.inj h)
      rw [← hsaid] at hcan
      exact absurd hcan (by decide +kernel)
  | valueTwice owner' value' =>
      obtain ⟨rfl, hsaid⟩ := Prod.mk.inj (Option.some.inj h)
      rw [(String.append_left_inj _).mp ((String.append_right_inj _).mp hsaid)]
  | reservedValue owner' value' =>
      obtain ⟨-, hsaid⟩ := Prod.mk.inj (Option.some.inj h)
      have hcannot : OpensWith "cannot" ("cannot include value: " ++ (value' ++ ".")) :=
        OpensWith.append (by decide +kernel) _
      rw [hsaid] at hcannot
      exact absurd (hcan.unique hcannot) (by decide +kernel)
  | _ => cases h

/-- Of the problems of one enum no other is worded so. -/
theorem eq_valueTwice_of_own_message {p : Problem} {owner said value : String}
    (hp : p.saidOfEnum? = some (owner, said))
    (h : p.message = (valueTwice owner value).message) : p = valueTwice owner value := by
  rw [message_of_saidOfEnum hp, message_of_saidOfEnum rfl, String.append_right_inj,
    String.append_right_inj] at h
  exact eq_valueTwice_of_said (h ▸ hp)

/-- Nor of those of several enums, if none has a blank in its name. -/
theorem eq_valueTwice_of_message {p : Problem} {owner owner' said value : String}
    (hp : p.saidOfEnum? = some (owner', said)) (hblank : ' ' ∉ owner.toList)
    (hblank' : ' ' ∉ owner'.toList) (h : p.message = (valueTwice owner value).message) :
    p = valueTwice owner value := by
  have hmark : " ".toList = [' '] := by decide +kernel
  have hnames := h
  rw [message_of_saidOfEnum hp, message_of_saidOfEnum rfl, String.append_right_inj] at hnames
  obtain ⟨rfl, -⟩ := separated_inj hmark hblank' hblank hnames
  exact eq_valueTwice_of_own_message hp h

end Problem

end TypeGraph
