import SchemaFixtures.Schema.Document

/-!
# Gathering, looked at from one key

What a document makes of the definitions of one name depends on these definitions alone.
Every step of the gathering touches the definition and the waiting extensions of one key, so
a run of the gathering, looked at from one key, is a run on the definitions of that key. For
these the outcome is known in closed form: the first declaration, then the extensions after
it, then those before it, which had to wait.
-/

namespace SchemaFixtures.Schema

/-- The definitions under one key, in document order. -/
def ofKey (definitions : List Definition) (key : Key) : List Definition :=
  definitions.filter (·.key == key)

/-- Definitions as a schema text yields them: directives cannot be extended. -/
def Lowered (definitions : List Definition) : Prop :=
  ∀ definition ∈ definitions, definition.isExtension = true → definition.kind ≠ .directive

/-- A definition with the contents of more definitions after its own. -/
def Definition.append (base : Definition) (extensions : List Definition) : Definition :=
  { base with
    fields := base.fields ++ extensions.flatMap (·.fields)
    enumValues := base.enumValues ++ extensions.flatMap (·.enumValues)
    unionMembers := base.unionMembers ++ extensions.flatMap (·.unionMembers) }

@[simp] theorem Definition.append_nil (base : Definition) : base.append [] = base := by
  simp [append]

@[simp] theorem Definition.append_cons (base extension : Definition) (rest : List Definition) :
    base.append (extension :: rest) = (base.extend extension).append rest := by
  simp [append, extend]

@[simp] theorem Definition.key_extend (base extension : Definition) :
    (base.extend extension).key = base.key := rfl

theorem Definition.append_append (base : Definition) (first second : List Definition) :
    (base.append first).append second = base.append (first ++ second) := by
  simp [append]

/-- What stands in a list without repeated keys is found by its key. -/
theorem find?_of_mem {α β : Type} [DecidableEq β] {keyOf : α → β} {items : List α} {item : α}
    (once : (items.map keyOf).Nodup) (member : item ∈ items) :
    items.find? (keyOf · == keyOf item) = some item := by
  induction items with
  | nil => exact absurd member List.not_mem_nil
  | cons first rest inductionHypothesis =>
    obtain ⟨apart, others⟩ := List.nodup_cons.mp once
    rcases List.mem_cons.mp member with rfl | later
    · rw [List.find?_cons_of_pos (by simp)]
    · have different : keyOf first ≠ keyOf item :=
        fun same => apart (same ▸ List.mem_map.mpr ⟨item, later, rfl⟩)
      rw [List.find?_cons_of_neg (by simpa using different)]
      exact inductionHypothesis others later

/-! ## One key of what is known -/

/-- The definition of a key. -/
def Known.at? (known : Known) (key : Key) : Option Definition :=
  (known.find? (·.1 == key)).map (·.2)

/-- The keys, in order. -/
def Known.keys (known : Known) : List Key := known.map (·.1)

/-- Keys stand once, and a definition stands under its own key. -/
structure Known.Sound (known : Known) : Prop where
  once : known.keys.Nodup
  own : ∀ entry ∈ known, entry.2.key = entry.1

namespace Known

variable {known : Known} {key other : Key} {definition : Definition}

theorem has_eq (known : Known) (key : Key) : known.has key = (known.at? key).isSome := by
  rw [at?, Option.isSome_map, List.isSome_find?]
  rfl

theorem has_iff (known : Known) (key : Key) : known.has key = true ↔ key ∈ known.keys := by
  simp [has, keys]

theorem at?_append (known more : Known) (key : Key) :
    (known ++ more).at? key = (known.at? key).or (more.at? key) := by
  rw [at?, List.find?_append, Option.map_or]
  rfl

theorem at?_singleton (key other : Key) (definition : Definition) :
    at? [(key, definition)] other = if key = other then some definition else none := by
  by_cases same : key = other <;> simp [at?, same]

theorem keys_append (known : Known) (key : Key) (definition : Definition) :
    keys (known ++ [(key, definition)]) = known.keys ++ [key] := List.map_append

theorem keys_extend (known : Known) (key : Key) (extension : Definition) :
    (known.extend key extension).keys = known.keys := by
  rw [keys, keys, extend, List.map_map]
  refine List.map_congr_left fun entry _ => ?_
  by_cases same : entry.1 = key
  · simp [same]
  · simp [same]

/-- An extension changes the definition of its key only. -/
theorem at?_extend (known : Known) (key other : Key) (extension : Definition) :
    (known.extend key extension).at? other =
      if key = other then (known.at? other).map (·.extend extension) else known.at? other := by
  induction known with
  | nil => simp [extend, at?]
  | cons entry rest inductionHypothesis =>
    obtain ⟨found, definition⟩ := entry
    simp only [extend, at?, List.map_cons] at inductionHypothesis ⊢
    by_cases here : found = other
    · by_cases same : key = other
      · simp [here, same]
      · have away : other ≠ key := fun equal => same equal.symm
        simp [here, same, away]
    · by_cases same : found = key
      · have away : key ≠ other := fun equal => here (same.trans equal)
        simpa [here, same, away] using inductionHypothesis
      · simpa [here, same] using inductionHypothesis

theorem once_append (once : known.keys.Nodup) (missing : known.has key = false)
    (definition : Definition) : (keys (known ++ [(key, definition)])).Nodup := by
  have fresh : key ∉ known.keys := by
    rw [← has_iff, missing]
    exact Bool.false_ne_true
  rw [keys_append, List.nodup_append]
  refine ⟨once, by simp, ?_⟩
  intro before member last isLast equal
  obtain rfl := List.mem_singleton.mp isLast
  exact fresh (equal ▸ member)

theorem Sound.nil : Sound [] :=
  ⟨List.nodup_nil, fun _ member => absurd member List.not_mem_nil⟩

theorem Sound.extend (sound : known.Sound) (key : Key) (extension : Definition) :
    (known.extend key extension).Sound := by
  refine ⟨by rw [keys_extend]; exact sound.once, ?_⟩
  intro entry member
  obtain ⟨before, stands, rfl⟩ := List.mem_map.mp member
  by_cases same : before.1 = key
  · simpa [same] using (sound.own before stands).trans same
  · simpa [same] using sound.own before stands

theorem Sound.append (sound : known.Sound) (missing : known.has definition.key = false) :
    (known ++ [(definition.key, definition)]).Sound := by
  refine ⟨once_append sound.once missing definition, ?_⟩
  intro entry member
  rcases List.mem_append.mp member with before | last
  · exact sound.own entry before
  · obtain rfl : entry = (definition.key, definition) := by simpa using last
    rfl

/-- What is known under a key is the definition of that key. -/
theorem find?_definitions (own : ∀ entry ∈ known, entry.2.key = entry.1) (key : Key) :
    (known.map (·.2)).find? (·.key == key) = known.at? key := by
  induction known with
  | nil => rfl
  | cons entry rest inductionHypothesis =>
    obtain ⟨here, others⟩ := List.forall_mem_cons.mp own
    have tail := inductionHypothesis others
    rw [at?] at tail ⊢
    rw [List.map_cons, List.find?_cons, List.find?_cons, here, tail]
    cases entry.1 == key <;> rfl

end Known

/-! ## One step at one key -/

/-- What is read so far of one key: its definition, and the extensions that wait for one. -/
structure Pending where
  found : Option Definition := none
  waiting : List Definition := []

/-- Takes one more definition of the key. -/
def Pending.add (pending : Pending) (definition : Definition) : Pending :=
  match pending.found with
  | some found =>
    if definition.isExtension then { pending with found := some (found.extend definition) }
    else pending
  | none =>
    if definition.isExtension then { pending with waiting := pending.waiting ++ [definition] }
    else { pending with found := some definition }

/-- Places an extension of the key that waited. -/
def settleOwn (found : Option Definition) (extension : Definition) : Option Definition :=
  match found with
  | some definition => some (definition.extend extension)
  | none => some extension

/-- What a gathering has read of one key. -/
def Gathering.pending (gathering : Gathering) (key : Key) : Pending :=
  ⟨gathering.known.at? key, gathering.waiting.filter (·.key == key)⟩

theorem ofKey_cons (definition : Definition) (rest : List Definition) (key : Key) :
    ofKey (definition :: rest) key =
      if definition.key = key then definition :: ofKey rest key else ofKey rest key := by
  by_cases same : definition.key = key <;> simp [ofKey, same]

/-- A step of the gathering is a step at the key of its definition, and none at others. -/
theorem pending_add (gathering : Gathering) (definition : Definition) (key : Key) :
    (gathering.add definition).pending key =
      if definition.key = key then (gathering.pending key).add definition
      else gathering.pending key := by
  by_cases same : definition.key = key
  · rw [if_pos same, ← same]
    cases found : gathering.known.at? definition.key with
    | some before =>
      have known : gathering.known.has definition.key = true := by rw [Known.has_eq, found]; rfl
      cases late : definition.isExtension <;>
        simp [Gathering.add, Gathering.pending, Pending.add, known, found, late,
          Known.at?_extend]
    | none =>
      have missing : gathering.known.has definition.key = false := by
        rw [Known.has_eq, found]; rfl
      cases late : definition.isExtension <;>
        simp [Gathering.add, Gathering.pending, Pending.add, missing, found, late,
          Known.at?_append, Known.at?_singleton]
  · rw [if_neg same]
    cases known : gathering.known.has definition.key <;>
      cases late : definition.isExtension <;>
      simp [Gathering.add, Gathering.pending, known, late, same, Known.at?_extend,
        Known.at?_append, Known.at?_singleton]

/-- A run of the gathering, looked at from one key, is a run on the definitions of the key. -/
theorem pending_foldl (definitions : List Definition) (gathering : Gathering) (key : Key) :
    (definitions.foldl Gathering.add gathering).pending key =
      (ofKey definitions key).foldl Pending.add (gathering.pending key) := by
  induction definitions generalizing gathering with
  | nil => rfl
  | cons definition rest inductionHypothesis =>
    rw [List.foldl_cons, inductionHypothesis, pending_add, ofKey_cons]
    by_cases same : definition.key = key
    · rw [if_pos same, if_pos same, List.foldl_cons]
    · rw [if_neg same, if_neg same]

theorem at?_settle (known : Known) (extension : Definition) (key : Key) :
    (known.settle extension).at? key =
      if extension.typeKey = key then settleOwn (known.at? key) extension
      else known.at? key := by
  cases found : known.at? extension.typeKey with
  | some before =>
    have present : known.has extension.typeKey = true := by rw [Known.has_eq, found]; rfl
    rw [Known.settle, if_pos present, Known.at?_extend]
    by_cases same : extension.typeKey = key
    · rw [if_pos same, if_pos same, ← same, found]
      rfl
    · rw [if_neg same, if_neg same]
  | none =>
    have missing : ¬ known.has extension.typeKey = true := by
      rw [Known.has_eq, found]
      exact Bool.false_ne_true
    rw [Known.settle, if_neg missing, Known.at?_append, Known.at?_singleton]
    by_cases same : extension.typeKey = key
    · rw [if_pos same, if_pos same, ← same, found]
      rfl
    · rw [if_neg same, if_neg same, Option.or_none]

/-- The key of a type is the key of everything but a directive. -/
theorem typeKey_eq {definition : Definition} (isType : definition.kind ≠ .directive) :
    definition.typeKey = definition.key := by
  simp [Definition.typeKey, Definition.key, isType]

/-- Placing what waited, looked at from one key. -/
theorem at?_foldl_settle {waiting : List Definition}
    (types : ∀ extension ∈ waiting, extension.kind ≠ .directive) (known : Known) (key : Key) :
    (waiting.foldl Known.settle known).at? key =
      (ofKey waiting key).foldl settleOwn (known.at? key) := by
  induction waiting generalizing known with
  | nil => rfl
  | cons extension rest inductionHypothesis =>
    obtain ⟨isType, others⟩ := List.forall_mem_cons.mp types
    rw [List.foldl_cons, inductionHypothesis others, at?_settle, ofKey_cons, typeKey_eq isType]
    by_cases same : extension.key = key
    · rw [if_pos same, if_pos same, List.foldl_cons]
    · rw [if_neg same, if_neg same]

/-! ## The outcome at one key -/

/-- What is made of the definitions of one key. -/
def merged? (own : List Definition) : Option Definition :=
  let pending := own.foldl Pending.add {}
  pending.waiting.foldl settleOwn pending.found

/-- The definition that tells the name, kind and description: the first declaration, else the
first extension. -/
def base? (own : List Definition) : Option Definition :=
  (own.find? (!·.isExtension)).or own.head?

/-- The extensions whose contents are added to those of the base. -/
def contributions (own : List Definition) : List Definition :=
  if own.all (·.isExtension) then own.tail else own.filter (·.isExtension)

theorem settleOwn_some (definition : Definition) (waiting : List Definition) :
    waiting.foldl settleOwn (some definition) = some (definition.append waiting) := by
  induction waiting generalizing definition with
  | nil => rw [List.foldl_nil, Definition.append_nil]
  | cons extension rest inductionHypothesis =>
    rw [List.foldl_cons, settleOwn, inductionHypothesis, Definition.append_cons]

/-- Extensions wait as long as nothing is declared. -/
theorem pending_wait {early : List Definition}
    (extensions : ∀ extension ∈ early, extension.isExtension = true) (waiting : List Definition) :
    early.foldl Pending.add ⟨none, waiting⟩ = ⟨none, waiting ++ early⟩ := by
  induction early generalizing waiting with
  | nil => rw [List.foldl_nil, List.append_nil]
  | cons extension rest inductionHypothesis =>
    obtain ⟨isExtension, others⟩ := List.forall_mem_cons.mp extensions
    have added : Pending.add ⟨none, waiting⟩ extension = ⟨none, waiting ++ [extension]⟩ := by
      simp [Pending.add, isExtension]
    rw [List.foldl_cons, added, inductionHypothesis others, List.append_assoc,
      List.singleton_append]

/-- After a declaration extensions are folded in at once, and other declarations are passed
over. -/
theorem pending_fold (definition : Definition) (waiting late : List Definition) :
    late.foldl Pending.add ⟨some definition, waiting⟩ =
      ⟨some (definition.append (late.filter (·.isExtension))), waiting⟩ := by
  induction late generalizing definition with
  | nil => rw [List.foldl_nil, List.filter_nil, Definition.append_nil]
  | cons next rest inductionHypothesis =>
    cases isExtension : next.isExtension with
    | true =>
      have added : Pending.add ⟨some definition, waiting⟩ next =
          ⟨some (definition.extend next), waiting⟩ := by simp [Pending.add, isExtension]
      rw [List.foldl_cons, added, inductionHypothesis,
        List.filter_cons_of_pos isExtension, Definition.append_cons]
    | false =>
      have passed : Pending.add ⟨some definition, waiting⟩ next = ⟨some definition, waiting⟩ := by
        simp [Pending.add, isExtension]
      rw [List.foldl_cons, passed, inductionHypothesis,
        List.filter_cons_of_neg (by simp [isExtension])]

/-- Without a declaration the first extension stands for one, and the others follow. -/
theorem merged_undeclared {first : Definition} {rest : List Definition}
    (extensions : ∀ extension ∈ first :: rest, extension.isExtension = true) :
    merged? (first :: rest) = some (first.append rest) := by
  have waited := pending_wait extensions []
  rw [List.nil_append] at waited
  rw [merged?]
  show List.foldl settleOwn _ _ = _
  rw [waited]
  exact settleOwn_some first rest

/-- The extensions before the first declaration. -/
def earlyExtensions (own : List Definition) : List Definition :=
  own.takeWhile (·.isExtension)

/-- The extensions after the first declaration. -/
def lateExtensions (own : List Definition) : List Definition :=
  (own.dropWhile (·.isExtension)).filter (·.isExtension)

theorem early_extends (own : List Definition) :
    ∀ extension ∈ earlyExtensions own, extension.isExtension = true :=
  List.all_eq_true.mp List.all_takeWhile

/-- The extensions before the first declaration and those after it are all, in order. -/
theorem early_append_late (own : List Definition) :
    earlyExtensions own ++ lateExtensions own = own.filter (·.isExtension) := by
  have early : (earlyExtensions own).filter (·.isExtension) = earlyExtensions own :=
    List.filter_eq_self.mpr (early_extends own)
  calc earlyExtensions own ++ lateExtensions own
      = (earlyExtensions own ++ own.dropWhile (·.isExtension)).filter (·.isExtension) := by
        rw [List.filter_append, early, lateExtensions]
    _ = own.filter (·.isExtension) := by
        rw [earlyExtensions, List.takeWhile_append_dropWhile]

/-- With a declaration the late extensions come first. The early ones had to wait, and they
follow in their order. -/
theorem merged_declared {own : List Definition} {base : Definition}
    (declared : own.find? (!·.isExtension) = some base) :
    merged? own = some (base.append (lateExtensions own ++ earlyExtensions own)) := by
  obtain ⟨declares, early, late, rfl, before⟩ := List.find?_eq_some_iff_append.mp declared
  have isDeclaration : base.isExtension = false := by simpa using declares
  have extensions : ∀ extension ∈ early, extension.isExtension = true :=
    fun extension member => by simpa using before extension member
  have first : earlyExtensions (early ++ base :: late) = early := by
    rw [earlyExtensions, List.takeWhile_append_of_pos extensions,
      List.takeWhile_cons_of_neg (by simp [isDeclaration]), List.append_nil]
  have second : lateExtensions (early ++ base :: late) = late.filter (·.isExtension) := by
    rw [lateExtensions, List.dropWhile_append_of_pos extensions,
      List.dropWhile_cons_of_neg (by simp [isDeclaration]),
      List.filter_cons_of_neg (by simp [isDeclaration])]
  have placed : Pending.add ⟨none, early⟩ base = ⟨some base, early⟩ := by
    simp [Pending.add, isDeclaration]
  have gathered : (early ++ base :: late).foldl Pending.add {} =
      ⟨some (base.append (late.filter (·.isExtension))), early⟩ := by
    rw [List.foldl_append, pending_wait extensions, List.nil_append, List.foldl_cons, placed,
      pending_fold]
  rw [merged?, first, second]
  show List.foldl settleOwn _ _ = _
  rw [gathered, settleOwn_some, Definition.append_append]

/-- Definitions of one key that are not none have a base, and all the extensions besides it
contribute, each once. -/
theorem merged_some {own : List Definition} (given : own ≠ []) :
    ∃ base order, base? own = some base ∧ order.Perm (contributions own) ∧
      merged? own = some (base.append order) := by
  cases declared : own.find? (!·.isExtension) with
  | some base =>
    refine ⟨base, lateExtensions own ++ earlyExtensions own, ?_, ?_, merged_declared declared⟩
    · rw [base?, declared, Option.some_or]
    · have mixed : own.all (·.isExtension) = false := by
        have declares := List.find?_some declared
        have member := List.mem_of_find?_eq_some declared
        exact List.all_eq_false.mpr ⟨base, member, by simpa using declares⟩
      rw [contributions, mixed, if_neg Bool.false_ne_true, ← early_append_late]
      exact List.perm_append_comm
  | none =>
    have extensions : ∀ extension ∈ own, extension.isExtension = true := by
      simpa using List.find?_eq_none.mp declared
    cases own with
    | nil => exact absurd rfl given
    | cons first rest =>
      have whole : (first :: rest).all (·.isExtension) = true := List.all_eq_true.mpr extensions
      refine ⟨first, rest, ?_, ?_, merged_undeclared extensions⟩
      · rw [base?, declared, Option.none_or, List.head?_cons]
      · rw [contributions, if_pos whole, List.tail_cons]

end SchemaFixtures.Schema
