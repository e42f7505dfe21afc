import StaticDispatch.Proofs.TypeTable.Mirror
import StaticDispatch.TypeTable.Subtype

/-!
Contract: the subtype question, answered for mirroring tables.

The ancestors of a type are the least set with the type itself that is closed
under supertypes, so a class type is among them exactly if its host class is an
ancestor of the type's class. The subtype question always has an answer: whether
one demand implies the other. Types that are below each other are one type, unless
they pin values that cannot be keys.

Owns: ancestors, the answer to the subtype question, and types held once.
Does not own: disjointness.
-/

namespace StaticDispatch.TypeTable

variable {table : TypeTable} {id lower upper : TypeId}

/-- Every supertype is an older type of the table. -/
def Rooted (table : TypeTable) : Prop :=
  ∀ id definition, table.find? id = some definition → ∀ supertype ∈ definition.supertypes,
    supertype < id ∧ ∃ above, table.find? supertype = some above

theorem Mirrors.rooted (mirrors : table.Mirrors) : table.Rooted := by
  intro id definition found supertype above
  have reflected := mirrors.reflects id definition found
  cases definition with
  | top => simp [TypeDef.supertypes] at above
  | classType name supertypes host =>
      obtain ⟨cls, -, stands⟩ := reflected
      obtain ⟨older, base, -, baseHost⟩ := stands.above supertype above
      obtain ⟨_, _, present⟩ := hostAt?_eq_some_iff.mp baseHost
      exact ⟨older, _, present⟩
  | literalType value base =>
      obtain ⟨-, older, baseIs⟩ := reflected
      rw [List.mem_singleton.mp above]
      exact ⟨older, baseIs.defined⟩

/-! ## Ancestors -/

/-- A set of types that has the supertypes of each of its types, the top type left
out. -/
def Closed (table : TypeTable) (types : TypeId → Prop) : Prop :=
  ∀ id definition supertype, types id → table.find? id = some definition →
    supertype ∈ definition.supertypes → table.find? supertype ≠ some .top → types supertype

structure IsClosure (table : TypeTable) (start : TypeId → Prop) (found : List TypeId) : Prop where
  includes : ∀ id, start id → id ∈ found
  closed : table.Closed (· ∈ found)
  least : ∀ types, table.Closed types → (∀ id, start id → types id) → ∀ id ∈ found, types id

/-- Where a walk stands: what was seen, and what of the frontier will be. -/
def Reached (table : TypeTable) (seen frontier : List TypeId) (id : TypeId) : Prop :=
  id ∈ seen ∨ id ∈ frontier ∧ table.find? id ≠ some .top

theorem mem_unseen_iff {seen ids : List TypeId} : id ∈ unseen seen ids ↔ id ∈ ids ∧ id ∉ seen := by
  simp [unseen, List.mem_eraseDups]

private theorem ne_top_iff {definition : TypeDef} :
    definition.isTop = false ↔ definition ≠ .top := by
  cases definition <;> simp [TypeDef.isTop]

/-- One level of the walk: the types of the frontier are seen, and their supertypes
come next. -/
private theorem ancestorsFrom_succ {frontier : List TypeId} (nonempty : frontier ≠ [])
    (defined : ∀ id ∈ frontier, table.Defines id)
    (steps : Nat) (seen : List TypeId) :
    ∃ grown next,
      table.ancestorsFrom (steps + 1) seen frontier = table.ancestorsFrom steps grown next ∧
      (∀ id, id ∈ grown ↔ table.Reached seen frontier id) ∧
      ∀ supertype, supertype ∈ next ↔ supertype ∉ grown ∧ ∃ id definition, id ∈ frontier ∧
        table.find? id = some definition ∧ supertype ∈ definition.supertypes := by
  let definitionOf : TypeId → TypeId × TypeDef := fun id => (id, (table.find? id).getD .top)
  let below := (frontier.map definitionOf).filter fun pair => !pair.2.isTop
  have walked : frontier.mapM (fun id => (table.get id).map fun found => (id, found)) =
      .ok (frontier.map definitionOf) := by
    apply Traversal.mapM_ok
    intro id inside
    obtain ⟨definition, found⟩ := defined id inside
    simp [definitionOf, found, get, Except.map]
  have mem_below : ∀ id definition, (id, definition) ∈ below ↔
      id ∈ frontier ∧ table.find? id = some definition ∧ definition ≠ .top := by
    intro id definition
    simp only [below, List.mem_filter, List.mem_map, definitionOf, Bool.not_eq_true', ne_top_iff]
    constructor
    · rintro ⟨⟨other, inside, same⟩, proper⟩
      obtain ⟨rfl, rfl⟩ := Prod.mk.inj same
      obtain ⟨own, found⟩ := defined other inside
      exact ⟨inside, by simp [found], proper⟩
    · rintro ⟨inside, found, proper⟩
      exact ⟨⟨id, inside, by simp [found]⟩, proper⟩
  refine ⟨seen ++ below.map (·.1),
    unseen (seen ++ below.map (·.1)) (below.flatMap (·.2.supertypes)), ?_, ?_, ?_⟩
  · rw [ancestorsFrom, if_neg (by simpa using nonempty), walked]
    rfl
  · intro id
    simp only [List.mem_append, List.mem_map, Reached]
    refine or_congr_right ⟨?_, ?_⟩
    · rintro ⟨⟨other, definition⟩, inside, rfl⟩
      obtain ⟨inFrontier, found, proper⟩ := (mem_below other definition).mp inside
      exact ⟨inFrontier, by simpa [found] using proper⟩
    · rintro ⟨inFrontier, proper⟩
      obtain ⟨definition, found⟩ := defined id inFrontier
      exact ⟨(id, definition),
        (mem_below id definition).mpr ⟨inFrontier, found, by simpa [found] using proper⟩, rfl⟩
  · intro supertype
    rw [mem_unseen_iff, and_comm, List.mem_flatMap]
    refine and_congr_right fun _ => ⟨?_, ?_⟩
    · rintro ⟨⟨id, definition⟩, inside, above⟩
      obtain ⟨inFrontier, found, -⟩ := (mem_below id definition).mp inside
      exact ⟨id, definition, inFrontier, found, above⟩
    · rintro ⟨id, definition, inFrontier, found, above⟩
      have proper : definition ≠ .top := by
        rintro rfl
        cases above
      exact ⟨(id, definition), (mem_below id definition).mpr ⟨inFrontier, found, proper⟩, above⟩

/-- A walk keeps what it has seen closed, up to its frontier. -/
def Closing (table : TypeTable) (seen frontier : List TypeId) : Prop :=
  ∀ id definition supertype, id ∈ seen → table.find? id = some definition →
    supertype ∈ definition.supertypes → table.find? supertype ≠ some .top →
    supertype ∈ seen ∨ supertype ∈ frontier

private theorem isClosure_of_closing {seen : List TypeId} (closing : table.Closing seen []) :
    table.IsClosure (table.Reached seen []) seen where
  includes id reached := by simpa [Reached] using reached
  closed id definition supertype inside found above proper := by
    simpa using closing id definition supertype inside found above proper
  least types _ startIn id inside := startIn id (.inl inside)

/-- The walk ends with the least closed set above where it stands. Supertypes are
older, so the numbers in the frontier stay below the steps left. -/
private theorem ancestorsFrom_spec (rooted : table.Rooted) (steps : Nat)
    (seen frontier : List TypeId) (defined : ∀ id ∈ frontier, table.Defines id)
    (low : ∀ id ∈ frontier, id < steps) (closing : table.Closing seen frontier) :
    ∃ found, table.ancestorsFrom steps seen frontier = .ok found ∧
      table.IsClosure (table.Reached seen frontier) found := by
  induction steps generalizing seen frontier with
  | zero =>
      have nothing : frontier = [] := by
        rw [List.eq_nil_iff_forall_not_mem]
        intro id inside
        obtain ⟨definition, found⟩ := defined id inside
        exact absurd (low id inside) (Int.not_lt.mpr (Int.le_of_lt (bounds_of_find? found).1))
      subst nothing
      exact ⟨seen, rfl, isClosure_of_closing closing⟩
  | succ steps inductionHypothesis =>
      by_cases nonempty : frontier = []
      · subst nonempty
        exact ⟨seen, rfl, isClosure_of_closing closing⟩
      · obtain ⟨grown, next, level, mem_grown, mem_next⟩ :=
          ancestorsFrom_succ nonempty defined steps seen
        have nextSpec : ∀ supertype ∈ next, supertype < steps ∧
            table.Defines supertype := by
          intro supertype inside
          obtain ⟨-, id, definition, inFrontier, found, above⟩ := (mem_next supertype).mp inside
          obtain ⟨older, superDefined⟩ := rooted id definition found supertype above
          exact ⟨Int.lt_of_lt_of_le older (Int.lt_add_one_iff.mp (low id inFrontier)), superDefined⟩
        have closingNext : table.Closing grown next := by
          intro id definition supertype inside found above proper
          by_cases seenNow : supertype ∈ grown
          · exact Or.inl seenNow
          rcases (mem_grown id).mp inside with inSeen | ⟨inFrontier, -⟩
          · exact Or.inl ((mem_grown supertype).mpr
              ((closing id definition supertype inSeen found above proper).imp_right (⟨·, proper⟩)))
          · exact Or.inr ((mem_next supertype).mpr
              ⟨seenNow, id, definition, inFrontier, found, above⟩)
        obtain ⟨found, walked, closure⟩ := inductionHypothesis grown next
          (fun id inside => (nextSpec id inside).2) (fun id inside => (nextSpec id inside).1)
          closingNext
        refine ⟨found, level.trans walked, fun id reached => ?_, closure.closed, ?_⟩
        · exact closure.includes id (.inl ((mem_grown id).mpr reached))
        · intro types closed startIn
          refine closure.least types closed fun id reached => ?_
          rcases reached with inGrown | ⟨inNext, proper⟩
          · exact startIn id ((mem_grown id).mp inGrown)
          · obtain ⟨-, lower, definition, inFrontier, present, above⟩ := (mem_next id).mp inNext
            have lowerProper : table.find? lower ≠ some .top := by
              rw [present]
              rintro ⟨rfl⟩
              cases above
            exact closed lower definition id (startIn lower (.inr ⟨inFrontier, lowerProper⟩))
              present above proper

/-- The ancestors of a type are the least closed set with the type itself, unless it is
the top type. -/
theorem ancestors_closure (rooted : table.Rooted) {definition : TypeDef}
    (present : table.find? id = some definition) :
    ∃ found, table.ancestors id = .ok found ∧
      table.IsClosure (fun other => other = id ∧ table.find? id ≠ some .top) found := by
  obtain ⟨found, walked, closure⟩ :=
    ancestorsFrom_spec rooted (table.definitions.size + 1) [] [id]
      (by simpa using ⟨definition, present⟩) (by
        intro other isOther
        rw [List.mem_singleton.mp isOther]
        exact Int.lt_add_one_of_le (bounds_of_find? present).2)
      (by simp [Closing])
  have reached : table.Reached [] [id] = fun other => other = id ∧ table.find? id ≠ some .top := by
    funext other
    simp only [Reached, List.not_mem_nil, List.mem_singleton, false_or, eq_iff_iff]
    refine and_congr_right ?_
    rintro rfl
    exact Iff.rfl
  exact ⟨found, walked, reached ▸ closure⟩

/-- The ancestors of a type are the least closed set with the type itself. -/
private theorem ancestors_spec (rooted : table.Rooted) {definition : TypeDef}
    (present : table.find? id = some definition) (proper : definition ≠ .top) :
    ∃ found, table.ancestors id = .ok found ∧ table.IsClosure (· = id) found := by
  obtain ⟨found, walked, closure⟩ := ancestors_closure rooted present
  have start : (fun other => other = id ∧ table.find? id ≠ some .top) = (· = id) := by
    simp [present, proper]
  exact ⟨found, walked, start ▸ closure⟩

/-! ## Classes of ancestors -/

theorem Mirrors.knows_demand (mirrors : table.Mirrors) {definition : TypeDef}
    (present : table.find? id = some definition) :
    table.classes.Knows (Demand.ofDef definition).cls := by
  have reflected := mirrors.reflects id definition present
  cases definition with
  | top => exact mirrors.wellFormed.root
  | classType name supertypes host =>
      obtain ⟨cls, rfl, stands⟩ := reflected
      exact stands.known
  | literalType value base => exact reflected.1

/-- The host class of a supertype is an ancestor of the class of a type. -/
theorem Mirrors.supertype_host (mirrors : table.Mirrors) {definition : TypeDef}
    (present : table.find? id = some definition) {supertype : TypeId}
    (above : supertype ∈ definition.supertypes) (proper : table.find? supertype ≠ some .top) :
    ∃ cls, table.hostAt? supertype = some cls ∧
      cls ∈ table.classes.linearization (Demand.ofDef definition).cls := by
  have reflected := mirrors.reflects id definition present
  cases definition with
  | top => cases above
  | classType name supertypes host =>
      obtain ⟨cls, rfl, stands⟩ := reflected
      obtain ⟨-, base, isBase, baseHost⟩ := stands.above supertype above
      obtain ⟨-, baseKnown, kept⟩ := mirrors.wellFormed.sublist_of_base isBase
      exact ⟨base, baseHost, kept.subset (mirrors.wellFormed.self_mem baseKnown)⟩
  | literalType value base =>
      obtain ⟨known, -, baseIs⟩ := reflected
      rw [List.mem_singleton.mp above] at proper ⊢
      unfold IsTypeOf at baseIs
      split at baseIs
      · exact absurd baseIs proper
      · exact ⟨value.cls, baseIs, mirrors.wellFormed.self_mem known⟩

/-- A closed set with the type of a class has the types of all its ancestors. -/
theorem Mirrors.closed_upward (mirrors : table.Mirrors) {types : TypeId → Prop}
    (closed : table.Closed types) {cls ancestor : ClassId} (host : table.hostAt? id = some cls)
    (inside : types id) (above : ancestor ∈ table.classes.linearization cls)
    (proper : ancestor ≠ Hierarchy.objectClass) :
    ∃ upper, table.hostAt? upper = some ancestor ∧ types upper := by
  induction cls using Nat.strongRecOn generalizing id with
  | ind cls inductionHypothesis =>
      rcases mirrors.wellFormed.mem_cases above with rfl | ⟨base, isBase, aboveBase⟩
      · exact ⟨id, host, inside⟩
      · have baseProper : base ≠ Hierarchy.objectClass := by
          rintro rfl
          exact proper (mirrors.wellFormed.eq_root_of_mem aboveBase)
        obtain ⟨name, supertypes, present⟩ := hostAt?_eq_some_iff.mp host
        obtain ⟨own, isOwn, stands⟩ := mirrors.standsFor present
        cases isOwn
        obtain ⟨supertype, isSupertype, baseHost⟩ := stands.bases base isBase baseProper
        have notTop : table.find? supertype ≠ some .top := by
          intro isTop
          simp [hostAt?, isTop, TypeDef.host?] at baseHost
        exact inductionHypothesis base (mirrors.wellFormed.sublist_of_base isBase).1 baseHost
          (closed id _ supertype inside present isSupertype notTop) aboveBase

theorem demand_of_hostAt? {definition : TypeDef} {cls : ClassId}
    (present : table.find? id = some definition) (host : table.hostAt? id = some cls) :
    Demand.ofDef definition = ⟨cls, none⟩ := by
  obtain ⟨name, supertypes, found⟩ := hostAt?_eq_some_iff.mp host
  rw [present] at found
  cases found
  rfl

/-- A class type is an ancestor exactly if its host class is one. -/
private theorem mem_ancestors_iff (mirrors : table.Mirrors) {definition : TypeDef}
    (present : table.find? lower = some definition) (proper : definition ≠ .top)
    {cls : ClassId} (host : table.hostAt? upper = some cls) :
    ∃ found, table.ancestors lower = .ok found ∧
      (upper ∈ found ↔ cls ∈ table.classes.linearization (Demand.ofDef definition).cls) := by
  obtain ⟨found, walked, closure⟩ := ancestors_spec mirrors.rooted present proper
  have clsProper := (mirrors.knows_of_hostAt? host).2
  refine ⟨found, walked, fun inside => ?_, fun above => ?_⟩
  · -- The type itself and all types of ancestors of its class form a closed set.
    let types : TypeId → Prop := fun id => id = lower ∨ ∃ own, table.hostAt? id = some own ∧
      own ∈ table.classes.linearization (Demand.ofDef definition).cls
    have closed : table.Closed types := by
      rintro id own supertype (rfl | ⟨ownHost, isHost, ownAbove⟩) found above notTop
      · rw [present] at found
        cases found
        exact Or.inr (mirrors.supertype_host present above notTop)
      · obtain ⟨superHost, isSuperHost, superAbove⟩ := mirrors.supertype_host found above notTop
        rw [demand_of_hostAt? found isHost] at superAbove
        exact Or.inr ⟨superHost, isSuperHost, mirrors.wellFormed.mem_trans ownAbove superAbove⟩
    rcases closure.least types closed (fun id isLower => .inl isLower) upper inside with
      rfl | ⟨own, isHost, ownAbove⟩
    · rw [demand_of_hostAt? present host]
      exact mirrors.wellFormed.self_mem (mirrors.knows_of_hostAt? host).1
    · rw [host] at isHost
      cases isHost
      exact ownAbove
  · have start : ∃ id ∈ found, table.hostAt? id = some (Demand.ofDef definition).cls := by
      have reflected := mirrors.reflects lower definition present
      cases definition with
      | top => exact absurd rfl proper
      | classType name supertypes own =>
          obtain ⟨ownCls, rfl, -⟩ := reflected
          exact ⟨lower, closure.includes lower rfl,
            hostAt?_eq_some_iff.mpr ⟨name, supertypes, present⟩⟩
      | literalType value base =>
          obtain ⟨-, -, baseIs⟩ := reflected
          have notRoot : value.cls ≠ Hierarchy.objectClass := by
            intro isRoot
            change cls ∈ table.classes.linearization value.cls at above
            rw [isRoot] at above
            exact clsProper (mirrors.wellFormed.eq_root_of_mem above)
          rw [IsTypeOf, if_neg notRoot] at baseIs
          have notTop : table.find? base ≠ some .top := by
            intro isTop
            simp [hostAt?, isTop, TypeDef.host?] at baseIs
          exact ⟨base, closure.closed lower _ base (closure.includes lower rfl) present
            (by simp [TypeDef.supertypes]) notTop, baseIs⟩
    obtain ⟨id, inside, startHost⟩ := start
    obtain ⟨other, otherHost, otherInside⟩ :=
      mirrors.closed_upward closure.closed startHost inside above clsProper
    rwa [mirrors.oneHost upper other cls host otherHost]

/-! ## The subtype question -/

private theorem Demand.implies_refl {hierarchy : Hierarchy} (wellFormed : hierarchy.WellFormed)
    {demand : Demand} (known : hierarchy.Knows demand.cls) :
    demand.implies hierarchy demand = true := by
  have self := Hierarchy.isSubclass_iff.mpr (wellFormed.self_mem known)
  cases pinned : demand.pinned with
  | none => simp [implies, self, pinned]
  | some value => simp [implies, self, pinned, Value.eql_self]

theorem isSubtypeWithin_self (table : TypeTable) (steps : Nat) (id : TypeId) :
    table.isSubtypeWithin (steps + 1) id id = .ok true := by
  simp [isSubtypeWithin]

/-- Below another class type, a type is judged by its ancestors. -/
private theorem isSubtype_class (mirrors : table.Mirrors) {lowerDef : TypeDef} {cls : ClassId}
    (lowerFound : table.find? lower = some lowerDef) (upperHost : table.hostAt? upper = some cls)
    (different : lower ≠ upper) :
    table.isSubtype lower upper =
      .ok (table.classes.isSubclass (Demand.ofDef lowerDef).cls cls) := by
  obtain ⟨name, supertypes, upperFound⟩ := hostAt?_eq_some_iff.mp upperHost
  have proper := (mirrors.knows_of_hostAt? upperHost).2
  unfold isSubtype isSubtypeWithin
  rw [if_neg different, get_of_find? upperFound, get_of_find? lowerFound]
  by_cases isTop : lowerDef = .top
  · subst isTop
    have notBelow : table.classes.isSubclass Hierarchy.objectClass cls = false := by
      rw [Bool.eq_false_iff]
      intro below
      exact proper (mirrors.wellFormed.eq_root_of_mem (Hierarchy.isSubclass_iff.mp below))
    rw [Demand.ofDef_top, notBelow]
    rfl
  · obtain ⟨found, walked, mem_found⟩ := mem_ancestors_iff mirrors lowerFound isTop upperHost
    have answer : found.contains upper =
        table.classes.isSubclass (Demand.ofDef lowerDef).cls cls := by
      rw [Bool.eq_iff_iff, List.contains_iff_mem, mem_found, Hierarchy.isSubclass_iff]
    rw [← answer]
    cases lowerDef with
    | top => exact absurd rfl isTop
    | classType own ownSupertypes host => simp [TypeDef.isTop, walked]
    | literalType value base => simp [TypeDef.isTop, walked]

/-- Below another literal type there are only literal types of equal values. -/
private theorem isSubtype_literal (mirrors : table.Mirrors) {lowerDef : TypeDef} {value : Value}
    {base : TypeId} (lowerFound : table.find? lower = some lowerDef)
    (upperFound : table.find? upper = some (.literalType value base)) (different : lower ≠ upper) :
    table.isSubtype lower upper = .ok ((Demand.ofDef lowerDef).pinned.any (·.eql value)) := by
  unfold isSubtype isSubtypeWithin
  rw [if_neg different, get_of_find? upperFound, get_of_find? lowerFound]
  have reflected := mirrors.reflects lower lowerDef lowerFound
  cases lowerDef with
  | top => rfl
  | classType own supertypes host => rfl
  | literalType own ownBase =>
      by_cases equal : own.eql value = true
      · -- Equal values are of one class, so both stand over the type of that class.
        obtain ⟨-, -, ownBaseIs⟩ := reflected
        obtain ⟨-, -, baseIs⟩ := mirrors.reflects upper _ upperFound
        rw [Value.cls_eq_of_eql equal] at ownBaseIs
        have sameBase := mirrors.isTypeOf_unique ownBaseIs baseIs
        obtain ⟨steps, size⟩ : ∃ steps, table.definitions.size = steps + 1 :=
          Nat.exists_eq_succ_of_ne_zero (Nat.ne_of_gt (size_pos_of_find? upperFound))
        simp [equal, sameBase, size, isSubtypeWithin_self, TypeDef.isTop]
      · simp [equal, TypeDef.isTop]

/-- **The subtype question always has an answer**: whether the demand of the lower
type implies that of the upper type. -/
theorem isSubtype_eq (mirrors : table.Mirrors) {lowerDef upperDef : TypeDef}
    (lowerFound : table.find? lower = some lowerDef)
    (upperFound : table.find? upper = some upperDef) :
    table.isSubtype lower upper =
      .ok ((Demand.ofDef lowerDef).implies table.classes (Demand.ofDef upperDef)) := by
  have lowerKnown := mirrors.knows_demand lowerFound
  by_cases different : lower = upper
  · subst different
    rw [lowerFound] at upperFound
    cases upperFound
    rw [Demand.implies_refl mirrors.wellFormed lowerKnown, isSubtype, isSubtypeWithin_self]
  cases upperDef with
  | top =>
      have rootAbove := Hierarchy.isSubclass_iff.mpr (mirrors.wellFormed.root_mem lowerKnown)
      rw [isSubtype, isSubtypeWithin, if_neg different, get_of_find? upperFound]
      simp [Demand.implies, rootAbove, TypeDef.isTop]
  | classType name supertypes host =>
      obtain ⟨cls, rfl, -⟩ := mirrors.standsFor upperFound
      have upperHost := hostAt?_eq_some_iff.mpr ⟨name, supertypes, upperFound⟩
      rw [isSubtype_class mirrors lowerFound upperHost different]
      simp [Demand.implies]
  | literalType value base =>
      rw [isSubtype_literal mirrors lowerFound upperFound different]
      cases lowerDef with
      | top => simp [Demand.implies]
      | classType own ownSupertypes host =>
          obtain ⟨cls, rfl, -⟩ := mirrors.standsFor lowerFound
          simp [Demand.implies]
      | literalType own ownBase =>
          have sameClass : own.eql value = true →
              table.classes.isSubclass own.cls value.cls = true := fun equal => by
            rw [← Value.cls_eq_of_eql equal]
            exact Hierarchy.isSubclass_iff.mpr (mirrors.wellFormed.self_mem lowerKnown)
          cases equal : own.eql value with
          | true => simp [Demand.implies, equal, sameClass equal]
          | false => simp [Demand.implies, equal]

/-! ## Types below others -/

theorem Demand.implies_trans {hierarchy : Hierarchy} (wellFormed : hierarchy.WellFormed)
    {lower middle upper : Demand} (before : lower.implies hierarchy middle = true)
    (after : middle.implies hierarchy upper = true) : lower.implies hierarchy upper = true := by
  simp only [implies, Bool.and_eq_true, Hierarchy.isSubclass_iff] at before after ⊢
  refine ⟨wellFormed.mem_trans before.1 after.1, ?_⟩
  cases upperPinned : upper.pinned with
  | none => rfl
  | some wanted =>
      cases middlePinned : middle.pinned with
      | none => simp [upperPinned, middlePinned] at after
      | some pinned =>
          cases lowerPinned : lower.pinned with
          | none => simp [middlePinned, lowerPinned] at before
          | some own =>
              simp only [upperPinned, middlePinned, lowerPinned, Option.all_some,
                Option.any_some] at before after ⊢
              exact Value.eql_trans before.2 after.2

/-- Whether the demand of one type implies that of another. -/
def isBelow (table : TypeTable) (lower upper : TypeId) : Bool :=
  (table.find? lower).any fun lowerDef => (table.find? upper).any fun upperDef =>
    (Demand.ofDef lowerDef).implies table.classes (Demand.ofDef upperDef)

theorem isBelow_iff : table.isBelow lower upper = true ↔ ∃ lowerDef upperDef,
    table.find? lower = some lowerDef ∧ table.find? upper = some upperDef ∧
      (Demand.ofDef lowerDef).implies table.classes (Demand.ofDef upperDef) = true := by
  simp only [isBelow, Option.any_eq_true]
  constructor
  · rintro ⟨lowerDef, lowerFound, upperDef, upperFound, implied⟩
    exact ⟨lowerDef, upperDef, lowerFound, upperFound, implied⟩
  · rintro ⟨lowerDef, upperDef, lowerFound, upperFound, implied⟩
    exact ⟨lowerDef, lowerFound, upperDef, upperFound, implied⟩

theorem isBelow_trans {middle : TypeId} (mirrors : table.Mirrors)
    (before : table.isBelow lower middle = true)
    (after : table.isBelow middle upper = true) : table.isBelow lower upper = true := by
  obtain ⟨lowerDef, middleDef, lowerFound, middleFound, lowerImplies⟩ := isBelow_iff.mp before
  obtain ⟨otherDef, upperDef, otherFound, upperFound, middleImplies⟩ := isBelow_iff.mp after
  rw [middleFound] at otherFound
  cases otherFound
  exact isBelow_iff.mpr ⟨lowerDef, upperDef, lowerFound, upperFound,
    Demand.implies_trans mirrors.wellFormed lowerImplies middleImplies⟩

/-- Types that are below each other are one, unless they pin values that cannot be keys. -/
private theorem isBelow_antisymm (mirrors : table.Mirrors) {lowerDef upperDef : TypeDef}
    (lowerFound : table.find? lower = some lowerDef)
    (upperFound : table.find? upper = some upperDef)
    (keys : ∀ own pinned, lowerDef.pinned? = some own → upperDef.pinned? = some pinned →
      own.isHashable = true ∧ pinned.isHashable = true)
    (below : table.isBelow lower upper = true) (above : table.isBelow upper lower = true) :
    lower = upper := by
  have implied : (Demand.ofDef lowerDef).implies table.classes (Demand.ofDef upperDef) = true := by
    simpa [isBelow, lowerFound, upperFound] using below
  have implies : (Demand.ofDef upperDef).implies table.classes (Demand.ofDef lowerDef) = true := by
    simpa [isBelow, lowerFound, upperFound] using above
  simp only [Demand.implies, Bool.and_eq_true, Hierarchy.isSubclass_iff] at implied implies
  have sameClass := mirrors.wellFormed.mem_antisymm implied.1 implies.1
  have lowerReflects := mirrors.reflects lower lowerDef lowerFound
  have upperReflects := mirrors.reflects upper upperDef upperFound
  cases lowerDef with
  | top =>
      cases upperDef with
      | top => exact mirrors.oneTop lower upper lowerFound upperFound
      | classType name supertypes host =>
          obtain ⟨cls, rfl, stands⟩ := upperReflects
          exact absurd sameClass.symm stands.proper
      | literalType pinned base => simp at implied
  | classType name supertypes host =>
      obtain ⟨cls, rfl, stands⟩ := lowerReflects
      cases upperDef with
      | top => exact absurd sameClass stands.proper
      | classType otherName otherSupertypes otherHost =>
          obtain ⟨otherCls, rfl, -⟩ := upperReflects
          cases sameClass
          exact mirrors.oneHost lower upper cls
            (hostAt?_eq_some_iff.mpr ⟨name, supertypes, lowerFound⟩)
            (hostAt?_eq_some_iff.mpr ⟨otherName, otherSupertypes, upperFound⟩)
      | literalType pinned base => simp at implied
  | literalType own ownBase =>
      cases upperDef with
      | top => simp at implies
      | classType name supertypes host =>
          obtain ⟨cls, rfl, -⟩ := upperReflects
          simp at implies
      | literalType pinned base =>
          obtain ⟨ownKey, pinnedKey⟩ := keys own pinned rfl rfl
          exact mirrors.onePinned lower upper own pinned ownBase base lowerFound upperFound
            ownKey pinnedKey (by simpa using implied.2)

/-- A type that no other type of the table is the same as. -/
def HoldsOnce (table : TypeTable) (id : TypeId) : Prop :=
  ∀ other, table.isBelow id other = true → table.isBelow other id = true → id = other

/-- A table holds a class once. Only a literal type can be held twice. -/
theorem Mirrors.holdsOnce (mirrors : table.Mirrors) {definition : TypeDef}
    (found : table.find? id = some definition) (unpinned : definition.pinned? = none) :
    table.HoldsOnce id := by
  intro other below above
  obtain ⟨-, otherDef, -, otherFound, -⟩ := isBelow_iff.mp below
  refine isBelow_antisymm mirrors found otherFound ?_ below above
  intro own pinned isOwn
  rw [unpinned] at isOwn
  cases isOwn

end StaticDispatch.TypeTable
