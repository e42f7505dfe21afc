import StaticDispatch.Proofs.ParamList

/-!
Contract: what a call binds to parameters, and that it can be passed on.

A binding has a value for each required, optional and keyword parameter. What goes on to
the rest parameter and to the other keys had a place there, so the call that passes a
binding on has a place for everything, and it binds the same again.

Owns: bindings of a call, and binding what is passed on.
Does not own: the texts of parameters and arguments.
-/

namespace StaticDispatch.ParamList

variable {params : ParamList} {call : Call} {binding : Binding}

private theorem hasPlaces_iff : params.hasPlaces call = true ↔
    (params.rest.isSome = true ∨ call.positional.length ≤ params.positionalNames.length) ∧
      ∀ entry ∈ call.named,
        entry.1 ∉ params.positionalNames.take call.positional.length ∧
          (params.otherKeys.isSome = true ∨ entry.1 ∈ params.keyNames) := by
  simp [hasPlaces, List.all_eq_true]

/-- What it means for a call to bind values to all parameters. -/
structure Binds (params : ParamList) (call : Call) (binding : Binding) : Prop where
  places : params.hasPlaces call = true
  required : params.required.zipIdx.mapM (fun (name, index) => argumentAt? call name index) =
    some binding.required
  optional : binding.optional = params.optional.zipIdx.map fun (param, index) =>
    (argumentAt? call param.name (params.arity + index)).getD param.fallback
  rest : binding.rest = call.positional.drop params.positionalNames.length
  keywords : binding.keywords =
    params.keywords.map fun param => (call.named? param.name).getD param.fallback
  otherKeys : binding.otherKeys =
    call.named.filter fun (name, _) => !params.keyNames.contains name

theorem bind?_eq_some_iff : params.bind? call = some binding ↔ params.Binds call binding := by
  unfold bind?
  constructor
  · intro bound
    split at bound
    · rename_i places
      obtain ⟨required, requiredAre, same⟩ := Option.bind_eq_some_iff.mp bound
      cases same
      exact ⟨places, requiredAre, rfl, rfl, rfl, rfl⟩
    · cases bound
  · rintro ⟨places, required, optional, rest, keywords, otherKeys⟩
    rw [if_pos places, required]
    cases binding
    simp_all

namespace Binds

variable (binds : params.Binds call binding)

include binds

theorem length_required : binding.required.length = params.required.length := by
  have lengths := (Traversal.mapM_eq_some_iff.mp binds.required).length_eq
  simpa using lengths.symm

theorem length_optional : binding.optional.length = params.optional.length := by
  simp [binds.optional]

theorem length_keywords : binding.keywords.length = params.keywords.length := by
  simp [binds.keywords]

private theorem length_positional : params.positionalNames.length =
    (binding.required ++ binding.optional).length := by
  simp [positionalNames, binds.length_required, binds.length_optional]

theorem rest_eq_nil (noRest : params.rest.isSome = false) : binding.rest = [] := by
  have fits := (hasPlaces_iff.mp binds.places).1.resolve_left (by simp [noRest])
  rw [binds.rest, List.drop_eq_nil_iff]
  exact fits

/-- Other keys have a place of their own, and no parameter has their name. -/
theorem otherKey_spec {entry : String × Value} (inside : entry ∈ binding.otherKeys) :
    entry.1 ∉ params.keyNames ∧ params.otherKeys.isSome = true := by
  rw [binds.otherKeys, List.mem_filter] at inside
  have unnamed : entry.1 ∉ params.keyNames := by simpa using inside.2
  have place := (hasPlaces_iff.mp binds.places).2 entry inside.1
  exact ⟨unnamed, place.2.resolve_right unnamed⟩

theorem otherKeys_distinct (distinct : (call.named.map (·.1)).Nodup) :
    (binding.otherKeys.map (·.1)).Nodup := by
  rw [binds.otherKeys]
  exact distinct.sublist (List.filter_sublist.map _)

end Binds

/-- Among names that differ, the value under a name is the one at its place. -/
theorem find?_zip {names : List String} {name : String} {index : Nat} (distinct : names.Nodup)
    (isName : names[index]? = some name) (values : List Value) :
    ((names.zip values).find? (·.1 = name)).map (·.2) = values[index]? := by
  induction names generalizing values index with
  | nil => cases isName
  | cons first rest inductionHypothesis =>
      obtain ⟨absent, restDistinct⟩ := List.nodup_cons.mp distinct
      cases values with
      | nil => rfl
      | cons value values =>
          cases index with
          | zero =>
              cases isName
              simp
          | succ index =>
              have different : first ≠ name := by
                rintro rfl
                exact absent (List.mem_of_getElem? isName)
              rw [List.zip_cons_cons, List.find?_cons_of_neg (by simpa using different),
                List.getElem?_cons_succ]
              exact inductionHypothesis restDistinct isName values

private theorem names_eq (params : ParamList) : params.names = params.positionalNames ++
    params.rest.toList ++ params.keywords.map (·.name) ++ params.otherKeys.toList := rfl

/-- Keyword parameters are not filled by position. -/
private theorem not_mem_positionalNames (distinct : params.names.Nodup) {name : String}
    (isKeyword : name ∈ params.keywords.map (·.name)) : name ∉ params.positionalNames := by
  rw [names_eq, List.append_assoc, List.append_assoc] at distinct
  intro isPositional
  exact (List.disjoint_of_nodup_append distinct) isPositional (by simp [isKeyword])

theorem keywords_distinct (distinct : params.names.Nodup) :
    (params.keywords.map (·.name)).Nodup := by
  rw [names_eq] at distinct
  exact distinct.of_append_left.of_append_right

/-- A keyword parameter gets back what was passed on for it. -/
private theorem named?_forward (distinct : params.names.Nodup) {index : Nat} {param : DefaultParam}
    (isParam : params.keywords[index]? = some param) {value : Value}
    (isValue : binding.keywords[index]? = some value) :
    (params.forward binding).named? param.name = some value := by
  have isName : (params.keywords.map (·.name))[index]? = some param.name := by
    rw [List.getElem?_map, isParam, Option.map_some]
  have found := find?_zip (keywords_distinct distinct) isName binding.keywords
  rw [isValue, Option.map_eq_some_iff] at found
  obtain ⟨entry, isEntry, isValue⟩ := found
  rw [Call.named?, forward, List.find?_append, isEntry, Option.some_or, Option.map_some, isValue]

private theorem name_mem_of_mem_zip {values : List Value} {entry : String × Value}
    (inside : entry ∈ (params.keywords.map (·.name)).zip values) :
    entry.1 ∈ params.keywords.map (·.name) :=
  (List.of_mem_zip inside).1

/-- What is passed on has places: what is left over only if it was left over before. -/
private theorem Binds.hasPlaces_forward (binds : params.Binds call binding)
    (distinct : params.names.Nodup) : params.hasPlaces (params.forward binding) = true := by
  refine hasPlaces_iff.mpr ⟨?_, fun entry inside => ?_⟩
  · cases hasRest : params.rest.isSome with
    | true => exact Or.inl rfl
    | false =>
        refine Or.inr ?_
        simp [ParamList.forward, binds.rest_eq_nil hasRest, binds.length_positional]
  · rcases List.mem_append.mp inside with isKeyword | isOther
    · have isName := name_mem_of_mem_zip isKeyword
      refine ⟨fun filled => ?_, Or.inr (by simp [keyNames, isName])⟩
      exact not_mem_positionalNames distinct isName (List.mem_of_mem_take filled)
    · obtain ⟨unnamed, hasPlace⟩ := binds.otherKey_spec isOther
      refine ⟨fun filled => unnamed ?_, Or.inl hasPlace⟩
      exact List.mem_append_left _ (List.mem_of_mem_take filled)

/-- What is passed on under a name that no parameter has is what was given so. -/
private theorem Binds.otherKeys_forward (binds : params.Binds call binding) : binding.otherKeys =
    (params.forward binding).named.filter fun (name, _) => !params.keyNames.contains name := by
  have noKeywords : ((params.keywords.map (·.name)).zip binding.keywords).filter
      (fun (name, _) => !params.keyNames.contains name) = [] := by
    rw [List.filter_eq_nil_iff]
    intro entry inside
    simp [keyNames, name_mem_of_mem_zip inside]
  have allOthers : binding.otherKeys.filter
      (fun (name, _) => !params.keyNames.contains name) = binding.otherKeys := by
    rw [List.filter_eq_self]
    intro entry inside
    simpa using (binds.otherKey_spec inside).1
  rw [ParamList.forward, List.filter_append, noKeywords, allOthers, List.nil_append]

/-- **What is passed on binds the same again.** -/
theorem Binds.forward (binds : params.Binds call binding) (distinct : params.names.Nodup) :
    params.Binds (params.forward binding) binding where
  places := binds.hasPlaces_forward distinct
  required := by
    rw [Traversal.mapM_eq_some_iff, List.forall₂_iff_get]
    refine ⟨by simp [binds.length_required], fun index _ isIndex => ?_⟩
    simp [argumentAt?, ParamList.forward, List.getElem?_append_left, isIndex]
  optional := by
    apply List.ext_getElem
    · simp [binds.length_optional]
    · intro index isIndex _
      have value : (params.forward binding).positional[params.arity + index]? =
          some binding.optional[index] := by
        rw [ParamList.forward, List.append_assoc, arity, ← binds.length_required,
          List.getElem?_append_right (Nat.le_add_right ..), Nat.add_sub_cancel_left,
          List.getElem?_append_left isIndex, List.getElem?_eq_getElem isIndex]
      simp [argumentAt?, value]
  rest := by rw [ParamList.forward, binds.length_positional, List.drop_left]
  keywords := by
    apply List.ext_getElem
    · simp [binds.length_keywords]
    · intro index isIndex isParam
      rw [List.length_map] at isParam
      rw [List.getElem_map, named?_forward distinct (List.getElem?_eq_getElem isParam)
        (List.getElem?_eq_getElem isIndex), Option.getD_some]
  otherKeys := binds.otherKeys_forward

end StaticDispatch.ParamList
