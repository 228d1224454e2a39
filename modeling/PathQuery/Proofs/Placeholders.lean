import PathQuery.Adapter.Registry
import PathQuery.Proofs.Plans

namespace PathQuery

section Names

variable {marker : Marker} {context : Context} {name : String}

/-- Names collected without repetition are the names there are. -/
theorem mem_collected (names found : List String) :
    name ∈
      names.foldl (fun found next => if found.contains next then found else found ++ [next]) found ↔
      name ∈ found ∨ name ∈ names := by
  induction names generalizing found with
  | nil => simp
  | cons next names ih =>
    rw [List.foldl_cons, ih, List.mem_cons]
    by_cases hc : found.contains next = true
    · have hm : next ∈ found := List.contains_iff_mem.mp hc
      rw [if_pos hc]
      constructor
      · rintro (h | h)
        · exact .inl h
        · exact .inr (.inr h)
      · rintro (h | rfl | h)
        · exact .inl h
        · exact .inl hm
        · exact .inr h
    · rw [if_neg hc, List.mem_append, List.mem_singleton, or_assoc]

theorem mem_names_in {leaves : List String} :
    name ∈ marker.namesIn leaves ↔ ∃ leaf ∈ leaves, name ∈ marker.names leaf := by
  rw [Marker.namesIn, mem_collected, List.mem_flatMap]
  simp

/-- The names of a query are those of its clauses. -/
theorem mem_placeholders {query : Query} : name ∈ query.placeholders marker ↔
    (∃ leaf ∈ Clause.leaves query.fields, name ∈ marker.names leaf) ∨
    (∃ leaf ∈ Clause.leaves query.filters, name ∈ marker.names leaf) ∨
    (∃ leaf ∈ Clause.leaves query.sort, name ∈ marker.names leaf) ∨
    ∃ limit, query.limit = some limit ∧ name ∈ marker.names limit := by
  rw [Query.placeholders, mem_names_in, Query.leaves]
  simp only [List.mem_append, Option.mem_toList, or_and_right, exists_or, or_assoc]

section Clauses

variable {α : Type} [Clause α] {clause : α}

theorem has_placeholders_eq_false :
    marker.hasPlaceholders clause = false ↔
      ∀ leaf ∈ Clause.leaves clause, marker.names leaf = [] := by
  simp [Marker.hasPlaceholders]

variable [LawfulClause α]

/-- A clause that is resolved has no placeholder without a value. -/
theorem find_of_resolve {resolved : α} (h : marker.resolve context clause = .ok resolved)
    (hn : ∃ leaf ∈ Clause.leaves clause, name ∈ marker.names leaf) :
    (context.find? name).isSome = true := by
  obtain ⟨leaf, hm, hn⟩ := hn
  unfold Marker.resolve at h
  split at h
  · obtain ⟨filled, hf⟩ := (LawfulClause.fills_all (marker.fill context) clause).ok h leaf hm
    exact Marker.find_of_fill hf name hn
  · rename_i hno
    rw [has_placeholders_eq_false.mp (Bool.eq_false_iff.mpr hno) leaf hm] at hn
    cases hn

/-- A value that is missed is that of a placeholder of the clause. -/
theorem missing_of_substitute
    (h : Clause.substitute (marker.fill context) clause = .error (.missingValue name)) :
    context.find? name = none ∧ ∃ leaf ∈ Clause.leaves clause, name ∈ marker.names leaf := by
  rcases (LawfulClause.fills_all (marker.fill context) clause).error h with
    ⟨leaf, hm, hl⟩ | ⟨_, _, he⟩
  · obtain ⟨missing, hn, hnone, he⟩ := Marker.fill_error hl
    cases he
    exact ⟨hnone, leaf, hm, hn⟩
  · cases he

end Clauses
end Names

section Plans

variable {query : Query} {marker : Marker} {context : Context} {name : String}

theorem find_of_resolve_query {resolved : Query} (h : query.resolve marker context = .ok resolved)
    (hn : name ∈ query.placeholders marker) : (context.find? name).isSome = true := by
  obtain ⟨fields, hfields, h⟩ := bind_eq_ok h
  obtain ⟨filters, hfilters, h⟩ := bind_eq_ok h
  obtain ⟨sort, hsort, h⟩ := bind_eq_ok h
  obtain ⟨limit, hlimit, _⟩ := bind_eq_ok h
  rcases mem_placeholders.mp hn with hn | hn | hn | ⟨text, ht, hn⟩
  · exact find_of_resolve hfields hn
  · exact find_of_resolve hfilters hn
  · exact find_of_resolve hsort hn
  · rw [ht] at hlimit
    obtain ⟨made, hmade, _⟩ := map_eq_ok hlimit
    exact find_of_resolve hmade ⟨text, List.mem_singleton_self text, hn⟩

/-- A value that a compiled query misses is that of one of its placeholders, whatever its filters
and its limit are lowered to, if that fails in other ways only. -/
theorem Query.Fails.missing {β γ : Type} {lowerFilters : List FilterToken → Except Error β}
    {lowerLimit : String → Except Error γ}
    (h : query.Fails marker context lowerFilters lowerLimit (.missingValue name))
    (hf : ∀ depth filled, FilterStream.check query.filters = .ok depth →
      Clause.substitute (marker.fill context) query.filters = .ok filled →
        lowerFilters filled ≠ .error (.missingValue name))
    (hl : ∀ text, lowerLimit text ≠ .error (.missingValue name)) :
    context.find? name = none ∧ name ∈ query.placeholders marker := by
  rw [mem_placeholders]
  cases h with
  | fields h =>
    obtain ⟨hnone, hn⟩ := missing_of_substitute h
    exact ⟨hnone, .inl hn⟩
  | sort h =>
    obtain ⟨hnone, hn⟩ := missing_of_substitute h
    exact ⟨hnone, .inr (.inr (.inl hn))⟩
  | filters hc h =>
    rcases h with h | ⟨filled, hs, h⟩
    · obtain ⟨hnone, hn⟩ := missing_of_substitute h
      exact ⟨hnone, .inr (.inl hn)⟩
    · exact absurd h (hf _ filled hc hs)
  | limit ht h =>
    rcases h with h | ⟨filled, hs, h⟩
    · obtain ⟨hnone, leaf, hm, hn⟩ := missing_of_substitute h
      rw [List.mem_singleton.mp hm] at hn
      exact ⟨hnone, .inr (.inr (.inr ⟨_, ht, hn⟩))⟩
    · exact absurd h (hl filled)

theorem Records.missing_value {plan : Plan} (hc : Records.compile query marker = .ok plan)
    (he : plan context = .error (.missingValue name)) :
    context.find? name = none ∧ name ∈ query.placeholders marker := by
  refine (Records.plan_fails hc he).missing ?_ ?_
  · intro depth filled hcheck hs h
    obtain ⟨_, _, he⟩ := filled_predicate_error (filters_filled hs) hcheck h
    cases he
  · intro text h
    cases parse_limit_error h

theorem Sql.missing_value {plan : Plan} (hc : Sql.compile query marker = .ok plan)
    (he : plan context = .error (.missingValue name)) :
    context.find? name = none ∧ name ∈ query.placeholders marker := by
  refine (Sql.plan_fails hc he).missing ?_ ?_
  · intro depth filled hcheck hs h
    obtain ⟨_, he⟩ := Sql.where_error (filters_filled hs) hcheck h
    cases he
  · intro text h
    rcases Sql.limit_error h with he | ⟨_, he⟩ <;> cases he

end Plans

/-- The placeholders a query announces are what the usual adapters need. If a compiled query is
translated, each of them has a value; if a value is missing, it is that of one of them; so with a
value for each of them none is missing. -/
theorem announced_placeholders_needed (query : Query) (marker : Marker) (adapter : Adapter Id)
    (ha : adapter ∈ (Registry.builtin : Registry Id).adapters) (plan : Plan)
    (hc : Id.run (adapter.compile query marker) = .ok plan) (context : Context) :
    (∀ backend, plan context = .ok backend →
      ∀ name ∈ query.placeholders marker, (context.find? name).isSome = true) ∧
    (∀ name, plan context = .error (.missingValue name) →
      name ∈ query.placeholders marker ∧ context.find? name = none) ∧
    ((∀ name ∈ query.placeholders marker, (context.find? name).isSome = true) →
      ∀ name, plan context ≠ .error (.missingValue name)) := by
  have hresolves : ∀ backend, plan context = .ok backend →
      ∃ resolved, query.resolve marker context = .ok resolved := by
    intro backend ht
    rcases List.mem_pair.mp ha with rfl | rfl
    · exact Records.plan_resolves hc ht
    · exact Sql.plan_resolves hc ht
  have hmissing : ∀ name, plan context = .error (.missingValue name) →
      name ∈ query.placeholders marker ∧ context.find? name = none := by
    intro name he
    rcases List.mem_pair.mp ha with rfl | rfl
    · exact (Records.missing_value hc he).symm
    · exact (Sql.missing_value hc he).symm
  refine ⟨?_, hmissing, ?_⟩
  · intro backend ht name hn
    obtain ⟨resolved, hr⟩ := hresolves backend ht
    exact find_of_resolve_query hr hn
  · intro hall name he
    obtain ⟨hn, hnone⟩ := hmissing name he
    have hsome := hall name hn
    rw [hnone] at hsome
    cases hsome

theorem waiting_query_misses_value : ∃ (plan : Plan) (context : Context),
    context = [("f", .string "7"), ("q", .null)] ∧ waitingQuery.placeholders .braces = ["f", "p"] ∧
    (Sql.adapter : Adapter Id) ∈ (Registry.builtin : Registry Id).adapters ∧
    Id.run ((Sql.adapter : Adapter Id).compile waitingQuery .braces) = .ok plan ∧
    plan context = .error (.missingValue "p") ∧ context.find? "p" = none := by
  have hm : (Sql.adapter : Adapter Id) ∈ (Registry.builtin : Registry Id).adapters := by
    simp [Registry.builtin]
  obtain ⟨plan, hc, he⟩ :
    ∃ plan, Id.run ((Sql.adapter : Adapter Id).compile waitingQuery .braces) = .ok plan ∧
      plan [("f", .string "7"), ("q", .null)] = .error (.missingValue "p") := ⟨_, rfl, rfl⟩
  have hmissing :=
    (announced_placeholders_needed waitingQuery .braces Sql.adapter hm plan hc _).2.1 "p" he
  exact ⟨plan, _, rfl, by decide, hm, hc, he, hmissing.2⟩

end PathQuery
