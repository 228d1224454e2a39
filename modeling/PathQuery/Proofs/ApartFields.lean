import Mathlib.Data.List.Perm.Basic
import PathQuery.Proofs.Projection

namespace PathQuery.Json.Fields

/-- Of two writes under one key the second one counts. -/
theorem insert_insert (fields : Fields) (key : String) (value value' : Json) :
    (fields.insert key value).insert key value' = fields.insert key value' := by
  induction fields with
  | nil => simp [insert]
  | cons field rest ih =>
    obtain ⟨name, old⟩ := field
    by_cases heq : key = name
    · simp [insert, heq]
    · by_cases hlt : key < name
      · simp [insert, heq, hlt]
      · simp [insert, heq, hlt, ih]

theorem key_lt_of_not_lt {key name : String} (hlt : ¬ key < name) (hne : key ≠ name) : name < key :=
  Std.lt_of_le_of_ne (String.not_lt.mp hlt) hne.symm

theorem insert_comm_of_lt {first second : String} (h : first < second) (value value' : Json)
    (fields : Fields) :
    (fields.insert first value).insert second value' =
      (fields.insert second value').insert first value := by
  have hne : second ≠ first := by
    rintro rfl
    exact String.lt_irrefl _ h
  have hnot : ¬ second < first := String.lt_asymm h
  induction fields with
  | nil => simp [insert, h, hne, hne.symm, hnot]
  | cons field rest ih =>
    obtain ⟨name, old⟩ := field
    by_cases hfirst : first = name
    · subst hfirst
      simp [insert, hne, hnot]
    · by_cases hbefore : first < name
      · -- the first key comes before all others, whether or not the second one has been written
        by_cases hsecond : second = name
        · subst hsecond
          simp [insert, h, hne, hne.symm, hnot]
        · by_cases hlt : second < name
          · simp [insert, hfirst, hbefore, hsecond, hlt, h, hne, hne.symm, hnot]
          · simp [insert, hfirst, hbefore, hsecond, hlt, hne, hnot]
      · have hname : name < second := String.lt_trans (key_lt_of_not_lt hbefore hfirst) h
        have hsecond : second ≠ name := by
          rintro rfl
          exact String.lt_irrefl _ hname
        simp [insert, hfirst, hbefore, hsecond, String.lt_asymm hname, ih]

/-- Writes under different keys can be exchanged. -/
theorem insert_comm {first second : String} (h : first ≠ second) (value value' : Json)
    (fields : Fields) :
    (fields.insert first value).insert second value' =
      (fields.insert second value').insert first value := by
  by_cases hlt : first < second
  · exact insert_comm_of_lt hlt value value' fields
  · exact (insert_comm_of_lt (key_lt_of_not_lt hlt h) value' value fields).symm

/-- A change under one key, made of what stands there. -/
def alterKey (key : String) (change : Option Json → Option Json) (fields : Fields) : Fields :=
  match change (fields.find? key) with
  | some value => fields.insert key value
  | none => fields

section AlterKey

variable {key other : String} {change : Option Json → Option Json} {fields : Fields} {value : Json}

theorem alter_key_none (h : change (fields.find? key) = none) :
    fields.alterKey key change = fields := by
  rw [alterKey, h]

theorem alter_key_some (h : change (fields.find? key) = some value) :
    fields.alterKey key change = fields.insert key value := by
  rw [alterKey, h]

theorem find_alter_key (h : other ≠ key) :
    (fields.alterKey key change).find? other = fields.find? other := by
  unfold alterKey
  split
  · exact find_insert_of_ne h _ fields
  · rfl

theorem alter_key_comm (h : key ≠ other) (change change' : Option Json → Option Json)
    (fields : Fields) :
    (fields.alterKey key change).alterKey other change' =
      (fields.alterKey other change').alterKey key change := by
  cases hc : change (fields.find? key) with
  | none => rw [alter_key_none hc, @alter_key_none key change _ (by rw [find_alter_key h, hc])]
  | some value =>
    rw [alter_key_some hc, @alter_key_some key change _ value (by rw [find_alter_key h, hc])]
    cases hc' : change' (fields.find? other) with
    | none => rw [alter_key_none hc', alter_key_none (by rw [find_insert_of_ne h.symm, hc'])]
    | some value' =>
      rw [alter_key_some hc', alter_key_some (by rw [find_insert_of_ne h.symm, hc'])]
      exact insert_comm h value value' fields

end AlterKey

theorem alter_append (change : Fields → Fields) (fields : Fields) (path rest : List String) :
    fields.alterAt change (path ++ rest) = fields.alterAt (·.alterAt change rest) path := by
  induction path generalizing fields with
  | nil => rfl
  | cons segment path ih => rw [List.cons_append, alterAt, alterAt, ih]

/-- Two changes to the object at one path are one change to it. -/
theorem alter_alter (change change' : Fields → Fields) (fields : Fields) (path : List String) :
    (fields.alterAt change path).alterAt change' path =
      fields.alterAt (fun inner => change' (change inner)) path := by
  induction path generalizing fields with
  | nil => rfl
  | cons segment path ih => rw [alterAt, alterAt, alterAt, object_at_insert, insert_insert, ih]

end PathQuery.Json.Fields

namespace PathQuery

open Json

/-- The fields of an object. Anything else counts as an object without fields. -/
def fieldsOf : Option Json → Fields
  | some (.object inner) => inner
  | _ => []

section Order

variable {record : Json}

/-- Copying a path changes one key of the object at any path above it. -/
theorem copy_alters_key (record : Json) (above : List String) (segment : String)
    (rest : List String) :
    ∃ change, ∀ target : Fields,
      copyPath record target (above ++ segment :: rest) =
        target.alterAt (·.alterKey segment change) above := by
  obtain rfl | ⟨between, last, rfl⟩ := List.eq_nil_or_concat rest
  · refine ⟨fun _ => record.get? (above ++ [segment]), fun target => ?_⟩
    rw [copy_path_eq]
    rfl
  · let write := writeFound (record.get? ((above ++ segment :: between) ++ [last])) last
    refine ⟨fun old => some (.object (Fields.alterAt write (fieldsOf old) between)),
      fun target => ?_⟩
    rw [List.concat_eq_append, ← List.cons_append, ← List.append_assoc, copy_path_eq,
      Fields.alter_append]
    rfl

/-- Copies of paths that part can be exchanged. -/
theorem copy_comm {path other : List String} (hpath : ¬ path <+: other) (hother : ¬ other <+: path)
    (target : Fields) :
    copyPath record (copyPath record target path) other =
      copyPath record (copyPath record target other) path := by
  obtain ⟨above, x, y, xs, ys, hxy, rfl, rfl⟩ := exists_parting hpath hother
  obtain ⟨change, hx⟩ := copy_alters_key record above x xs
  obtain ⟨change', hy⟩ := copy_alters_key record above y ys
  rw [hx, hy, hy, hx, Fields.alter_alter, Fields.alter_alter]
  congr 1
  funext inner
  exact Fields.alter_key_comm hxy change change' inner

/-- None of the paths leads through another one. -/
def Apart (paths : List (List String)) : Prop :=
  ∀ path ∈ paths, ∀ other ∈ paths, path <+: other → path = other

theorem project_perm {paths order : List (List String)} (h : Apart paths)
    (hperm : order.Perm paths) : project order record = project paths record := by
  unfold project
  congr 1
  apply hperm.foldl_eq'
  intro path hpath other hother target
  have hpath := hperm.mem_iff.mp hpath
  have hother := hperm.mem_iff.mp hother
  by_cases heq : path = other
  · rw [heq]
  · apply copy_comm
    · exact fun hprefix => heq (h path hpath other hother hprefix)
    · exact fun hprefix => heq (h other hother path hpath hprefix).symm

end Order

section Lookup

variable {record : Json} {paths todo : List (List String)} {path : List String} {target : Fields}

/-- A path that parts from all that are copied reads what it read before. -/
theorem reach_copies_apart (h : ∀ other ∈ todo, ¬ path <+: other ∧ ¬ other <+: path) :
    (Json.object (todo.foldl (copyPath record) target)).reach? path =
      (Json.object target).reach? path := by
  induction todo generalizing target with
  | nil => rfl
  | cons next todo ih =>
    obtain ⟨hbelow, habove⟩ := h next List.mem_cons_self
    rw [List.foldl_cons, ih fun other hm => h other (List.mem_cons_of_mem next hm)]
    obtain ⟨above, x, y, xs, ys, hxy, rfl, rfl⟩ := exists_parting hbelow habove
    exact reach_copy_apart above hxy xs ys

/-- A path that is copied reads what the record has, if nothing else stood there before. -/
theorem reach_copy_self (hne : path ≠ [])
    (h : (Json.object target).reach? path = none ∨
      (Json.object target).reach? path = record.get? path) :
    (Json.object (copyPath record target path)).reach? path = record.get? path := by
  cases hfound : record.get? path with
  | some value =>
    have hread := @reach_copy_below record value target path hne hfound []
    rwa [List.append_nil] at hread
  | none =>
    rw [hfound, or_self] at h
    obtain rfl | ⟨above, last, rfl⟩ := List.eq_nil_or_concat path
    · exact absurd rfl hne
    · rw [List.concat_eq_append] at hfound h ⊢
      rw [copy_path_eq, hfound, Fields.reach_within, Fields.within_alter_self]
      rwa [Fields.reach_within] at h

variable (hapart : Apart paths)

include hapart

theorem reach_copies_self (hpath : path ∈ paths) (hne : path ≠ [])
    (hsub : ∀ other ∈ todo, other ∈ paths)
    (h : (Json.object target).reach? path = record.get? path ∨
      (Json.object target).reach? path = none ∧ path ∈ todo) :
    (Json.object (todo.foldl (copyPath record) target)).reach? path = record.get? path := by
  induction todo generalizing target with
  | nil => simpa using h
  | cons next todo ih =>
    have hnext := hsub next List.mem_cons_self
    apply ih fun other hm => hsub other (List.mem_cons_of_mem next hm)
    by_cases heq : path = next
    · subst heq
      exact .inl (reach_copy_self hne (h.symm.imp_left And.left))
    · -- another path of the list parts from this one, so it leaves it alone
      have hkept : (Json.object (copyPath record target next)).reach? path =
          (Json.object target).reach? path := by
        refine @reach_copies_apart record [next] path target fun other hm => ?_
        rw [List.mem_singleton.mp hm]
        exact ⟨fun hle => heq (hapart path hpath next hnext hle),
          fun hle => heq (hapart next hnext path hpath hle).symm⟩
      rw [hkept]
      refine h.imp_right fun hleft => ⟨hleft.1, ?_⟩
      exact (List.mem_cons.mp hleft.2).resolve_left heq

/-- Above a path of the list there are objects once it has been copied, and no other copy takes them
away. -/
theorem reach_copies_above (hpath : path ∈ paths) {above : List String} (hle : above <+: path)
    (hne : above ≠ path) (hsub : ∀ other ∈ todo, other ∈ paths)
    (h : (∃ fields, (Json.object target).reach? above = some (.object fields)) ∨ path ∈ todo) :
    ∃ fields, (Json.object (todo.foldl (copyPath record) target)).reach? above =
      some (.object fields) := by
  induction todo generalizing target with
  | nil => simpa using h
  | cons next todo ih =>
    have hnext := hsub next List.mem_cons_self
    apply ih fun other hm => hsub other (List.mem_cons_of_mem next hm)
    by_cases hunder : above <+: next
    · obtain ⟨rest, rfl⟩ := hunder
      obtain rfl | ⟨between, last, rfl⟩ := List.eq_nil_or_concat rest
      · rw [List.append_nil] at hnext
        exact absurd (hapart above hnext path hpath hle) hne
      · rw [List.concat_eq_append]
        exact .inl ⟨_, reach_copy_above above between last⟩
    · have hover : ¬ next <+: above := by
        intro hover
        have heq := hapart next hnext path hpath (hover.trans hle)
        rw [heq] at hover
        exact hne (hle.eq_of_length (Nat.le_antisymm hle.length_le hover.length_le))
      have hkept : (Json.object (copyPath record target next)).reach? above =
          (Json.object target).reach? above := by
        refine @reach_copies_apart record [next] above target fun other hm => ?_
        rw [List.mem_singleton.mp hm]
        exact ⟨hunder, hover⟩
      rw [hkept]
      refine h.imp_right fun hm => (List.mem_cons.mp hm).resolve_left ?_
      rintro rfl
      exact hunder hle

end Lookup

/-- Below objects only, reading a path and reading it through objects is the same. -/
theorem get_eq_reach {value : Json} {path : List String}
    (h : ∀ above, above <+: path → above ≠ path →
      ∃ fields, value.reach? above = some (.object fields)) :
    value.get? path = value.reach? path := by
  cases hr : value.reach? path with
  | some found => exact get_of_reach hr
  | none =>
    cases hg : value.get? path with
    | none => rfl
    | some found =>
      have hobjects : ∀ above, above <+: path → above ≠ path → value.HasObject above := by
        intro above hle hne
        obtain ⟨fields, hf⟩ := h above hle hne
        exact ⟨fields, get_of_reach hf⟩
      rw [reach_of_get hg hobjects] at hr
      cases hr

section Projected

variable {record : Json} {paths : List (List String)} {path : List String}

/-- Above every path of the list the projection has objects. -/
theorem reach_project_above (hapart : Apart paths) (hpath : path ∈ paths) {above : List String}
    (hle : above <+: path)
    (hne : above ≠ path) : ∃ fields, (project paths record).reach? above = some (.object fields) :=
  reach_copies_above hapart hpath hle hne (fun _ hm => hm) (.inr hpath)

/-- At every path of the list and below it the projection has what the record has. -/
theorem get_project (hapart : Apart paths) (hpath : path ∈ paths) (hne : path ≠ [])
    (rest : List String) :
    (project paths record).get? (path ++ rest) = record.get? (path ++ rest) := by
  have hstart : (Json.object []).reach? path = none := by
    cases path with
    | nil => exact absurd rfl hne
    | cons segment path => rfl
  have hself : (project paths record).get? path = record.get? path := by
    rw [get_eq_reach fun above hle hne => reach_project_above hapart hpath hle hne]
    exact reach_copies_self hapart hpath hne (fun _ hm => hm) (.inr ⟨hstart, hpath⟩)
  rw [get_append, get_append, hself]

/-- A path that parts from all paths of the list leads nowhere in the projection. -/
theorem get_project_apart (hapart : Apart paths) (hne : path ≠ [])
    (h : ∀ other ∈ paths, ¬ path <+: other ∧ ¬ other <+: path) :
    (project paths record).get? path = none := by
  induction path using List.reverseRecOn with
  | nil => exact absurd rfl hne
  | append_singleton front last ih =>
    by_cases hfront : ∀ above, above <+: front →
      ∃ fields, (project paths record).reach? above = some (.object fields)
    · rw [get_eq_reach, project, reach_copies_apart h]
      · cases front <;> rfl
      · intro above hle hlt
        exact hfront above ((List.prefix_concat_iff.mp hle).resolve_left hlt)
    · -- the projection ends above the last segment already
      have hparts : ∀ other ∈ paths, ¬ front <+: other ∧ ¬ other <+: front := by
        intro other hother
        obtain ⟨_, hover⟩ := h other hother
        have hover : ¬ other <+: front := fun hle => hover (hle.trans (List.prefix_append _ _))
        refine ⟨fun hunder => hfront fun above hle => ?_, hover⟩
        apply reach_project_above hapart hother (hle.trans hunder)
        rintro rfl
        exact hover hle
      have hnil : front ≠ [] := by
        rintro rfl
        apply hfront
        intro above hle
        rw [List.prefix_nil.mp hle]
        exact ⟨_, rfl⟩
      rw [get_append, ih hnil hparts]
      rfl

/-- What leads somewhere in the projection is an object above a path of the list, or it stands at
such a path or below it and is the record's. -/
theorem get_project_cases {value : Json} (hapart : Apart paths)
    (hpaths : ∀ other ∈ paths, other ≠ []) (hne : path ≠ [])
    (hget : (project paths record).get? path = some value) :
    (∃ other ∈ paths, path <+: other ∧ path ≠ other ∧ ∃ inner, value = .object inner) ∨
      ∃ other ∈ paths, other <+: path ∧ (record.get? other).isSome = true ∧
        record.get? path = some value := by
  by_cases hunder : ∃ other ∈ paths, other <+: path
  · obtain ⟨other, hother, rest, rfl⟩ := hunder
    rw [get_project hapart hother (hpaths other hother)] at hget
    obtain ⟨found, hfound, _⟩ := get_above hget
    exact .inr ⟨other, hother, List.prefix_append _ _, by rw [hfound]; rfl, hget⟩
  · by_cases hover : ∃ other ∈ paths, path <+: other
    · obtain ⟨other, hother, hle⟩ := hover
      have hlt : path ≠ other := fun heq => hunder ⟨other, hother, heq ▸ List.prefix_refl _⟩
      obtain ⟨inner, hinner⟩ := @reach_project_above record _ _ hapart hother path hle hlt
      have hobject := hget.symm.trans (get_of_reach hinner)
      exact .inl ⟨other, hother, hle, hlt, inner, Option.some.inj hobject⟩
    · have hnone : (project paths record).get? path = none := by
        refine get_project_apart hapart hne fun other hother => ?_
        exact ⟨fun hle => hover ⟨other, hother, hle⟩, fun hle => hunder ⟨other, hother, hle⟩⟩
      rw [hget] at hnone
      cases hnone

/-- Of the record a projection reads the paths of the list and nothing else. -/
theorem project_congr {other : Json} (h : ∀ path ∈ paths, other.get? path = record.get? path) :
    project paths other = project paths record := by
  unfold project
  congr 1
  apply List.foldl_ext
  intro target path hm
  rw [copyPath, copyPath, h path hm]

end Projected

/-- Fields of which none leads through another are copied exactly. In the projection each of them
leads to what it leads to in the record, or nowhere if it leads nowhere there. Any path that leads
somewhere in the projection leads to an object above one of the fields, or it goes on from a field
that the record has and leads to the same value in the record. The order of the fields does not
matter, and projecting the projection changes nothing. -/
theorem projection_exact_of_apart (record : Json) (fields : List String)
    (h : ∀ field ∈ fields, ∀ other ∈ fields, segments field <+: segments other →
      segments field = segments other) :
    (∀ field ∈ fields, (Records.projector fields record).get? (segments field) =
      record.get? (segments field)) ∧
    (∀ path value, path ≠ [] → (Records.projector fields record).get? path = some value →
      (∃ field ∈ fields, path <+: segments field ∧ path ≠ segments field ∧
        ∃ inner, value = .object inner) ∨
      ∃ field ∈ fields, segments field <+: path ∧ (record.get? (segments field)).isSome = true ∧
        record.get? path = some value) ∧
    (∀ order : List String, order.Perm fields →
      Records.projector order record = Records.projector fields record) ∧
    Records.projector fields (Records.projector fields record) =
      Records.projector fields record := by
  have hapart : Apart (fields.map segments) := by
    intro path hpath other hother
    obtain ⟨field, hfield, rfl⟩ := List.mem_map.mp hpath
    obtain ⟨field', hfield', rfl⟩ := List.mem_map.mp hother
    exact h field hfield field' hfield'
  have hpaths : ∀ path ∈ fields.map segments, path ≠ [] := by
    intro path hpath
    obtain ⟨field, _, rfl⟩ := List.mem_map.mp hpath
    exact segments_ne_nil field
  have hself : ∀ field ∈ fields,
      (Records.projector fields record).get? (segments field) = record.get? (segments field) := by
    intro field hfield
    have hat :=
      @get_project record _ _ hapart (List.mem_map_of_mem hfield) (segments_ne_nil field) []
    rwa [List.append_nil] at hat
  refine ⟨hself, ?_, ?_, ?_⟩
  · intro path value hne hget
    rcases get_project_cases hapart hpaths hne hget with
      ⟨other, hother, habove⟩ | ⟨other, hother, hbelow⟩
    · obtain ⟨field, hfield, rfl⟩ := List.mem_map.mp hother
      exact .inl ⟨field, hfield, habove⟩
    · obtain ⟨field, hfield, rfl⟩ := List.mem_map.mp hother
      exact .inr ⟨field, hfield, hbelow⟩
  · intro order hperm
    exact project_perm hapart (hperm.map segments)
  · refine project_congr fun path hpath => ?_
    obtain ⟨field, hfield, rfl⟩ := List.mem_map.mp hpath
    exact hself field hfield

/-- An item of a list, two fields of one object and a field below an object that is missing. -/
theorem projection_exact_of_nested : ∃ (record : Json) (fields : List String),
    record = .object [("list", .array [.ofNat 1, .ofNat 2]),
      ("user", .object [("age", .ofNat 7), ("id", .null), ("name", .string "x")])] ∧
    fields = ["user.name", "list.1", "shop.city", "user.age"] ∧
    (∀ field ∈ fields, ∀ other ∈ fields, segments field <+: segments other →
      segments field = segments other) ∧
    Records.projector fields record =
      .object [("list", .object [("1", .ofNat 2)]), ("shop", .object []),
      ("user", .object [("age", .ofNat 7), ("name", .string "x")])] ∧
    Records.projector fields.reverse record = Records.projector fields record ∧
    Records.projector fields (Records.projector fields record) =
      Records.projector fields record := by
  refine ⟨_, _, rfl, rfl, ?apart, rfl, ?_, (projection_exact_of_apart _ _ ?apart).2.2.2⟩
  case apart => decide
  exact (projection_exact_of_apart _ _ (by decide)).2.2.1 _ (List.reverse_perm _)

end PathQuery
