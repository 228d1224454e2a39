import Mathlib.Data.List.Infix
import PathQuery.Proofs.ApartFields

namespace PathQuery.Json

/-- A value without parts leads nowhere. -/
theorem get_of_childless {value : Json} (h : ∀ segment, value.child? segment = none)
    {path : List String} (hne : path ≠ []) : value.get? path = none := by
  cases path with
  | nil => exact absurd rfl hne
  | cons segment path => rw [get?, h, Option.bind_none]

theorem childless_of_no_items (segment : String) : (Json.array []).child? segment = none := by
  rw [child?]
  cases Number.readIndex? segment.toList <;> rfl

/-- The first item of a list is reached under more than one segment: zeros before an index do not
count. -/
theorem exists_first_segment (item : Json) (items : List Json) (segment : String) :
    ∃ other, other ≠ segment ∧ (Json.array (item :: items)).child? other = some item := by
  by_cases h : segment = "0"
  · refine ⟨"00", ?_, rfl⟩
    rw [h]
    decide
  · exact ⟨"0", Ne.symm h, rfl⟩

/-- All lists above a path are without items. -/
def NoItemsAbove (value : Json) (path : List String) : Prop :=
  ∀ above items, above <+: path → above ≠ path → value.get? above = some (.array items) → items = []

theorem NoItemsAbove.child {value child : Json} {segment : String} {path : List String}
    (h : value.NoItemsAbove (segment :: path)) (hc : value.child? segment = some child) :
    child.NoItemsAbove path := by
  intro above items hle hne hget
  refine h (segment :: above) items ((List.prefix_cons_inj segment).mpr hle) ?_ ?_
  · simpa using hne
  · rw [get?, hc, Option.bind_some, hget]

namespace Fields

theorem within_nil (path : List String) : within [] path = [] := by
  induction path with
  | nil => rfl
  | cons segment path ih => exact ih

/-- Under a key that leads to no object there are no fields. -/
theorem within_cons_of_ne_object {fields : Fields} {segment : String}
    (h : ∀ inner, fields.find? segment ≠ some (.object inner)) (path : List String) :
    fields.within (segment :: path) = [] := by
  have hat : fields.objectAt segment = [] := by
    unfold objectAt
    split
    · rename_i inner hinner
      exact absurd hinner (h inner)
    · rfl
  rw [within, hat, within_nil]

/-- A path that leads to a list leads to no fields, be it through objects only or through another
list. -/
theorem within_of_get_array {fields : Fields} {path : List String} {items : List Json}
    (h : (Json.object fields).get? path = some (.array items)) : fields.within path = [] := by
  induction path generalizing fields with
  | nil => cases h
  | cons segment path ih =>
    obtain ⟨child, hchild, hrest⟩ := Option.bind_eq_some_iff.mp h
    have hfind : fields.find? segment = some child := hchild
    cases child with
    | object inner =>
      rw [within, objectAt, hfind]
      exact ih hrest
    | _ => exact within_cons_of_ne_object (by simp [hfind]) path

/-- Where no items are in the way, a path beside another one reads from the object at which the two
part. -/
theorem get_beside {fields : Fields} {above : List String} {segment : String} {rest : List String}
    (h : (Json.object fields).NoItemsAbove (above ++ segment :: rest)) (other : String)
    (more : List String) :
    (Json.object fields).get? (above ++ other :: more) =
      ((fields.within above).find? other).bind (·.get? more) := by
  induction above generalizing fields with
  | nil => rfl
  | cons first above ih =>
    have hne : above ++ other :: more ≠ [] := by simp
    rw [List.cons_append, get?, child?]
    cases hchild : fields.find? first with
    | none =>
      rw [within_cons_of_ne_object (by simp [hchild])]
      rfl
    | some child =>
      rw [Option.bind_some]
      cases child with
      | object inner =>
        rw [within, objectAt, hchild]
        exact ih (h.child hchild)
      | array items =>
        -- the list is one without items, which reads as a scalar does
        have hnil : items = [] := by
          refine h [first] items ⟨above ++ segment :: rest, rfl⟩ ?_ ?_
          · simp
          · rw [get?, child?, hchild]
            rfl
        rw [hnil, get_of_childless childless_of_no_items hne,
          within_cons_of_ne_object (by simp [hchild])]
        rfl
      | _ =>
        rw [get_of_childless (fun _ => rfl) hne, within_cons_of_ne_object (by simp [hchild])]
        rfl

/-- Every path that parts from the given one reads the same before and after. -/
def SameBeside (path : List String) (before after : Fields) : Prop :=
  ∀ other : List String, ¬ path <+: other → ¬ other <+: path →
    (Json.object after).get? other = (Json.object before).get? other

/-- A change at a path: above its end there are objects then, and each of them has the fields that
stood there before, but for the one that the path goes through. -/
def ChangedAt (path : List String) (before after : Fields) : Prop :=
  ∀ (above : List String) (segment : String) (rest : List String), path = above ++ segment :: rest →
    ∃ inner, (Json.object after).get? above = some (.object inner) ∧
      ∀ other, other ≠ segment → Fields.find? other inner = (before.within above).find? other

namespace ChangedAt

variable {path : List String} {before after : Fields}

theorem get_apart {above rest : List String} {segment other : String}
    (h : ChangedAt (above ++ segment :: rest) before after) (hne : other ≠ segment)
    (more : List String) :
    (Json.object after).get? (above ++ other :: more) =
      ((before.within above).find? other).bind (·.get? more) := by
  obtain ⟨inner, hinner, hsame⟩ := h above segment rest rfl
  rw [get_append, hinner, Option.bind_some, get?, child?, hsame other hne]

theorem same_beside (h : ChangedAt path before after)
    (hitems : (Json.object before).NoItemsAbove path) : SameBeside path before after := by
  intro other hpath hother
  obtain ⟨above, x, y, xs, ys, hxy, rfl, rfl⟩ := exists_parting hpath hother
  rw [h.get_apart hxy.symm, get_beside hitems]

/-- Of a list above the path the first item is lost, under one of its segments at least. -/
theorem exists_lost_item (h : ChangedAt path before after) {above : List String} {item : Json}
    {items : List Json} (hle : above <+: path) (hne : above ≠ path)
    (hget : (Json.object before).get? above = some (.array (item :: items))) :
    ∃ other, ¬ path <+: other ∧ ¬ other <+: path ∧ (Json.object before).get? other = some item ∧
      (Json.object after).get? other = none := by
  obtain ⟨rest, rfl⟩ := hle
  cases rest with
  | nil => simp at hne
  | cons segment rest =>
    obtain ⟨other, hother, hitem⟩ := exists_first_segment item items segment
    refine ⟨above ++ [other], ?_, ?_, ?_, ?_⟩
    · simp [List.prefix_append_right_inj, hother.symm]
    · simp [List.prefix_append_right_inj, hother]
    · rw [get_append, hget, Option.bind_some, get?, hitem]
      rfl
    · rw [h.get_apart hother, within_of_get_array hget]
      rfl

/-- A change keeps what is read beside its path exactly if it takes no items out of its way. -/
theorem same_beside_iff (h : ChangedAt path before after) :
    SameBeside path before after ↔ (Json.object before).NoItemsAbove path := by
  refine ⟨?_, h.same_beside⟩
  intro hsame above items hle hne hget
  cases items with
  | nil => rfl
  | cons item items =>
    obtain ⟨other, hpath, hother, hbefore, hafter⟩ := h.exists_lost_item hle hne hget
    have hkept := hsame other hpath hother
    rw [hbefore, hafter] at hkept
    cases hkept

end ChangedAt

section Put

variable (fields : Fields) (value : Json)

/-- Above what is written there are objects, each with what is written below it. -/
theorem get_put_above (above : List String) {rest : List String} (h : rest ≠ []) :
    (Json.object (fields.put value (above ++ rest))).get? above =
      some (.object ((fields.within above).put value rest)) := by
  obtain rfl | ⟨between, last, rfl⟩ := List.eq_nil_or_concat rest
  · exact absurd rfl h
  · rw [List.concat_eq_append, ← List.append_assoc, put_eq, put_eq]
    exact get_of_reach (reach_alter _ fields above between)

/-- The value written is read back. -/
theorem get_put {path : List String} (h : path ≠ []) :
    (Json.object (fields.put value path)).get? path = some value := by
  obtain rfl | ⟨above, last, rfl⟩ := List.eq_nil_or_concat path
  · exact absurd rfl h
  · have habove := fields.get_put_above value above (List.cons_ne_nil last [])
    rw [List.concat_eq_append, get_append, habove, Option.bind_some, put, get?, child?,
      find_insert_self]
    rfl

/-- Of two values written at one path the second one counts. -/
theorem put_put (later : Json) (path : List String) :
    (fields.put value path).put later path = fields.put later path := by
  obtain rfl | ⟨above, last, rfl⟩ := List.eq_nil_or_concat path
  · rfl
  · rw [List.concat_eq_append, put_eq, put_eq, put_eq, alter_alter]
    congr 1
    funext inner
    exact insert_insert inner last value later

theorem put_changes (path : List String) : ChangedAt path fields (fields.put value path) := by
  rintro above segment rest rfl
  refine ⟨_, fields.get_put_above value above (List.cons_ne_nil segment rest), ?_⟩
  intro other hne
  cases rest <;> exact find_insert_of_ne hne _ _

end Put

/-- At the path that is opened and above it there are objects, each with what is opened below it. -/
theorem get_open_above (fields : Fields) (above rest : List String) :
    (Json.object (fields.openAt (above ++ rest))).get? above =
      some (.object ((fields.within above).openAt rest)) := by
  rw [open_at_eq, open_at_eq]
  exact get_of_reach (reach_alter id fields above rest)

/-- At the path that is opened stands the object that stood there before, or one without fields. -/
theorem get_open (fields : Fields) (path : List String) :
    (Json.object (fields.openAt path)).get? path = some (.object (fields.within path)) := by
  have h := fields.get_open_above path []
  rwa [List.append_nil] at h

theorem open_open (fields : Fields) (path : List String) :
    (fields.openAt path).openAt path = fields.openAt path := by
  rw [open_at_eq, open_at_eq, alter_alter]
  rfl

theorem open_changes (fields : Fields) (path : List String) :
    ChangedAt path fields (fields.openAt path) := by
  rintro above segment rest rfl
  refine ⟨_, fields.get_open_above above (segment :: rest), ?_⟩
  intro other hne
  exact find_insert_of_ne hne _ _

section Objects

variable {fields : Fields} {path : List String}
  (h : ∀ above, above <+: path → (Json.object fields).HasObject above)

include h

/-- An object that is reached through objects stays as it is when it is opened. -/
theorem get_open_of_objects :
    (Json.object (fields.openAt path)).get? path = (Json.object fields).get? path := by
  obtain ⟨inner, hinner⟩ := h path (List.prefix_refl path)
  have hreach : (Json.object fields).reach? path = some (.object inner) :=
    reach_of_get hinner fun above hle _ => h above hle
  rw [get_open, hinner, within_of_reach hreach]

/-- Opening an object that is reached through objects changes nothing elsewhere either. -/
theorem open_of_objects (hk : (Json.object fields).WellKeyed) : fields.openAt path = fields := by
  obtain ⟨inner, hinner⟩ := h path (List.prefix_refl path)
  rw [open_at_eq]
  exact alter_found hk h hinner rfl

end Objects

end Fields
end PathQuery.Json

namespace PathQuery

open Json

/-- Writes at paths keep to themselves. A value written at a path is read back there, and of two
values written there the second one counts. Opening a path leaves an object there: if the path led
through objects to it, the one that was there, with nothing changed at all. Opening the path again
changes nothing. Either way every path that parts from this one reads what it read before, if and
only if no list with items stands above it. -/
theorem path_writes_lawful (target : Fields) :
    (∀ (path : List String) (value : Json), path ≠ [] →
      (Json.object (target.put value path)).get? path = some value ∧
      (∀ later : Json, (target.put value path).put later path = target.put later path) ∧
      (Fields.SameBeside path target (target.put value path) ↔
        (Json.object target).NoItemsAbove path)) ∧
    ∀ path : List String,
      (Json.object (target.openAt path)).HasObject path ∧
      ((∀ above, above <+: path → (Json.object target).HasObject above) →
        (Json.object (target.openAt path)).get? path = (Json.object target).get? path ∧
        ((Json.object target).WellKeyed → target.openAt path = target)) ∧
      (target.openAt path).openAt path = target.openAt path ∧
      (Fields.SameBeside path target (target.openAt path) ↔
        (Json.object target).NoItemsAbove path) := by
  constructor
  · intro path value hne
    refine ⟨target.get_put value hne, ?_, (target.put_changes value path).same_beside_iff⟩
    intro later
    exact target.put_put value later path
  · intro path
    refine ⟨⟨_, target.get_open path⟩, ?_, target.open_open path,
      (target.open_changes path).same_beside_iff⟩
    intro hobjects
    exact ⟨Fields.get_open_of_objects hobjects, Fields.open_of_objects hobjects⟩

/-- A write below a number, beside a list without items, and an object that is opened where it
stands. -/
theorem path_writes_lawful_nested : ∃ target : Fields,
    target = [("a", .object [("b", .ofNat 5), ("d", .null)]), ("k", .array [])] ∧
    target.put (.ofNat 1) ["a", "b", "c"] =
      [("a", .object [("b", .object [("c", .ofNat 1)]), ("d", .null)]), ("k", .array [])] ∧
    (Json.object (target.put (.ofNat 1) ["a", "b", "c"])).get? ["a", "b", "c"] = some (.ofNat 1) ∧
    (target.put (.ofNat 1) ["a", "b", "c"]).put .null ["a", "b", "c"] =
      target.put .null ["a", "b", "c"] ∧
    Fields.SameBeside ["a", "b", "c"] target (target.put (.ofNat 1) ["a", "b", "c"]) ∧
    (Json.object target).WellKeyed ∧ target.openAt ["a"] = target := by
  refine ⟨_, rfl, rfl, ?_⟩
  obtain ⟨hwrites, hopens⟩ :=
    path_writes_lawful [("a", .object [("b", .ofNat 5), ("d", .null)]), ("k", .array [])]
  obtain ⟨hread, hlater, hframe⟩ := hwrites ["a", "b", "c"] (.ofNat 1) (by decide)
  obtain ⟨_, hopen, _⟩ := hopens ["a"]
  refine ⟨hread, hlater .null, hframe.mpr ?_, ?keyed, (hopen ?_).2 ?keyed⟩
  · intro above items hle hne hget
    have hmem : above ∈ List.inits ["a", "b", "c"] := (List.mem_inits _ _).mpr hle
    simp only [List.inits, List.map_cons, List.map_nil, List.mem_cons, List.not_mem_nil,
      or_false] at hmem
    rcases hmem with rfl | rfl | rfl | rfl
    · cases hget
    · cases hget
    · cases hget
    · exact absurd rfl hne
  case keyed =>
    have hnull : WellKeyed .null := .leaf (fun _ => rfl) (fun _ h => by cases h)
    have hnumber : WellKeyed (.ofNat 5) := .leaf (fun _ => rfl) (fun _ h => by cases h)
    have hlist : WellKeyed (.array []) := .leaf childless_of_no_items (fun _ h => by cases h)
    have hinner : WellKeyed (.object [("b", .ofNat 5), ("d", .null)]) :=
      .of_forall (by unfold Fields.Ordered; decide) (by simp [hnumber, hnull])
    exact .of_forall (by unfold Fields.Ordered; decide) (by simp [hinner, hlist])
  · intro above hle
    have hmem : above ∈ List.inits ["a"] := (List.mem_inits _ _).mpr hle
    simp only [List.inits, List.map_cons, List.map_nil, List.mem_cons, List.not_mem_nil,
      or_false] at hmem
    rcases hmem with rfl | rfl
    · exact ⟨_, rfl⟩
    · exact ⟨_, rfl⟩

end PathQuery
