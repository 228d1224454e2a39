import Mathlib.Data.List.Basic
import Mathlib.Data.List.Infix
import PathQuery.Adapter.Records

namespace PathQuery.Json

theorem get_append (value : Json) (path rest : List String) :
    value.get? (path ++ rest) = (value.get? path).bind (·.get? rest) := by
  induction path generalizing value with
  | nil => rfl
  | cons segment path ih =>
    simp only [List.cons_append, get?]
    cases value.child? segment with
    | none => rfl
    | some child => exact ih child

theorem get_above {value found : Json} {path rest : List String}
    (h : value.get? (path ++ rest) = some found) :
    ∃ above, value.get? path = some above ∧ above.get? rest = some found := by
  rw [get_append] at h
  exact Option.bind_eq_some_iff.mp h

/-- The value at a path that leads through objects only. -/
def reach? (value : Json) : List String → Option Json
  | [] => some value
  | segment :: rest =>
    match value with
    | .object fields => (Fields.find? segment fields).bind fun child => child.reach? rest
    | _ => none

theorem get_of_reach {value found : Json} {path : List String}
    (h : value.reach? path = some found) : value.get? path = some found := by
  induction path generalizing value with
  | nil => exact h
  | cons segment path ih =>
    cases value with
    | object fields =>
      obtain ⟨child, hchild, hrest⟩ := Option.bind_eq_some_iff.mp h
      exact Option.bind_eq_some_iff.mpr ⟨child, hchild, ih hrest⟩
    | _ => cases h

/-- A path leads to an object. -/
def HasObject (value : Json) (path : List String) : Prop :=
  ∃ fields, value.get? path = some (.object fields)

theorem has_object_append {value found : Json} {path : List String}
    (h : value.get? path = some found)
    (rest : List String) : value.HasObject (path ++ rest) ↔ found.HasObject rest := by
  rw [HasObject, HasObject, get_append, h, Option.bind_some]

theorem HasObject.child {value child : Json} {segment : String} {path : List String}
    (h : value.HasObject (segment :: path)) (hc : value.child? segment = some child) :
    child.HasObject path := by
  obtain ⟨fields, hf⟩ := h
  rw [get?, hc] at hf
  exact ⟨fields, hf⟩

theorem reach_of_get {value found : Json} {path : List String} (h : value.get? path = some found)
    (hobjects : ∀ above, above <+: path → above ≠ path → value.HasObject above) :
    value.reach? path = some found := by
  induction path generalizing value with
  | nil => exact h
  | cons segment path ih =>
    obtain ⟨fields, hroot⟩ := hobjects [] List.nil_prefix (List.cons_ne_nil _ _).symm
    cases hroot
    obtain ⟨child, hchild, hrest⟩ := Option.bind_eq_some_iff.mp h
    refine Option.bind_eq_some_iff.mpr ⟨child, hchild, ih hrest ?_⟩
    intro above habove hne
    refine (hobjects (segment :: above) ((List.prefix_cons_inj segment).mpr habove) ?_).child hchild
    simpa using hne

namespace Fields

/-- Changes the object at a path, with objects made on the way as needed. -/
def alterAt (change : Fields → Fields) (fields : Fields) : List String → Fields
  | [] => change fields
  | segment :: rest =>
    fields.insert segment (.object ((fields.objectAt segment).alterAt change rest))

/-- The fields of the object at a path, none if there is no such object. -/
def within (fields : Fields) : List String → Fields
  | [] => fields
  | segment :: rest => (fields.objectAt segment).within rest

theorem open_at_eq (fields : Fields) (path : List String) :
    fields.openAt path = fields.alterAt id path := by
  induction path generalizing fields with
  | nil => rfl
  | cons segment path ih => rw [openAt, alterAt, ih]

theorem put_eq (fields : Fields) (value : Json) (path : List String) (last : String) :
    fields.put value (path ++ [last]) = fields.alterAt (·.insert last value) path := by
  induction path generalizing fields with
  | nil => rfl
  | cons segment path ih =>
    have hne : path ++ [last] ≠ [] := by simp
    rw [List.cons_append, put, ih, alterAt]
    exact hne

theorem object_at_insert (fields inner : Fields) (key : String) :
    (fields.insert key (.object inner)).objectAt key = inner := by
  rw [objectAt, find_insert_self]

theorem within_alter (change : Fields → Fields) (fields : Fields) (path rest : List String) :
    (fields.alterAt change (path ++ rest)).within path =
      (fields.within path).alterAt change rest := by
  induction path generalizing fields with
  | nil => rfl
  | cons segment path ih => rw [List.cons_append, alterAt, within, object_at_insert, ih, within]

theorem within_alter_self (change : Fields → Fields) (fields : Fields) (path : List String) :
    (fields.alterAt change path).within path = change (fields.within path) := by
  have h := within_alter change fields path []
  rwa [List.append_nil] at h

/-- Above what is changed there are objects. -/
theorem reach_alter (change : Fields → Fields) (fields : Fields) (path rest : List String) :
    (Json.object (fields.alterAt change (path ++ rest))).reach? path =
      some (.object ((fields.within path).alterAt change rest)) := by
  induction path generalizing fields with
  | nil => rfl
  | cons segment path ih =>
    rw [List.cons_append, alterAt, reach?, find_insert_self]
    exact ih _

theorem reach_within (fields : Fields) (path : List String) (segment : String)
    (rest : List String) :
    (Json.object fields).reach? (path ++ segment :: rest) =
      ((fields.within path).find? segment).bind fun child => child.reach? rest := by
  induction path generalizing fields with
  | nil => rfl
  | cons first path ih =>
    rw [List.cons_append, reach?, within, ← ih, objectAt]
    cases fields.find? first with
    | none => cases path <;> rfl
    | some child => cases child <;> cases path <;> rfl

theorem within_of_reach {fields inner : Fields} {path : List String}
    (h : (Json.object fields).reach? path = some (.object inner)) : fields.within path = inner := by
  induction path generalizing fields with
  | nil =>
    cases h
    rfl
  | cons segment path ih =>
    obtain ⟨child, hchild, hrest⟩ := Option.bind_eq_some_iff.mp h
    rw [within, objectAt, hchild]
    cases child with
    | object nested => exact ih hrest
    | _ => cases path <;> cases hrest

/-- The keys stand in order, each once. -/
def Ordered (fields : Fields) : Prop :=
  (fields.map Prod.fst).Pairwise (· < ·)

theorem mem_of_find {fields : Fields} {key : String} {value : Json}
    (h : fields.find? key = some value) : (key, value) ∈ fields := by
  induction fields with
  | nil => cases h
  | cons field rest ih =>
    rw [find?] at h
    split at h
    · rename_i heq
      cases h
      simp [heq]
    · exact List.mem_cons_of_mem _ (ih h)

theorem key_mem_of_find {fields : Fields} {key : String} {value : Json}
    (h : fields.find? key = some value) : key ∈ fields.map Prod.fst :=
  List.mem_map_of_mem (mem_of_find h)

theorem insert_found {fields : Fields} {key : String} {value : Json} (ho : fields.Ordered)
    (h : fields.find? key = some value) : fields.insert key value = fields := by
  induction fields with
  | nil => cases h
  | cons field rest ih =>
    obtain ⟨name, old⟩ := field
    obtain ⟨hfirst, hrest⟩ := List.pairwise_cons.mp ho
    rw [find?] at h
    rw [insert]
    split at h
    · rename_i heq
      cases h
      rw [if_pos heq, heq]
    · rename_i hne
      have hlt : name < key := hfirst key (key_mem_of_find h)
      rw [if_neg hne, if_neg (String.lt_asymm hlt), ih hrest h]

/-- A change to an object inside ordered ones that leaves it as it is leaves all of them as they
are. -/
theorem alter_found {change : Fields → Fields} {fields inner : Fields} {path : List String}
    (ho : ∀ above fields', (Json.object fields).get? above = some (.object fields') →
      Ordered fields')
    (hobjects : ∀ above, above <+: path → (Json.object fields).HasObject above)
    (h : (Json.object fields).get? path = some (.object inner)) (hc : change inner = inner) :
    fields.alterAt change path = fields := by
  induction path generalizing fields with
  | nil =>
    cases h
    exact hc
  | cons segment path ih =>
    obtain ⟨nested, hnested⟩ := hobjects [segment] (by simp)
    obtain ⟨child, hchild, hnested⟩ := Option.bind_eq_some_iff.mp hnested
    cases hnested
    have hfind : fields.find? segment = some (.object nested) := hchild
    have hget : ∀ rest, (Json.object fields).get? (segment :: rest) =
        (Json.object nested).get? rest := by
      intro rest
      rw [get?, hchild, Option.bind_some]
    have hsame : alterAt change nested path = nested := by
      refine ih ?_ ?_ (by rwa [hget] at h)
      · intro above fields' hf
        exact ho (segment :: above) fields' (by rwa [hget])
      · intro above habove
        exact (hobjects (segment :: above) ((List.prefix_cons_inj segment).mpr habove)).child hchild
    rw [alterAt, objectAt, hfind]
    dsimp only
    rw [hsame]
    exact insert_found (ho [] fields rfl) hfind

end Fields

/-- The keys of every object inside a value stand in order, each once. -/
def WellKeyed (value : Json) : Prop :=
  ∀ path fields, value.get? path = some (.object fields) → Fields.Ordered fields

theorem WellKeyed.leaf {value : Json} (hv : ∀ segment, value.child? segment = none)
    (hne : ∀ fields, value ≠ .object fields) : value.WellKeyed := by
  intro path fields h
  cases path with
  | nil =>
    cases h
    exact absurd rfl (hne fields)
  | cons segment path =>
    rw [get?, hv] at h
    cases h

theorem WellKeyed.object {fields : Fields} (ho : fields.Ordered)
    (h : ∀ key value, fields.find? key = some value → value.WellKeyed) :
    (Json.object fields).WellKeyed := by
  intro path inner hinner
  cases path with
  | nil =>
    cases hinner
    exact ho
  | cons segment path =>
    obtain ⟨child, hchild, hrest⟩ := Option.bind_eq_some_iff.mp hinner
    exact h segment child hchild path inner hrest

theorem WellKeyed.of_forall {fields : Fields} (ho : fields.Ordered)
    (h : ∀ field ∈ fields, field.2.WellKeyed) : (Json.object fields).WellKeyed :=
  .object ho fun key value hfind => h (key, value) (Fields.mem_of_find hfind)

end PathQuery.Json

namespace PathQuery

open Json

/-- Writes what was found under the last segment of a path, if anything. -/
def writeFound (found : Option Json) (last : String) (fields : Fields) : Fields :=
  match found with
  | some value => fields.insert last value
  | none => fields

theorem find_write_found {found : Option Json} {last segment : String} (h : segment ≠ last)
    (fields : Fields) : (writeFound found last fields).find? segment = fields.find? segment := by
  cases found with
  | none => rfl
  | some value => exact Fields.find_insert_of_ne h value fields

theorem copy_path_eq (record : Json) (target : Fields) (above : List String) (last : String) :
    copyPath record target (above ++ [last]) =
      target.alterAt (writeFound (record.get? (above ++ [last])) last) above := by
  unfold copyPath
  cases record.get? (above ++ [last]) with
  | none =>
    rw [List.dropLast_concat]
    exact Fields.open_at_eq target above
  | some value => exact Fields.put_eq target value above last

section Copies

variable {record value : Json} {target : Fields} {path rest : List String}

/-- A path below the one copied reads what was found there. -/
theorem reach_copy_below {path : List String} (hne : path ≠ []) (h : record.get? path = some value)
    (rest : List String) : (Json.object (copyPath record target path)).reach? (path ++ rest) =
      value.reach? rest := by
  obtain rfl | ⟨above, last, rfl⟩ := List.eq_nil_or_concat path
  · exact absurd rfl hne
  · rw [List.concat_eq_append] at h ⊢
    rw [copy_path_eq, h, List.append_assoc, List.singleton_append, Fields.reach_within,
      Fields.within_alter_self, writeFound, Fields.find_insert_self, Option.bind_some]

/-- A path that parts from the one copied reads what it read before. -/
theorem reach_copy_apart (above : List String) {segment other : String} (h : segment ≠ other)
    (rest more : List String) :
    (Json.object (copyPath record target (above ++ other :: more))).reach?
      (above ++ segment :: rest) =
      (Json.object target).reach? (above ++ segment :: rest) := by
  rw [Fields.reach_within, Fields.reach_within]
  obtain rfl | ⟨path, last, rfl⟩ := List.eq_nil_or_concat more
  · rw [copy_path_eq, Fields.within_alter_self, find_write_found h]
  · rw [List.concat_eq_append, ← List.cons_append, ← List.append_assoc, copy_path_eq,
      Fields.within_alter, Fields.alterAt, Fields.find_insert_of_ne h]

/-- A path above the one copied leads to an object. -/
theorem reach_copy_above (above : List String) (path : List String) (last : String) :
    (Json.object (copyPath record target (above ++ (path ++ [last])))).reach? above =
      some
        (.object ((target.within above).alterAt
          (writeFound (record.get? (above ++ (path ++ [last]))) last) path)) := by
  rw [← List.append_assoc, copy_path_eq, Fields.reach_alter]

/-- Copying a path inside a value that was copied before changes nothing, if it leads through
objects only. -/
theorem reach_copy_inside (hk : record.WellKeyed) {path : List String} (hne : rest ≠ [])
    (hobjects : ∀ above, path <+: above → above <+: path ++ rest → above ≠ path ++ rest →
      record.HasObject above)
    (hv : record.get? path = some value) (ht : (Json.object target).reach? path = some value) :
    (Json.object (copyPath record target (path ++ rest))).reach? path = some value := by
  obtain ⟨inner, hinner⟩ :=
    hobjects path (List.prefix_refl _) (List.prefix_append _ _) (by simpa using hne.symm)
  rw [hv] at hinner
  cases hinner
  have hget : ∀ below, record.get? (path ++ below) = (Json.object inner).get? below := by
    intro below
    rw [get_append, hv, Option.bind_some]
  obtain rfl | ⟨between, last, rfl⟩ := List.eq_nil_or_concat rest
  · exact absurd rfl hne
  · rw [List.concat_eq_append] at hobjects ⊢
    have hbetween : ∀ above, above <+: between → (Json.object inner).HasObject above := by
      intro above habove
      refine (has_object_append hv above).mp
        (hobjects (path ++ above) (List.prefix_append _ _) ?_ ?_)
      · exact (List.prefix_append_right_inj path).mpr (habove.trans (List.prefix_append _ _))
      · intro heq
        have hlength := habove.length_le
        rw [List.append_cancel_left heq, List.length_append, List.length_singleton] at hlength
        omega
    have hordered : ∀ above fields, (Json.object inner).get? above = some (.object fields) →
        Fields.Ordered fields := by
      intro above fields hf
      exact hk (path ++ above) fields (by rwa [hget])
    obtain ⟨deepest, hdeepest⟩ := hbetween between (List.prefix_refl _)
    have hsame : writeFound (record.get? (path ++ (between ++ [last]))) last deepest = deepest := by
      have hfound : record.get? (path ++ (between ++ [last])) = Fields.find? last deepest := by
        rw [hget, get_append, hdeepest, Option.bind_some, get?, child?]
        cases Fields.find? last deepest <;> rfl
      cases hf : Fields.find? last deepest with
      | none => rw [hfound, hf]; rfl
      | some found =>
        rw [hfound, hf]
        exact Fields.insert_found (hordered between deepest hdeepest) hf
    rw [reach_copy_above, Fields.within_of_reach ht,
      Fields.alter_found hordered hbetween hdeepest hsame]

/-- Two paths of which none leads to the other part somewhere. -/
theorem exists_parting {xs ys : List String} (hx : ¬ xs <+: ys) (hy : ¬ ys <+: xs) :
    ∃ above x y xs' ys', x ≠ y ∧ xs = above ++ x :: xs' ∧ ys = above ++ y :: ys' := by
  induction xs generalizing ys with
  | nil => exact absurd List.nil_prefix hx
  | cons x xs ih =>
    cases ys with
    | nil => exact absurd List.nil_prefix hy
    | cons y ys =>
      by_cases hxy : x = y
      · subst hxy
        rw [List.prefix_cons_inj] at hx hy
        obtain ⟨above, x', y', xs', ys', hne, rfl, rfl⟩ := ih hx hy
        exact ⟨x :: above, x', y', xs', ys', hne, rfl, rfl⟩
      · exact ⟨[], x, y, xs, ys, hxy, rfl, rfl⟩

/-- One path leads through objects only, from another one on that it continues. -/
def ClearBelow (record : Json) (path other : List String) : Prop :=
  ∀ above, path <+: above → above <+: other → above ≠ other → record.HasObject above

/-- Copying a path gives what it finds and keeps what another path reads, if the longer one of the
two leads through objects only from the shorter one on. -/
theorem reach_copy (hk : record.WellKeyed) {other : List String} (hne : other ≠ [])
    (hbelow : ClearBelow record path other) (habove : ClearBelow record other path)
    (hv : record.get? path = some value)
    (ht : ¬ other <+: path → (Json.object target).reach? path = some value) :
    (Json.object (copyPath record target other)).reach? path = some value := by
  by_cases hprefix : other <+: path
  · obtain ⟨rest, rfl⟩ := hprefix
    obtain ⟨found, hfound, hrest⟩ := get_above hv
    rw [reach_copy_below hne hfound]
    refine reach_of_get hrest ?_
    intro above hle hlt
    refine (has_object_append hfound above).mp
      (habove _ (List.prefix_append _ _) ?_ (by simpa using hlt))
    exact (List.prefix_append_right_inj other).mpr hle
  · by_cases hextends : path <+: other
    · obtain ⟨rest, rfl⟩ := hextends
      have hrest : rest ≠ [] := by
        rintro rfl
        simp at hprefix
      exact reach_copy_inside hk hrest hbelow hv (ht hprefix)
    · have hbefore := ht hprefix
      obtain ⟨above, x, y, xs, ys, hxy, rfl, rfl⟩ := exists_parting hextends hprefix
      rw [reach_copy_apart above hxy]
      exact hbefore

end Copies

section Projections

variable {record : Json} {paths : List (List String)}

/-- Every path that continues another one, if the record has it, leads through objects only from
there on. -/
def Clear (record : Json) (paths : List (List String)) : Prop :=
  ∀ path ∈ paths, ∀ other ∈ paths, (record.get? path).isSome = true → ClearBelow record path other

/-- What the record has at the paths stands at the same paths of an object, below objects. -/
def Holds (record : Json) (paths : List (List String)) (target : Fields) : Prop :=
  ∀ path ∈ paths, ∀ value, record.get? path = some value →
    (Json.object target).reach? path = some value

theorem holds_copy (hk : record.WellKeyed) (hne : ∀ path ∈ paths, path ≠ [])
    (hclear : Clear record paths)
    {done : List (List String)} {target : Fields} {path : List String}
    (hdone : ∀ other ∈ done, other ∈ paths) (hpath : path ∈ paths) (h : Holds record done target) :
    Holds record (done ++ [path]) (copyPath record target path) := by
  intro other hother value hv
  have hmem : other ∈ paths := by
    rcases List.mem_append.mp hother with hm | hm
    · exact hdone other hm
    · rwa [List.mem_singleton.mp hm]
  have habove : ClearBelow record path other := by
    intro above hle hlt
    obtain ⟨rest, rfl⟩ := hle.trans hlt
    obtain ⟨found, hfound, _⟩ := get_above hv
    exact hclear path hpath _ hmem (by rw [hfound]; rfl) above hle hlt
  refine reach_copy hk (hne path hpath) (hclear other hmem path hpath (by rw [hv]; rfl))
    habove hv ?_
  intro hprefix
  rcases List.mem_append.mp hother with hm | hm
  · exact h other hm value hv
  · exact absurd (List.mem_singleton.mp hm ▸ List.prefix_refl _) hprefix

/-- Copying paths one after the other holds all of them. -/
theorem holds_copies (hk : record.WellKeyed) (hne : ∀ path ∈ paths, path ≠ [])
    (hclear : Clear record paths)
    {done todo : List (List String)} {target : Fields} (hsub : ∀ path ∈ done ++ todo, path ∈ paths)
    (h : Holds record done target) :
    Holds record (done ++ todo) (todo.foldl (copyPath record) target) := by
  induction todo generalizing done target with
  | nil => simpa using h
  | cons path todo ih =>
    have hstep :=
      holds_copy hk hne hclear (fun other ho => hsub other (by simp [ho])) (hsub path (by simp)) h
    have hrest := ih (by simpa using hsub) hstep
    simpa using hrest

/-- The last path copied has objects above it. -/
theorem last_copied_objects {other above : List String} (hle : above <+: other)
    (hne : above ≠ other) : (project (paths ++ [other]) record).HasObject above := by
  obtain ⟨rest, rfl⟩ := hle
  obtain rfl | ⟨between, last, rfl⟩ := List.eq_nil_or_concat rest
  · simp at hne
  · rw [project, List.foldl_append, List.concat_eq_append]
    exact ⟨_, get_of_reach (reach_copy_above above between last)⟩

/-- Every order of some fields keeps all their values, if and only if no field leads through
anything but objects at or below another field that the record has. -/
theorem projector_keeps_iff (record : Json) (fields : List String) (hk : record.WellKeyed) :
    (∀ order : List String, order.Perm fields → ∀ field ∈ order, ∀ value,
      record.get? (segments field) = some value →
        (Records.projector order record).get? (segments field) = some value) ↔
    ∀ field ∈ fields, ∀ other ∈ fields, (record.get? (segments field)).isSome = true →
      ClearBelow record (segments field) (segments other) := by
  constructor
  · intro hkeeps field hfield other hother hsome above hle hlt hne
    obtain ⟨value, hv⟩ := Option.isSome_iff_exists.mp hsome
    have horder : (fields.erase other ++ [other]).Perm fields :=
      List.perm_append_comm.trans (List.perm_cons_erase hother).symm
    have hkept := hkeeps _ horder field (horder.mem_iff.mpr hfield) value hv
    rw [Records.projector, List.map_append] at hkept
    have hobject :
        (project ((fields.erase other).map segments ++ [segments other]) record).HasObject above :=
      last_copied_objects hlt hne
    obtain ⟨rest, rfl⟩ := hle
    exact (has_object_append hv rest).mpr ((has_object_append hkept rest).mp hobject)
  · intro hclear order horder field hfield value hv
    have hpaths : Clear record (order.map segments) := by
      intro path hpath other hother
      obtain ⟨f, hf, rfl⟩ := List.mem_map.mp hpath
      obtain ⟨g, hg, rfl⟩ := List.mem_map.mp hother
      exact hclear f (horder.mem_iff.mp hf) g (horder.mem_iff.mp hg)
    have hne : ∀ path ∈ order.map segments, path ≠ [] := by
      intro path hpath
      obtain ⟨f, _, rfl⟩ := List.mem_map.mp hpath
      exact segments_ne_nil f
    have hholds : Holds record ([] ++ order.map segments)
        ((order.map segments).foldl (copyPath record) []) := by
      refine holds_copies hk hne hpaths (fun path hpath => hpath) ?_
      intro path hpath
      cases hpath
    exact get_of_reach (hholds _ (List.mem_map_of_mem hfield) value hv)

/-- A value and a part of it, in any order. -/
theorem projector_keeps_part : ∃ record : Json,
    record = .object [("a", .object [("b", .ofNat 1), ("c", .null)]), ("d", .null)] ∧
      record.WellKeyed ∧
    ∀ order : List String, order.Perm ["a.b", "a"] → ∀ field ∈ order, ∀ value,
      record.get? (segments field) = some value →
        (Records.projector order record).get? (segments field) = some value := by
  refine ⟨_, rfl, ?keyed, (projector_keeps_iff _ ["a.b", "a"] ?keyed).mpr ?clear⟩
  case keyed =>
    have hnull : WellKeyed .null := .leaf (fun _ => rfl) (fun _ h => by cases h)
    have hnumber : WellKeyed (.ofNat 1) := .leaf (fun _ => rfl) (fun _ h => by cases h)
    have hinner : WellKeyed (.object [("b", .ofNat 1), ("c", .null)]) := by
      refine .object (by unfold Fields.Ordered; decide) ?_
      intro key value h
      simp only [Fields.find?] at h
      split at h
      · cases h; exact hnumber
      · split at h
        · cases h; exact hnull
        · cases h
    refine .object (by unfold Fields.Ordered; decide) ?_
    intro key value h
    simp only [Fields.find?] at h
    split at h
    · cases h; exact hinner
    · split at h
      · cases h; exact hnull
      · cases h
  case clear =>
    have ha : segments "a" = ["a"] := by decide
    have hb : segments "a.b" = ["a", "b"] := by decide
    intro field hfield other hother _ above hle hlt hne
    have hlong := hle.length_le
    have hshort : above.length < (segments other).length :=
      Nat.lt_of_le_of_ne hlt.length_le fun h => hne (hlt.eq_of_length h)
    -- only `a` stands above another field, and no path but its own lies between the two
    simp only [List.mem_cons, List.not_mem_nil, or_false] at hfield hother
    rcases hfield with rfl | rfl <;> rcases hother with rfl | rfl <;>
      simp only [ha, hb, List.length_cons, List.length_nil] at hlong hshort hle
    · omega
    · omega
    · rw [← hle.eq_of_length (by simp only [List.length_cons, List.length_nil]; omega)]
      exact ⟨_, rfl⟩
    · omega

/-- A later field takes an earlier one's value away: a number if it is missing below it, a list if
it is an item. -/
theorem projector_loses_values :
    (["a", "a.b", "a.0"].all fun path => isValidPath path.toList) = true ∧
    (∃ record : Json, record = .object [("a", .ofNat 5)] ∧
      record.get? (segments "a") = some (.ofNat 5) ∧
      (Records.projector ["a", "a.b"] record).get? (segments "a") = some (.object [])) ∧
    ∃ record : Json, record = .object [("a", .array [.ofNat 1, .ofNat 2])] ∧
      record.get? (segments "a") = some (.array [.ofNat 1, .ofNat 2]) ∧
      (Records.projector ["a", "a.0"] record).get? (segments "a") =
        some (.object [("0", .ofNat 1)]) :=
  ⟨by decide, ⟨_, rfl, rfl, rfl⟩, _, rfl, rfl, rfl⟩

end Projections

end PathQuery
