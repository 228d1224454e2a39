import Mathlib.Data.List.Nodup
import PathQuery.Adapter.Registry

namespace PathQuery.Registry

variable {m : Type → Type} {registry changed : Registry m}

theorem run_bind {α β : Type} (registry : Registry m) (edit : Edit m α) (next : α → Edit m β) :
    registry.run (edit >>= next) = match registry.run edit with
      | (.ok value, changed) => changed.run (next value)
      | (.error e, changed) => (.error e, changed) := by
  unfold run
  simp only [ExceptT.run_bind, StateT.run_bind]
  rcases StateT.run (ExceptT.run edit) registry with ⟨_ | _, _⟩ <;> rfl

theorem contains_iff {name : String} : registry.contains name = true ↔ name ∈ registry.names := by
  simp [contains, get?, names]

/-- Putting an adapter in the place of the first one that has its name. -/
theorem set_cons (old adapter : Adapter m) (adapters : List (Adapter m)) :
    (old :: adapters).set ((old :: adapters).findIdx (·.name == adapter.name)) adapter =
      if old.name = adapter.name then adapter :: adapters
      else old :: adapters.set (adapters.findIdx (·.name == adapter.name)) adapter := by
  rw [List.findIdx_cons]
  by_cases hn : old.name = adapter.name
  · rw [if_pos hn, beq_iff_eq.mpr hn, cond_true, List.set_cons_zero]
  · rw [if_neg hn, beq_eq_false_iff_ne.mpr hn, cond_false, List.set_cons_succ]

theorem replace_names (registry : Registry m) (adapter : Adapter m) :
    (registry.replace adapter).names = registry.names := by
  unfold names replace
  dsimp only
  induction registry.adapters with
  | nil => rfl
  | cons old adapters ih =>
    rw [set_cons]
    split
    · rename_i hn
      rw [List.map_cons, List.map_cons, hn]
    · rw [List.map_cons, List.map_cons, ih]

theorem erase_names (registry : Registry m) (name : String) :
    (registry.adapters.eraseP (·.name == name)).map Adapter.name = registry.names.erase name := by
  rw [names, List.erase_eq_eraseP', List.eraseP_map]
  rfl

/-- What a change does if it succeeds. -/
inductive Becomes (registry : Registry m) : Change m → Registry m → Prop where
  | registered {adapter : Adapter m} (hn : Text.trim adapter.name.toList ≠ [])
      (hf : adapter.name ∉ registry.names) :
    Becomes registry (.register adapter)
      ⟨registry.adapters ++ [adapter], registry.defaultName.or (some adapter.name)⟩
  | removed {name : String} (hm : name ∈ registry.names) (hd : registry.defaultName ≠ some name) :
    Becomes registry (.remove name)
      { registry with adapters := registry.adapters.eraseP (·.name == name) }
  | chosen {name : String} (hm : name ∈ registry.names) :
    Becomes registry (.setDefault name) { registry with defaultName := some name }
  | replaced {adapter : Adapter m} (hm : adapter.name ∈ registry.names) :
    Becomes registry (.installDefault adapter)
      { registry.replace adapter with defaultName := some adapter.name }
  | installed {adapter : Adapter m} (hn : Text.trim adapter.name.toList ≠ [])
      (hf : adapter.name ∉ registry.names) :
    Becomes registry (.installDefault adapter) ⟨registry.adapters ++ [adapter], some adapter.name⟩

theorem run_register (registry : Registry m) (adapter : Adapter m) :
    registry.run (register adapter) =
    if Text.trim adapter.name.toList = [] then (.error (.malformedAdapter .unnamed), registry)
    else if registry.contains adapter.name then
      (.error (.malformedAdapter (.nameTaken adapter.name)), registry)
    else
      (.ok (), ⟨registry.adapters ++ [adapter], registry.defaultName.or (some adapter.name)⟩) := by
  unfold register
  rw [run_bind]
  change run registry (if _ then _ else _) = _
  split
  · rfl
  · split <;> rfl

theorem run_remove (registry : Registry m) (name : String) : registry.run (remove name) =
    if registry.defaultName = some name then (.error (.defaultInUse name), registry)
    else match registry.get? name with
      | some adapter =>
        (.ok adapter, { registry with adapters := registry.adapters.eraseP (·.name == name) })
      | none => (.error (.unknownAdapter name), registry) := by
  unfold remove
  rw [run_bind]
  change run registry (if _ then _ else _) = _
  split
  · rfl
  · cases registry.get? name <;> rfl

theorem run_set_default (registry : Registry m) (name : String) : registry.run (setDefault name) =
    if registry.contains name then (.ok (), { registry with defaultName := some name })
    else (.error (.unknownAdapter name), registry) := by
  unfold setDefault
  rw [run_bind]
  change run registry (if _ then _ else _) = _
  split <;> rfl

theorem run_install_default (registry : Registry m) (adapter : Adapter m) :
    registry.run (installDefault adapter) =
    if registry.contains adapter.name then (registry.replace adapter).run (setDefault adapter.name)
    else registry.run (register adapter >>= fun _ => setDefault adapter.name) := by
  unfold installDefault
  rw [run_bind]
  change run registry (if _ then _ else _) = _
  split <;> rfl

/-- Registering fails and changes nothing, or it adds the adapter. -/
theorem register_cases (registry : Registry m) (adapter : Adapter m) :
    (∃ e, registry.run (register adapter) = (.error e, registry)) ∨
      Text.trim adapter.name.toList ≠ [] ∧ adapter.name ∉ registry.names ∧
        registry.run (register adapter) =
        (.ok (),
          ⟨registry.adapters ++ [adapter], registry.defaultName.or (some adapter.name)⟩) := by
  rw [run_register]
  by_cases hn : Text.trim adapter.name.toList = []
  · rw [if_pos hn]
    exact .inl ⟨_, rfl⟩
  · by_cases hc : registry.contains adapter.name = true
    · rw [if_neg hn, if_pos hc]
      exact .inl ⟨_, rfl⟩
    · rw [if_neg hn, if_neg hc]
      exact .inr ⟨hn, fun hm => hc (contains_iff.mpr hm), rfl⟩

theorem run_set_default_of_mem {name : String} (h : name ∈ registry.names) :
    registry.run (setDefault name) = (.ok (), { registry with defaultName := some name }) := by
  rw [run_set_default, if_pos (contains_iff.mpr h)]

/-- Installing under a name that is taken replaces the adapter that has it. -/
theorem run_install_of_mem {adapter : Adapter m} (h : adapter.name ∈ registry.names) :
    registry.run (installDefault adapter) =
      (.ok (), { registry.replace adapter with defaultName := some adapter.name }) := by
  rw [run_install_default, if_pos (contains_iff.mpr h)]
  exact run_set_default_of_mem (by rwa [replace_names])

/-- A change fails and leaves the registry as it was, or it does what it is there for. -/
theorem change_cases (registry : Registry m) (c : Change m) :
    (∃ e, registry.change c = (.error e, registry)) ∨
      ∃ result changed, registry.change c = (.ok result, changed) ∧ registry.Becomes c changed := by
  unfold change
  cases c with
  | register adapter =>
    rw [Change.edit, run_bind]
    rcases register_cases registry adapter with ⟨e, he⟩ | ⟨hn, hf, hok⟩
    · rw [he]
      exact .inl ⟨e, rfl⟩
    · rw [hok]
      exact .inr ⟨_, _, rfl, .registered hn hf⟩
  | remove name =>
    rw [Change.edit, run_bind, run_remove]
    by_cases hd : registry.defaultName = some name
    · rw [if_pos hd]
      exact .inl ⟨_, rfl⟩
    · rw [if_neg hd]
      cases hg : registry.get? name with
      | none => exact .inl ⟨_, rfl⟩
      | some adapter =>
        have hc : registry.contains name = true := by
          rw [contains, hg]
          rfl
        exact .inr ⟨_, _, rfl, .removed (contains_iff.mp hc) hd⟩
  | setDefault name =>
    rw [Change.edit, run_bind, run_set_default]
    by_cases hc : registry.contains name = true
    · rw [if_pos hc]
      exact .inr ⟨_, _, rfl, .chosen (contains_iff.mp hc)⟩
    · rw [if_neg hc]
      exact .inl ⟨_, rfl⟩
  | installDefault adapter =>
    rw [Change.edit, run_bind]
    by_cases hm : adapter.name ∈ registry.names
    · rw [run_install_of_mem hm]
      exact .inr ⟨_, _, rfl, .replaced hm⟩
    · rw [run_install_default, if_neg fun hc => hm (contains_iff.mp hc), run_bind]
      rcases register_cases registry adapter with ⟨e, he⟩ | ⟨hn, _, hok⟩
      · rw [he]
        exact .inl ⟨e, rfl⟩
      · -- the second step finds the adapter that the first one has added
        rw [hok]
        dsimp only
        rw [run_set_default_of_mem (by simp [names])]
        exact .inr ⟨_, _, rfl, .installed hn hm⟩

/-- Whether a change can take away the adapter that has a name, for good or for another one. -/
def Change.displaces (name : String) : Change m → Prop
  | .remove removed => removed = name
  | .installDefault adapter => adapter.name = name
  | _ => False

theorem get_name {name : String} {adapter : Adapter m} (h : registry.get? name = some adapter) :
    adapter.name = name := by
  simpa using List.find?_some h

/-- An adapter that is resolved is the one registered under its own name. -/
theorem get_of_resolve {name : Option String} {adapter : Adapter m}
    (h : registry.resolve name = .ok adapter) : registry.get? adapter.name = some adapter := by
  have hg : ∃ name, registry.get? name = some adapter := by
    unfold resolve at h
    cases name with
    | some name =>
      refine ⟨name, ?_⟩
      cases hg : registry.get? name <;> simp_all
    | none =>
      cases hg : registry.defaultAdapter? with
      | none => simp [hg] at h
      | some default =>
        obtain ⟨name, _, hname⟩ := Option.bind_eq_some_iff.mp hg
        refine ⟨name, hname.trans ?_⟩
        simpa [hg] using h
  obtain ⟨name, hg⟩ := hg
  rwa [get_name hg]

theorem find_erase_of_ne {name other : String} (h : name ≠ other) (adapters : List (Adapter m)) :
    (adapters.eraseP (·.name == name)).find? (·.name == other) =
      adapters.find? (·.name == other) := by
  induction adapters with
  | nil => rfl
  | cons adapter adapters ih =>
    by_cases hn : adapter.name = name
    · simp [hn, h]
    · simp [hn, List.find?_cons, ih]

theorem get_replace_of_ne {other : String} {adapter : Adapter m} (h : adapter.name ≠ other) :
    (registry.replace adapter).get? other = registry.get? other := by
  unfold get? replace
  dsimp only
  induction registry.adapters with
  | nil => rfl
  | cons old adapters ih =>
    rw [set_cons]
    split
    · rename_i hn
      simp [hn, h]
    · simp [List.find?_cons, ih]

theorem Becomes.get {c : Change m} (hc : registry.Becomes c changed) {name : String}
    {adapter : Adapter m}
    (hd : ¬ c.displaces name) (hg : registry.get? name = some adapter) :
    changed.get? name = some adapter := by
  cases hc with
  | registered hn hf => simp_all [get?]
  | installed hn hf => simp_all [get?]
  | chosen hm => exact hg
  | removed hm _ => exact (find_erase_of_ne hd _).trans hg
  | replaced hm => exact (get_replace_of_ne hd).trans hg

/-- Only its removal takes a name out. -/
theorem Becomes.mem_names {c : Change m} (hc : registry.Becomes c changed) {name : String}
    (hn : c ≠ .remove name) (hm : name ∈ registry.names) : name ∈ changed.names := by
  cases hc with
  | registered _ hf => simp_all [names]
  | installed _ hf => simp_all [names]
  | chosen _ => exact hm
  | @removed removed _ _ =>
    have hne : name ≠ removed := fun heq => hn (heq ▸ rfl)
    change name ∈ (registry.adapters.eraseP _).map _
    rw [erase_names]
    exact (List.mem_erase_of_ne hne).mpr hm
  | @replaced adapter _ =>
    change name ∈ (registry.replace adapter).names
    rwa [replace_names]

/-- What every registry keeps: names of their own that are not blank, and a default among them if
there are any. -/
structure Sound (registry : Registry m) : Prop where
  distinct : registry.names.Nodup
  named : ∀ name ∈ registry.names, Text.trim name.toList ≠ []
  default_none : registry.defaultName = none ↔ registry.adapters = []
  default_mem : ∀ name, registry.defaultName = some name → name ∈ registry.names

theorem sound_empty : (empty : Registry m).Sound :=
  ⟨List.nodup_nil, by simp [empty, names], by simp [empty], by simp [empty]⟩

theorem sound_builtin [Monad m] : (builtin : Registry m).Sound where
  distinct := by
    change ["json", "sql"].Nodup
    decide
  named := by
    change ∀ name ∈ ["json", "sql"], Text.trim name.toList ≠ []
    decide
  default_none := by simp [builtin]
  default_mem := by
    rintro name h
    cases h
    exact List.mem_cons_self

/-- A registry with a default is sound if its names are, and the default is one of them. -/
theorem sound_of_default {adapters : List (Adapter m)} {name : String}
    (hd : (adapters.map Adapter.name).Nodup)
    (hn : ∀ name ∈ adapters.map Adapter.name, Text.trim name.toList ≠ [])
    (hm : name ∈ adapters.map Adapter.name) : (⟨adapters, some name⟩ : Registry m).Sound where
  distinct := hd
  named := hn
  default_none := by
    refine iff_of_false (by simp) ?_
    rintro rfl
    cases hm
  default_mem := by
    intro other h
    cases h
    exact hm

theorem Sound.exists_default (h : registry.Sound) {name : String} (hm : name ∈ registry.names) :
    ∃ default, registry.defaultName = some default ∧ default ∈ registry.names := by
  cases hd : registry.defaultName with
  | none =>
    rw [names, h.default_none.mp hd] at hm
    cases hm
  | some default => exact ⟨default, rfl, h.default_mem default hd⟩

theorem Sound.added (h : registry.Sound) {adapter : Adapter m}
    (hn : Text.trim adapter.name.toList ≠ [])
    (hf : adapter.name ∉ registry.names) {default : String}
    (hd : default ∈ registry.names ∨ default = adapter.name) :
    (⟨registry.adapters ++ [adapter], some default⟩ : Registry m).Sound := by
  have hnames : (registry.adapters ++ [adapter]).map Adapter.name =
      registry.names ++ [adapter.name] := by
    simp [names]
  refine sound_of_default ?_ ?_ ?_ <;> rw [hnames]
  · exact h.distinct.append (List.nodup_singleton _) (by simpa using hf)
  · intro name hm
    rcases List.mem_append.mp hm with hm | hm
    · exact h.named name hm
    · rwa [List.mem_singleton.mp hm]
  · simpa using hd

theorem Sound.becomes (h : registry.Sound) {c : Change m} (hc : registry.Becomes c changed) :
    changed.Sound := by
  cases hc with
  | registered hn hf =>
    cases hd : registry.defaultName with
    | none => exact h.added hn hf (.inr rfl)
    | some default => exact h.added hn hf (.inl (h.default_mem default hd))
  | installed hn hf => exact h.added hn hf (.inr rfl)
  | @removed name hm hd =>
    obtain ⟨default, hdefault, hmem⟩ := h.exists_default hm
    have hne : default ≠ name := fun heq => hd (heq ▸ hdefault)
    rw [hdefault]
    refine sound_of_default ?_ ?_ ?_ <;> rw [erase_names]
    · exact h.distinct.erase name
    · exact fun other ho => h.named other (List.mem_of_mem_erase ho)
    · exact (List.mem_erase_of_ne hne).mpr hmem
  | chosen hm => exact sound_of_default h.distinct h.named hm
  | @replaced adapter hm =>
    have hnames : (registry.replace adapter).adapters.map Adapter.name = registry.names :=
      registry.replace_names adapter
    refine sound_of_default ?_ ?_ ?_ <;> rw [hnames]
    · exact h.distinct
    · exact h.named
    · exact hm

/-- A registry after some attempts to change it. -/
def after (registry : Registry m) : List (Change m) → Registry m
  | [] => registry
  | c :: later => (registry.change c).2.after later

theorem after_append (registry : Registry m) (changes later : List (Change m)) :
    registry.after (changes ++ later) = (registry.after changes).after later := by
  induction changes generalizing registry with
  | nil => rfl
  | cons c changes ih => exact ih _

theorem Sound.change (h : registry.Sound) (c : Change m) : (registry.change c).2.Sound := by
  rcases change_cases registry c with ⟨e, he⟩ | ⟨result, changed, hok, hc⟩
  · rw [he]
    exact h
  · rw [hok]
    exact h.becomes hc

theorem Sound.after (h : registry.Sound) (changes : List (Change m)) :
    (registry.after changes).Sound := by
  induction changes generalizing registry with
  | nil => exact h
  | cons c changes ih => exact ih (h.change c)

/-- A change that succeeds leaves a default. -/
theorem Becomes.has_default (h : registry.Sound) {c : Change m} (hc : registry.Becomes c changed) :
    changed.defaultName.isSome = true := by
  cases hc with
  | registered hn hf => simp
  | removed hm hd =>
    obtain ⟨default, hdefault, _⟩ := h.exists_default hm
    simp [hdefault]
  | chosen hm => rfl
  | replaced hm => rfl
  | installed hn hf => rfl

theorem default_kept (h : registry.Sound) (hd : registry.defaultName.isSome = true)
    (changes : List (Change m)) : (registry.after changes).defaultName.isSome = true := by
  induction changes generalizing registry with
  | nil => exact hd
  | cons c changes ih =>
    refine ih (h.change c) ?_
    rcases change_cases registry c with ⟨e, he⟩ | ⟨result, changed, hok, hc⟩
    · rw [he]
      exact hd
    · rw [hok]
      exact hc.has_default h

theorem Sound.resolve_default (h : registry.Sound) (hd : registry.defaultName.isSome = true) :
    ∃ adapter, registry.resolve none = .ok adapter := by
  obtain ⟨name, hname⟩ := Option.isSome_iff_exists.mp hd
  obtain ⟨adapter, hadapter⟩ :=
    Option.isSome_iff_exists.mp (contains_iff.mpr (h.default_mem name hname))
  refine ⟨adapter, ?_⟩
  rw [resolve, defaultAdapter?, hname, Option.bind_some, hadapter]

/-- A registry that starts out empty or with the usual adapters stays sound through all changes.
Once one of them has succeeded, and the first that can is a registration, there is a default adapter
for ever; a change that fails changes nothing; and an adapter installed under a name that is taken
keeps the order of names. -/
theorem sound_after [Monad m] (start : Registry m) (hs : start = builtin ∨ start = empty)
    (changes : List (Change m)) :
    (start.after changes).Sound ∧
    ((start = builtin ∨ ∃ before c later result, changes = before ++ c :: later ∧
        ((start.after before).change c).1 = .ok result) →
      ∃ adapter, (start.after changes).resolve none = .ok adapter) ∧
    (∀ c e, ((start.after changes).change c).1 = .error e →
      ((start.after changes).change c).2 = start.after changes) ∧
    ∀ adapter, (start.after changes).contains adapter.name = true →
      ((start.after changes).change (.installDefault adapter)).1 = .ok none ∧
      ((start.after changes).change (.installDefault adapter)).2.names =
        (start.after changes).names := by
  have hstart : start.Sound := by
    rcases hs with rfl | rfl
    · exact sound_builtin
    · exact sound_empty
  have hafter := hstart.after changes
  refine ⟨hafter, ?_, ?_, ?_⟩
  · intro h
    refine hafter.resolve_default ?_
    rcases h with rfl | ⟨before, c, later, result, rfl, hok⟩
    · exact default_kept hstart rfl changes
    · have hbefore := hstart.after before
      rcases change_cases (start.after before) c with ⟨e, he⟩ | ⟨_, changed, hchange, hc⟩
      · rw [he] at hok
        cases hok
      · rw [after_append, after, hchange]
        exact default_kept (hbefore.becomes hc) (hc.has_default hbefore) later
  · intro c e he
    rcases change_cases (start.after changes) c with ⟨_, hfail⟩ | ⟨_, _, hok, _⟩
    · rw [hfail]
    · rw [hok] at he
      cases he
  · intro adapter hc
    rw [change, Change.edit, run_bind, run_install_of_mem (contains_iff.mp hc)]
    exact ⟨rfl, replace_names _ adapter⟩

/-- Two registrations, an adapter installed over the first one, and its removal once there is
another default. -/
theorem sound_after_reinstall : ∃ changes : List (Change Id),
    changes = [
      .register { name := "a", compile := fun _ _ => .error .noAdapter },
      .register { name := "b", compile := fun _ _ => .error .noAdapter },
      .installDefault { name := "a", compile := fun _ _ => .error (.unknownAdapter "a") },
      .remove "a", .setDefault "b", .remove "a"] ∧
    (empty.after changes).names = ["b"] ∧ (empty.after changes).Sound ∧
    ∃ adapter, (empty.after changes).resolve none = .ok adapter := by
  refine ⟨_, rfl, rfl, (sound_after empty (.inr rfl) _).1,
    (sound_after empty (.inr rfl) _).2.1 (.inr ?_)⟩
  exact ⟨[], _, _, none, rfl, rfl⟩

end PathQuery.Registry
