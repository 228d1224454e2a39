import PathQuery.Proofs.Answers

namespace PathQuery

/-- What a sort needs of a comparison: everything is alike to itself, the other way round is the
other answer, and in a chain that never goes down the ends compare as the first step that goes up,
or are alike if there is none. -/
structure TotalPreorder {α : Type} (cmp : α → α → Ordering) : Prop where
  refl : ∀ a, cmp a a = .eq
  swap : ∀ a b, cmp b a = (cmp a b).swap
  chain : ∀ a b c, cmp a b ≠ .gt → cmp b c ≠ .gt → cmp a c = (cmp a b).then (cmp b c)

theorem TotalPreorder.of_trans {α : Type} (cmp : α → α → Ordering) [Std.TransCmp cmp] :
    TotalPreorder cmp where
  refl _ := Std.ReflCmp.compare_self
  swap _ _ := Std.OrientedCmp.eq_swap
  chain a b c hab hbc := by
    cases ha : cmp a b with
    | gt => exact absurd ha hab
    | eq => exact Std.TransCmp.congr_left ha
    | lt =>
      rw [Ordering.lt_then]
      cases hb : cmp b c with
      | gt => exact absurd hb hbc
      | eq => exact Std.TransCmp.lt_of_lt_of_eq ha hb
      | lt => exact Std.TransCmp.lt_trans ha hb

/-- Values compare by a total preorder in which each kind comes after those of lower rank. Rows
compare by one too, whatever keys and orders they are sorted by: the first key that tells two rows
apart decides, and without one they are alike. -/
theorem comparisons_total_preorder :
    (TotalPreorder compareValues ∧ ∀ a b, kindRank a < kindRank b → compareValues a b = .lt) ∧
    ∀ sort : SortKeys, TotalPreorder (fun a b => compareRows a b sort.rowKeys) ∧
      ∀ a b, (compareRows a b sort.rowKeys = .lt ↔ sort.Before a b) ∧
        (compareRows a b sort.rowKeys = .eq ↔ sort.Alike a b) := by
  refine ⟨⟨.of_trans compareValues, ?_⟩, fun sort => ⟨.of_trans _, ?_⟩⟩
  · intro a b hrank
    rw [compare_values_of_ne hrank.ne]
    exact Nat.compare_eq_lt.mpr hrank
  · intro a b
    exact ⟨SortKeys.before_iff.symm, SortKeys.alike_iff.symm⟩

section Classes

variable {α : Type} (cmp : α → α → Ordering) {rows rows' : List α}

/-- Rows in an order that never goes down. -/
def Ascends (rows : List α) : Prop :=
  rows.Pairwise fun a b => (cmp a b).isLE = true

/-- The rows that are alike to one, in the order they stand in. -/
def classOf (a : α) (rows : List α) : List α :=
  rows.filter fun b => cmp a b == .eq

variable {cmp}

theorem mem_class_of {a b : α} : b ∈ classOf cmp a rows ↔ b ∈ rows ∧ cmp a b = .eq := by
  simp [classOf]

theorem class_of_filter (p : α → Bool) (a : α) :
    classOf cmp a (rows.filter p) = (classOf cmp a rows).filter p :=
  List.filter_comm ..

variable [Std.TransCmp cmp]

theorem class_of_ascends (a : α) : Ascends cmp (classOf cmp a rows) := by
  apply List.pairwise_of_forall_mem_list
  intro b hb c hc
  have hbc : cmp b c = .eq :=
    Std.TransCmp.eq_trans (Std.OrientedCmp.eq_symm (mem_class_of.mp hb).2) (mem_class_of.mp hc).2
  rw [hbc]
  rfl

/-- The first of ascending rows comes before all that stand among them. -/
theorem Ascends.head_le {a b : α} (h : Ascends cmp (a :: rows)) (hb : b ∈ a :: rows) :
    (cmp a b).isLE = true := by
  rcases List.mem_cons.mp hb with rfl | hb
  · exact Std.ReflCmp.isLE_rfl
  · exact List.rel_of_pairwise_cons h hb

theorem mem_of_same_class {a : α} (hclass : classOf cmp a rows = classOf cmp a rows')
    (ha : a ∈ rows) : a ∈ rows' := by
  have hmem : a ∈ classOf cmp a rows := mem_class_of.mpr ⟨ha, Std.ReflCmp.compare_self⟩
  rw [hclass] at hmem
  exact (mem_class_of.mp hmem).1

/-- Ascending rows are determined by their classes. -/
theorem Ascends.eq_of_classes (h : Ascends cmp rows) (h' : Ascends cmp rows')
    (hclasses : ∀ a, classOf cmp a rows = classOf cmp a rows') : rows = rows' := by
  induction rows generalizing rows' with
  | nil =>
    cases rows' with
    | nil => rfl
    | cons b rest' => cases mem_of_same_class (hclasses b).symm List.mem_cons_self
  | cons a rest ih =>
    cases rows' with
    | nil => cases mem_of_same_class (hclasses a) List.mem_cons_self
    | cons b rest' =>
      -- each of the two first rows comes before the other, so both lead the class of `a`
      have hab : cmp a b = .eq :=
        Std.OrientedCmp.isLE_antisymm
          (h.head_le (mem_of_same_class (hclasses b).symm List.mem_cons_self))
          (h'.head_le (mem_of_same_class (hclasses a) List.mem_cons_self))
      have heq : a = b := by
        have hclass := hclasses a
        simp only [classOf, List.filter_cons, Std.ReflCmp.compare_self, hab, beq_self_eq_true,
          if_true] at hclass
        exact (List.cons.inj hclass).1
      subst heq
      have hrest : ∀ x, classOf cmp x rest = classOf cmp x rest' := by
        intro x
        have hclass := hclasses x
        simp only [classOf, List.filter_cons] at hclass
        split at hclass
        · exact (List.cons.inj hclass).2
        · exact hclass
      rw [ih (List.Pairwise.of_cons h) (List.Pairwise.of_cons h') hrest]

variable (cmp) in
/-- The rows sorted by a comparison. -/
def sortBy (rows : List α) : List α :=
  rows.mergeSort fun a b => (cmp a b).isLE

theorem sort_by_ascends (rows : List α) : Ascends cmp (sortBy cmp rows) :=
  List.pairwise_mergeSort (fun _ _ _ => Std.TransCmp.isLE_trans) isLE_total rows

/-- Rows that are alike keep the order they came in. -/
theorem class_of_sort_by (a : α) (rows : List α) :
    classOf cmp a (sortBy cmp rows) = classOf cmp a rows := by
  have hsub : (classOf cmp a rows).Sublist (sortBy cmp rows) :=
    List.sublist_mergeSort (fun _ _ _ => Std.TransCmp.isLE_trans) isLE_total (class_of_ascends a)
      List.filter_sublist
  have hclass : (classOf cmp a rows).Sublist (classOf cmp a (sortBy cmp rows)) := by
    simpa [classOf] using hsub.filter fun b => cmp a b == .eq
  have hperm : (sortBy cmp rows).Perm rows := List.mergeSort_perm ..
  exact (hclass.eq_of_length (hperm.filter _).length_eq.symm).symm

/-- A filter leaves the same rows before a sort and after it. -/
theorem filter_sort_by (p : α → Bool) (rows : List α) :
    (sortBy cmp rows).filter p = sortBy cmp (rows.filter p) := by
  have hfiltered : Ascends cmp ((sortBy cmp rows).filter p) :=
    (sort_by_ascends rows).sublist List.filter_sublist
  apply hfiltered.eq_of_classes (sort_by_ascends (rows.filter p))
  intro a
  rw [class_of_filter, class_of_sort_by, class_of_sort_by, class_of_filter]

end Classes

theorem filter_sort_rows (keys : RowKeys) (p : Json → Bool) (records : List Json) :
    (sortRows keys records).filter p = sortRows keys (records.filter p) :=
  @filter_sort_by _ _ (compare_rows_trans keys) p records

/-- Over any records, keys and orders, a pipeline that sorts and filters gives the rows that sorting
alone gives for the records that pass the filter, whatever limit and projector come behind the
two. -/
theorem Pipeline.filter_commutes_with_sort (sort : SortKeys) (predicate : Json → Bool)
    (limit : Option Int) (projector : Option (Json → Json)) (records : List Json) : ∃ rows,
    Pipeline.run { sort := some sort, predicate := some predicate, limit, projector }
    (.array records) =
      .ok (.array rows) ∧
    Pipeline.run { sort := some sort, limit, projector } (.array (records.filter predicate)) =
      .ok (.array rows) := by
  refine ⟨_, rfl, ?_⟩
  rw [run, rows_eq, rows_eq]
  simp only [sorted, Option.elim_some, Option.getD_some, Option.getD_none, List.filter_true,
    filter_sort_rows]
  rfl

end PathQuery
