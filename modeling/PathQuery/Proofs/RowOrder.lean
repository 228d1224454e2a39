import Mathlib.Data.List.Sigma
import Mathlib.Data.List.Sort
import PathQuery.Records.Pipeline

namespace PathQuery

namespace Json.Number

theorem position_isSome (n : Number) : n.toDouble.position?.isSome = true := by
  cases n with
  | integer value =>
    unfold toDouble Binary64.ofInt Binary64.ofQuotient
    dsimp only
    split <;> rfl
  | double value finite =>
    cases value with
    | finite negative units => rfl
    | infinite negative => cases finite
    | notANumber negative fraction => cases finite

/-- Where a number stands on the line of all numbers. -/
def place (n : Number) : Int :=
  n.toDouble.position?.get n.position_isSome

theorem compare_eq (a b : Number) :
    a.toDouble.compare? b.toDouble = some (compare a.place b.place) := by
  have ha : a.toDouble.position? = some a.place := (Option.some_get _).symm
  have hb : b.toDouble.position? = some b.place := (Option.some_get _).symm
  rw [Binary64.compare?, ha, hb]
  rfl

end Json.Number

/-- Where a value stands among those of its kind, as far as a number tells. -/
def numberPlace : Option Json → Int
  | some (.number n) => n.place
  | some (.bool value) => if value then 1 else 0
  | _ => 0

/-- Where a value stands among those of its kind, as far as a text tells. -/
def textPlace : Option Json → String
  | some (.string text) => text
  | _ => ""

theorem compare_values_of_ne {a b : Option Json} (h : kindRank a ≠ kindRank b) :
    compareValues a b = compare (kindRank a) (kindRank b) := by
  unfold compareValues
  split
  · exact absurd rfl h
  · exact absurd rfl h
  · exact absurd rfl h
  · rfl

/-- Values compare by their kind first, then by the number or the text they hold. -/
theorem compare_values_eq : compareValues =
    compareLex (compareOn kindRank) (compareLex (compareOn numberPlace) (compareOn textPlace)) := by
  funext a b
  by_cases h : kindRank a = kindRank b
  · have hrank : compare (kindRank a) (kindRank b) = .eq := by rw [h]; simp
    rw [compareLex, compareOn, hrank, Ordering.eq_then]
    rcases a with _ | (_ | _ | _ | _ | _ | _) <;> rcases b with _ | (_ | _ | _ | _ | _ | _) <;>
      simp_all [kindRank, compareValues, compareLex, compareOn, numberPlace, textPlace,
        Json.Number.compare_eq]
    -- what is left are truth values, which `numberPlace` counts as zero and one
    rename_i a b
    cases a <;> cases b <;> rfl
  · have hne : compare (kindRank a) (kindRank b) ≠ .eq := fun heq => h (by simpa using heq)
    rw [compare_values_of_ne h, compareLex, compareOn]
    cases hc : compare (kindRank a) (kindRank b) with
    | lt => rfl
    | eq => exact absurd hc hne
    | gt => rfl

instance compare_values_trans : Std.TransCmp compareValues := by
  rw [compare_values_eq]
  infer_instance

/-- A comparison turned around is as good an order as the comparison. -/
instance apply_order_trans {α : Type} (order : SortOrder) (cmp : α → α → Ordering)
    [Std.TransCmp cmp] : Std.TransCmp fun a b => order.apply (cmp a b) := by
  cases order with
  | ascending => exact inferInstanceAs (Std.TransCmp cmp)
  | descending =>
    have hswap : (fun a b => SortOrder.descending.apply (cmp a b)) = fun a b => cmp b a := by
      funext a b
      exact Std.OrientedCmp.eq_swap.symm
    rw [hswap]
    infer_instance

/-- How two records compare by one key. -/
def compareBy (key : List String × SortOrder) (a b : Json) : Ordering :=
  key.2.apply (compareValues (a.get? key.1) (b.get? key.1))

instance compare_by_trans (key : List String × SortOrder) : Std.TransCmp (compareBy key) := by
  have h : Std.TransCmp fun a b => key.2.apply (compareValues a b) := inferInstance
  exact { eq_swap := h.eq_swap, isLE_trans := h.isLE_trans }

theorem compare_rows_cons (a b : Json) (key : List String × SortOrder) (rest : RowKeys) :
    compareRows a b (key :: rest) = (compareBy key a b).then (compareRows a b rest) := rfl

instance compare_rows_trans (keys : RowKeys) : Std.TransCmp fun a b => compareRows a b keys := by
  induction keys with
  | nil => exact { eq_swap := rfl, isLE_trans := fun _ _ => rfl }
  | cons key rest ih =>
    exact inferInstanceAs
      (Std.TransCmp (compareLex (compareBy key) fun a b => compareRows a b rest))

theorem compare_rows_swap (a b : Json) (keys : RowKeys) :
    compareRows a b keys = (compareRows b a keys).swap :=
  (compare_rows_trans keys).eq_swap

theorem isLE_total {α : Type} {cmp : α → α → Ordering} [Std.OrientedCmp cmp] (a b : α) :
    ((cmp a b).isLE || (cmp b a).isLE) = true := by
  rw [show cmp b a = (cmp a b).swap from Std.OrientedCmp.eq_swap]
  cases cmp a b <;> rfl

theorem compare_rows_lt_iff {a b : Json} {keys : RowKeys} : compareRows a b keys = .lt ↔
    ∃ i : Nat, keys[i]?.map (compareBy · a b) = some .lt ∧
      ∀ j < i, keys[j]?.map (compareBy · a b) = some .eq := by
  induction keys with
  | nil => simp [compareRows]
  | cons key rest ih =>
    rw [compare_rows_cons]
    cases hkey : compareBy key a b with
    | lt => exact iff_of_true rfl ⟨0, by simpa using hkey, by simp⟩
    | gt =>
      refine iff_of_false (by simp) ?_
      rintro ⟨i, hlt, heq⟩
      cases i with
      | zero => simp [hkey] at hlt
      | succ i => simpa [hkey] using heq 0 (by simp)
    | eq =>
      rw [Ordering.eq_then, ih]
      constructor
      · rintro ⟨i, hlt, heq⟩
        refine ⟨i + 1, hlt, ?_⟩
        intro j hj
        cases j with
        | zero => simpa using hkey
        | succ j => exact heq j (by omega)
      · rintro ⟨i, hlt, heq⟩
        cases i with
        | zero => simp [hkey] at hlt
        | succ i => exact ⟨i, hlt, fun j hj => heq (j + 1) (by omega)⟩

theorem compare_rows_eq_iff {a b : Json} {keys : RowKeys} : compareRows a b keys = .eq ↔
    ∀ i : Nat, i < keys.length → keys[i]?.map (compareBy · a b) = some .eq := by
  induction keys with
  | nil => simp [compareRows]
  | cons key rest ih =>
    rw [compare_rows_cons, Ordering.then_eq_eq, ih]
    constructor
    · rintro ⟨hkey, hrest⟩ i hi
      cases i with
      | zero => simpa using hkey
      | succ i => exact hrest i (by simpa using hi)
    · intro h
      exact ⟨by simpa using h 0 (by simp), fun i hi => h (i + 1) (by simpa using hi)⟩

namespace SortKeys

/-- How two records compare by the key at an index alone: in the order given for it, or ascending if
there is none. -/
def compareAt (sort : SortKeys) (index : Nat) (a b : Json) : Option Ordering :=
  sort.keys[index]?.map fun key =>
    (sort.orders[index]?.getD .ascending).apply
      (compareValues (a.get? (segments key)) (b.get? (segments key)))

/-- Some key puts one record before another, and the keys in front of it leave the two alike. -/
def Before (sort : SortKeys) (a b : Json) : Prop :=
  ∃ i, sort.compareAt i a b = some .lt ∧ ∀ j < i, sort.compareAt j a b = some .eq

/-- All keys leave two records alike. -/
def Alike (sort : SortKeys) (a b : Json) : Prop :=
  ∀ i < sort.keys.length, sort.compareAt i a b = some .eq

/-- A record stands before another, each given with the place it came in: the keys say so, or they
leave the two alike and the places say so. -/
def Precedes (sort : SortKeys) (x y : Json × Nat) : Prop :=
  sort.Before x.1 y.1 ∨ sort.Alike x.1 y.1 ∧ x.2 < y.2

/-- The rows are all the records, each standing before those it precedes. -/
def Arranges (sort : SortKeys) (records rows : List Json) : Prop :=
  ∃ placed : List (Json × Nat), placed.Perm records.zipIdx ∧ placed.Pairwise sort.Precedes ∧
    placed.map Prod.fst = rows

theorem pair_get (keys : List String) (orders : List SortOrder) (i : Nat) :
    (pair keys orders)[i]? = keys[i]?.map fun key =>
      (segments key, orders[i]?.getD .ascending) := by
  induction keys generalizing orders i with
  | nil => simp [pair]
  | cons key keys ih =>
    cases orders with
    | nil =>
      cases i with
      | zero => rfl
      | succ i => simpa [pair] using ih [] i
    | cons order orders =>
      cases i with
      | zero => rfl
      | succ i => simpa [pair] using ih orders i

theorem pair_length (keys : List String) (orders : List SortOrder) :
    (pair keys orders).length = keys.length := by
  induction keys generalizing orders with
  | nil => rfl
  | cons key keys ih => cases orders <;> simp [pair, ih]

variable {sort : SortKeys}

theorem compare_at_eq (i : Nat) (a b : Json) :
    sort.compareAt i a b = sort.rowKeys[i]?.map (compareBy · a b) := by
  rw [rowKeys, pair_get, Option.map_map]
  rfl

theorem before_iff {a b : Json} : sort.Before a b ↔ compareRows a b sort.rowKeys = .lt := by
  simp only [Before, compare_at_eq, compare_rows_lt_iff]

theorem alike_iff {a b : Json} : sort.Alike a b ↔ compareRows a b sort.rowKeys = .eq := by
  simp only [Alike, compare_at_eq, compare_rows_eq_iff, rowKeys, pair_length]

theorem Precedes.asymm {x y : Json × Nat} (hxy : sort.Precedes x y)
    (hyx : sort.Precedes y x) : False := by
  have hswap := compare_rows_swap x.1 y.1 sort.rowKeys
  rw [Precedes, before_iff, alike_iff] at hxy hyx
  rcases hxy with hxy | ⟨hxy, hplace⟩ <;> rcases hyx with hyx | ⟨hyx, hplace'⟩ <;>
    rw [hxy, hyx] at hswap
  · cases hswap
  · cases hswap
  · cases hswap
  · omega

/-- There is at most one arrangement. -/
theorem Arranges.unique {records rows rows' : List Json} (h : sort.Arranges records rows)
    (h' : sort.Arranges records rows') : rows = rows' := by
  obtain ⟨placed, hperm, hpairs, rfl⟩ := h
  obtain ⟨placed', hperm', hpairs', rfl⟩ := h'
  have heq : placed = placed' :=
    (hperm.trans hperm'.symm).eq_of_pairwise (fun x y _ _ hxy hyx => (hxy.asymm hyx).elim)
      hpairs hpairs'
  rw [heq]

/-- Two different places in the order of a stable sort stand in the order of the keys and the
places. -/
theorem precedes_of_sorted {x y : Json × Nat}
    (hle : List.zipIdxLE (fun a b => (compareRows a b sort.rowKeys).isLE) x y = true)
    (hne : x.2 ≠ y.2) : sort.Precedes x y := by
  rw [Precedes, before_iff, alike_iff]
  unfold List.zipIdxLE at hle
  split at hle
  · rename_i hxy
    rcases Ordering.isLE_iff_eq_lt_or_eq_eq.mp hxy with hlt | heq
    · exact .inl hlt
    · have hyx : compareRows y.1 x.1 sort.rowKeys = .eq := by
        rw [compare_rows_swap, heq]
        rfl
      simp only [hyx, Ordering.isLE_eq, if_true, decide_eq_true_eq] at hle
      exact .inr ⟨heq, Nat.lt_of_le_of_ne hle hne⟩
  · cases hle

theorem arranges_sort_rows (records : List Json) :
    sort.Arranges records (sortRows sort.rowKeys records) := by
  let le : Json → Json → Bool := fun a b => (compareRows a b sort.rowKeys).isLE
  have htrans : ∀ a b c, le a b = true → le b c = true → le a c = true :=
    fun _ _ _ => (compare_rows_trans sort.rowKeys).isLE_trans
  have htotal : ∀ a b, (le a b || le b a) = true :=
    @isLE_total _ _ (compare_rows_trans sort.rowKeys).toOrientedCmp
  let placed := records.zipIdx.mergeSort (List.zipIdxLE le)
  have hperm : placed.Perm records.zipIdx := List.mergeSort_perm _ _
  have hsorted : placed.Pairwise fun x y => List.zipIdxLE le x y = true :=
    List.pairwise_mergeSort (List.zipIdxLE_trans htrans) (List.zipIdxLE_total htotal) _
  have hplaces : placed.Pairwise fun x y => x.2 ≠ y.2 :=
    List.pairwise_map.mp ((hperm.map Prod.snd).nodup_iff.mpr (List.nodup_zipIdx_map_snd records))
  refine ⟨placed, hperm, ?_, List.mergeSort_zipIdx⟩
  exact (hsorted.and hplaces).imp fun h => precedes_of_sorted h.1 h.2

/-- Sorting gives the one arrangement the keys ask for. -/
theorem arranges_iff {records rows : List Json} :
    sort.Arranges records rows ↔ rows = sortRows sort.rowKeys records := by
  constructor
  · intro h
    exact h.unique (arranges_sort_rows records)
  · rintro rfl
    exact arranges_sort_rows records

end SortKeys
end PathQuery
