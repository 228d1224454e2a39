import PathQuery.Proofs.RowOrder

namespace PathQuery

/-- What a stage makes of its rows, as `relation` says; an absent stage leaves them as they are. -/
def Stage {α : Type} (relation : α → List Json → List Json → Prop) (stage : Option α)
    (rows after : List Json) : Prop :=
  match stage with
  | some stage => relation stage rows after
  | none => after = rows

/-- The rows kept are the first ones, or the last ones for a negative limit: as many as the limit
says, or all where there are no more. -/
def Keeps (limit : Int) (rows kept : List Json) : Prop :=
  kept.length = min limit.natAbs rows.length ∧ if 0 ≤ limit then kept <+: rows else kept <:+ rows

theorem keeps_limit_rows (limit : Int) (rows : List Json) :
    Keeps limit rows (limitRows limit rows) := by
  unfold Keeps limitRows
  split
  · exact ⟨List.length_take, List.take_prefix _ _⟩
  · refine ⟨?_, List.drop_suffix _ _⟩
    rw [List.length_drop]
    omega

namespace Pipeline

/-- The records as the first stage leaves them. -/
def sorted (pipeline : Pipeline) (records : List Json) : List Json :=
  pipeline.sort.elim records fun sort => sortRows sort.rowKeys records

/-- The rows as the limit leaves them. -/
def limited (pipeline : Pipeline) (rows : List Json) : List Json :=
  pipeline.limit.elim rows fun limit => limitRows limit rows

theorem rows_eq (pipeline : Pipeline) (records : List Json) : pipeline.rows records =
    (pipeline.limited
      ((pipeline.sorted records).filter (pipeline.predicate.getD fun _ => true))).map
      (pipeline.projector.getD id) := by
  obtain ⟨sort, predicate, projector, limit⟩ := pipeline
  cases sort <;> cases predicate <;> cases limit <;> cases projector <;>
    simp [rows, limited, sorted]

theorem sorts_iff (pipeline : Pipeline) (records rows : List Json) :
    Stage SortKeys.Arranges pipeline.sort records rows ↔ rows = pipeline.sorted records := by
  unfold Stage sorted
  cases pipeline.sort with
  | none => exact Iff.rfl
  | some sort => exact SortKeys.arranges_iff

theorem keeps_limited (pipeline : Pipeline) (rows : List Json) :
    Stage Keeps pipeline.limit rows (pipeline.limited rows) := by
  unfold Stage limited
  cases pipeline.limit with
  | none => rfl
  | some limit => exact keeps_limit_rows limit rows

/-- Over an array of records a pipeline gives its stages one after the other, the sorted records
being the only arrangement its keys allow; anything else is refused by its kind. -/
theorem run_eq_stages (pipeline : Pipeline) (data : Json) :
    (∀ records, data = .array records → ∃ sorted limited,
      (∀ rows, Stage SortKeys.Arranges pipeline.sort records rows ↔ rows = sorted) ∧
      Stage Keeps pipeline.limit (sorted.filter (pipeline.predicate.getD fun _ => true)) limited ∧
      pipeline.run data = .ok (.array (limited.map (pipeline.projector.getD id)))) ∧
    ((∀ records, data ≠ .array records) → pipeline.run data = .error (.notRecords data.kind)) := by
  constructor
  · rintro records rfl
    refine ⟨pipeline.sorted records, _, pipeline.sorts_iff records, pipeline.keeps_limited _, ?_⟩
    rw [run, rows_eq]
  · intro h
    cases data with
    | array records => exact absurd rfl (h records)
    | null => rfl
    | bool value => rfl
    | number value => rfl
    | string text => rfl
    | object fields => rfl

end Pipeline
end PathQuery
