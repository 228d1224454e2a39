import Mathlib.Data.String.Basic
import PathQuery.Proofs.EmptyPlaceholders
import PathQuery.Query.Scanner

namespace PathQuery

namespace Text

theorem byte_length_eq (text : List Char) : byteLength text = String.utf8Len text := by
  induction text with
  | nil => rfl
  | cons c text ih => rw [byte_length_cons, String.utf8Len_cons, ih, Nat.add_comm]

theorem byte_length_toList (text : String) : byteLength text.toList = text.utf8ByteSize := by
  rw [byte_length_eq, ← String.utf8ByteSize_ofList, String.ofList_toList]

theorem byte_length_pos {text : List Char} (h : text ≠ []) : 0 < byteLength text := by
  rw [byte_length_eq]
  exact Nat.pos_of_ne_zero (mt String.utf8Len_eq_zero.mp h)

end Text

/-- A byte position stands in front of a rest of the text: the bytes before it are those of whole
characters. -/
def StandsAt (text : String) (position : Nat) (rest : List Char) : Prop :=
  ∃ front, text.toList = front ++ rest ∧ position = Text.byteLength front

namespace StandsAt

variable {text : String} {position next : Nat} {rest after taken : List Char}

theorem start (text : String) : StandsAt text 0 text.toList :=
  ⟨[], rfl, rfl⟩

theorem finish (text : String) : StandsAt text text.utf8ByteSize [] :=
  ⟨text.toList, (List.append_nil _).symm, (Text.byte_length_toList text).symm⟩

theorem forward (h : StandsAt text position (taken ++ rest)) :
    StandsAt text (position + Text.byteLength taken) rest := by
  obtain ⟨front, htext, rfl⟩ := h
  refine ⟨front ++ taken, ?_, ?_⟩
  · rw [htext, List.append_assoc]
  · rw [Text.byte_length_append]

theorem step {c : Char} (h : StandsAt text position (c :: rest)) :
    StandsAt text (position + c.utf8Size) rest :=
  @forward text position rest [c] h

theorem suffix (h : StandsAt text position rest) : rest <:+ text.toList := by
  obtain ⟨front, htext, _⟩ := h
  exact ⟨front, htext.symm⟩

theorem offset (h : StandsAt text position rest) : offsetOf text.toList rest = position := by
  obtain ⟨front, htext, rfl⟩ := h
  rw [htext, offset_of_append]

theorem add_rest (h : StandsAt text position rest) :
    position + Text.byteLength rest = text.utf8ByteSize := by
  obtain ⟨front, htext, rfl⟩ := h
  rw [← Text.byte_length_append, ← htext, Text.byte_length_toList]

theorem le_size (h : StandsAt text position rest) : position ≤ text.utf8ByteSize := by
  have := h.add_rest
  omega

theorem eq_size_iff (h : StandsAt text position rest) :
    position = text.utf8ByteSize ↔ rest = [] := by
  have hsize := h.add_rest
  constructor
  · intro hend
    by_contra hne
    have := Text.byte_length_pos hne
    omega
  · rintro rfl
    simpa using hsize

/-- What is taken between two positions has the bytes between them. -/
theorem next_eq (h : StandsAt text position (taken ++ rest)) (hn : StandsAt text next rest) :
    next = position + Text.byteLength taken := by
  have hsize := h.forward.add_rest
  have hnext := hn.add_rest
  omega

/-- Of two places in a text the one with less behind it comes later. -/
theorem lt_of_shorter (h : StandsAt text position rest) (hn : StandsAt text next after)
    (hlt : after.length < rest.length) : position < next := by
  obtain ⟨taken, rfl⟩ := List.suffix_of_suffix_length_le hn.suffix h.suffix hlt.le
  have hne : taken ≠ [] := by
    rintro rfl
    exact Nat.lt_irrefl _ hlt
  have := Text.byte_length_pos hne
  have := h.next_eq hn
  omega

theorem valid (h : StandsAt text position rest) : String.Pos.Raw.IsValid text ⟨position⟩ := by
  obtain ⟨front, htext, rfl⟩ := h
  apply String.Pos.Raw.isValid_iff_exists_append.mpr
  refine ⟨String.ofList front, String.ofList rest, ?_, ?_⟩
  · rw [← String.ofList_append, ← htext, String.ofList_toList]
  · rw [String.rawEndPos_ofList, Text.byte_length_eq]

theorem of_valid (h : String.Pos.Raw.IsValid text ⟨position⟩) :
    ∃ rest, StandsAt text position rest := by
  obtain ⟨front, rest, htext, hposition⟩ := String.Pos.Raw.isValid_iff_exists_append.mp h
  refine ⟨rest.toList, front.toList, ?_, ?_⟩
  · rw [htext, String.toList_append]
  · rw [Text.byte_length_toList]
    exact congrArg String.Pos.Raw.byteIdx hposition

/-- The first character that is left stands at the position. -/
theorem get (h : StandsAt text position rest) :
    String.Pos.Raw.get? text ⟨position⟩ = rest.head? := by
  obtain ⟨front, htext, rfl⟩ := h
  have hget := String.get?_of_valid front rest
  rw [← htext, String.ofList_toList] at hget
  rw [Text.byte_length_eq]
  exact hget

/-- Between two places of a text there is a slice, and it holds what was taken. -/
theorem slice (h : StandsAt text position (taken ++ rest)) (hn : StandsAt text next rest) :
    Text.slice? text position next = some (String.ofList taken) := by
  have hnext := h.next_eq hn
  rw [Text.slice?, if_pos ⟨by omega, h.valid, hn.valid⟩, hnext]
  obtain ⟨front, htext, rfl⟩ := h
  have hextract := String.extract_of_valid front taken rest
  rw [List.append_assoc, ← htext, String.ofList_toList] at hextract
  rw [Text.byte_length_eq, Text.byte_length_eq, hextract]

theorem slice_rest (h : StandsAt text position rest) :
    Text.slice? text position text.utf8ByteSize = some (String.ofList rest) := by
  rw [← List.append_nil rest] at h
  rw [h.slice (finish text)]

theorem slice_front (h : StandsAt text position rest) :
    ∃ front, Text.slice? text 0 position = some (String.ofList front) ∧
      text.toList = front ++ rest := by
  have ⟨front, htext, _⟩ := h
  have hstart := start text
  rw [htext] at hstart
  exact ⟨front, hstart.slice h, htext⟩

end StandsAt
end PathQuery
