import Mathlib.Data.List.Flatten
import RemoteFiles.Text.HexDump

/-!
# A dump shows every byte

Two strings of bytes of one length with the same dump are the same (`HexDump.render_inj`). The
columns of a dump have fixed widths, so nothing has to be known about the characters in them but
that two digits determine a byte. What differs in a dump therefore differs in the bytes, and what
differs in the bytes is there for every reader of the log.
-/

namespace RemoteFiles

namespace Bytes

theorem digitChar_inj : ∀ m < 16, ∀ n < 16, Nat.digitChar m = Nat.digitChar n → m = n := by
  decide

/-- Two digits determine a byte. -/
theorem hexPair_inj {a b : UInt8} (h : hexPair a = hexPair b) : a = b := by
  have ha := a.toNat_lt
  have hb := b.toNat_lt
  simp only [hexPair, List.cons.injEq, and_true] at h
  obtain ⟨hhigh, hlow⟩ := h
  have hdiv : a.toNat / 16 = b.toNat / 16 :=
    digitChar_inj _ (by omega) _ (by omega) hhigh
  have hmod : a.toNat % 16 = b.toNat % 16 :=
    digitChar_inj _ (by omega) _ (by omega) hlow
  apply UInt8.toNat_inj.mp
  omega

/-! ## 1. Pieces -/

/-- No piece is larger than the bound. -/
theorem length_le_of_mem_chunks {size : Nat} (hsize : 0 < size) {bytes piece : Bytes}
    (h : piece ∈ chunks size bytes) : piece.length ≤ size := by
  fun_induction chunks size bytes with
  | case1 => cases h
  | case2 b rest ih =>
    rcases List.mem_cons.mp h with rfl | hlater
    · rw [List.length_cons, List.length_take]
      omega
    · exact ih hlater

/-- Where the cuts are depends on the length alone. -/
theorem map_length_chunks (size : Nat) {first second : Bytes}
    (h : first.length = second.length) :
    (chunks size first).map List.length = (chunks size second).map List.length := by
  fun_induction chunks size first generalizing second with
  | case1 =>
    rw [List.eq_nil_of_length_eq_zero h.symm, chunks]
  | case2 b rest ih =>
    cases second with
    | nil => cases h
    | cons b' rest' =>
      have hrest : rest.length = rest'.length := Nat.succ.inj h
      have hdrop : (rest.drop (size - 1)).length = (rest'.drop (size - 1)).length := by
        rw [List.length_drop, List.length_drop, hrest]
      rw [chunks, List.map_cons, List.map_cons, ih hdrop, List.length_cons, List.length_cons,
        List.length_take, List.length_take, hrest]

theorem length_chunks_eq (size : Nat) {first second : Bytes} (h : first.length = second.length) :
    (chunks size first).length = (chunks size second).length := by
  simpa using congrArg List.length (map_length_chunks size h)

theorem length_getElem_chunks_eq {size : Nat} {first second : Bytes}
    (h : first.length = second.length) {i : Nat} (hi : i < (chunks size first).length)
    (hi' : i < (chunks size second).length) :
    (chunks size first)[i].length = (chunks size second)[i].length := by
  simpa [hi, hi'] using congrArg (·[i]?) (map_length_chunks size h)

end Bytes

namespace HexDump

/-! ## 2. Rows -/

/-- What stands for one byte of a row, or for the lack of it. -/
def cell (row : Bytes) (i : Nat) : List Char :=
  (if i % 4 = 0 then [' ', ' '] else [' ']) ++
    (match row[i]? with
      | some b => Bytes.hexPair b
      | none => [' ', ' '])

theorem hexColumns_eq (row : Bytes) :
    hexColumns row = ((List.range rowSize).map (cell row)).flatten := List.flatMap_def

theorem length_cell (row : Bytes) (i : Nat) :
    (cell row i).length = if i % 4 = 0 then 4 else 3 := by
  unfold cell
  split <;> cases row[i]? <;> rfl

theorem map_length_cells (first second : Bytes) (positions : List Nat) :
    (positions.map (cell first)).map List.length =
      (positions.map (cell second)).map List.length := by
  rw [List.map_map, List.map_map]
  apply List.map_congr_left
  intro i _
  exact (length_cell first i).trans (length_cell second i).symm

theorem length_hexColumns (first second : Bytes) :
    (hexColumns first).length = (hexColumns second).length := by
  rw [hexColumns_eq, hexColumns_eq, List.length_flatten, List.length_flatten,
    map_length_cells first second]

theorem cell_inj {first second : Bytes} (hlength : first.length = second.length) {i : Nat}
    (h : cell first i = cell second i) : first[i]? = second[i]? := by
  obtain ⟨-, hpair⟩ := List.append_inj h rfl
  by_cases hi : i < first.length
  · have hi' : i < second.length := hlength ▸ hi
    rw [List.getElem?_eq_getElem hi, List.getElem?_eq_getElem hi'] at hpair ⊢
    rw [Bytes.hexPair_inj hpair]
  · rw [List.getElem?_eq_none (by omega), List.getElem?_eq_none (by omega)]

/-- The columns of a row show all its bytes. -/
theorem hexColumns_inj {first second : Bytes} (hlength : first.length = second.length)
    (hshort : first.length ≤ rowSize) (h : hexColumns first = hexColumns second) :
    first = second := by
  have hcells : (List.range rowSize).map (cell first) = (List.range rowSize).map (cell second) := by
    rw [hexColumns_eq, hexColumns_eq] at h
    exact List.eq_iff_flatten_eq.mpr ⟨h, map_length_cells first second _⟩
  apply List.ext_getElem? fun i => ?_
  by_cases hi : i < rowSize
  · exact cell_inj hlength (List.map_inj_left.mp hcells i (List.mem_range.mpr hi))
  · rw [List.getElem?_eq_none (by omega), List.getElem?_eq_none (by omega)]

theorem length_row (width address : Nat) {first second : Bytes}
    (h : first.length = second.length) :
    (row width address first).length = (row width address second).length := by
  simp only [row, List.length_append, List.length_map, length_hexColumns first second, h]

theorem row_inj {width address : Nat} {first second : Bytes}
    (hlength : first.length = second.length) (hshort : first.length ≤ rowSize)
    (h : row width address first = row width address second) : first = second := by
  simp only [row, List.append_assoc, List.append_cancel_left_eq] at h
  exact hexColumns_inj hlength hshort (List.append_inj_left h (length_hexColumns first second))

/-! ## 3. Dumps -/

/-- Lines of known lengths can be told apart when they have been joined. -/
theorem intercalate_inj {separator : List Char} {first second : List (List Char)}
    (hlengths : first.map List.length = second.map List.length)
    (h : separator.intercalate first = separator.intercalate second) : first = second := by
  induction first generalizing second with
  | nil => exact (List.map_eq_nil_iff.mp hlengths.symm).symm
  | cons line later ih =>
    cases second with
    | nil => cases hlengths
    | cons line' later' =>
      obtain ⟨hline, hlater⟩ := List.cons.inj hlengths
      cases later with
      | nil =>
        obtain rfl := List.map_eq_nil_iff.mp hlater.symm
        rw [List.intercalate_singleton, List.intercalate_singleton] at h
        rw [h]
      | cons next later =>
        cases later' with
        | nil => cases hlater
        | cons next' later' =>
          rw [List.intercalate_cons_cons, List.intercalate_cons_cons, List.append_assoc,
            List.append_assoc] at h
          obtain ⟨rfl, hrest⟩ := List.append_inj h hline
          rw [ih hlater (List.append_cancel_left hrest)]

theorem map_length_rows {first second : Bytes} (hlength : first.length = second.length) :
    (rows first).map List.length = (rows second).map List.length := by
  have hcount := Bytes.length_chunks_eq rowSize hlength
  refine List.ext_getElem (by simp [rows, hcount]) fun i hi hi' => ?_
  simp only [rows, List.length_map, List.length_zipIdx] at hi hi'
  simp only [rows, hlength, List.getElem_map, List.getElem_zipIdx]
  exact length_row _ _ (Bytes.length_getElem_chunks_eq hlength hi hi')

theorem rows_inj {first second : Bytes} (hlength : first.length = second.length)
    (h : rows first = rows second) : first = second := by
  have hpieces : Bytes.chunks rowSize first = Bytes.chunks rowSize second := by
    refine List.ext_getElem (Bytes.length_chunks_eq rowSize hlength) fun i hi hi' => ?_
    have hrow := congrArg (·[i]?) h
    simp only [rows, hlength, List.getElem?_map, List.getElem?_zipIdx,
      List.getElem?_eq_getElem hi, List.getElem?_eq_getElem hi', Option.map_some,
      Option.some.injEq] at hrow
    have hshort := Bytes.length_le_of_mem_chunks (by decide) (List.getElem_mem hi)
    exact row_inj (Bytes.length_getElem_chunks_eq hlength hi hi') hshort hrow
  rw [← Bytes.flatten_chunks rowSize first, hpieces, Bytes.flatten_chunks]

/-- **A dump shows every byte**: bytes of one length that have the same dump are the same. -/
theorem render_inj {first second : Bytes} (hlength : first.length = second.length) :
    render first = render second ↔ first = second := by
  constructor
  · intro h
    have htext := String.ofList_inj.mp h
    rw [hlength, List.append_cancel_left_eq] at htext
    exact rows_inj hlength (intercalate_inj (map_length_rows hlength) htext)
  · intro h
    rw [h]

end HexDump

end RemoteFiles
