import RemoteFiles.Proofs.Text.Separator

/-!
# Text with its broken parts replaced

`Utf8.decodeLossy` makes text of any bytes. It shows valid UTF-8 as it is, and each broken part as
one replacement character. How far a broken part reaches depends on the bytes that come next, but it
never reaches beyond an ASCII byte. So it makes no difference whether bytes are cut at an ASCII byte
first and the broken parts replaced then, or the other way round.

* `decodeLossy_of_decode?`, `encode_decodeLossy` -- valid UTF-8 is shown as it is, and a text in
  which nothing has been replaced comes from its own bytes only;
* `toList_decodeLossy_append` -- what stands on either side of an ASCII byte is shown on its own;
* `splitOn_decodeLossy` -- **cutting and replacing may be exchanged**.
-/

namespace RemoteFiles

namespace Utf8

variable {bytes : Bytes}

theorem toList_decodeLossy (bytes : Bytes) :
    (decodeLossy bytes).toList = (pieces bytes).map Piece.shown :=
  String.toList_ofList

/-! ## 1. Valid and broken bytes -/

/-- **Valid UTF-8 is shown as it is.** -/
theorem decodeLossy_of_decode? {text : String} (h : decode? bytes = some text) :
    decodeLossy bytes = text := by
  rw [decodeLossy, decode?_eq_some_iff_pieces.mp h, List.map_map]
  exact (congrArg String.ofList (List.map_id _)).trans String.ofList_toList

theorem decodeLossy_encode (text : String) : decodeLossy (encode text) = text :=
  decodeLossy_of_decode? (decode?_encode text)

/-- Pieces that are not shown as the replacement character are whole characters. -/
theorem eq_map_scalar_of_shown {found : List Piece} (h : replacement ∉ found.map Piece.shown) :
    found = (found.map Piece.shown).map .scalar := by
  induction found with
  | nil => rfl
  | cons first found ih =>
    rw [List.map_cons, List.mem_cons, not_or] at h
    rw [List.map_cons, List.map_cons, ← ih h.2]
    cases first with
    | scalar c => rfl
    | broken bytes => exact absurd rfl h.1

/-- **A text in which nothing has been replaced** comes from its own bytes. -/
theorem encode_decodeLossy (h : replacement ∉ (decodeLossy bytes).toList) :
    encode (decodeLossy bytes) = bytes := by
  refine encode_of_decode? (decode?_eq_some_iff_pieces.mpr ?_)
  rw [toList_decodeLossy] at h ⊢
  exact eq_map_scalar_of_shown h

theorem isEmpty_toList_decodeLossy (bytes : Bytes) :
    (decodeLossy bytes).toList.isEmpty = bytes.isEmpty := by
  rw [toList_decodeLossy]
  cases bytes with
  | nil => rw [pieces]; rfl
  | cons b rest => rw [pieces]; rfl

/-! ## 2. Cutting at ASCII bytes -/

section Ascii

variable {a : UInt8} (ha : a < 0x80)

include ha

/-- What stands on either side of an ASCII byte is shown on its own. -/
theorem toList_decodeLossy_append (front back : Bytes) :
    (decodeLossy (front ++ a :: back)).toList =
      (decodeLossy front).toList ++ Char.ofNat a.toNat :: (decodeLossy back).toList := by
  simp only [toList_decodeLossy, pieces_append_ascii ha, List.map_append, List.map_cons]
  rfl

theorem toList_decodeLossy_intercalate (parts : List Bytes) :
    (decodeLossy (List.intercalate [a] parts)).toList =
      List.intercalate [Char.ofNat a.toNat]
        (parts.map fun part => (decodeLossy part).toList) := by
  induction parts with
  | nil => rw [List.intercalate_nil, toList_decodeLossy, pieces]; rfl
  | cons part parts ih =>
    cases parts with
    | nil => rw [List.intercalate_singleton, List.map_singleton, List.intercalate_singleton]
    | cons next parts =>
      rw [List.intercalate_cons_cons, List.append_assoc, List.singleton_append,
        toList_decodeLossy_append ha, ih]
      simp only [List.map_cons]
      rw [List.intercalate_cons_cons, List.append_assoc, List.singleton_append]

/-- **Cutting and replacing may be exchanged**: the parts of the text are the parts of the bytes,
    each with its own broken parts replaced. -/
theorem splitOn_decodeLossy (bytes : Bytes) :
    (decodeLossy bytes).toList.splitOn (Char.ofNat a.toNat) =
      (bytes.splitOn a).map fun part => (decodeLossy part).toList := by
  have hparts : ∀ shown ∈ (bytes.splitOn a).map fun part => (decodeLossy part).toList,
      Char.ofNat a.toNat ∉ shown := by
    rw [List.forall_mem_map]
    intro part hmem
    rw [mem_decodeLossy_iff ha]
    exact not_mem_of_mem_splitOn hmem
  have hne : ((bytes.splitOn a).map fun part => (decodeLossy part).toList) ≠ [] :=
    fun hnil => List.splitOn_ne_nil a bytes (List.map_eq_nil_iff.mp hnil)
  calc (decodeLossy bytes).toList.splitOn (Char.ofNat a.toNat)
      = (decodeLossy (List.intercalate [a] (bytes.splitOn a))).toList.splitOn
          (Char.ofNat a.toNat) := by rw [List.intercalate_splitOn]
    _ = (List.intercalate [Char.ofNat a.toNat]
          ((bytes.splitOn a).map fun part => (decodeLossy part).toList)).splitOn
            (Char.ofNat a.toNat) := by rw [toList_decodeLossy_intercalate ha]
    _ = (bytes.splitOn a).map fun part => (decodeLossy part).toList :=
        List.splitOn_intercalate _ hparts hne

end Ascii

end Utf8

end RemoteFiles
