import RemoteFiles.Proofs.Listing.Local
import RemoteFiles.Proofs.Report
import RemoteFiles.Proofs.Text.Lossy

/-!
# Listings read from their bytes

A listing comes as bytes. It is made text first, broken parts replaced, and the text is cut into
records and fields. `Raw.parse` does it the other way round: it cuts the bytes, at line feeds and at
colons, and makes text of each field on its own. Both come to the same, so that broken bytes do
nothing outside of the field that they stand in.

* `Raw.parse` -- the entries of a listing, cut out of its bytes;
* `parse_decodeLossy` -- **what is read from the text is what is cut out of the bytes**, failures
  included;
* `Raw.parse_eq_ok_iff` -- which bytes are a listing: the tags and the sizes are written in one way
  only, and a name may hold any bytes but a line feed;
* `Response.present_ls` -- what the user sees of a remote listing.
-/

namespace RemoteFiles

namespace Listing

namespace Raw

/-! ## 1. Cutting bytes -/

/-- The byte between the fields of a record. -/
def colon : UInt8 := 0x3A

/-- The bytes before the first colon and those after it; `none` without a colon. -/
def cut : Bytes → Option (Bytes × Bytes)
  | [] => none
  | b :: rest =>
    if b = colon then some ([], rest)
    else (cut rest).map fun (before, after) => (b :: before, after)

/-- The three fields of a line, cut at its first two colons. -/
def fields? (line : Bytes) : Option (Bytes × Bytes × Bytes) := do
  let (tag, rest) ← cut line
  let (size, name) ← cut rest
  return (tag, size, name)

/-- The entry that a line records. Each field is made text on its own, and so is a line that has no
    three fields. -/
def record (line : Bytes) : Except Fault Item :=
  match fields? line with
  | none => .error (.malformed (Utf8.decodeLossy line))
  | some (tag, size, name) =>
    match EntryType.ofTag? (Utf8.decodeLossy tag) with
    | none => .error (.unknownType (Utf8.decodeLossy tag))
    | some type => do
      return ⟨type, ← parseSize (Utf8.decodeLossy size).toList, Utf8.decodeLossy name⟩

/-- The lines of a listing: all up to the first empty one. -/
def linesOf (payload : Bytes) : List Bytes :=
  (payload.splitOn lineFeed).takeWhile fun line => !line.isEmpty

/-- The entries of a listing in its order. -/
def parse (payload : Bytes) : Except Fault (List Item) := do
  return ((← (linesOf payload).mapM record)).mergeSort before

theorem cut_append {before : Bytes} (h : colon ∉ before) (after : Bytes) :
    cut (before ++ colon :: after) = some (before, after) := by
  induction before with
  | nil => exact if_pos rfl
  | cons b before ih =>
    rw [List.mem_cons, not_or] at h
    rw [List.cons_append, cut, if_neg (Ne.symm h.1), ih h.2]
    rfl

theorem cut_of_not_mem {line : Bytes} (h : colon ∉ line) : cut line = none := by
  induction line with
  | nil => rfl
  | cons b line ih =>
    rw [List.mem_cons, not_or] at h
    rw [cut, if_neg (Ne.symm h.1), ih h.2]
    rfl

/-! ## 2. Cutting bytes and cutting text -/

theorem colon_mem_iff {bytes : Bytes} :
    ':' ∈ (Utf8.decodeLossy bytes).toList ↔ colon ∈ bytes :=
  Utf8.mem_decodeLossy_iff (a := colon) (by decide)

/-- The first colon of the text is that of the bytes. -/
theorem cut_decodeLossy (line : Bytes) :
    Listing.cut (Utf8.decodeLossy line).toList =
      (cut line).map fun (before, after) =>
        ((Utf8.decodeLossy before).toList, (Utf8.decodeLossy after).toList) := by
  by_cases hcolon : colon ∈ line
  · obtain ⟨before, after, rfl, hbefore⟩ := List.eq_append_cons_of_mem hcolon
    have hshown := Utf8.toList_decodeLossy_append (a := colon) (by decide) before after
    rw [cut_append hbefore, hshown]
    exact Listing.cut_append (mt colon_mem_iff.mp hbefore) _
  · rw [cut_of_not_mem hcolon]
    refine Option.eq_none_iff_forall_ne_some.mpr fun (before, after) hcut => hcolon ?_
    rw [← colon_mem_iff, (cut_eq_some_iff.mp hcut).2]
    exact List.mem_append_right before List.mem_cons_self

theorem fields?_decodeLossy (line : Bytes) :
    Listing.fields? (Utf8.decodeLossy line).toList =
      (fields? line).map fun (tag, size, name) =>
        ((Utf8.decodeLossy tag).toList, (Utf8.decodeLossy size).toList,
          (Utf8.decodeLossy name).toList) := by
  rw [Listing.fields?, fields?, cut_decodeLossy]
  cases cut line with
  | none => rfl
  | some found =>
    obtain ⟨tag, rest⟩ := found
    simp only [Option.map_some, Option.bind_eq_bind, Option.bind_some, cut_decodeLossy]
    cases cut rest with
    | none => rfl
    | some found => rfl

/-- A line of the text and its bytes record the same entry, or fail alike. -/
theorem record_decodeLossy (line : Bytes) :
    parseRecord (Utf8.decodeLossy line).toList = record line := by
  rw [parseRecord, record, fields?_decodeLossy]
  cases fields? line with
  | none => rw [String.ofList_toList]; rfl
  | some found =>
    obtain ⟨tag, size, name⟩ := found
    cases htype : EntryType.ofTag? (Utf8.decodeLossy tag) with
    | none => simp only [Option.map_some, String.ofList_toList, htype]
    | some type => simp only [Option.map_some, String.ofList_toList, htype]

theorem linesOf_decodeLossy (payload : Bytes) :
    Listing.linesOf (Utf8.decodeLossy payload) =
      (linesOf payload).map fun line => (Utf8.decodeLossy line).toList := by
  have hlines := Utf8.splitOn_decodeLossy (a := lineFeed) (by decide) payload
  have hempty : (fun line : List Char => !line.isEmpty) ∘
      (fun line : Bytes => (Utf8.decodeLossy line).toList) = fun line => !line.isEmpty :=
    funext fun line => congrArg (!·) (Utf8.isEmpty_toList_decodeLossy line)
  rw [Listing.linesOf, linesOf, show '\n' = Char.ofNat lineFeed.toNat from rfl, hlines,
    List.takeWhile_map, hempty]

end Raw

/-- **What is read from the text of a listing is what is cut out of its bytes.** -/
theorem parse_decodeLossy (payload : Bytes) :
    parse (Utf8.decodeLossy payload) = Raw.parse payload := by
  have hrecord : parseRecord ∘ (fun line : Bytes => (Utf8.decodeLossy line).toList) = Raw.record :=
    funext Raw.record_decodeLossy
  rw [parse, Raw.parse, Raw.linesOf_decodeLossy, List.mapM_map, hrecord]

/-! ## 3. Which bytes are a listing -/

namespace Raw

/-- The bytes are the record of an entry: its tag, digits that write its size, and bytes that are
    shown as its name, with a colon behind each of the first two. -/
def Spells (line : Bytes) (item : Item) : Prop :=
  ∃ (digits : List Char) (name : Bytes), digits ≠ [] ∧
    (∀ c ∈ digits, Decimal.isDigit c = true) ∧
    Nat.ofDigitChars 10 digits 0 = item.size.toNat ∧
    line = Utf8.encode item.type.tag ++
      colon :: (Utf8.encode (.ofList digits) ++ colon :: name) ∧
    item.name = Utf8.decodeLossy name

theorem eq_append_of_cut {line before after : Bytes} (h : cut line = some (before, after)) :
    line = before ++ colon :: after := by
  by_cases hcolon : colon ∈ line
  · obtain ⟨front, back, rfl, hfront⟩ := List.eq_append_cons_of_mem hcolon
    rw [cut_append hfront] at h
    cases h
    rfl
  · rw [cut_of_not_mem hcolon] at h
    cases h

theorem eq_append_of_fields? {line tag size name : Bytes}
    (h : fields? line = some (tag, size, name)) :
    line = tag ++ colon :: (size ++ colon :: name) := by
  obtain ⟨⟨first, rest⟩, hfirst, h⟩ := Option.bind_eq_some_iff.mp h
  obtain ⟨⟨second, last⟩, hsecond, h⟩ := Option.bind_eq_some_iff.mp h
  cases h
  rw [eq_append_of_cut hfirst, eq_append_of_cut hsecond]

/-- Bytes that are shown as characters other than the replacement character are the bytes of these
    characters. -/
theorem eq_encode_of_shown {bytes : Bytes} {chars : List Char}
    (h : (Utf8.decodeLossy bytes).toList = chars) (hwhole : Utf8.replacement ∉ chars) :
    bytes = Utf8.encode (.ofList chars) := by
  rw [← h, String.ofList_toList]
  exact (Utf8.encode_decodeLossy (h ▸ hwhole)).symm

/-- A line of bytes is the record of an entry exactly if its text is. -/
theorem spells_decodeLossy_iff {line : Bytes} {item : Item} :
    Listing.Spells (Utf8.decodeLossy line).toList item ↔ Spells line item := by
  constructor
  · rintro ⟨digits, hnonempty, hdigits, hvalue, hline⟩
    have htag : ':' ∉ item.type.tag.toList := by cases item.type <;> decide
    have hcolon : ':' ∉ digits := fun hmem => Bool.false_ne_true (hdigits ':' hmem)
    have hfields := fields?_eq_some_iff.mpr ⟨htag, hcolon, hline⟩
    rw [fields?_decodeLossy] at hfields
    obtain ⟨⟨tag, size, name⟩, hcut, hshown⟩ := Option.map_eq_some_iff.mp hfields
    simp only [Prod.mk.injEq] at hshown
    obtain ⟨hshownTag, hshownSize, hshownName⟩ := hshown
    -- neither a tag nor a digit is the replacement character, so these fields are whole
    have hwholeTag : Utf8.replacement ∉ item.type.tag.toList := by cases item.type <;> decide
    have hwholeSize : Utf8.replacement ∉ digits :=
      fun hmem => Bool.false_ne_true (hdigits Utf8.replacement hmem)
    refine ⟨digits, name, hnonempty, hdigits, hvalue, ?_, (String.toList_inj.mp hshownName).symm⟩
    rw [eq_append_of_fields? hcut, eq_encode_of_shown hshownTag hwholeTag,
      eq_encode_of_shown hshownSize hwholeSize, String.ofList_toList]
  · rintro ⟨digits, name, hnonempty, hdigits, hvalue, rfl, hname⟩
    have hascii : colon < 0x80 := by decide
    refine ⟨digits, hnonempty, hdigits, hvalue, ?_⟩
    rw [Utf8.toList_decodeLossy_append hascii, Utf8.toList_decodeLossy_append hascii,
      Utf8.decodeLossy_encode, Utf8.decodeLossy_encode, String.toList_ofList, hname]
    rfl

/-- **Bytes are a listing exactly if their lines are records**, whose entries are then sorted. There
    are as many entries as there are lines before the first empty one, whatever bytes the names are
    made of. -/
theorem parse_eq_ok_iff {payload : Bytes} {items : List Item} :
    parse payload = .ok items ↔
      ∃ records, List.Forall₂ Spells (linesOf payload) records ∧
        records.mergeSort before = items := by
  rw [← parse_decodeLossy, Listing.parse_eq_ok_iff, linesOf_decodeLossy]
  simp only [List.forall₂_map_left_iff, spells_decodeLossy_iff]

end Raw

end Listing

/-! ## 4. What the user sees -/

namespace Response

open Listing

variable {response : Response} {path : String}

/-- A listing is shown entry by entry, or not at all. -/
theorem showListing_apply {text : String} (h : response.payloadText = some text)
    (client : Client) :
    response.showListing client =
      match Listing.parse text with
      | .ok items => .ok () { client with
          console := client.console ++ goodLine response.message ++ Listing.format items }
      | .error fault => .error (.listing fault) { client with
          console := client.console ++ goodLine response.message } := by
  rw [showListing, Step.bind_of_ok (ClientM.print_apply _ client), h]
  simp only
  cases hread : Listing.parse text with
  | ok items => rfl
  | error fault => rfl

theorem present_eq_showListing (hcode : response.header.code = 1)
    (hls : response.request.operation = .ls path) : response.present = response.showListing := by
  rw [present, if_pos (successful_iff.mpr hcode), hls]

/-- **A remote listing is read as if its bytes were cut first**, and each field made text on its
    own: the entries that are shown are the same, and so is the failure if there is one. A record is
    made of the bytes of its line alone, its name may be any bytes, and valid UTF-8 is shown as it
    is. -/
theorem present_ls (hcode : response.header.code = 1)
    (hls : response.request.operation = .ls path) (client : Client) :
    response.payloadText.map Listing.parse = response.payload.map Raw.parse ∧
      (∀ payload, response.payload = some payload →
        response.present client =
          match Raw.parse payload with
          | .ok items => .ok () { client with
              console := client.console ++ goodLine response.message ++ Listing.format items }
          | .error fault => .error (.listing fault) { client with
              console := client.console ++ goodLine response.message }) ∧
      (∀ payload items, Raw.parse payload = .ok items ↔
        ∃ records, List.Forall₂ Raw.Spells (Raw.linesOf payload) records ∧
          records.mergeSort Listing.before = items) ∧
      ∀ payload text, response.payload = some payload → Utf8.decode? payload = some text →
        response.payloadText = some text := by
  refine ⟨?_, fun payload hpayload => ?_, fun payload items => Raw.parse_eq_ok_iff,
    fun payload text hpayload htext => ?_⟩
  · rw [payloadText, Option.map_map]
    exact congrArg (response.payload.map ·) (funext parse_decodeLossy)
  · have htext : response.payloadText = some (Utf8.decodeLossy payload) := by
      rw [payloadText, hpayload, Option.map_some]
    rw [present_eq_showListing hcode hls, showListing_apply htext, parse_decodeLossy]
  · rw [payloadText, hpayload, Option.map_some, Utf8.decodeLossy_of_decode? htext]

/-- Two names that end in the middle of a character, one before a line feed and one at the end of
    the payload. -/
theorem present_ls_truncated :
    present ⟨⟨⟨"host", 4000, "ann", ⟨""⟩, 5⟩, .ls ""⟩, ⟨1, 0, 5, 19⟩, "", none,
        some [0x5B, 0x44, 0x5D, 0x3A, 0x30, 0x3A, 0x62, 0xF0, 0x0A,
          0x5B, 0x46, 0x5D, 0x3A, 0x33, 0x3A, 0x61, 0xE2, 0x82]⟩ ⟨⟨[], [], []⟩, "", []⟩ =
      .ok () ⟨⟨[], [], []⟩, "[+] \n[D]   0B b\uFFFD\n[F]   3B a\uFFFD\n", []⟩ := by
  have hrecords : (Raw.linesOf [0x5B, 0x44, 0x5D, 0x3A, 0x30, 0x3A, 0x62, 0xF0, 0x0A,
      0x5B, 0x46, 0x5D, 0x3A, 0x33, 0x3A, 0x61, 0xE2, 0x82]).mapM Raw.record =
      .ok [⟨.directory, 0, "b\uFFFD"⟩, ⟨.file, 3, "a\uFFFD"⟩] := by
    decide +kernel
  have hread : Raw.parse [0x5B, 0x44, 0x5D, 0x3A, 0x30, 0x3A, 0x62, 0xF0, 0x0A,
      0x5B, 0x46, 0x5D, 0x3A, 0x33, 0x3A, 0x61, 0xE2, 0x82] =
      .ok [⟨.directory, 0, "b\uFFFD"⟩, ⟨.file, 3, "a\uFFFD"⟩] := by
    rw [Raw.parse, hrecords]
    exact congrArg Except.ok (List.mergeSort_of_pairwise (by decide))
  have hshown : "" ++ goodLine "" ++
      Listing.format [⟨.directory, 0, "b\uFFFD"⟩, ⟨.file, 3, "a\uFFFD"⟩] =
      "[+] \n[D]   0B b\uFFFD\n[F]   3B a\uFFFD\n" := by
    decide +kernel
  rw [(present_ls rfl rfl _).2.1 _ rfl, hread]
  simp only [hshown]

end Response

end RemoteFiles
