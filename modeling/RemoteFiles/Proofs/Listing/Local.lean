import RemoteFiles.LocalDisk
import RemoteFiles.Proofs.Disk.Entries
import RemoteFiles.Proofs.Listing.Records

/-!
# Listings of local directories

A local directory is listed by way of the records that a server would send. The name of an entry is
written as it is, and on a disk a name may hold any byte but a slash and a zero; so it may hold the
line feed that ends a record.

* `Describes`, `Complete` -- what a listing of a directory is to be: one item for each directory
  and each file in it, and no more;
* `LocalAction.list_complete_iff` -- a directory is listed like that exactly if no name of a
  directory or a file in it holds a line feed.

What goes wrong otherwise depends on the name: the listing fails, it ends too early, or it shows what
is not there.
-/

namespace RemoteFiles

namespace Listing

/-! ## 1. What a listing is to be -/

/-- The byte that ends a record. -/
def lineFeed : UInt8 := 0x0A

/-- The entries that are listed: directories and files. -/
def isListed : Entry → Bool
  | .directory | .file _ => true
  | .link _ => false

/-- An item gives the type, the size and the name of an entry, broken parts of the name replaced. A
    file has the size of its contents, and a directory the one that the file system reports. -/
inductive Describes (disk : Disk) (place : Place) (name : Name) : Entry → Item → Prop where
  | directory : Describes disk place name .directory
      ⟨.directory, disk.sizeOf (place ++ [name]) .directory, Utf8.decodeLossy name⟩
  | file (content : Bytes) : Describes disk place name (.file content)
      ⟨.file, UInt64.ofNat content.length, Utf8.decodeLossy name⟩

/-- There is one item for each directory and each file in the directory at a place, and no other, in
    whatever order. -/
def Complete (disk : Disk) (place : Place) (items : List Item) : Prop :=
  ∃ shown, items.Perm shown ∧
    List.Forall₂ (fun (child : Name × Entry) item => Describes disk place child.1 child.2 item)
      ((disk.children place).filter fun child => isListed child.2) shown

/-- A directory is listed by these items: its records are read back as them, and they are shown. -/
structure Lists (directory : Path) (client : Client) (items : List Item) : Prop where
  read : ∃ text, Step.outcome (ofDirectory directory client) = .ok text ∧ parse text = .ok items
  shown : Step.outcome (LocalAction.list directory client) = .ok (format items)

section Items

variable {disk : Disk} {place : Place}

/-- How a child of the directory is listed. -/
def itemOfChild (disk : Disk) (place : Place) (child : Name × Entry) : Option Item :=
  itemOf ⟨child.1, child.2, disk.sizeOf (place ++ [child.1]) child.2⟩

/-- The items that are written into the records. -/
def itemsOf (disk : Disk) (place : Place) : List Item :=
  (disk.children place).filterMap (itemOfChild disk place)

theorem describes_iff {name : Name} {entry : Entry} {item : Item} :
    Describes disk place name entry item ↔ itemOfChild disk place (name, entry) = some item := by
  constructor
  · rintro (_ | _) <;> rfl
  · intro h
    cases entry with
    | directory =>
      cases h
      exact .directory
    | file content =>
      cases h
      exact .file content
    | link target => cases h

theorem isListed_of_describes {name : Name} {entry : Entry} {item : Item}
    (h : Describes disk place name entry item) : isListed entry = true := by
  cases h <;> rfl

theorem exists_describes (disk : Disk) (place : Place) (name : Name) {entry : Entry}
    (h : isListed entry = true) : ∃ item, Describes disk place name entry item := by
  cases entry with
  | directory => exact ⟨_, .directory⟩
  | file content => exact ⟨_, .file content⟩
  | link target => cases h

/-- Describing what is listed is making items of it. -/
theorem forall₂_describes_iff {children : List (Name × Entry)} {shown : List Item} :
    List.Forall₂ (fun (child : Name × Entry) item => Describes disk place child.1 child.2 item)
      (children.filter fun child => isListed child.2) shown ↔
        children.filterMap (itemOfChild disk place) = shown := by
  induction children generalizing shown with
  | nil => exact List.forall₂_nil_left_iff.trans eq_comm
  | cons child children ih =>
    obtain ⟨name, entry⟩ := child
    cases hlisted : isListed entry with
    | false =>
      cases entry with
      | link target => exact ih
      | directory | file => cases hlisted
    | true =>
      obtain ⟨item, hitem⟩ := exists_describes disk place name hlisted
      rw [List.filter_cons, if_pos hlisted, List.forall₂_cons_left_iff]
      constructor
      · rintro ⟨other, later, hother, hlater, rfl⟩
        rw [List.filterMap_cons_some (describes_iff.mp hother), ih.mp hlater]
      · rintro rfl
        exact ⟨item, _, hitem, ih.mpr rfl, List.filterMap_cons_some (describes_iff.mp hitem)⟩

/-- **What is written is complete**, and nothing else is, up to the order. -/
theorem complete_iff {items : List Item} :
    Complete disk place items ↔ items.Perm (itemsOf disk place) := by
  constructor
  · rintro ⟨shown, hperm, hall⟩
    rw [itemsOf, forall₂_describes_iff.mp hall]
    exact hperm
  · intro hperm
    exact ⟨itemsOf disk place, hperm, forall₂_describes_iff.mpr rfl⟩

end Items

/-! ## 2. Reading back what was written -/

section Records

variable {disk : Disk} {place : Place}

/-- The name of an item holds a line end exactly if the name of its entry does. -/
theorem lineFeed_mem_iff {name : Name} {entry : Entry} {item : Item}
    (h : Describes disk place name entry item) : '\n' ∈ item.name.toList ↔ lineFeed ∈ name := by
  have hname : item.name = Utf8.decodeLossy name := by cases h <;> rfl
  rw [hname]
  exact Utf8.mem_decodeLossy_iff (a := lineFeed) (by decide)

theorem mem_itemsOf_iff {item : Item} :
    item ∈ itemsOf disk place ↔
      ∃ name entry, (name, entry) ∈ disk.children place ∧
        Describes disk place name entry item := by
  rw [itemsOf, List.mem_filterMap, Prod.exists]
  simp only [describes_iff]

/-- **Without a line feed in a name, all is read back.** -/
theorem parse_records (h : ∀ name entry, (name, entry) ∈ disk.children place →
      isListed entry = true → lineFeed ∉ name) :
    parse (records (disk.listedAt place)) = .ok ((itemsOf disk place).mergeSort before) := by
  have hitems : (disk.listedAt place).filterMap itemOf = itemsOf disk place :=
    List.filterMap_map
  rw [records, hitems]
  refine parse_join_render ?_
  intro item hmem
  obtain ⟨name, entry, hentry, hdescribes⟩ := mem_itemsOf_iff.mp hmem
  rw [lineFeed_mem_iff hdescribes]
  exact h name entry hentry (isListed_of_describes hdescribes)

/-- **With one, no text is read as the whole directory**: what is read holds no line end. -/
theorem lineFeed_not_mem_of_complete {text : String} {items : List Item}
    (hparse : parse text = .ok items) (hcomplete : Complete disk place items) {name : Name}
    {entry : Entry} (hmem : (name, entry) ∈ disk.children place) (hlisted : isListed entry = true) :
    lineFeed ∉ name := by
  obtain ⟨item, hdescribes⟩ := exists_describes disk place name hlisted
  rw [← lineFeed_mem_iff hdescribes]
  refine not_mem_name_of_parse hparse ((complete_iff.mp hcomplete).mem_iff.mpr ?_)
  exact mem_itemsOf_iff.mpr ⟨name, entry, hmem, hdescribes⟩

end Records

/-! ## 3. Listing a directory -/

variable {client : Client} {directory : Path} {place : Place}

theorem ofDirectory_eq (hplace : client.disk.resolve directory = .ok place)
    (hdirectory : client.disk.peek place = some .directory) :
    ∃ after, ofDirectory directory client = .ok (records (client.disk.listedAt place)) after := by
  have hlist : client.disk.list directory = .ok (client.disk.listedAt place) := by
    refine Step.result_bind_eq_ok_iff.mpr ⟨place, hplace, ?_⟩
    rw [hdirectory]
  refine ⟨_, ClientM.ask_bind_eq_ok_iff.mpr ⟨_, ?_, rfl⟩⟩
  rw [hlist]
  rfl

/-- What is shown is what is read back, or why nothing is. -/
theorem outcome_list (hplace : client.disk.resolve directory = .ok place)
    (hdirectory : client.disk.peek place = some .directory) :
    Step.outcome (LocalAction.list directory client) =
      ((parse (records (client.disk.listedAt place))).map format).mapError .listing := by
  obtain ⟨after, hrecords⟩ := ofDirectory_eq hplace hdirectory
  rw [LocalAction.list, Step.bind_of_ok hrecords]
  cases parse (records (client.disk.listedAt place)) with
  | ok items => rfl
  | error fault => rfl

end Listing

namespace LocalAction

open Listing

/-- **A directory is listed completely exactly if no directory and no file in it has a line feed in
    its name.** -/
theorem list_complete_iff {client : Client} {directory : Path} {place : Place}
    (hplace : client.disk.resolve directory = .ok place)
    (hdirectory : client.disk.peek place = some .directory) :
    (∃ items, Lists directory client items ∧ Complete client.disk place items) ↔
      ∀ name entry, (name, entry) ∈ client.disk.children place → isListed entry = true →
        lineFeed ∉ name := by
  constructor
  · rintro ⟨items, ⟨⟨text, -, hparse⟩, -⟩, hcomplete⟩ name entry hmem hlisted
    exact lineFeed_not_mem_of_complete hparse hcomplete hmem hlisted
  · intro hnames
    have hparse := parse_records hnames
    obtain ⟨after, hrecords⟩ := ofDirectory_eq hplace hdirectory
    refine ⟨_, ⟨⟨_, congrArg Step.outcome hrecords, hparse⟩, ?_⟩,
      complete_iff.mpr (List.mergeSort_perm _ _)⟩
    rw [outcome_list hplace hdirectory, hparse]
    rfl

/-- A file with a colon in its name, a directory of four blocks and a link. -/
theorem list_colon :
    ∃ items, Lists ⟨Path.dot⟩
        ⟨{ entries := [([[0x61, 0x3A, 0x62]], .file [1, 2]), ([[0x64]], .directory),
             ([[0x6C, 0x0A]], .link ⟨[0x64]⟩)]
           here := [], outages := [], sizes := ⟨[([[0x64]], 16384)]⟩ }, "", []⟩ items ∧
      Complete
        { entries := [([[0x61, 0x3A, 0x62]], .file [1, 2]), ([[0x64]], .directory),
            ([[0x6C, 0x0A]], .link ⟨[0x64]⟩)]
          here := [], outages := [], sizes := ⟨[([[0x64]], 16384)]⟩ } [] items := by
  have hnames : ∀ child ∈ [([0x61, 0x3A, 0x62], Entry.file [1, 2]), ([0x64], .directory),
      ([0x6C, 0x0A], .link ⟨[0x64]⟩)], isListed child.2 = true → lineFeed ∉ child.1 := by
    decide
  exact (list_complete_iff (Disk.resolve_dot rfl) rfl).mpr
    fun name entry hmem => hnames (name, entry) hmem

/-- With a file whose name is "a", a line feed and "b", the listing of a directory fails. -/
theorem list_line_feed :
    Step.outcome (list ⟨Path.dot⟩
        ⟨⟨[([[0x61, 0x0A, 0x62]], .file [1, 2])], [], []⟩, "", []⟩) =
      .error (.listing (.malformed "b")) := by
  rw [outcome_list (Disk.resolve_dot rfl) rfl]
  decide +kernel

end LocalAction

end RemoteFiles
