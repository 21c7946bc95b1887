import ChipEight.Archive
import ChipEight.CommandLine.Launch
import Mathlib.Tactic.ByContra

/-! The names that an archive lists are those under which something can be taken out of it, since
one table of names is behind both. What reads the archive is any library that keeps such a table;
the library here does. Damage that the library finds is reported as such, unless the program stops
before it reads the data.
-/

namespace ChipEight

-----------------------------------------------------------------------------------------
-- Names in the order of their bytes
-----------------------------------------------------------------------------------------

namespace Utf8

theorem encode_injective {a b : String} (same : encode a = encode b) : a = b :=
  String.toByteArray_inj.mp (ByteArray.ext (Array.toList_inj.mp same))

/-- A name comes before another one in the order of their bytes. -/
def Before (a b : String) : Prop :=
  encode a < encode b

instance (a b : String) : Decidable (Before a b) :=
  inferInstanceAs (Decidable (encode a < encode b))

theorem Before.trans {a b c : String} (first : Before a b) (second : Before b c) : Before a c :=
  List.lt_trans first second

theorem Before.ne {a b : String} (before : Before a b) : a ≠ b := by
  rintro rfl
  exact List.lt_irrefl _ before

theorem Before.asymm {a b : String} (before : Before a b) : ¬ Before b a := fun behind =>
  (before.trans behind).ne rfl

/-- Of two names one comes first, unless they are the same. -/
theorem before_of_not_before {a b : String} (different : a ≠ b) (notBefore : ¬ Before a b)
    : Before b a := by
  by_contra notBehind
  exact different
    (encode_injective (List.le_antisymm (List.not_lt.mp notBehind) (List.not_lt.mp notBefore)))

/-- Lists in strict order with the same names are equal. -/
theorem eq_of_ascending {names others : List String} (ascending : names.Pairwise Before)
    (othersAscending : others.Pairwise Before) (same : ∀ name, name ∈ names ↔ name ∈ others)
    : names = others := by
  have nodup : names.Nodup := ascending.imp Before.ne
  have othersNodup : others.Nodup := othersAscending.imp Before.ne
  refine List.Perm.eq_of_pairwise ?_ ascending othersAscending
    ((List.perm_ext_iff_of_nodup nodup othersNodup).mpr same)
  intro a b _ _ before behind
  exact absurd behind before.asymm

end Utf8

-----------------------------------------------------------------------------------------
-- What is relied on of a library
-----------------------------------------------------------------------------------------

/-- The failure is one of the archive or of reading it; nothing is missing. -/
inductive RomError.IsDamage : RomError → Prop
  | read (cause : ReadError) : IsDamage (.read cause)
  | archive (cause : ArchiveError) : IsDamage (.archive cause)

attribute [simp] RomError.IsDamage.read RomError.IsDamage.archive

@[simp] theorem RomError.not_isDamage_notFound (name : String) : ¬ (notFound name).IsDamage :=
  nofun

namespace Archive

/-- Every name of an entry is in the table, with the number of an entry of that name, and the number
of an entry is never unknown.
-/
structure Reader.Sound (reader : Reader) : Prop where
  complete : ∀ name ∈ reader.entryNames, name ∈ reader.table.names
  numbered : ∀ name number,
    reader.table.number? name = some number → reader.entryNames[number]? = some name
  known : ∀ number < reader.entryNames.length, reader.byIndex number ≠ .error .fileNotFound

/-- Whatever is read, its table is sound. -/
def Library.Sound (library : Library) : Prop :=
  ∀ medium data reader, library.read medium data = .ok reader → reader.Sound

/-- The archive was opened in memory or in a file. -/
def Library.Accepts (library : Library) (reader : Reader) : Prop :=
  (∃ data, library.ofBytes data = .ok reader) ∨ ∃ content, library.ofFile content = .ok reader

namespace Library

variable {library : Library} {reader : Reader}

theorem Sound.of_openMedium (sound : library.Sound) {medium : Medium} {data : Array UInt8}
    (opened : library.openMedium medium data = .ok reader) : reader.Sound := by
  unfold openMedium at opened
  cases read : library.read medium data with
  | error cause => simp [read] at opened
  | ok found =>
    obtain rfl : found = reader := by simpa [read] using opened
    exact sound _ _ _ read

theorem Sound.of_ofFile (sound : library.Sound) {content : Except OsError (Array UInt8)}
    (opened : library.ofFile content = .ok reader) : reader.Sound := by
  unfold ofFile at opened
  split at opened
  · cases opened
  · cases opened
  · exact sound.of_openMedium opened

theorem Sound.of_accepts (sound : library.Sound) (accepted : library.Accepts reader)
    : reader.Sound := by
  obtain ⟨data, opened⟩ | ⟨content, opened⟩ := accepted
  · exact sound.of_openMedium opened
  · exact sound.of_ofFile opened

end Library

/-- The table of the names of the entries is sound. -/
theorem Reader.Sound.of_ofNames {reader : Reader}
    (table_eq : reader.table = .ofNames reader.entryNames)
    (known : ∀ number < reader.entryNames.length, reader.byIndex number ≠ .error .fileNotFound)
    : reader.Sound where
  complete _ listed := table_eq ▸ NameTable.mem_names_ofNames listed
  numbered _ _ found := NameTable.getElem?_of_number?_ofNames (table_eq ▸ found)
  known := known

theorem byIndex_ne_fileNotFound {archive : Archive} {number : Nat}
    (inDirectory : number < archive.entries.length)
    : archive.byIndex number ≠ .error .fileNotFound := by
  rw [byIndex, List.getElem?_eq_getElem inDirectory]
  cases opens : archive.entries[number].opened archive.medium archive.data <;> simp [opens]

/-- The table of every archive that is read here is sound, so what holds for sound libraries holds of
the program that runs.
-/
theorem library_sound : library.Sound := by
  intro medium data reader opened
  simp only [library] at opened
  cases directory : read medium data with
  | error cause => simp [directory] at opened
  | ok archive =>
    obtain rfl : archive.reader = reader := by simpa [directory] using opened
    exact .of_ofNames rfl fun number inDirectory =>
      byIndex_ne_fileNotFound (by simpa [Archive.reader] using inDirectory)

-----------------------------------------------------------------------------------------
-- What becomes of a name
-----------------------------------------------------------------------------------------

namespace Reader

/-- The entry in the table under the name is opened. -/
def Opens (reader : Reader) (name : String) (opened : Opened) : Prop :=
  ∃ number, reader.table.number? name = some number ∧ reader.byIndex number = .ok opened

/-- The entry in the table under the name is not opened. -/
def Refuses (reader : Reader) (name : String) (cause : ArchiveError) : Prop :=
  ∃ number, reader.table.number? name = some number
    ∧ reader.byIndex number = .error (.archive cause)

/-- The library finds that the entry under the name cannot be opened, or its data not be read. -/
def Damaged (reader : Reader) (name : String) : Prop :=
  (∃ cause, reader.Refuses name cause)
    ∨ ∃ opened cause, reader.Opens name opened ∧ opened.data = .error cause

/-- The entry under the name claims to have more bytes than a block of memory can have, or than
there are.
-/
def Overwhelms (reader : Reader) (hasBlock : Nat → Bool) (name : String) : Prop :=
  ∃ opened, reader.Opens name opened
    ∧ (maxCapacity < opened.recordedSize.toNat
      ∨ hasBlock opened.recordedSize.toNat = false)

/-- The data under the name can be read, but is not as long as the archive records. -/
def Mislabelled (reader : Reader) (name : String) : Prop :=
  ∃ opened data, reader.Opens name opened ∧ opened.data = .ok data
    ∧ data.size ≠ opened.recordedSize.toNat

end Reader

/-- Listing and extracting agree: the names of the entries are listed in order and once each, and
each outcome of extracting a name has its own exact condition. Damage that the library finds is
reported except for an entry that the program has no memory for; a wrong size is never noticed.
-/
structure ListingAgrees (reader : Reader) (hasBlock : Nat → Bool) : Prop where
  ascending : reader.names.Pairwise Utf8.Before
  listed_iff : ∀ name, name ∈ reader.names ↔ name ∈ reader.entryNames
  missing_iff : ∀ name missing,
    reader.extract? hasBlock name = some (.error (.notFound missing))
      ↔ missing = name ∧ name ∉ reader.names
  refused_iff : ∀ name cause,
    reader.extract? hasBlock name = some (.error (.archive cause)) ↔ reader.Refuses name cause
  unreadable_iff : ∀ name cause,
    reader.extract? hasBlock name = some (.error (.read cause))
      ↔ ¬ reader.Overwhelms hasBlock name
        ∧ ∃ opened, reader.Opens name opened ∧ opened.data = .error cause
  extracted_iff : ∀ name rom,
    reader.extract? hasBlock name = some (.ok rom)
      ↔ rom.name = name ∧ ¬ reader.Overwhelms hasBlock name
        ∧ ∃ opened, reader.Opens name opened ∧ opened.data = .ok rom.data
  stopped_iff : ∀ name, reader.extract? hasBlock name = none ↔ reader.Overwhelms hasBlock name
  damage_iff : ∀ name,
    (∃ e : RomError, e.IsDamage ∧ reader.extract? hasBlock name = some (.error e))
      ↔ reader.Damaged name ∧ ¬ reader.Overwhelms hasBlock name
  unnoticed : ∀ name,
    reader.Mislabelled name
    → ¬ reader.Overwhelms hasBlock name
    → ∃ rom, reader.extract? hasBlock name = some (.ok rom)

namespace Reader

variable {reader : Reader} {hasBlock : Nat → Bool} {name : String} {opened : Opened}
  {cause : ArchiveError}

theorem byName_eq_ok_iff : reader.byName name = .ok opened ↔ reader.Opens name opened := by
  unfold byName Opens
  cases reader.table.number? name <;> simp

theorem byName_eq_archive_iff
    : reader.byName name = .error (.archive cause) ↔ reader.Refuses name cause := by
  unfold byName Refuses
  cases reader.table.number? name <;> simp

/-- A reader only misses a name that its table does not have. -/
theorem Sound.byName_eq_fileNotFound_iff (sound : reader.Sound)
    : reader.byName name = .error .fileNotFound ↔ name ∉ reader.table.names := by
  rw [NameTable.mem_names_iff, byName]
  cases found : reader.table.number? name with
  | none => simp
  | some number =>
    have inDirectory : number < reader.entryNames.length :=
      (List.getElem?_eq_some_iff.mp (sound.numbered name number found)).1
    simpa using sound.known number inDirectory

theorem mem_names : name ∈ reader.names ↔ name ∈ reader.table.names :=
  List.mem_mergeSort

/-- The table has the names of the entries and no other names. -/
theorem Sound.mem_names_iff (sound : reader.Sound)
    : name ∈ reader.names ↔ name ∈ reader.entryNames := by
  rw [mem_names]
  refine ⟨fun inTable => ?_, sound.complete name⟩
  obtain ⟨number, found⟩ := Option.isSome_iff_exists.mp (NameTable.mem_names_iff.mp inTable)
  exact List.mem_of_getElem? (sound.numbered name number found)

/-- Sorted names without repetition ascend strictly. -/
theorem names_ascending (reader : Reader) : reader.names.Pairwise Utf8.Before := by
  have sorted : reader.names.Pairwise fun a b => Utf8.encode a ≤ Utf8.encode b :=
    (List.pairwise_mergeSort (by simpa using fun a b c => List.le_trans)
      (by simpa using fun a b => List.le_total _ _) reader.table.names).imp (by simp)
  have nodup : reader.names.Nodup :=
    (List.mergeSort_perm reader.table.names _).nodup_iff.mpr reader.table.nodup
  refine (sorted.and nodup).imp ?_
  rintro a b ⟨notBehind, different⟩
  exact Utf8.before_of_not_before (Ne.symm different) notBehind

/-- An entry overwhelms the program exactly if it is opened and does not fit. -/
theorem overwhelms_iff
    : reader.Overwhelms hasBlock name
      ↔ ∃ opened, reader.byName name = .ok opened ∧ opened.fits hasBlock = false := by
  simp only [Overwhelms, ← byName_eq_ok_iff, Opened.fits_eq_false_iff]

/-- What is extracted, and when: the recorded size only matters for the block of memory. -/
theorem extract?_eq_ok_iff {rom : Rom}
    : reader.extract? hasBlock name = some (.ok rom)
      ↔ rom.name = name ∧ ¬ reader.Overwhelms hasBlock name
        ∧ ∃ opened, reader.Opens name opened ∧ opened.data = .ok rom.data := by
  simp only [overwhelms_iff, ← byName_eq_ok_iff, extract?]
  rcases reader.byName name with (_ | cause) | opened
  · simp
  · simp
  · cases rom
    cases fits : opened.fits hasBlock <;> cases found : opened.data <;>
      simp [fits, found, @eq_comm _ name]

/-- Listing and extracting agree for every reader with a sound table. -/
theorem Sound.listingAgrees (sound : reader.Sound) (hasBlock : Nat → Bool)
    : ListingAgrees reader hasBlock where
  ascending := reader.names_ascending
  listed_iff _ := sound.mem_names_iff
  missing_iff name missing := by
    rw [mem_names, ← sound.byName_eq_fileNotFound_iff, extract?]
    rcases reader.byName name with (_ | cause) | opened
    · simp [eq_comm]
    · simp
    · cases fits : opened.fits hasBlock <;> cases found : opened.data <;> simp [fits, found]
  refused_iff name cause := by
    rw [← byName_eq_archive_iff, extract?]
    rcases reader.byName name with (_ | cause) | opened
    · simp
    · simp
    · cases fits : opened.fits hasBlock <;> cases found : opened.data <;> simp [fits, found]
  unreadable_iff name cause := by
    simp only [overwhelms_iff, ← byName_eq_ok_iff, extract?]
    rcases reader.byName name with (_ | cause) | opened
    · simp
    · simp
    · cases fits : opened.fits hasBlock <;> cases found : opened.data <;> simp [fits, found]
  extracted_iff _ _ := extract?_eq_ok_iff
  stopped_iff name := by
    rw [overwhelms_iff, extract?]
    rcases reader.byName name with (_ | cause) | opened
    · simp
    · simp
    · cases fits : opened.fits hasBlock <;> cases found : opened.data <;> simp [fits, found]
  damage_iff name := by
    simp only [overwhelms_iff, Damaged, ← byName_eq_archive_iff, ← byName_eq_ok_iff, extract?]
    rcases reader.byName name with (_ | cause) | opened
    · simp
    · simp
    · cases fits : opened.fits hasBlock <;> cases found : opened.data <;> simp [fits, found]
  unnoticed name mislabelled fitting := by
    obtain ⟨opened, data, opens, intact, -⟩ := mislabelled
    exact ⟨{ name, data }, extract?_eq_ok_iff.mpr ⟨rfl, fitting, opened, opens, intact⟩⟩

end Reader

/-- A listed name is not missing, so whatever stands against it is damage. -/
theorem ListingAgrees.isDamage_of_listed {reader : Reader} {hasBlock : Nat → Bool}
    (agrees : ListingAgrees reader hasBlock) {name : String} (listed : name ∈ reader.names)
    {e : RomError} (failed : reader.extract? hasBlock name = some (.error e)) : e.IsDamage := by
  cases e with
  | read cause => exact .read cause
  | archive cause => exact .archive cause
  | notFound missing => exact absurd listed ((agrees.missing_iff name missing).mp failed).2

end Archive

-----------------------------------------------------------------------------------------
-- Listing on the command line, then asking for a listed name
-----------------------------------------------------------------------------------------

namespace CommandLine

variable {host : Host} {files : FileAccess Id} {listed asked : Options} {random : RandomSource}
  {path name : String} {names : List String} {reader : Archive.Reader}

/-- A list of names is what the archive in the file has, once the log file is created. -/
theorem launch_eq_listing_iff (fromArchive : listed.archive = some path)
    : (launch host files listed random).run = .listing names
      ↔ (createLog files listed).run = .ok () ∧ listed.list = true
        ∧ ∃ reader, host.library.ofFile (files.read path).run = .ok reader
          ∧ reader.names = names := by
  simp only [launch, Id.run_bind]
  cases (createLog files listed).run with
  | error report => simp
  | ok _ =>
    simp only [listOrLoad, openArchive, fromArchive]
    cases listed.list with
    | true =>
      simp only [Id.run_bind]
      cases host.library.ofFile (files.read path).run with
      | error e => simp
      | ok reader => simp
    | false =>
      -- Without the wish for a list a program is loaded, or that fails.
      simp only [Id.run_bind, Bool.false_eq_true, false_and, and_false, iff_false]
      rcases (fetchRom? host files listed).run with _ | report | rom
      · simp
      · simp
      · cases started : Machine.start rom random <;> simp [started]

/-- What is asked for by a name of an archive is what the name extracts. -/
theorem fetchRom?_of_opened (asksArchive : asked.archive = some path)
    (asksName : asked.name = some name) (noFile : asked.rom = none)
    (opened : host.library.ofFile (files.read path).run = .ok reader)
    : (fetchRom? host files asked).run
      = (reader.extract? host.hasBlock name).map
        (Except.mapError (fetchReport ("unable to extract " ++ name))) := by
  simp only [fetchRom?, noFile, asksArchive, asksName, openArchive, Id.run_bind, opened,
    Id.run_pure]
  rcases reader.extract? host.hasBlock name with _ | e | rom <;> rfl

/-- What is asked for by a listed name is there, or damaged, or more than there is memory for. -/
theorem fetchRom?_of_listed (agrees : Archive.ListingAgrees reader host.hasBlock)
    (listed : name ∈ reader.names) (asksArchive : asked.archive = some path)
    (asksName : asked.name = some name) (noFile : asked.rom = none)
    (opened : host.library.ofFile (files.read path).run = .ok reader)
    : (∃ rom : Rom, rom.name = name ∧ (fetchRom? host files asked).run = some (.ok rom))
      ∨ (∃ e : RomError, e.IsDamage
        ∧ (fetchRom? host files asked).run
          = some (.error (fetchReport ("unable to extract " ++ name) e)))
      ∨ (reader.Overwhelms host.hasBlock name ∧ (fetchRom? host files asked).run = none) := by
  rw [fetchRom?_of_opened asksArchive asksName noFile opened]
  rcases extracted : reader.extract? host.hasBlock name with _ | e | rom
  · exact .inr (.inr ⟨(agrees.stopped_iff name).mp extracted, rfl⟩)
  · exact .inr (.inl ⟨e, agrees.isDamage_of_listed listed extracted, rfl⟩)
  · exact .inl ⟨rom, ((agrees.extracted_iff name rom).mp extracted).1, rfl⟩

end CommandLine

namespace Archive

open CommandLine

/-- What an archive lists is what can be taken out of it, for every archive that is accepted by
whatever library reads it, and whatever memory there is: names ascend, only a name that is not
listed is not found, and damage is reported unless the program stops because the entry claims more
bytes than it can have. On the command line therefore every listed name can be asked for.
-/
theorem listed_names_are_found {host : Host} (sound : host.library.Sound)
    : (∀ reader, host.library.Accepts reader → ListingAgrees reader host.hasBlock)
      ∧ ∀ (files : FileAccess Id) (random : RandomSource) (listed asked : Options)
          (path name : String) (names : List String),
        listed.archive = some path
        → (launch host files listed random).run = .listing names
        → name ∈ names
        → asked.rom = none
        → asked.archive = some path
        → asked.name = some name
        → ∃ reader, host.library.ofFile (files.read path).run = .ok reader
          ∧ reader.names = names
          ∧ ((∃ rom : Rom, rom.name = name ∧ (fetchRom? host files asked).run = some (.ok rom))
            ∨ (∃ e : RomError, e.IsDamage
              ∧ (fetchRom? host files asked).run
                = some (.error (fetchReport ("unable to extract " ++ name) e)))
            ∨ (reader.Overwhelms host.hasBlock name
              ∧ (fetchRom? host files asked).run = none)) := by
  constructor
  · intro reader accepted
    exact (sound.of_accepts accepted).listingAgrees host.hasBlock
  · intro files random listed asked path name names fromArchive listing mem noFile asksArchive
      asksName
    obtain ⟨-, -, reader, opened, rfl⟩ := (launch_eq_listing_iff fromArchive).mp listing
    have agrees := (sound.of_ofFile opened).listingAgrees host.hasBlock
    exact ⟨reader, opened, rfl,
      fetchRom?_of_listed agrees mem asksArchive asksName noFile opened⟩

/-- A library that knows one archive. -/
def Library.knowing (known : Array UInt8) (reader : Reader) : Library where
  read _ data := if data = known then .ok reader else .error (.invalid .noEndRecord)

theorem Library.openMedium_knowing (medium : Medium) (known : Array UInt8) (reader : Reader)
    : (knowing known reader).openMedium medium known = .ok reader := by
  simp [openMedium, knowing]

theorem Library.ofFile_knowing (known : Array UInt8) (reader : Reader)
    : (knowing known reader).ofFile (.ok known) = .ok reader :=
  openMedium_knowing .file known reader

theorem Library.knowing_sound {known : Array UInt8} {reader : Reader} (sound : reader.Sound)
    : (knowing known reader).Sound := by
  intro medium data other opened
  simp only [knowing] at opened
  split at opened
  · exact Except.ok.inj opened ▸ sound
  · cases opened

/-- The bytes of a directory entry with a name of one letter; all its sizes are zero. -/
def letterEntry (letter flags : UInt8) : List UInt8 :=
  [0x50, 0x4B, 1, 2, 0, 0, 0, 0, flags] ++ List.replicate 19 0 ++ [1] ++ List.replicate 17 0
    ++ [letter]

/-- An archive with three entries: B is encrypted, and so is the first of the two named A. -/
def threeEntries : Array UInt8 :=
  List.toArray <|
    [0x50, 0x4B, 3, 4] ++ List.replicate 26 0
      ++ letterEntry 0x42 1 ++ letterEntry 0x41 1 ++ letterEntry 0x41 0
      ++ [0x50, 0x4B, 5, 6, 0, 0, 0, 0, 3, 0, 3, 0, 141, 0, 0, 0, 30, 0, 0, 0, 0, 0]

/-- What is read in the archive with three entries. -/
def threeReader : Reader where
  entryNames := ["B", "A", "A"]
  table := .ofNames ["B", "A", "A"]
  byIndex number :=
    match number with
    | 0 | 1 => .error (.archive (.unsupported .encryption))
    | 2 => .ok { recordedSize := 0, data := .ok #[] }
    | _ => .error .fileNotFound

theorem threeReader_sound : threeReader.Sound := by
  refine .of_ofNames rfl fun number inDirectory => ?_
  match number, inDirectory with
  | 0, _ | 1, _ | 2, _ => nofun

/-- A library for the archive with three entries, and all the memory that there can be. -/
def threeHost : Host where
  library := .knowing threeEntries threeReader
  hasBlock _ := true

/-- Files that all hold the archive with three entries. -/
def threeFiles : FileAccess Id where
  read _ := .ok threeEntries
  create _ := .ok ()

/-- The two names of three entries are listed once each. The last entry of the name A is extracted,
B is refused, and both can be asked for on the command line.
-/
theorem listed_names_are_found_threeEntries
    : threeHost.library.Sound
      ∧ ListingAgrees threeReader threeHost.hasBlock
      ∧ threeReader.extract? threeHost.hasBlock "A" = some (.ok { name := "A", data := #[] })
      ∧ threeReader.extract? threeHost.hasBlock "B"
        = some (.error (.archive (.unsupported .encryption)))
      ∧ (launch threeHost threeFiles { archive := some "roms.zip", list := true }
        (.cycling #[])).run = .listing ["A", "B"]
      ∧ ∀ name ∈ ["A", "B"],
        let fetched :=
          fetchRom? threeHost threeFiles { archive := some "roms.zip", name := some name }
        ∃ reader, threeHost.library.ofFile (threeFiles.read "roms.zip").run = .ok reader
          ∧ reader.names = ["A", "B"]
          ∧ ((∃ rom : Rom, rom.name = name ∧ fetched.run = some (.ok rom))
            ∨ (∃ e : RomError, e.IsDamage
              ∧ fetched.run = some (.error (fetchReport ("unable to extract " ++ name) e)))
            ∨ (reader.Overwhelms threeHost.hasBlock name ∧ fetched.run = none)) := by
  have sound : threeHost.library.Sound := Library.knowing_sound threeReader_sound
  obtain ⟨agree, onCommandLine⟩ := listed_names_are_found sound
  have opened : threeHost.library.ofFile (threeFiles.read "roms.zip").run = .ok threeReader :=
    Library.ofFile_knowing threeEntries threeReader
  have agrees := agree threeReader (.inr ⟨_, opened⟩)
  have names_eq : threeReader.names = ["A", "B"] := by
    refine Utf8.eq_of_ascending agrees.ascending (by decide) fun name => ?_
    rw [agrees.listed_iff]
    simp [threeReader, or_comm]
  have listing
      : (launch threeHost threeFiles { archive := some "roms.zip", list := true }
        (.cycling #[])).run = .listing ["A", "B"] :=
    (launch_eq_listing_iff rfl).mpr ⟨rfl, rfl, threeReader, opened, names_eq⟩
  refine ⟨sound, agrees, ?_, ?_, listing, fun name mem => ?_⟩
  · exact (agrees.extracted_iff "A" _).mpr ⟨rfl, nofun, _, ⟨2, rfl, rfl⟩, rfl⟩
  · exact (agrees.refused_iff "B" _).mpr ⟨0, rfl, rfl⟩
  · exact onCommandLine _ _ _ _ _ name _ rfl listing mem rfl rfl rfl

/-- An archive with one entry A that claims to have more bytes than a block of memory can have, and
whose bytes do not have the recorded checksum.
-/
def overlargeEntry : Array UInt8 :=
  #[
    0x50, 0x4B, 3, 4, 0x14, 0, 0, 0, 0, 0, 0, 0, 0, 0, 0, 0, 0, 0, 2, 0, 0, 0, 2, 0, 0, 0, 1, 0, 0,
    0, 0x41, 0, 0xE0, 0x50, 0x4B, 1, 2, 0x14, 0, 0x14, 0, 0, 0, 0, 0, 0, 0, 0, 0, 0, 0, 0, 0, 2, 0,
    0, 0, 0xFF, 0xFF, 0xFF, 0xFF, 1, 0, 0x0C, 0, 0, 0, 0, 0, 0, 0, 0, 0, 0, 0, 0, 0, 0, 0, 0x41, 1,
    0, 8, 0, 0, 0, 0, 0, 0, 0, 0, 0x80, 0x50, 0x4B, 5, 6, 0, 0, 0, 0, 1, 0, 1, 0, 0x3B, 0, 0, 0,
    0x21, 0, 0, 0, 0, 0
  ]

/-- What is read in the archive with the overlarge entry. -/
def overlargeReader : Reader where
  entryNames := ["A"]
  table := .ofNames ["A"]
  byIndex number :=
    match number with
    | 0 => .ok { recordedSize := 0x8000000000000000, data := .error .badChecksum }
    | _ => .error .fileNotFound

theorem overlargeReader_sound : overlargeReader.Sound := by
  refine .of_ofNames rfl fun number inDirectory => ?_
  match number, inDirectory with
  | 0, _ => nofun

/-- Damage of an overlarge entry is not reported, however much memory there is: the archive is
accepted and lists the entry, but asking for it stops the program.
-/
theorem damage_not_always_reported
    : let library := Library.knowing overlargeEntry overlargeReader
      library.Sound
      ∧ library.ofBytes overlargeEntry = .ok overlargeReader
      ∧ "A" ∈ overlargeReader.names
      ∧ overlargeReader.Damaged "A"
      ∧ ¬ ∃ hasBlock e, RomError.IsDamage e
        ∧ overlargeReader.extract? hasBlock "A" = some (.error e) := by
  refine ⟨Library.knowing_sound overlargeReader_sound, Library.openMedium_knowing _ _ _, ?_, ?_, ?_⟩
  · exact overlargeReader_sound.mem_names_iff.mpr (List.mem_singleton.mpr rfl)
  · exact .inr ⟨_, .badChecksum, ⟨0, rfl, rfl⟩, rfl⟩
  · rintro ⟨hasBlock, e, -, reported⟩
    have stops : overlargeReader.extract? hasBlock "A" = none := rfl
    simp [stops] at reported

/-- The library here reads that archive in the same way. -/
example
    : (library.ofBytes overlargeEntry).toOption.map (fun reader =>
        (reader.entryNames, (reader.extract? (fun _ => true) "A").isNone))
      = some (["A"], true) := by
  decide +kernel

end Archive

end ChipEight
