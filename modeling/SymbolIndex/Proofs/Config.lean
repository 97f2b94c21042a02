import SymbolIndex.Config.Load
import SymbolIndex.Proofs.Json.Defaults
import SymbolIndex.Proofs.Text.Utf8

/-! # Where a configuration comes from

A file gives a configuration if it is text, the text is a document, the document has the right types
and the settings are valid. Each setting is then the one of the document, or its default if the
document leaves it out. A folder has the configuration of its file, or else all the defaults; what
it has is always valid.
-/
namespace SymbolIndex

namespace JsonCodec

theorem text_reads : text.Reads fun j s => j = .string s := by
  intro j s
  cases j <;> simp [text]

theorem uint64_reads : uint64.Reads fun j n => j = .integer n.toNat := by
  intro j n
  cases j with
  | integer k =>
    have hn := n.toNat_lt
    by_cases hk : 0 ≤ k ∧ k ≤ 18446744073709551615
    · simp only [uint64, integer, if_pos hk, Except.ok.injEq, Json.integer.injEq]
      rw [← UInt64.toNat_inj, UInt64.toNat_ofNat']
      omega
    · simp only [uint64, integer, if_neg hk, Json.integer.injEq]
      refine iff_of_false nofun ?_
      omega
  | _ => simp [uint64, integer]

end JsonCodec

structure LoggingConfig.Told (tree : Json) (c : LoggingConfig) : Prop where
  table : tree.IsTable
  level : Settles (tree.given? 0 "level") (fun j s => j = .string s) "info" c.level
  format : Settles (tree.given? 1 "format") (fun j s => j = .string s) "pretty" c.format

structure NamesConfig.Told (tree : Json) (c : NamesConfig) : Prop where
  table : tree.IsTable
  initialCapacity : Settles (tree.given? 0 "initial_capacity") (fun j n => j = .integer n.toNat) 256
    c.initialCapacity

structure Config.Told (tree : Json) (c : Config) : Prop where
  table : tree.IsTable
  logging : Settles (tree.given? 0 "logging") LoggingConfig.Told ⟨"info", "pretty"⟩ c.logging
  names : Settles (tree.given? 1 "names") NamesConfig.Told ⟨256⟩ c.names

namespace JsonCodec

theorem loggingConfig_reads : (loggingConfig true).Reads LoggingConfig.Told := by
  intro tree c
  refine (structured_read_eq_ok_iff (fun _ => rfl) (fun _ => rfl)).trans ?_
  rw [Members.settled_cons_iff text_reads, Members.settled_cons_iff text_reads]
  constructor
  · rintro ⟨htable, hlevel, hformat, -⟩
    exact ⟨htable, hlevel, hformat⟩
  · rintro ⟨htable, hlevel, hformat⟩
    exact ⟨htable, hlevel, hformat, trivial⟩

theorem namesConfig_reads : (namesConfig true).Reads NamesConfig.Told := by
  intro tree c
  refine (structured_read_eq_ok_iff (fun _ => rfl) (fun _ => rfl)).trans ?_
  rw [Members.settled_cons_iff uint64_reads]
  constructor
  · rintro ⟨htable, hcapacity, -⟩
    exact ⟨htable, hcapacity⟩
  · rintro ⟨htable, hcapacity⟩
    exact ⟨htable, hcapacity, trivial⟩

theorem config_reads : (config true).Reads Config.Told := by
  intro tree c
  refine (structured_read_eq_ok_iff (fun _ => rfl) (fun _ => rfl)).trans ?_
  rw [Members.settled_cons_iff loggingConfig_reads, Members.settled_cons_iff namesConfig_reads]
  constructor
  · rintro ⟨htable, hlogging, hnames, -⟩
    exact ⟨htable, hlogging, hnames⟩
  · rintro ⟨htable, hlogging, hnames⟩
    exact ⟨htable, hlogging, hnames, trivial⟩

end JsonCodec

namespace Config

structure Valid (c : Config) : Prop where
  level : c.logging.level ∈ ["error", "warn", "info", "debug", "trace"]
  format : c.logging.format ∈ ["compact", "pretty", "json"]
  capacity : 0 < c.names.initialCapacity.toNat

theorem default_valid : Valid {} := ⟨by decide, by decide, by decide⟩

/-- What is wrong with a configuration; a fault counts only if those above it are not there. -/
inductive HasFault (c : Config) : ConfigFault → Prop where
  | level (h : c.logging.level ∉ ["error", "warn", "info", "debug", "trace"]) :
    HasFault c (.level c.logging.level)
  | format (hlevel : c.logging.level ∈ ["error", "warn", "info", "debug", "trace"])
    (h : c.logging.format ∉ ["compact", "pretty", "json"]) : HasFault c (.format c.logging.format)
  | capacity (hlevel : c.logging.level ∈ ["error", "warn", "info", "debug", "trace"])
    (hformat : c.logging.format ∈ ["compact", "pretty", "json"])
    (h : c.names.initialCapacity.toNat = 0) : HasFault c .capacity

variable {c : Config}

theorem validate_cases (c : Config) :
    c.Valid ∧ c.validate = .ok () ∨ ∃ fault, c.HasFault fault ∧ c.validate = .error fault := by
  unfold validate
  by_cases hlevel : c.logging.level ∈ levels
  · rw [if_neg (not_not_intro hlevel)]
    by_cases hformat : c.logging.format ∈ formats
    · rw [if_neg (not_not_intro hformat)]
      by_cases hcapacity : c.names.initialCapacity = 0
      · rw [if_pos hcapacity]
        exact Or.inr ⟨_, .capacity hlevel hformat (by rw [hcapacity]; rfl), rfl⟩
      · rw [if_neg hcapacity]
        have hpos : 0 < c.names.initialCapacity.toNat := by
          apply Nat.pos_of_ne_zero
          intro hzero
          exact hcapacity (UInt64.toNat_inj.1 hzero)
        exact Or.inl ⟨⟨hlevel, hformat, hpos⟩, rfl⟩
    · rw [if_pos hformat]
      exact Or.inr ⟨_, .format hlevel hformat, rfl⟩
  · rw [if_pos hlevel]
    exact Or.inr ⟨_, .level hlevel, rfl⟩

theorem HasFault.not_valid {fault : ConfigFault} (h : c.HasFault fault) : ¬ c.Valid := by
  intro hvalid
  cases h with
  | level h => exact h hvalid.level
  | format _ h => exact h hvalid.format
  | capacity _ _ h => exact absurd h (Nat.ne_of_gt hvalid.capacity)

theorem HasFault.unique {fault other : ConfigFault} (h : c.HasFault fault)
    (h' : c.HasFault other) : fault = other := by
  cases h <;> cases h' <;> first | rfl | contradiction

theorem validate_eq_ok_iff : c.validate = .ok () ↔ c.Valid := by
  rcases validate_cases c with ⟨hvalid, h⟩ | ⟨fault, hfault, h⟩
  · exact iff_of_true h hvalid
  · rw [h]
    exact iff_of_false nofun hfault.not_valid

theorem validate_eq_error_iff {fault : ConfigFault} :
    c.validate = .error fault ↔ c.HasFault fault := by
  rcases validate_cases c with ⟨hvalid, h⟩ | ⟨other, hother, h⟩
  · rw [h]
    exact iff_of_false nofun fun hfault => hfault.not_valid hvalid
  · rw [h, Except.error.injEq]
    constructor
    · rintro rfl
      exact hother
    · exact hother.unique

/-! ## From a file and from a folder -/

theorem textOf_eq_ok_iff {content : List UInt8} {text : String} :
    textOf content = .ok text ↔ content = Utf8.encode text.toList := by
  rw [textOf, ← Utf8.decode_eq_ok_iff]
  cases Utf8.decode content with
  | error fault => exact iff_of_false nofun nofun
  | ok cs =>
    rw [Except.ok.injEq, Except.ok.injEq]
    constructor
    · rintro rfl
      exact String.toList_ofList.symm
    · rintro rfl
      exact String.ofList_toList

theorem ofText_eq_some_iff {text : String} :
    ofText text = some c ↔ ∃ tree, Toml.parse text = some tree ∧ c.Told tree := by
  rw [ofText, Option.bind_eq_some_iff]
  apply exists_congr
  intro tree
  apply and_congr_right'
  rw [← JsonCodec.config_reads tree c]
  cases (JsonCodec.config true).read tree <;> simp [Except.toOption]

def Tells (content : Except ReadFault (List UInt8)) (c : Config) : Prop :=
  ∃ text tree, content = .ok (Utf8.encode text.toList) ∧ Toml.parse text = some tree ∧ c.Told tree

theorem tells_iff {content : Except ReadFault (List UInt8)} :
    Tells content c ↔ ∃ text, content.bind textOf = .ok text ∧ ofText text = some c := by
  constructor
  · rintro ⟨text, tree, rfl, hparse, htold⟩
    exact ⟨text, textOf_eq_ok_iff.2 rfl, ofText_eq_some_iff.2 ⟨tree, hparse, htold⟩⟩
  · rintro ⟨text, htext, hsome⟩
    obtain ⟨tree, hparse, htold⟩ := ofText_eq_some_iff.1 hsome
    cases content with
    | error fault => cases htext
    | ok bytes => exact ⟨text, tree, congrArg Except.ok (textOf_eq_ok_iff.1 htext), hparse, htold⟩

/-- What comes of the file at `path`, from what reading it gives: a fault of the system, bytes that
are no text, a text that tells no configuration, or what it tells if that is valid. -/
inductive Loads (path : Path) (content : Except ReadFault (List UInt8)) :
    Except ConfigError Config → Prop where
  | unread {fault : ReadFault} (h : content = .error fault) :
    Loads path content (.error (.unreadable path fault))
  | noText {bytes : List UInt8} (h : content = .ok bytes)
    (hnot : ¬ ∃ text : String, bytes = Utf8.encode text.toList) :
    Loads path content (.error (.unreadable path .notText))
  | noConfig {text : String} (h : content = .ok (Utf8.encode text.toList))
    (hnot : ∀ tree c, Toml.parse text = some tree → ¬ Told tree c) :
    Loads path content (.error (.unparsable path))
  | faulty {c : Config} {fault : ConfigFault} (h : Tells content c) (hfault : c.HasFault fault) :
    Loads path content (.error (.invalid fault))
  | loaded {c : Config} (h : Tells content c) (hvalid : c.Valid) : Loads path content (.ok c)

theorem textOf_eq_error {bytes : List UInt8}
    (h : ¬ ∃ text : String, bytes = Utf8.encode text.toList) : textOf bytes = .error .notText := by
  have hdecode : ¬ ∃ cs, Utf8.decode bytes = .ok cs := by
    rintro ⟨cs, hcs⟩
    exact h ⟨String.ofList cs, by rw [String.toList_ofList, Utf8.decode_eq_ok_iff.1 hcs]⟩
  rw [textOf]
  cases hbytes : Utf8.decode bytes with
  | ok cs => exact absurd ⟨cs, hbytes⟩ hdecode
  | error fault => rfl

variable {path : Path} {content : Except ReadFault (List UInt8)} {result : Except ConfigError Config}

theorem loads_ofContent (path : Path) (content : Except ReadFault (List UInt8)) :
    Loads path content (ofContent path content) := by
  cases content with
  | error fault => exact .unread rfl
  | ok bytes =>
    by_cases hbytes : ∃ text : String, bytes = Utf8.encode text.toList
    · obtain ⟨text, rfl⟩ := hbytes
      have htext : textOf (Utf8.encode text.toList) = .ok text := textOf_eq_ok_iff.2 rfl
      simp only [ofContent, Except.bind, htext]
      cases hread : ofText text with
      | none =>
        refine .noConfig rfl ?_
        intro tree c hparse htold
        cases hread.symm.trans (ofText_eq_some_iff.2 ⟨tree, hparse, htold⟩)
      | some c =>
        have htells : Tells (.ok (Utf8.encode text.toList)) c := tells_iff.2 ⟨text, htext, hread⟩
        rcases validate_cases c with ⟨hvalid, h⟩ | ⟨fault, hfault, h⟩
        · simp only [h]
          exact .loaded htells hvalid
        · simp only [h]
          exact .faulty htells hfault
    · simp only [ofContent, Except.bind, textOf_eq_error hbytes]
      exact .noText rfl hbytes

theorem Loads.ofContent_eq (h : Loads path content result) : ofContent path content = result := by
  cases h with
  | unread h =>
    rw [h]
    rfl
  | noText h hnot => simp only [h, ofContent, Except.bind, textOf_eq_error hnot]
  | @noConfig text h hnot =>
    have htext : textOf (Utf8.encode text.toList) = .ok text := textOf_eq_ok_iff.2 rfl
    have hread : ofText text = none := by
      rw [← Option.not_isSome_iff_eq_none, Option.isSome_iff_exists]
      rintro ⟨c, hc⟩
      obtain ⟨tree, hparse, htold⟩ := ofText_eq_some_iff.1 hc
      exact hnot tree c hparse htold
    simp only [h, ofContent, Except.bind, htext, hread]
  | faulty h hfault =>
    obtain ⟨text, htext, hread⟩ := tells_iff.1 h
    simp only [ofContent, htext, hread, validate_eq_error_iff.2 hfault]
  | loaded h hvalid =>
    obtain ⟨text, htext, hread⟩ := tells_iff.1 h
    simp only [ofContent, htext, hread, validate_eq_ok_iff.2 hvalid]

theorem ofContent_eq_iff : ofContent path content = result ↔ Loads path content result := by
  constructor
  · rintro rfl
    exact loads_ofContent path content
  · exact Loads.ofContent_eq

theorem fromFile_eq_ok_iff {read : Reader} :
    fromFile read path = .ok c ↔ Tells (read path) c ∧ c.Valid := by
  rw [fromFile, ofContent_eq_iff]
  constructor
  · intro h
    cases h with
    | loaded h hvalid => exact ⟨h, hvalid⟩
  · rintro ⟨h, hvalid⟩
    exact .loaded h hvalid

def pathIn (folder : Path) : Path :=
  ⟨folder.bytes ++ (if folder.bytes = [] ∨ folder.bytes.getLast? = some 0x2F then [] else [0x2F])
    ++ [0x2E, 0x68, 0x69, 0x65, 0x64, 0x62, 0x2E, 0x74, 0x6F, 0x6D, 0x6C]⟩

theorem child_fileName (folder : Path) : folder.child fileName = pathIn folder := by
  have hname : Utf8.encode fileName.toList =
      [0x2E, 0x68, 0x69, 0x65, 0x64, 0x62, 0x2E, 0x74, 0x6F, 0x6D, 0x6C] := by
    decide
  rw [Path.child, hname, pathIn, Path.separator]
  split
  · rw [List.append_nil]
  · rw [List.append_assoc]
    rfl

structure Provides (read : Reader) (folder : Path) (c : Config) : Prop where
  loaded : ∀ d, fromFile read (pathIn folder) = .ok d → c = d
  defaults : (∀ d, fromFile read (pathIn folder) ≠ .ok d) → c = ⟨⟨"info", "pretty"⟩, ⟨256⟩⟩
  valid : c.Valid

theorem provides_fromFolder (read : Reader) (folder : Path) :
    Provides read folder (fromFolder read folder).value := by
  have hvalue : (fromFolder read folder).value =
      (fromFile read (pathIn folder)).toOption.getD ⟨⟨"info", "pretty"⟩, ⟨256⟩⟩ := by
    rw [fromFolder, child_fileName]
    cases fromFile read (pathIn folder) <;> rfl
  rw [hvalue]
  cases h : fromFile read (pathIn folder) with
  | ok c =>
    constructor
    · intro d hd
      exact Except.ok.inj (h.symm.trans hd)
    · intro hnone
      exact absurd h (hnone c)
    · exact (fromFile_eq_ok_iff.1 h).2
  | error e =>
    constructor
    · intro d hd
      cases h.symm.trans hd
    · intro _
      rfl
    · exact default_valid

end Config

/-- What a tree tells, what is valid and what is reported otherwise, what comes of a file, whatever
reading it gives, and what a folder has. -/
theorem configurations_loaded :
    (∀ tree c, (JsonCodec.config true).read tree = .ok c ↔ c.Told tree) ∧
    (∀ c : Config, (c.validate = .ok () ↔ c.Valid) ∧
      ∀ fault, c.validate = .error fault ↔ c.HasFault fault) ∧
    (∀ text, (ConfigFault.level text).message = "Invalid log level: " ++ text ∧
      (ConfigFault.format text).message = "Invalid log format: " ++ text) ∧
    ConfigFault.capacity.message = "Name cache capacity must be greater than 0" ∧
    (∀ (read : Reader) (path : Path) (result : Except ConfigError Config),
      Config.fromFile read path = result ↔ Config.Loads path (read path) result) ∧
    (∀ (read : Reader) (path : Path) (c : Config),
      Config.fromFile read path = .ok c ↔ Config.Tells (read path) c ∧ c.Valid) ∧
    ∀ (read : Reader) (folder : Path),
      Config.Provides read folder (Config.fromFolder read folder).value := by
  refine ⟨JsonCodec.config_reads, ?_, ?_, rfl, ?_, ?_, Config.provides_fromFolder⟩
  · intro c
    exact ⟨Config.validate_eq_ok_iff, fun fault => Config.validate_eq_error_iff⟩
  · intro text
    exact ⟨rfl, rfl⟩
  · intro read path result
    exact Config.ofContent_eq_iff
  · intro read path c
    exact Config.fromFile_eq_ok_iff

/-- A part of the settings is told by a file, which is reached from the root; another file must not
be read, and is looked for from the working folder. -/
theorem configurations_loaded_partial :
    let name (s : String) := Utf8.encode s.toList
    let content := name "[logging]\nlevel = \"debug\"\n"
    let files : Files := ⟨[name "home", name "me"],
      [([name "srv"], .folder), ([name "srv", name "index"], .folder),
        ([name "srv", name "index", name ".hiedb.toml"], .file content),
        ([name "home", name ".hiedb.toml"], .unreadable .denied)]⟩
    (Config.fromFolder files.read (.ofText "/srv/index")).value =
        ⟨⟨"debug", "pretty"⟩, ⟨256⟩⟩ ∧
      Config.fromFile files.read (.ofText "../.hiedb.toml") =
        .error (.unreadable (.ofText "../.hiedb.toml") .denied) ∧
      (Config.fromFolder files.read (.ofText "..")).value = ⟨⟨"info", "pretty"⟩, ⟨256⟩⟩ := by
  intro name content files
  obtain ⟨-, -, -, -, hloads, hok, hfolder⟩ := configurations_loaded
  have hfile : Config.fromFile files.read (Config.pathIn (.ofText "/srv/index")) =
      .ok ⟨⟨"debug", "pretty"⟩, ⟨256⟩⟩ := by
    apply (hok _ _ _).2
    have htext : Config.ofText "[logging]\nlevel = \"debug\"\n" =
        some ⟨⟨"debug", "pretty"⟩, ⟨256⟩⟩ := by
      decide +kernel
    have hread : files.read (Config.pathIn (.ofText "/srv/index")) = .ok content := by rfl
    rw [hread]
    exact ⟨Config.tells_iff.2 ⟨_, Config.textOf_eq_ok_iff.2 rfl, htext⟩, by decide, by decide,
      by decide⟩
  have hdenied : Config.fromFile files.read (.ofText "../.hiedb.toml") =
      .error (.unreadable (.ofText "../.hiedb.toml") .denied) := by
    apply (hloads _ _ _).2
    exact .unread (by rfl)
  refine ⟨(hfolder _ _).loaded _ hfile, hdenied, (hfolder _ _).defaults ?_⟩
  intro c hc
  have hpath : Config.pathIn (.ofText "..") = .ofText "../.hiedb.toml" := by decide
  rw [hpath] at hc
  cases hdenied.symm.trans hc

end SymbolIndex
