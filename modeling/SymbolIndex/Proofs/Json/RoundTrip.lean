import SymbolIndex.Config.Load
import SymbolIndex.Proofs.Fingerprint
import SymbolIndex.Proofs.Json.Structured
import SymbolIndex.Proofs.Store.Shape
import SymbolIndex.Proofs.Symbol.RoundTrip

/-! # Values and the trees that are read as them

Every value that is exchanged is read from the tree that is written for it. Identifiers with parts,
records and results have no defaults but nulls, so their arrays have to be complete; configurations
have the defaults of their settings.
-/
namespace SymbolIndex

namespace Member

variable {α : Type} {key : String} {c : JsonCodec α}

theorem Faithful.required {a : α} (h : c.Faithful .null a) :
    (Member.required key c).Faithful .null a := by
  refine ⟨?_, h.read⟩
  rintro (hnull | hmem)
  · exact absurd hnull h.ne_null
  · cases hmem

theorem Faithful.optional {o : Option α} (h : ∀ a ∈ o, c.Faithful .null a) :
    (Member.optional key c).Faithful .null o := by
  cases o with
  | none =>
    refine ⟨fun _ => rfl, ?_⟩
    intro j hj
    rw [hj.eq_of_ne_object nofun]
    rfl
  | some a =>
    have hc := h a rfl
    constructor
    · rintro (hnull | hmem)
      · exact absurd hnull hc.ne_null
      · cases hmem
    · intro j hj
      have hread : c.read j = .ok a := hc.read j hj
      have hne : j ≠ .null := hj.ne_null hc.ne_null
      cases j with
      | null => exact absurd rfl hne
      | _ =>
        simp only [Member.optional, JsonCodec.optional, hread]
        rfl

/-- What may be left out is what the default is written as, and hence the default itself. -/
theorem Faithful.withDefault {defaults : Json} {a value : α}
    (h : ∀ b, c.Faithful (defaults.member key) b)
    (hdefault : ∀ j, (key, j) ∈ defaults.members → j = c.write value) :
    (Member.withDefault key c value).Faithful defaults a := by
  refine ⟨?_, (h a).read⟩
  rintro (hnull | hmem)
  · exact absurd hnull (h a).ne_null
  · have hwrite : c.write a = c.write value := hdefault _ hmem
    have hread := (h a).read_write
    rw [hwrite, (h value).read_write] at hread
    exact congrArg some (Except.ok.inj hread)

end Member

namespace JsonCodec

variable {α : Type} {αs : List Type} {a : α} {ms : Members αs} {toValues : α → Values αs}
  {ofValues : Values αs → α} {defaults : Json}

theorem faithful_of_agrees {c : JsonCodec α} (h : ∃ written, c.Agrees defaults a written) :
    c.Faithful defaults a := by
  obtain ⟨written, hwritten⟩ := h
  constructor
  · rw [hwritten.writes]
    exact nofun
  · rw [hwritten.writes]
    exact hwritten.forms

theorem exact_agrees (hms : ms.Faithful .null (toValues a)) (hkeys : ms.keys.Nodup)
    (hof : ofValues (toValues a) = a) :
    ∃ written, (structured ms toValues ofValues .exact).Agrees .null a written :=
  ⟨_, structured_agrees hms hkeys hof (by simp [ArrayRule.exact]) rfl⟩

theorem lenient_agrees (hms : ms.Faithful defaults (toValues a)) (hkeys : ms.keys.Nodup)
    (hof : ofValues (toValues a) = a) (hdefaults : defaults ≠ .null) :
    ∃ written, (structured ms toValues ofValues ⟨true, false⟩).Agrees defaults a written :=
  ⟨_, structured_agrees hms hkeys hof (by simp [hdefaults]) rfl⟩

/-! ## Identifiers -/

theorem nameSpace_faithful (space : NameSpace) : nameSpace.Faithful defaults space :=
  choice_faithful (by cases space <;> rfl)

theorem moduleName_faithful (name : ModuleName) : moduleName.Faithful defaults name :=
  wrapped_faithful rfl

theorem unitId_faithful (unit : UnitId) : unitId.Faithful defaults unit :=
  wrapped_faithful rfl

theorem fingerprint_faithful (f : Fingerprint) : fingerprint.Faithful defaults f :=
  decoded_faithful f.decode_encode

theorem path_faithful {p : Path} (h : p.IsText) : path.Faithful defaults p := by
  have hp : (wrapped Path.display Path.ofText).Faithful defaults p :=
    wrapped_faithful (Path.ofText_display h)
  exact ⟨hp.ne_null, hp.read⟩

theorem read_write_symbol {s : Symbol} (h : ∀ text ∈ s.texts, text ≠ "" ∧ ':' ∉ text.toList) :
    symbol.read (symbol.write s) = .ok s := by
  rw [Symbol.read_write_json, (Symbol.parse_key_eq_ok_iff s).2 h]
  rfl

theorem read_write_target {t : Target} (h : ∀ p, t = .file p → p.IsText) :
    target.read (target.write t) = .ok t := by
  cases t with
  | file p =>
    have hpath : path.Faithful .null p := path_faithful (h p rfl)
    simp only [target, hpath.read_write]
    rfl
  | module name unit =>
    cases unit <;> rfl

theorem occName_agrees (occ : OccName) : ∃ written, occName.Agrees .null occ written :=
  exact_agrees
    (.cons (.required (nameSpace_faithful _)) <| .cons (.required (text_faithful _)) .nil)
    (by decide) rfl

theorem occName_faithful (occ : OccName) : occName.Faithful .null occ :=
  faithful_of_agrees (occName_agrees occ)

theorem module_agrees (m : Module) : ∃ written, module.Agrees .null m written :=
  exact_agrees
    (.cons (.required (moduleName_faithful _)) <| .cons (.required (unitId_faithful _)) .nil)
    (by decide) rfl

/-! ## Records -/

theorem moduleInfo_agrees {r : ModuleInfo} (h : ∀ p ∈ r.srcFile, p.IsText) :
    ∃ written, moduleInfo.Agrees .null r written :=
  exact_agrees
    (.cons (.required (moduleName_faithful _)) <|
      .cons (.required (unitId_faithful _)) <|
      .cons (.required (flag_faithful _)) <|
      .cons (.optional fun p hp => path_faithful (h p hp)) <|
      .cons (.required (flag_faithful _)) <|
      .cons (.required (fingerprint_faithful _)) .nil)
    (by decide) rfl

theorem moduleInfo_faithful {r : ModuleInfo} (h : ∀ p ∈ r.srcFile, p.IsText) :
    moduleInfo.Faithful .null r :=
  faithful_of_agrees (moduleInfo_agrees h)

theorem spanMembers_faithful {rest : Members αs} {as : Values αs} (h : rest.Faithful .null as)
    (startLine startCol endLine endCol : Int32) :
    (spanMembers rest).Faithful .null (startLine, startCol, endLine, endCol, as) :=
  .cons (.required (int32_faithful _)) <|
    .cons (.required (int32_faithful _)) <|
    .cons (.required (int32_faithful _)) <|
    .cons (.required (int32_faithful _)) h

theorem record_agrees (s : Shape) {r : s.Record} (h : ∀ p ∈ s.paths r, p.IsText) :
    ∃ written, (record s).Agrees .null r written := by
  cases s with
  | moduleInfo =>
    exact moduleInfo_agrees (by simpa [Shape.paths] using h)
  | moduleRow =>
    have hpaths : r.hieFile.IsText ∧ ∀ p ∈ r.info.srcFile, p.IsText := by
      simpa [Shape.paths] using h
    exact exact_agrees
      (.cons (.required (path_faithful hpaths.1)) <|
        .cons (.required (moduleInfo_faithful hpaths.2)) .nil)
      (by decide) rfl
  | refRow =>
    have hpath : r.src.IsText := by simpa [Shape.paths] using h
    exact exact_agrees
      (.cons (.required (path_faithful hpath)) <|
        .cons (.required (occName_faithful _)) <|
        .cons (.required (moduleName_faithful _)) <|
        .cons (.required (unitId_faithful _)) <|
        spanMembers_faithful .nil _ _ _ _)
      (by decide) rfl
  | declRow =>
    have hpath : r.src.IsText := by simpa [Shape.paths] using h
    exact exact_agrees
      (.cons (.required (path_faithful hpath)) <|
        .cons (.required (occName_faithful _)) <|
        spanMembers_faithful (.cons (.required (flag_faithful _)) .nil) _ _ _ _)
      (by decide) rfl
  | defRow =>
    have hpath : r.src.IsText := by simpa [Shape.paths] using h
    exact exact_agrees
      (.cons (.required (path_faithful hpath)) <|
        .cons (.required (occName_faithful _)) <|
        spanMembers_faithful .nil _ _ _ _)
      (by decide) rfl
  | typeName =>
    exact exact_agrees
      (.cons (.required (occName_faithful _)) <|
        .cons (.required (moduleName_faithful _)) <|
        .cons (.required (unitId_faithful _)) .nil)
      (by decide) rfl
  | typeRef =>
    have hpath : r.hieFile.IsText := by simpa [Shape.paths] using h
    exact exact_agrees
      (.cons (.required (int64_faithful _)) <|
        .cons (.required (path_faithful hpath)) <|
        .cons (.required (int32_faithful _)) <|
        spanMembers_faithful .nil _ _ _ _)
      (by decide) rfl
  | exportRow =>
    have hpath : r.hieFile.IsText := by simpa [Shape.paths] using h
    exact exact_agrees
      (.cons (.required (path_faithful hpath)) <|
        .cons (.required (occName_faithful _)) <|
        .cons (.required (moduleName_faithful _)) <|
        .cons (.required (unitId_faithful _)) <|
        .cons (.optional fun occ _ => occName_faithful occ) <|
        .cons (.optional fun name _ => moduleName_faithful name) <|
        .cons (.optional fun unit _ => unitId_faithful unit) <|
        .cons (.required (flag_faithful _)) .nil)
      (by decide) rfl

def result : (t : ResultShape) → JsonCodec t.Record
  | .plain s => record s
  | .withInfo entity => withModuleInfo (result entity)

theorem result_agrees (t : ResultShape) {r : t.Record} (h : ∀ p ∈ t.paths r, p.IsText) :
    ∃ written, (result t).Agrees .null r written := by
  induction t with
  | plain s => exact record_agrees s h
  | withInfo entity ih =>
    have hpaths : (∀ p ∈ entity.paths r.entity, p.IsText) ∧
        ∀ p ∈ r.info.srcFile, p.IsText := by
      simpa [ResultShape.paths, Shape.paths, or_imp, forall_and] using h
    exact exact_agrees
      (.cons (.required (faithful_of_agrees (ih hpaths.1))) <|
        .cons (.required (moduleInfo_faithful hpaths.2)) .nil)
      (show ["entity", "info"].Nodup by decide) rfl

/-! ## Configurations -/

theorem loggingConfig_agrees (c : LoggingConfig) :
    ∃ written, (loggingConfig false).Agrees ((loggingConfig false).write {}) c written :=
  lenient_agrees
    (.cons (.withDefault text_faithful
        (by simp [loggingConfig, Members.write, Member.withDefault])) <|
      .cons (.withDefault text_faithful
        (by simp [loggingConfig, Members.write, Member.withDefault])) .nil)
    (by decide) rfl nofun

theorem loggingConfig_faithful (c : LoggingConfig) :
    (loggingConfig false).Faithful ((loggingConfig false).write {}) c :=
  faithful_of_agrees (loggingConfig_agrees c)

theorem namesConfig_agrees (c : NamesConfig) :
    ∃ written, (namesConfig false).Agrees ((namesConfig false).write {}) c written :=
  lenient_agrees
    (.cons (.withDefault uint64_faithful
        (by simp [namesConfig, Members.write, Member.withDefault])) .nil)
    (by decide) rfl nofun

theorem namesConfig_faithful (c : NamesConfig) :
    (namesConfig false).Faithful ((namesConfig false).write {}) c :=
  faithful_of_agrees (namesConfig_agrees c)

theorem config_agrees (c : Config) :
    ∃ written, (config false).Agrees ((config false).write {}) c written :=
  lenient_agrees
    (.cons (.withDefault loggingConfig_faithful
        (by simp [config, Members.write, Member.withDefault])) <|
      .cons (.withDefault namesConfig_faithful
        (by simp [config, Members.write, Member.withDefault])) .nil)
    (by decide) rfl nofun

theorem config_faithful (c : Config) :
    (config false).Faithful ((config false).write {}) c :=
  faithful_of_agrees (config_agrees c)

/-! ## Values that have a tree -/

theorem takes_path_iff {p : Path} : path.takes p = true ↔ p.IsText := by
  rw [Path.isText_iff]
  change (Utf8.decode p.bytes).isOk = true ↔ _
  cases Utf8.decode p.bytes <;> simp [Except.isOk, Except.toBool]

theorem takes_optional_path_iff {o : Option Path} :
    path.optional.takes o = true ↔ ∀ p ∈ o, p.IsText := by
  cases o with
  | none => simp [optional]
  | some p => simp [optional, takes_path_iff]

theorem takes_optional {c : JsonCodec α} (h : ∀ a, c.takes a = true) (o : Option α) :
    c.optional.takes o = true := by
  cases o with
  | none => rfl
  | some a => exact h a

theorem takes_moduleInfo_iff {r : ModuleInfo} :
    moduleInfo.takes r = true ↔ ∀ p ∈ r.srcFile, p.IsText := by
  change (path.optional.takes r.srcFile && true) = true ↔ _
  rw [Bool.and_true, takes_optional_path_iff]

-- All members but the paths and the optional ones take every value, by the definition of `takes`.
theorem takes_record_iff (s : Shape) {r : s.Record} :
    (record s).takes r = true ↔ ∀ p ∈ s.paths r, p.IsText := by
  cases s with
  | moduleInfo =>
    change moduleInfo.takes r = true ↔ _
    simp [Shape.paths, takes_moduleInfo_iff]
  | moduleRow =>
    change (path.takes r.hieFile && (moduleInfo.takes r.info && true)) = true ↔ _
    simp [Shape.paths, takes_path_iff, takes_moduleInfo_iff]
  | refRow =>
    change (path.takes r.src && true) = true ↔ _
    simp [Shape.paths, takes_path_iff]
  | declRow =>
    change (path.takes r.src && true) = true ↔ _
    simp [Shape.paths, takes_path_iff]
  | defRow =>
    change (path.takes r.src && true) = true ↔ _
    simp [Shape.paths, takes_path_iff]
  | typeName => exact iff_of_true rfl nofun
  | typeRef =>
    change (path.takes r.hieFile && true) = true ↔ _
    simp [Shape.paths, takes_path_iff]
  | exportRow =>
    have hparent : occName.optional.takes r.parent = true := takes_optional (fun _ => rfl) _
    have hmodule : moduleName.optional.takes r.parentModule = true :=
      takes_optional (fun _ => rfl) _
    have hunit : unitId.optional.takes r.parentUnit = true := takes_optional (fun _ => rfl) _
    change (path.takes r.hieFile && (occName.optional.takes r.parent &&
      (moduleName.optional.takes r.parentModule &&
        (unitId.optional.takes r.parentUnit && true)))) = true ↔ _
    simp [Shape.paths, takes_path_iff, hparent, hmodule, hunit]

theorem takes_result_iff (t : ResultShape) {r : t.Record} :
    (result t).takes r = true ↔ ∀ p ∈ t.paths r, p.IsText := by
  induction t with
  | plain s => exact takes_record_iff s
  | withInfo entity ih =>
    change ((result entity).takes r.entity && (moduleInfo.takes r.info && true)) = true ↔ _
    simp [ResultShape.paths, Shape.paths, ih, takes_moduleInfo_iff, or_imp, forall_and]

theorem takes_target_iff {t : Target} :
    target.takes t = true ↔ ∀ p, t = .file p → p.IsText := by
  cases t with
  | file p => simp [target, takes_path_iff]
  | module name unit => simp [target]

end JsonCodec

/-- The types whose values are written as objects with the names of their parts for keys. -/
inductive Composite where
  | occName
  | module
  | result (t : ResultShape)
  | loggingConfig
  | namesConfig
  | config
  deriving DecidableEq, Repr

namespace Composite

@[reducible] def Value : Composite → Type
  | occName => OccName
  | module => Module
  | result t => t.Record
  | loggingConfig => LoggingConfig
  | namesConfig => NamesConfig
  | config => Config

def codec : (t : Composite) → JsonCodec t.Value
  | occName => .occName
  | module => .module
  | result t => .result t
  | loggingConfig => .loggingConfig false
  | namesConfig => .namesConfig false
  | config => .config false

/-- A tree has only text for a path. -/
def Valid : (t : Composite) → t.Value → Prop
  | result t, r => ∀ p ∈ t.paths r, p.IsText
  | _, _ => True

def default? : (t : Composite) → Option t.Value
  | loggingConfig => some {}
  | namesConfig => some {}
  | config => some {}
  | _ => none

def defaults (t : Composite) : Json :=
  match t.default? with
  | some value => t.codec.write value
  | none => .null

theorem agrees (t : Composite) {x : t.Value} (h : t.Valid x) :
    ∃ written, t.codec.Agrees t.defaults x written := by
  cases t with
  | occName => exact JsonCodec.occName_agrees x
  | module => exact JsonCodec.module_agrees x
  | result t => exact JsonCodec.result_agrees t h
  | loggingConfig => exact JsonCodec.loggingConfig_agrees x
  | namesConfig => exact JsonCodec.namesConfig_agrees x
  | config => exact JsonCodec.config_agrees x

/-- Exactly the values whose paths are text have a tree. -/
theorem takes_iff (t : Composite) {x : t.Value} : t.codec.takes x = true ↔ t.Valid x := by
  cases t with
  | result t => exact JsonCodec.takes_result_iff t
  | _ => exact iff_of_true rfl trivial

/-- Whatever is written is read back. -/
theorem read_of_write? {t : Composite} {x : t.Value} {j : Json} (h : t.codec.write? x = some j) :
    t.codec.read j = .ok x := by
  rw [JsonCodec.write?] at h
  split at h
  · rename_i htakes
    cases h
    exact (JsonCodec.faithful_of_agrees (t.agrees (t.takes_iff.1 htakes))).read_write
  · cases h

theorem completes {t : Composite} {value : t.Value} (h : t.default? = some value) (x : t.Value) :
    t.codec.Completes value x := by
  cases t with
  | occName => cases h
  | module => cases h
  | result t => cases h
  | loggingConfig =>
    cases h
    exact JsonCodec.structured_completes rfl (by decide) (fun _ => rfl)
      JsonCodec.loggingConfig_faithful
  | namesConfig =>
    cases h
    exact JsonCodec.structured_completes rfl (by decide) (fun _ => rfl)
      JsonCodec.namesConfig_faithful
  | config =>
    cases h
    exact JsonCodec.structured_completes rfl (by decide) (fun _ => rfl) JsonCodec.config_faithful

end Composite

inductive Exchanged where
  | nameSpace
  | moduleName
  | unitId
  | fingerprint
  | symbol
  | target
  | composite (t : Composite)
  deriving DecidableEq, Repr

namespace Exchanged

@[reducible] def Value : Exchanged → Type
  | nameSpace => NameSpace
  | moduleName => ModuleName
  | unitId => UnitId
  | fingerprint => Fingerprint
  | symbol => Symbol
  | target => Target
  | composite t => t.Value

def codec : (t : Exchanged) → JsonCodec t.Value
  | nameSpace => .nameSpace
  | moduleName => .moduleName
  | unitId => .unitId
  | fingerprint => .fingerprint
  | symbol => .symbol
  | target => .target
  | composite t => t.codec

def Valid : (t : Exchanged) → t.Value → Prop
  | symbol, s => ∀ text ∈ s.texts, text ≠ "" ∧ ':' ∉ text.toList
  | target, t => ∀ p, t = .file p → p.IsText
  | composite t, x => t.Valid x
  | _, _ => True

theorem read_write (t : Exchanged) {x : t.Value} (h : t.Valid x) :
    t.codec.read (t.codec.write x) = .ok x := by
  cases t with
  | nameSpace =>
    have hx : JsonCodec.nameSpace.Faithful .null x := JsonCodec.nameSpace_faithful x
    exact hx.read_write
  | moduleName =>
    have hx : JsonCodec.moduleName.Faithful .null x := JsonCodec.moduleName_faithful x
    exact hx.read_write
  | unitId =>
    have hx : JsonCodec.unitId.Faithful .null x := JsonCodec.unitId_faithful x
    exact hx.read_write
  | fingerprint =>
    have hx : JsonCodec.fingerprint.Faithful .null x := JsonCodec.fingerprint_faithful x
    exact hx.read_write
  | symbol => exact JsonCodec.read_write_symbol h
  | target => exact JsonCodec.read_write_target h
  | composite t =>
    have hx : t.codec.Faithful t.defaults x := JsonCodec.faithful_of_agrees (t.agrees h)
    exact hx.read_write

end Exchanged

/-- Every value is read from its own tree, a composite one from every form of that tree and from no
array of another length, and a configuration from a part of its tree. -/
theorem trees_read_back :
    (∀ (t : Exchanged) (x : t.Value), t.Valid x → t.codec.read (t.codec.write x) = .ok x) ∧
    (∀ (t : Composite) (x : t.Value), t.Valid x →
      ∃ written, t.codec.Agrees t.defaults x written) ∧
    ∀ (t : Composite) (value x : t.Value), t.default? = some value →
      t.codec.Completes value x := by
  refine ⟨?_, ?_, ?_⟩
  · intro t x h
    exact t.read_write h
  · intro t x h
    exact t.agrees h
  · intro t value x h
    exact Composite.completes h x

/-- The keys are out of order, one is unknown, and a path that is a null is left out; the level of
the second object is the default. -/
theorem trees_read_back_cases :
    let foldr := Symbol.ofParts .value "foldr" "Data.List" "base"
    let main : ModuleInfo := ⟨⟨"Main"⟩, ⟨"app"⟩, false, none, true, ⟨0xAB⟩⟩
    JsonCodec.symbol.read (.string "v:foldr:Data.List:base") = .ok foldr ∧
      JsonCodec.moduleInfo.read (.object [("unit", .string "app"), ("name", .string "Main"),
        ("is_boot", .bool false), ("is_real", .bool true),
        ("hash", .string "000000000000000000000000000000ab"), ("kind", .integer 3)]) = .ok main ∧
      (∃ e, JsonCodec.moduleInfo.read (.array [.string "Main", .string "app"]) = .error e) ∧
      (JsonCodec.loggingConfig false).read (.object [("format", .string "json")]) =
        .ok ⟨"info", "json"⟩ := by
  intro foldr main
  refine ⟨?_, ?_⟩
  · have hvalid : ∀ text ∈ foldr.texts, text ≠ "" ∧ ':' ∉ text.toList := by decide
    have hkey : foldr.key = "v:foldr:Data.List:base" := by decide
    have hread := trees_read_back.1 .symbol foldr hvalid
    change JsonCodec.symbol.read (.string foldr.key) = .ok foldr at hread
    rwa [hkey] at hread
  obtain ⟨written, hmain⟩ := trees_read_back.2.1 (.result (.plain .moduleInfo)) main nofun
  have hhash : main.hash.encode = "000000000000000000000000000000ab" := by decide +kernel
  have hwrites : Json.object [("name", .string "Main"), ("unit", .string "app"),
      ("is_boot", .bool false), ("src_file", .null), ("is_real", .bool true),
      ("hash", .string "000000000000000000000000000000ab")] = .object written := by
    rw [← hhash]
    exact hmain.writes
  cases hwrites
  refine ⟨?_, hmain.refused _ (Or.inr ⟨by decide, rfl⟩), ?_⟩
  · exact hmain.keyed _ [("name", .string "Main"), ("unit", .string "app"),
      ("is_boot", .bool false), ("is_real", .bool true),
      ("hash", .string "000000000000000000000000000000ab")] [("kind", .integer 3)]
      (.swap _ _ _) (by simp) (by simp) (by simp)
  · have hdebug := trees_read_back.2.2 .loggingConfig {} ⟨"debug", "json"⟩ rfl
    obtain ⟨⟨level, format⟩, hwrites, hread⟩ := hdebug.keyed _ _ (· == "format") rfl rfl
    have hparts : Json.object [("level", .string level), ("format", .string format)] =
        .object [("level", .string "info"), ("format", .string "json")] := hwrites
    cases hparts
    exact hread _ [] (.refl _) nofun

end SymbolIndex
