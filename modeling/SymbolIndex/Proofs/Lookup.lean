import SymbolIndex.Lookup
import SymbolIndex.Proofs.Json.RoundTrip
import SymbolIndex.Proofs.Path.Normal

/-! # Targets, candidates and failures compared

Files are compared by the normal forms of their paths, modules by the texts of their names and units,
and a file is never a module. A target is read back from its own tree. A unit is ambiguous only if
there is a candidate, and a failure is the same as another up to the spelling of paths.
-/
namespace SymbolIndex

namespace Target

variable {a b : String}

theorem same_files_iff {p q : Path} :
    same (.file p) (.file q) = true ↔ p.normal = q.normal := Path.same_iff_normal_eq

theorem same_texts_iff :
    same (.file (.ofText a)) (.file (.ofText b)) = true ↔ Normal.ofText a = Normal.ofText b :=
  Path.same_ofText_iff

theorem same_modules_iff {m n : ModuleName} {u v : Option UnitId} :
    same (.module m u) (.module n v) = true ↔
      m.text = n.text ∧ u.map (·.text) = v.map (·.text) := by
  have htext : Function.Injective UnitId.text := by
    rintro ⟨s⟩ ⟨t⟩ rfl
    rfl
  have hunits : u.map (·.text) = v.map (·.text) ↔ u = v := (Option.map_injective htext).eq_iff
  obtain ⟨s⟩ := m
  obtain ⟨t⟩ := n
  rw [same, decide_eq_true_eq, hunits, ModuleName.mk.injEq]

theorem same_self (t : Target) : t.same t = true := by
  cases t with
  | file p => exact same_files_iff.2 rfl
  | module name unit => exact same_modules_iff.2 ⟨rfl, rfl⟩

end Target

/-- Which targets are the same, and that their trees keep them. Of a path no `..` is resolved, a first
`.` tells it from the path without it, and no other path is the same as the empty one. -/
theorem targets_compared :
    (∀ a b : String, Target.same (.file (.ofText a)) (.file (.ofText b)) = true ↔
      Normal.ofText a = Normal.ofText b) ∧
    (∀ a : String, Normal.ofText (Normal.ofText a).text = Normal.ofText a ∧
      Target.same (.file (.ofText (Normal.ofText a).text)) (.file (.ofText a)) = true) ∧
    (∀ p q : Path, Target.same (.file p) (.file q) = true ↔ p.normal = q.normal) ∧
    (∀ a : String, (Normal.ofText a).segments.filter (· ≠ ['.']) =
      (Text.split '/' a.toList).filter fun segment => segment ≠ [] ∧ segment ≠ ['.']) ∧
    (∀ a : String, Target.same (.file (.ofText ("./" ++ a))) (.file (.ofText a)) = true ↔
      a = "." ∨ ∃ b, a = "./" ++ b) ∧
    (∀ a : String, Target.same (.file (.ofText a)) (.file (.ofText "")) = true ↔ a = "") ∧
    (∀ (m n : ModuleName) (u v : Option UnitId),
      Target.same (.module m u) (.module n v) = true ↔
        m.text = n.text ∧ u.map (·.text) = v.map (·.text)) ∧
    (∀ (p : Path) (m : ModuleName) (u : Option UnitId),
      Target.same (.file p) (.module m u) = false ∧
        Target.same (.module m u) (.file p) = false) ∧
    ∀ t : Target, (∀ p, t = .file p → p.IsText) →
      ∃ u, JsonCodec.target.read (JsonCodec.target.write t) = .ok u ∧ u.same t = true := by
  refine ⟨?_, ?_, ?_, ?_, ?_, ?_, ?_, ?_, ?_⟩
  · intro a b
    exact Target.same_texts_iff
  · intro a
    have hnormal := Normal.ofText_text a
    exact ⟨hnormal, Target.same_texts_iff.2 hnormal⟩
  · intro p q
    exact Target.same_files_iff
  · intro a
    exact Normal.filter_segments_ofList '/' '.' a.toList
  · intro a
    rw [Target.same_texts_iff, Normal.ofText_dot_eq_iff]
  · intro a
    rw [Target.same_texts_iff, Normal.ofText_eq_empty_iff]
  · intro m n u v
    exact Target.same_modules_iff
  · intro p m u
    exact ⟨rfl, rfl⟩
  · intro t ht
    exact ⟨t, JsonCodec.read_write_target ht, t.same_self⟩

/-- Separators that repeat and dots after them, at the root and without it. -/
theorem targets_compared_spellings :
    let same (a b : String) := Target.same (.file (.ofText a)) (.file (.ofText b))
    same "/./a" "//a/" = true ∧ same "./." "." = true ∧ same ".//a" "./a" = true ∧
      same "//" "/" = true ∧ same "a/.." "" = false ∧
      Path.IsText (.ofText "a/..") ∧
      ∃ u, JsonCodec.target.read (JsonCodec.target.write (.file (.ofText "a/.."))) = .ok u ∧
        u.same (.file (.ofText "a/..")) = true := by
  intro same
  obtain ⟨hsame, -, -, -, -, hempty, -, -, htree⟩ := targets_compared
  have htext : Path.IsText (.ofText "a/..") := ⟨_, rfl⟩
  refine ⟨(hsame _ _).2 (by decide), (hsame _ _).2 (by decide), (hsame _ _).2 (by decide),
    (hsame _ _).2 (by decide), ?_, htext, htree _ ?_⟩
  · rw [← Bool.not_eq_true, hempty]
    decide
  · rintro p hp
    cases hp
    exact htext

/-! ## Candidates -/

def ModuleInfo.parts (m : ModuleInfo) :
    ModuleName × UnitId × Bool × Option (Normal UInt8) × Bool × Fingerprint :=
  (m.name, m.unit, m.isBoot, m.srcFile.map Path.normal, m.isReal, m.hash)

theorem Kind.same_optional_path_iff {p q : Option Path} :
    (optional .path).same p q = true ↔ p.map Path.normal = q.map Path.normal := by
  cases p <;> cases q <;> simp [same, Scalar.same, Path.same_iff_normal_eq]

theorem ModuleInfo.same_iff {a b : ModuleInfo} :
    Shape.moduleInfo.same a b = true ↔ a.parts = b.parts := by
  change (decide (a.name = b.name) && (decide (a.unit = b.unit) && (decide (a.isBoot = b.isBoot) &&
    ((Kind.optional .path).same a.srcFile b.srcFile && (decide (a.isReal = b.isReal) &&
      (decide (a.hash = b.hash) && true)))))) = true ↔ _
  simp [parts, Kind.same_optional_path_iff]

namespace UnitCandidates

variable {c d e : UnitCandidates} {infos : List ModuleInfo}

theorem ofList?_eq_some_iff : ofList? infos = some c ↔ c.toList = infos := by
  obtain ⟨first, others⟩ := c
  cases infos with
  | nil => exact iff_of_false nofun nofun
  | cons info infos => simp [ofList?, toList, eq_comm]

theorem ofList?_eq_none_iff : ofList? infos = none ↔ infos = [] := by
  cases infos with
  | nil => exact iff_of_true rfl rfl
  | cons info infos => exact iff_of_false nofun nofun

theorem all_same_iff {xs ys : List ModuleInfo} :
    (xs.length = ys.length && (xs.zip ys).all fun (a, b) => Shape.moduleInfo.same a b) = true ↔
      xs.map ModuleInfo.parts = ys.map ModuleInfo.parts := by
  induction xs generalizing ys with
  | nil => cases ys <;> simp
  | cons x xs ih =>
    cases ys with
    | nil => simp
    | cons y ys =>
      rw [List.map_cons, List.map_cons, List.cons.injEq, ← ih, ← ModuleInfo.same_iff]
      simp [and_left_comm]

theorem same_iff :
    c.same d = true ↔ c.toList.map ModuleInfo.parts = d.toList.map ModuleInfo.parts := all_same_iff

theorem infix_intercalate {α : Type} {separator x : List α} {xs : List (List α)} (h : x ∈ xs) :
    x <:+: separator.intercalate xs := by
  induction xs with
  | nil => cases h
  | cons y xs ih =>
    cases xs with
    | nil =>
      simp [List.mem_singleton.1 h]
    | cons z xs =>
      rw [List.intercalate_cons_cons]
      rcases List.mem_cons.1 h with rfl | h
      · exact ⟨[], separator ++ separator.intercalate (z :: xs), by simp⟩
      · exact (ih h).trans (List.suffix_append _ _).isInfix

theorem unit_infix_display {info : ModuleInfo} (h : info ∈ c.toList) :
    info.unit.text.toList <:+: c.display.toList := by
  rw [display, String.toList_intercalate, List.map_map]
  exact infix_intercalate (List.mem_map_of_mem h)

end UnitCandidates

namespace LookupError

variable {candidates : List ModuleInfo} {a b e : LookupError}

theorem ambiguous?_eq_some_iff : ambiguous? candidates = some e ↔
    ∃ c : UnitCandidates, c.toList = candidates ∧ .ambiguousUnit c = e := by
  simp only [ambiguous?, Option.map_eq_some_iff, UnitCandidates.ofList?_eq_some_iff]

theorem ambiguous?_eq_none_iff : ambiguous? candidates = none ↔ candidates = [] := by
  simp only [ambiguous?, Option.map_eq_none_iff, UnitCandidates.ofList?_eq_none_iff]

/-- Every unit that could be meant is in the message. -/
theorem unit_infix_message {c : UnitCandidates} {info : ModuleInfo} (h : info ∈ c.toList) :
    info.unit.text.toList <:+: (ambiguousUnit c).message.toList := by
  obtain ⟨front, hfront⟩ : ∃ front, (ambiguousUnit c).message = front ++ c.display := ⟨_, rfl⟩
  simp only [hfront, String.toList_append]
  exact (UnitCandidates.unit_infix_display h).trans (List.suffix_append _ _).isInfix

theorem same_iff : a.same b = true ↔
    a = b ∨ ∃ c d, a = .ambiguousUnit c ∧ b = .ambiguousUnit d ∧ c.same d = true := by
  cases a with
  | ambiguousUnit c =>
    cases b with
    | ambiguousUnit d =>
      constructor
      · intro h
        exact Or.inr ⟨c, d, rfl, rfl, h⟩
      · rintro (h | ⟨c', d', hc, hd, h⟩)
        · cases h
          exact UnitCandidates.same_iff.2 rfl
        · cases hc
          cases hd
          exact h
    | _ => simp [same]
  | _ => simp [same]

/-- Failures are the same like their parts are, so a report may stand for all that are the same. -/
theorem same_equivalence : Equivalence fun a b : LookupError => a.same b = true where
  refl a := same_iff.2 (Or.inl rfl)
  symm := by
    intro a b h
    rcases same_iff.1 h with rfl | ⟨c, d, rfl, rfl, hcd⟩
    · exact h
    · refine same_iff.2 (Or.inr ⟨d, c, rfl, rfl, ?_⟩)
      rw [UnitCandidates.same_iff] at hcd ⊢
      exact hcd.symm
  trans := by
    intro a b e hab hbe
    rcases same_iff.1 hab with rfl | ⟨c, d, rfl, rfl, hcd⟩
    · exact hbe
    · rcases same_iff.1 hbe with rfl | ⟨d', e', hd, rfl, hde⟩
      · exact hab
      · cases hd
        refine same_iff.2 (Or.inr ⟨c, e', rfl, rfl, ?_⟩)
        rw [UnitCandidates.same_iff] at hcd hde ⊢
        exact hcd.trans hde

end LookupError

end SymbolIndex
