import SymbolIndex.Log.Filter
import SymbolIndex.Proofs.Config
import SymbolIndex.Proofs.Text.Hexadecimal

/-! # What passes a filter

Directives are ranked by the length of their sources and then by whether they ask for a field. Of
those that cover an event the last one of the highest rank decides, so the level of a valid
configuration lets through the events up to this level. A process keeps the first subscriber that it
gets.
-/
namespace SymbolIndex

namespace Directive

def rank (d : Directive) : Nat := 2 * d.source.length + d.field.isSome.toNat

theorem atLeast_iff {d e : Directive} : d.atLeast e = true ↔ e.rank ≤ d.rank := by
  unfold atLeast rank
  cases d.field <;> cases e.field <;> simp <;> omega

end Directive

namespace Filter

/-- The directive at place `i` covers the event, those before it are no more specific and those
after it are less so. -/
structure Decides (f : Filter) (event : Event) (i : Nat) (d : Directive) : Prop where
  place : f[i]? = some d
  covers : d.covers event = true
  before : ∀ j e, j < i → f[j]? = some e → e.covers event = true → e.rank ≤ d.rank
  after : ∀ j e, i < j → f[j]? = some e → e.covers event = true → e.rank < d.rank

variable {f : Filter} {event : Event} {i j : Nat} {d e : Directive}

theorem Decides.rank_le (h : f.Decides event i d) (hj : f[j]? = some e)
    (he : e.covers event = true) : e.rank ≤ d.rank := by
  rcases Nat.lt_trichotomy j i with hji | rfl | hij
  · exact h.before j e hji hj he
  · cases hj.symm.trans h.place
    exact Nat.le_refl _
  · exact Nat.le_of_lt (h.after j e hij hj he)

theorem Decides.unique (hd : f.Decides event i d) (he : f.Decides event j e) : d = e := by
  rcases Nat.lt_trichotomy i j with hij | rfl | hji
  · have hlt := hd.after j e hij he.place he.covers
    have hle := he.rank_le hd.place hd.covers
    omega
  · exact Option.some.inj (hd.place.symm.trans he.place)
  · have hlt := he.after i d hji hd.place hd.covers
    have hle := hd.rank_le he.place he.covers
    omega

theorem getElem?_concat_eq_some_iff : (f ++ [d])[j]? = some e ↔
    f[j]? = some e ∨ j = f.length ∧ d = e := by
  rcases Nat.lt_trichotomy j f.length with h | rfl | h
  · simp [List.getElem?_append_left h, Nat.ne_of_lt h]
  · simp
  · have hnone : f[j]? = none := List.getElem?_eq_none (Nat.le_of_lt h)
    have hlength : (f ++ [d]).length ≤ j := by
      rw [List.length_append, List.length_singleton]
      exact h
    simp [hnone, List.getElem?_eq_none hlength, Nat.ne_of_gt h]

theorem Decides.lt_length (h : f.Decides event i d) : i < f.length :=
  (List.getElem?_eq_some_iff.1 h.place).1

/-- A directive at the end changes nothing if it does not cover the event or is less specific. -/
theorem Decides.concat (h : f.Decides event i d) (he : e.covers event = true → e.rank < d.rank) :
    (f ++ [e]).Decides event i d := by
  refine ⟨getElem?_concat_eq_some_iff.2 (Or.inl h.place), h.covers, ?_, ?_⟩
  · intro j g hji hg hcovers
    rcases getElem?_concat_eq_some_iff.1 hg with hg | ⟨rfl, rfl⟩
    · exact h.before j g hji hg hcovers
    · exact absurd h.lt_length (Nat.lt_asymm hji)
  · intro j g hij hg hcovers
    rcases getElem?_concat_eq_some_iff.1 hg with hg | ⟨rfl, rfl⟩
    · exact h.after j g hij hg hcovers
    · exact he hcovers

/-- A directive at the end decides if no other is more specific. -/
theorem decides_concat (hd : d.covers event = true)
    (h : ∀ e ∈ f, e.covers event = true → e.rank ≤ d.rank) :
    (f ++ [d]).Decides event f.length d := by
  refine ⟨getElem?_concat_eq_some_iff.2 (Or.inr ⟨rfl, rfl⟩), hd, ?_, ?_⟩
  · intro j e hj he hcovers
    rcases getElem?_concat_eq_some_iff.1 he with he | ⟨-, rfl⟩
    · exact h e (List.mem_of_getElem? he) hcovers
    · exact Nat.le_refl _
  · intro j e hj he hcovers
    rcases getElem?_concat_eq_some_iff.1 he with he | ⟨rfl, -⟩
    · exact absurd (List.getElem?_eq_some_iff.1 he).1 (Nat.lt_asymm hj)
    · exact absurd hj (Nat.lt_irrefl _)

theorem deciding?_concat : (f ++ [d]).deciding? event =
    if d.covers event then
      match f.deciding? event with
      | some b => if d.atLeast b then some d else some b
      | none => some d
    else f.deciding? event := by
  unfold deciding?
  rw [List.filter_append, List.foldl_append]
  by_cases h : d.covers event = true
  · have hfilter : [d].filter (·.covers event) = [d] := by simp [h]
    rw [if_pos h, hfilter]
    rfl
  · have hfilter : [d].filter (·.covers event) = [] := by simp [h]
    rw [if_neg h, hfilter]
    rfl

theorem deciding?_cases (f : Filter) (event : Event) :
    (f.deciding? event = none ∧ ∀ d ∈ f, d.covers event = false) ∨
      ∃ i d, f.deciding? event = some d ∧ f.Decides event i d := by
  induction f using List.reverseRecOn with
  | nil => exact Or.inl ⟨rfl, nofun⟩
  | append_singleton f d ih =>
    rw [deciding?_concat]
    by_cases hd : d.covers event = true
    · rw [if_pos hd]
      rcases ih with ⟨hnone, hcovers⟩ | ⟨i, b, hb, hdecides⟩
      · rw [hnone]
        refine Or.inr ⟨f.length, d, rfl, decides_concat hd ?_⟩
        intro e he hcover
        rw [hcovers e he] at hcover
        cases hcover
      · simp only [hb]
        by_cases hrank : d.atLeast b = true
        · rw [if_pos hrank]
          refine Or.inr ⟨f.length, d, rfl, decides_concat hd ?_⟩
          intro e he hcover
          obtain ⟨j, hj⟩ := List.mem_iff_getElem?.1 he
          exact (hdecides.rank_le hj hcover).trans (Directive.atLeast_iff.1 hrank)
        · rw [if_neg hrank]
          rw [Directive.atLeast_iff, Nat.not_le] at hrank
          exact Or.inr ⟨i, b, rfl, hdecides.concat fun _ => hrank⟩
    · rw [if_neg hd]
      rcases ih with ⟨hnone, hcovers⟩ | ⟨i, b, hb, hdecides⟩
      · refine Or.inl ⟨hnone, ?_⟩
        intro e he
        rcases List.mem_append.1 he with he | he
        · exact hcovers e he
        · rw [List.mem_singleton.1 he]
          exact Bool.eq_false_iff.2 hd
      · exact Or.inr ⟨i, b, hb, hdecides.concat fun h => absurd h hd⟩

theorem deciding?_eq_some_iff : f.deciding? event = some d ↔ ∃ i, f.Decides event i d := by
  rcases f.deciding?_cases event with ⟨hnone, hcovers⟩ | ⟨i, b, hb, hdecides⟩
  · rw [hnone]
    refine iff_of_false nofun ?_
    rintro ⟨i, h⟩
    have hcover := h.covers
    rw [hcovers d (List.mem_of_getElem? h.place)] at hcover
    cases hcover
  · rw [hb, Option.some_inj]
    constructor
    · rintro rfl
      exact ⟨i, hdecides⟩
    · rintro ⟨j, h⟩
      exact hdecides.unique h

theorem deciding?_eq_none_iff : f.deciding? event = none ↔ ∀ d ∈ f, d.covers event = false := by
  rcases f.deciding?_cases event with ⟨hnone, hcovers⟩ | ⟨i, b, hb, hdecides⟩
  · exact iff_of_true hnone hcovers
  · rw [hb]
    refine iff_of_false nofun ?_
    intro hcovers
    have hcover := hdecides.covers
    rw [hcovers b (List.mem_of_getElem? hdecides.place)] at hcover
    cases hcover

/-- An event passes if the directive that decides about it lets its level through. -/
theorem passes_iff : f.passes event = true ↔
    ∃ i d level, f.Decides event i d ∧ d.level = some level ∧
      event.level.verbosity ≤ level.verbosity := by
  rw [passes]
  rcases f.deciding?_cases event with ⟨hnone, hcovers⟩ | ⟨i, b, hb, hdecides⟩
  · rw [hnone]
    refine iff_of_false nofun ?_
    rintro ⟨i, d, level, h, -⟩
    cases hnone.symm.trans (deciding?_eq_some_iff.2 ⟨i, h⟩)
  · have hpasses : b.passes event = true ↔
        ∃ level, b.level = some level ∧ event.level.verbosity ≤ level.verbosity := by
      rw [Directive.passes]
      cases b.level <;> simp
    rw [hb]
    refine hpasses.trans ?_
    constructor
    · rintro ⟨level, hlevel, hle⟩
      exact ⟨i, b, level, hdecides, hlevel, hle⟩
    · rintro ⟨j, d, level, h, hlevel, hle⟩
      rw [hdecides.unique h]
      exact ⟨level, hlevel, hle⟩

/-! ## Filters that are read -/

theorem mapM_directive? {parts : List (List Char)} (h : parts.mapM Directive.parse = .ok f) :
    parts.mapM directive? = .ok (f.map some) := by
  induction parts generalizing f with
  | nil =>
    cases h
    rfl
  | cons part parts ih =>
    rw [List.mapM_cons] at h ⊢
    cases hpart : Directive.parse part with
    | error fault =>
      rw [hpart] at h
      cases h
    | ok d =>
      cases hparts : parts.mapM Directive.parse with
      | error fault =>
        rw [hpart, hparts] at h
        cases h
      | ok ds =>
        rw [hpart, hparts] at h
        cases h
        rw [directive?, hpart, ih hparts]
        rfl

/-- Where every directive is well formed, it does not matter that others would be passed over. -/
theorem ofLevel_of_parse {text : String} (h : parse text = .ok f) (hne : f ≠ []) :
    ofLevel text = .ok f := by
  have hfilter : (f.map some).filterMap id = f := by simp [List.filterMap_map]
  have hparts : (parts text).mapM directive? = .ok (f.map some) := mapM_directive? h
  rw [ofLevel, hparts]
  simp only [bind, Except.bind, hfilter]
  cases f with
  | nil => exact absurd rfl hne
  | cons d ds => rfl

def ofBound (level : Option Level) : Filter := [⟨"", none, false, level⟩]

/-- The words for the levels. -/
def words : List (String × Level) :=
  [("error", .error), ("warn", .warn), ("info", .info), ("debug", .debug), ("trace", .trace)]

theorem passes_ofBound_iff {bound : Option Level} : (ofBound bound).passes event = true ↔
    ∃ level, bound = some level ∧ event.level.verbosity ≤ level.verbosity := by
  have hdecides : (ofBound bound).Decides event 0 ⟨"", none, false, bound⟩ := by
    refine decides_concat (f := []) ?_ nofun
    simp [Directive.covers]
  rw [passes_iff]
  constructor
  · rintro ⟨i, d, level, h, hlevel, hle⟩
    cases hdecides.unique h
    exact ⟨level, hlevel, hle⟩
  · rintro ⟨level, hlevel, hle⟩
    exact ⟨0, _, level, hdecides, hlevel, hle⟩

theorem ofLevel_off : ofLevel "off" = .ok (ofBound none) := by rfl

theorem ofLevel_of_mem {text : String} {level : Level} (h : (text, level) ∈ words) :
    ofLevel text = .ok (ofBound (some level)) := by
  simp only [words, List.mem_cons, Prod.mk.injEq, List.not_mem_nil, or_false] at h
  rcases h with ⟨rfl, rfl⟩ | ⟨rfl, rfl⟩ | ⟨rfl, rfl⟩ | ⟨rfl, rfl⟩ | ⟨rfl, rfl⟩ <;> rfl

theorem exists_mem_words {c : Config} (h : c.Valid) : ∃ level, (c.logging.level, level) ∈ words := by
  have hmem := h.level
  simp only [List.mem_cons, List.not_mem_nil, or_false] at hmem
  rcases hmem with hmem | hmem | hmem | hmem | hmem <;> rw [hmem] <;> simp [words]

/-- The level of a valid configuration lets through the events up to it, unless an override that is
well formed stands in for it. -/
theorem ofConfig_of_valid {c : Config} (h : c.Valid) {override : Option String}
    (hoverride : ∀ text ∈ override, parse text = .error .malformed) :
    ∃ level f, (c.logging.level, level) ∈ words ∧ ofConfig c.logging override = .ok f ∧
      ∀ event, f.passes event = true ↔ event.level.verbosity ≤ level.verbosity := by
  obtain ⟨level, hlevel⟩ := exists_mem_words h
  have hread : ofLevel c.logging.level = .ok (ofBound (some level)) := ofLevel_of_mem hlevel
  refine ⟨level, ofBound (some level), hlevel, ?_, fun event => ?_⟩
  · cases override with
    | none => exact hread
    | some text =>
      rw [ofConfig, Option.map_some, hoverride text rfl]
      exact hread
  · simp [passes_ofBound_iff]

/-- Nothing passes at the level `off`. -/
theorem passes_off :
    ∃ f, ofLevel "off" = .ok f ∧ ∀ event : Event, f.passes event = false := by
  refine ⟨ofBound none, ofLevel_off, ?_⟩
  intro event
  rw [← Bool.not_eq_true, passes_ofBound_iff]
  rintro ⟨level, hnone, -⟩
  cases hnone

end Filter

/-! ## Texts for a terminal -/

namespace Layout

/-- A terminal acts on these and does not show them. -/
def IsControl (c : Char) : Prop :=
  c ∈ ['\x1b', '\x07', '\x08', '\x0c', '\x7f'] ∨ 0x80 ≤ c.toNat ∧ c.toNat ≤ 0x9F

instance (c : Char) : Decidable (IsControl c) := inferInstanceAs (Decidable (_ ∨ _))

theorem not_isControl_of_mem_alphabet {c : Char} (h : c ∈ Hexadecimal.alphabet) :
    ¬ IsControl c := by
  have hall : Hexadecimal.alphabet.all (fun c => ¬ IsControl c) = true := by decide
  exact of_decide_eq_true (List.all_eq_true.1 hall c h)

theorem not_isControl_of_mem_escape {c d : Char} (h : d ∈ escape c) : ¬ IsControl d := by
  have hmarks (hd : d ∈ ['\\', 'x', 'u', '\x7b', '\x7d']) : ¬ IsControl d := by
    simp only [List.mem_cons, List.not_mem_nil, or_false] at hd
    rcases hd with rfl | rfl | rfl | rfl | rfl <;> decide
  have hdigits (hd : d ∈ Hexadecimal.fixed 2 c.toNat) : ¬ IsControl d :=
    not_isControl_of_mem_alphabet (Hexadecimal.mem_fixed hd)
  rw [escape] at h
  split at h
  · rcases List.mem_append.1 h with hd | hd
    · exact hmarks (by grind)
    · exact hdigits hd
  · split at h
    · rw [List.mem_append, List.mem_append] at h
      rcases h with (hd | hd) | hd
      · exact hmarks (by grind)
      · exact hdigits hd
      · exact hmarks (by grind)
    · rename_i hlow hhigh
      rw [List.mem_singleton.1 h]
      exact not_or.2 ⟨hlow, hhigh⟩

theorem not_isControl_of_mem_showMessage {layout : Layout} (hlayout : layout ≠ .json)
    {message : String} {c : Char} (h : c ∈ (layout.showMessage message).toList) :
    ¬ IsControl c := by
  have hshown : (layout.showMessage message).toList = message.toList.flatMap escape := by
    cases layout with
    | json => exact absurd rfl hlayout
    | _ => exact String.toList_ofList
  rw [hshown, List.mem_flatMap] at h
  obtain ⟨d, -, hc⟩ := h
  exact not_isControl_of_mem_escape hc

end Layout

/-! ## The subscriber of a process -/

namespace Subscriber

def after (current : Option Subscriber) : List (LoggingConfig × Option String) → Option Subscriber
  | [] => current
  | (c, override) :: attempts =>
    match (install current c override).outcome with
    | .ok (_, next) => after next attempts
    | .error _ => after current attempts

variable {c : LoggingConfig} {override : Option String}

theorem outcome_install_some (s : Subscriber) (c : LoggingConfig) (override : Option String) :
    (install (some s) c override).outcome =
      (Filter.ofConfig c override).map fun _ => (false, some s) := by
  rw [install, Traced.outcome_bind, Traced.outcome_ofExcept]
  cases Filter.ofConfig c override <;> rfl

theorem outcome_install_none (c : LoggingConfig) (override : Option String) :
    (install none c override).outcome =
      (Filter.ofConfig c override).map fun f => (true, some ⟨f, Layout.ofFormat c.format⟩) := by
  rw [install, Traced.outcome_bind, Traced.outcome_ofExcept]
  cases Filter.ofConfig c override <;> rfl

/-- Once there is a subscriber, it stays. -/
theorem after_some (s : Subscriber) (attempts : List (LoggingConfig × Option String)) :
    after (some s) attempts = some s := by
  induction attempts with
  | nil => rfl
  | cons attempt attempts ih =>
    rw [after, outcome_install_some]
    cases Filter.ofConfig attempt.1 attempt.2 <;> exact ih

/-- The first attempt whose filter can be read decides, whatever comes after it. -/
theorem after_none {before rest : List (LoggingConfig × Option String)} {f : Filter}
    (hbefore : ∀ attempt ∈ before, ∃ fault, Filter.ofConfig attempt.1 attempt.2 = .error fault)
    (h : Filter.ofConfig c override = .ok f) :
    after none (before ++ (c, override) :: rest) = some ⟨f, Layout.ofFormat c.format⟩ := by
  induction before with
  | nil =>
    rw [List.nil_append, after, outcome_install_none, h]
    exact after_some _ rest
  | cons attempt before ih =>
    obtain ⟨fault, hfault⟩ := hbefore attempt List.mem_cons_self
    rw [List.cons_append, after, outcome_install_none, hfault]
    apply ih
    intro later hlater
    exact hbefore later (List.mem_cons_of_mem _ hlater)

/-- An attempt reports its own settings if it succeeds, and nothing if it does not. -/
theorem events_install (current : Option Subscriber) (c : LoggingConfig)
    (override : Option String) : (install current c override).events =
      match (install current c override).outcome with
      | .ok (true, _) => [.loggingStarted c.level c.format]
      | _ => [] := by
  rw [install, Traced.events_bind, Traced.outcome_bind, Traced.outcome_ofExcept,
    Traced.events_ofExcept]
  cases Filter.ofConfig c override with
  | error fault => rfl
  | ok f => cases current <;> rfl

theorem mem_report_iff {s : Subscriber} {events : List Event} {level : Level} {text : String} :
    (level, text) ∈ s.report events ↔ ∃ event ∈ events, s.filter.passes event = true ∧
      event.level = level ∧ s.layout.showMessage event.message = text := by
  simp [report, and_assoc]

/-- What people read of the events is all within the level and holds no control characters. -/
theorem report_of_valid {c : Config} (h : c.Valid) (hformat : c.logging.format ≠ "json")
    (events : List Event) : ∃ bound s, (c.logging.level, bound) ∈ Filter.words ∧
      after none [(c.logging, none)] = some s ∧
      ∀ level text, (level, text) ∈ s.report events →
        level.verbosity ≤ bound.verbosity ∧ ∀ ch ∈ text.toList, ¬ Layout.IsControl ch := by
  have hnone : ∀ text ∈ (none : Option String), Filter.parse text = .error .malformed := nofun
  obtain ⟨bound, f, hbound, hconfig, hpasses⟩ := Filter.ofConfig_of_valid h hnone
  have hafter : after none ([] ++ [(c.logging, none)]) =
      some ⟨f, Layout.ofFormat c.logging.format⟩ := after_none nofun hconfig
  refine ⟨bound, _, hbound, hafter, ?_⟩
  intro level text hmem
  obtain ⟨event, -, hpass, rfl, rfl⟩ := mem_report_iff.1 hmem
  refine ⟨(hpasses event).1 hpass, ?_⟩
  intro ch hch
  refine Layout.not_isControl_of_mem_showMessage ?_ hch
  rw [Layout.ofFormat, if_neg hformat]
  split <;> nofun

end Subscriber

end SymbolIndex
