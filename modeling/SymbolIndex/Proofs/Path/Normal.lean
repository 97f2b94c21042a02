import SymbolIndex.Proofs.Path
import SymbolIndex.Proofs.Text.Utf8

/-! # Normal forms of paths

What decides whether two paths are the same, told without components: whether the path starts at the
root, and its segments without the empty ones and without every `.` but a leading one. A normal form
is written as a path of which it is the normal form. Texts have normal forms as bytes have, and it
does not matter which of the two are compared.
-/
namespace SymbolIndex

/-- Whether a path starts at the root, and the segments that count. -/
structure Normal (α : Type) where
  rooted : Bool
  segments : List (List α)
  deriving DecidableEq, Repr

namespace Normal

variable {α : Type} [DecidableEq α]

/-- Leaves out every `dot` but the one that comes first where there is no root. -/
def dropDots (dot : α) (rooted : Bool) : List (List α) → List (List α)
  | [] => []
  | first :: later =>
    if first = [dot] ∧ rooted = false then first :: later.filter (· ≠ [dot])
    else (first :: later).filter (· ≠ [dot])

def ofList (sep dot : α) (xs : List α) : Normal α :=
  let rooted : Bool := xs.head? = some sep
  ⟨rooted, dropDots dot rooted ((Text.split sep xs).filter (· ≠ []))⟩

def render (sep : α) (n : Normal α) : List α :=
  (if n.rooted then [sep] else []) ++ Text.join sep n.segments

structure IsNormal (sep dot : α) (n : Normal α) : Prop where
  filled : ∀ segment ∈ n.segments, segment ≠ []
  whole : ∀ segment ∈ n.segments, sep ∉ segment
  settled : dropDots dot n.rooted n.segments = n.segments

def Counts (dot : α) (segment : List α) : Prop := segment ≠ [] ∧ segment ≠ [dot]

instance (dot : α) (segment : List α) : Decidable (Counts dot segment) :=
  inferInstanceAs (Decidable (_ ∧ _))

variable {sep dot : α} {xs : List α}

theorem filter_counts (later : List (List α)) :
    (later.filter (· ≠ [])).filter (· ≠ [dot]) = later.filter (Counts dot ·) := by
  rw [List.filter_filter]
  apply List.filter_congr
  intro segment _
  rw [Bool.and_comm, ← Bool.decide_and]
  rfl

theorem dropDots_rooted (segments : List (List α)) :
    dropDots dot true segments = segments.filter (· ≠ [dot]) := by
  cases segments with
  | nil => rfl
  | cons first later => rw [dropDots, if_neg (by simp)]

theorem dropDots_cons (first : List α) (later : List (List α)) :
    dropDots dot false (first :: later) = first :: later.filter (· ≠ [dot]) := by
  rw [dropDots]
  by_cases h : first = [dot]
  · rw [if_pos ⟨h, rfl⟩]
  · rw [if_neg fun hand => h hand.1, List.filter_cons_of_pos (by simpa using h)]

/-- The empty path, one that starts at the root, or one with a segment of its own in front. -/
theorem split_cases (sep : α) (xs : List α) :
    xs = [] ∨ (∃ later, Text.split sep xs = [] :: later ∧ later ≠ []) ∨
      ∃ first later, Text.split sep xs = first :: later ∧ first ≠ [] := by
  obtain ⟨first, later, hsplit, -, hxs⟩ := Text.exists_split sep xs
  by_cases hfirst : first = []
  · subst hfirst
    by_cases hlater : later = []
    · subst hlater
      exact Or.inl hxs
    · exact Or.inr (Or.inl ⟨later, hsplit, hlater⟩)
  · exact Or.inr (Or.inr ⟨first, later, hsplit, hfirst⟩)

theorem ofList_of_rooted {later : List (List α)} (h : Text.split sep xs = [] :: later)
    (hlater : later ≠ []) : ofList sep dot xs = ⟨true, later.filter (Counts dot ·)⟩ := by
  obtain ⟨segment, later, rfl⟩ := List.exists_cons_of_ne_nil hlater
  have hhead : xs.head? = some sep := by
    rw [(Text.split_eq_iff.1 h).1]
    rfl
  rw [ofList, h, hhead, decide_eq_true rfl, List.filter_cons_of_neg (by simp), dropDots_rooted,
    filter_counts]

theorem ofList_of_first {first : List α} {later : List (List α)}
    (h : Text.split sep xs = first :: later) (hfirst : first ≠ []) :
    ofList sep dot xs = ⟨false, first :: later.filter (Counts dot ·)⟩ := by
  obtain ⟨hxs, -, hparts⟩ := Text.split_eq_iff.1 h
  obtain ⟨x, first, rfl⟩ := List.exists_cons_of_ne_nil hfirst
  have hx : x ≠ sep := by
    rintro rfl
    exact hparts _ List.mem_cons_self List.mem_cons_self
  have hhead : xs.head? ≠ some sep := by
    rw [hxs, Text.join_cons]
    simpa using hx
  rw [ofList, h, decide_eq_false hhead, List.filter_cons_of_pos (by simp), dropDots_cons,
    filter_counts]

/-! ## Normal forms written as paths -/

theorem mem_of_mem_dropDots {rooted : Bool} {segments : List (List α)} {segment : List α}
    (h : segment ∈ dropDots dot rooted segments) : segment ∈ segments := by
  cases rooted with
  | true =>
    rw [dropDots_rooted] at h
    exact (List.mem_filter.1 h).1
  | false =>
    cases segments with
    | nil => exact h
    | cons first later =>
      rw [dropDots_cons] at h
      rcases List.mem_cons.1 h with rfl | h
      · exact List.mem_cons_self
      · exact List.mem_cons_of_mem _ (List.mem_filter.1 h).1

theorem dropDots_dropDots (rooted : Bool) (segments : List (List α)) :
    dropDots dot rooted (dropDots dot rooted segments) = dropDots dot rooted segments := by
  cases rooted with
  | true => rw [dropDots_rooted, dropDots_rooted, List.filter_filter]; simp
  | false =>
    cases segments with
    | nil => rfl
    | cons first later => rw [dropDots_cons, dropDots_cons, List.filter_filter]; simp

theorem isNormal_ofList (sep dot : α) (xs : List α) : IsNormal sep dot (ofList sep dot xs) := by
  constructor
  · intro segment h
    exact of_decide_eq_true (List.mem_filter.1 (mem_of_mem_dropDots h)).2
  · intro segment h
    exact Text.not_mem_of_mem_split (List.mem_filter.1 (mem_of_mem_dropDots h)).1
  · exact dropDots_dropDots _ _

theorem filter_split_join {segments : List (List α)} (hfilled : ∀ segment ∈ segments, segment ≠ [])
    (hwhole : ∀ segment ∈ segments, sep ∉ segment) :
    (Text.split sep (Text.join sep segments)).filter (· ≠ []) = segments := by
  by_cases h : segments = []
  · subst h
    rfl
  · rw [Text.split_join h hwhole]
    apply List.filter_eq_self.2
    simpa using hfilled

theorem ofList_render {n : Normal α} (h : IsNormal sep dot n) :
    ofList sep dot (n.render sep) = n := by
  obtain ⟨rooted, segments⟩ := n
  obtain ⟨hfilled, hwhole, hsettled⟩ := h
  have hparts := filter_split_join hfilled hwhole
  cases rooted with
  | true =>
    have hsplit : Text.split sep (sep :: Text.join sep segments) =
        [] :: Text.split sep (Text.join sep segments) := by
      rw [Text.split, if_pos rfl]
    simp only [ofList, render, if_true, List.singleton_append, hsplit, List.head?_cons,
      decide_true]
    rw [List.filter_cons_of_neg (by simp), hparts, hsettled]
  | false =>
    have hhead : (Text.join sep segments).head? ≠ some sep := by
      cases segments with
      | nil => simp [Text.join]
      | cons first later =>
        obtain ⟨x, first, rfl⟩ := List.exists_cons_of_ne_nil (hfilled first List.mem_cons_self)
        have hx : sep ∉ x :: first := hwhole _ List.mem_cons_self
        rw [Text.join_cons]
        rintro h
        cases h
        exact hx List.mem_cons_self
    simp only [ofList, render, Bool.false_eq_true, if_false, List.nil_append,
      decide_eq_false hhead]
    rw [hparts, hsettled]

/-! ## What is told apart -/

theorem filter_dropDots (rooted : Bool) (segments : List (List α)) :
    (dropDots dot rooted segments).filter (· ≠ [dot]) = segments.filter (· ≠ [dot]) := by
  cases rooted with
  | true => rw [dropDots_rooted, List.filter_filter]; simp
  | false =>
    cases segments with
    | nil => rfl
    | cons first later =>
      rw [dropDots_cons, List.filter_cons, List.filter_cons, List.filter_filter]
      simp

/-- All segments that count are kept, in their order. -/
theorem filter_segments_ofList (sep dot : α) (xs : List α) :
    (ofList sep dot xs).segments.filter (· ≠ [dot]) =
      (Text.split sep xs).filter (Counts dot ·) := by
  rw [ofList, filter_dropDots, filter_counts]

theorem ofList_eq_empty_iff : ofList sep dot xs = ⟨false, []⟩ ↔ xs = [] := by
  rcases split_cases sep xs with rfl | ⟨later, hsplit, hlater⟩ | ⟨first, later, hsplit, hfirst⟩
  · exact iff_of_true rfl rfl
  · rw [ofList_of_rooted hsplit hlater]
    refine iff_of_false (by simp) ?_
    rintro rfl
    cases hsplit
    exact hlater rfl
  · rw [ofList_of_first hsplit hfirst]
    refine iff_of_false (by simp) ?_
    rintro rfl
    cases hsplit
    exact hfirst rfl

theorem split_dot (h : sep ≠ dot) (xs : List α) :
    Text.split sep (dot :: sep :: xs) = [dot] :: Text.split sep xs :=
  @Text.split_append α _ sep [dot] (by simpa using h) xs

/-- A dot in front changes a path, unless there is one already. -/
theorem ofList_dot_eq_iff (h : sep ≠ dot) :
    ofList sep dot (dot :: sep :: xs) = ofList sep dot xs ↔
      xs = [dot] ∨ ∃ ys, xs = dot :: sep :: ys := by
  have hdot := split_dot h xs
  have hfirst : ([dot] : List α) ≠ [] := by simp
  rw [ofList_of_first hdot hfirst]
  constructor
  · intro heq
    rcases split_cases sep xs with rfl | ⟨later, hsplit, hlater⟩ | ⟨first, later, hsplit, hne⟩
    · cases heq
    · rw [ofList_of_rooted hsplit hlater] at heq
      cases heq
    · rw [ofList_of_first hsplit hne] at heq
      obtain rfl : [dot] = first := (List.cons.inj (congrArg segments heq)).1
      have hxs := (Text.split_eq_iff.1 hsplit).1
      rw [Text.join_cons] at hxs
      cases later with
      | nil => exact Or.inl hxs
      | cons segment later => exact Or.inr ⟨_, hxs⟩
  · rintro (rfl | ⟨ys, rfl⟩)
    · have hsplit : Text.split sep [dot] = [[dot]] := Text.split_of_not_mem (by simpa using h)
      rw [ofList_of_first hsplit hfirst, hsplit]
      simp [Counts]
    · have hsplit := split_dot h ys
      rw [ofList_of_first hsplit hfirst, hsplit]
      simp [Counts]

/-! ## Normal forms of bytes and their components -/

open SymbolIndex.Path (Component)

def component (segment : List UInt8) : Component :=
  if segment = [0x2E] then .current else .ofSegment segment

def components (n : Normal UInt8) : List Component :=
  (if n.rooted then [.root] else []) ++ n.segments.map component

@[simp] theorem text_component (segment : List UInt8) : (component segment).text = segment := by
  rw [component]
  by_cases h : segment = [0x2E]
  · rw [if_pos h, h]
    rfl
  · rw [if_neg h, Component.text_ofSegment]

theorem component_ne_root (segment : List UInt8) : component segment ≠ .root := by
  rw [component]
  by_cases h : segment = [0x2E]
  · rw [if_pos h]
    nofun
  · rw [if_neg h]
    exact Component.ofSegment_ne_root segment

theorem component_of_counts {segment : List UInt8} (h : Counts 0x2E segment) :
    component segment = .ofSegment segment := if_neg h.2

theorem map_component_injective {ss ts : List (List UInt8)}
    (h : ss.map component = ts.map component) : ss = ts := by
  have htexts := congrArg (List.map Component.text) h
  simpa [List.map_map, Function.comp_def] using htexts

theorem components_injective {m n : Normal UInt8} (h : m.components = n.components) : m = n := by
  have hroot (ss ts : List (List UInt8)) : .root :: ss.map component ≠ ts.map component := by
    intro hss
    have hmem : .root ∈ ts.map component := hss ▸ List.mem_cons_self
    obtain ⟨segment, -, hsegment⟩ := List.mem_map.1 hmem
    exact component_ne_root segment hsegment
  obtain ⟨r, ss⟩ := m
  obtain ⟨q, ts⟩ := n
  cases r <;> cases q
  · obtain rfl : ss = ts := map_component_injective h
    rfl
  · exact absurd h.symm (hroot ts ss)
  · exact absurd h (hroot ss ts)
  · obtain rfl : ss = ts := map_component_injective (List.cons.inj h).2
    rfl

theorem filterMap_ofLaterSegment? (later : List (List UInt8)) :
    later.filterMap Component.ofLaterSegment? = (later.filter (Counts 0x2E ·)).map component := by
  induction later with
  | nil => rfl
  | cons segment later ih =>
    by_cases h : Path.Idle segment
    · have hnot : ¬ Counts 0x2E segment := fun hc => h.elim hc.1 hc.2
      rw [List.filterMap_cons_none (Component.ofLaterSegment?_of_idle h), ih,
        List.filter_cons_of_neg (by simpa using hnot)]
    · have hcounts : Counts 0x2E segment := not_or.1 h
      rw [List.filterMap_cons_some (Component.ofLaterSegment?_of_not_idle h), ih,
        List.filter_cons_of_pos (by simpa using hcounts), List.map_cons,
        component_of_counts hcounts]

end Normal

namespace Path

def normal (p : Path) : Normal UInt8 := .ofList separator 0x2E p.bytes

theorem components_normal (p : Path) : p.normal.components = p.components := by
  obtain ⟨bytes⟩ := p
  rw [normal, components]
  rcases Normal.split_cases separator bytes with rfl | ⟨later, hsplit, hlater⟩ |
    ⟨first, later, hsplit, hfirst⟩
  · rfl
  · rw [Normal.ofList_of_rooted hsplit hlater, hsplit, Component.ofSegments, if_pos rfl,
      if_neg hlater, Normal.filterMap_ofLaterSegment?]
    rfl
  · rw [Normal.ofList_of_first hsplit hfirst, hsplit, Component.ofSegments, if_neg hfirst,
      Normal.filterMap_ofLaterSegment?]
    by_cases hdot : first = [0x2E]
    · rw [if_pos hdot, hdot]
      rfl
    · rw [if_neg hdot, Normal.components, List.map_cons, Normal.component, if_neg hdot]
      rfl

theorem same_iff_normal_eq {p q : Path} : p.same q = true ↔ p.normal = q.normal := by
  rw [same, decide_eq_true_eq, ← components_normal, ← components_normal]
  constructor
  · exact Normal.components_injective
  · intro h
    rw [h]

end Path

/-! ## Normal forms of texts -/

namespace Normal

def map {α β : Type} (f : List α → List β) (n : Normal α) : Normal β :=
  ⟨n.rooted, n.segments.map f⟩

theorem map_injective {α β : Type} {f : List α → List β} (hf : ∀ s t, f s = f t → s = t)
    {m n : Normal α} (h : m.map f = n.map f) : m = n := by
  obtain ⟨r, ss⟩ := m
  obtain ⟨q, ts⟩ := n
  simp only [map, mk.injEq, List.map_inj_right hf] at h
  rw [h.1, h.2]

def ofText (text : String) : Normal Char := .ofList '/' '.' text.toList

def text (n : Normal Char) : String := String.ofList (n.render '/')

theorem ofText_text (a : String) : ofText (ofText a).text = ofText a := by
  rw [ofText, text, String.toList_ofList]
  exact ofList_render (isNormal_ofList '/' '.' a.toList)

theorem ofText_eq_empty_iff {a : String} : ofText a = ofText "" ↔ a = "" := by
  rw [ofText, ofText, ← String.toList_inj]
  exact ofList_eq_empty_iff

theorem ofText_dot_eq_iff {a : String} :
    ofText ("./" ++ a) = ofText a ↔ a = "." ∨ ∃ b, a = "./" ++ b := by
  have hdot (b : String) : ("./" ++ b).toList = '.' :: '/' :: b.toList := String.toList_append ..
  rw [ofText, ofText, hdot, ofList_dot_eq_iff (by decide)]
  simp only [← String.toList_inj, hdot]
  constructor
  · rintro (h | ⟨ys, h⟩)
    · exact Or.inl h
    · exact Or.inr ⟨String.ofList ys, by rw [h, String.toList_ofList]⟩
  · rintro (h | ⟨b, h⟩)
    · exact Or.inl h
    · exact Or.inr ⟨b.toList, h⟩

open SymbolIndex.Path (separator)

theorem split_encode (cs : List Char) :
    Text.split separator (Utf8.encode cs) = (Text.split '/' cs).map Utf8.encode := by
  apply Text.split_flatMap
  · rfl
  · intro c hc hmem
    have hslash : c.toNat = '/'.toNat := (Utf8.toNat_of_mem_encodeChar hmem (by decide)).symm
    exact hc (Char.toNat_inj.1 hslash)

theorem encode_eq_nil_iff {cs : List Char} : Utf8.encode cs = [] ↔ cs = [] :=
  @Utf8.encode_eq_iff cs []

theorem encode_eq_dot_iff {cs : List Char} : Utf8.encode cs = [0x2E] ↔ cs = ['.'] :=
  @Utf8.encode_eq_iff cs ['.']

theorem counts_encode {cs : List Char} : Counts 0x2E (Utf8.encode cs) ↔ Counts '.' cs := by
  rw [Counts, Counts, Ne, Ne, encode_eq_nil_iff, encode_eq_dot_iff]

theorem ofList_encode (cs : List Char) :
    ofList separator 0x2E (Utf8.encode cs) = (ofList '/' '.' cs).map Utf8.encode := by
  have hfilter (later : List (List Char)) :
      (later.map Utf8.encode).filter (Counts 0x2E ·) =
        (later.filter (Counts '.' ·)).map Utf8.encode := by
    rw [List.filter_map]
    simp only [Function.comp_def, counts_encode]
  have hsplit := split_encode cs
  rcases split_cases '/' cs with rfl | ⟨later, hcs, hlater⟩ | ⟨first, later, hcs, hfirst⟩
  · rfl
  · rw [hcs] at hsplit
    rw [ofList_of_rooted hcs hlater, ofList_of_rooted hsplit (by simpa using hlater), hfilter]
    rfl
  · rw [hcs] at hsplit
    rw [ofList_of_first hcs hfirst, ofList_of_first hsplit (mt encode_eq_nil_iff.1 hfirst),
      hfilter]
    rfl

/-- Every dot after the first place is left out, and no step back is taken. -/
example :
    ofText "/.//a/./" = ⟨true, [['a']]⟩ ∧
      ofText ".//a/./../b" = ⟨false, [['.'], ['a'], ['.', '.'], ['b']]⟩ := by
  decide

theorem normal_ofText (text : String) : (Path.ofText text).normal = (ofText text).map Utf8.encode :=
  ofList_encode text.toList

end Normal

theorem Path.same_ofText_iff {a b : String} :
    (ofText a).same (ofText b) = true ↔ Normal.ofText a = Normal.ofText b := by
  rw [same_iff_normal_eq, Normal.normal_ofText, Normal.normal_ofText]
  constructor
  · apply Normal.map_injective
    intro cs ds
    exact Utf8.encode_eq_iff.1
  · intro h
    rw [h]

end SymbolIndex
