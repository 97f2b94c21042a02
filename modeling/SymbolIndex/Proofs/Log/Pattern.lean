import Mathlib.Data.List.Infix
import SymbolIndex.Log.Pattern

/-! # Patterns are read to their end

Every reader leaves an end of the text that it was given, and a shorter one if it has read an item.
So the bound on the steps is never reached, and whether a text is a pattern can be told from the
single steps. No two groups of a pattern have one name.
-/
namespace SymbolIndex.Pattern

/-- What is left is an end of the text, but not all of it. -/
structure Consumes (cs rest : List Char) : Prop where
  suffix : rest <:+ cs
  shorter : rest.length < cs.length

variable {m : Mode} {c : Char} {cs rest last : List Char}

theorem consumes_cons (h : rest <:+ cs) : Consumes (c :: cs) rest where
  suffix := h.trans (List.suffix_cons c cs)
  shorter := Nat.lt_succ_of_le h.length_le

theorem Consumes.trans_suffix (h : Consumes cs rest) (hlast : last <:+ rest) :
    Consumes cs last where
  suffix := hlast.trans h.suffix
  shorter := Nat.lt_of_le_of_lt hlast.length_le h.shorter

theorem Consumes.of_suffix (h : Consumes rest last) (hrest : rest <:+ cs) : Consumes cs last where
  suffix := h.suffix.trans hrest
  shorter := Nat.lt_of_lt_of_le h.shorter hrest.length_le

section

variable {σ ρ : Type}

/-- From a state on, single steps lead through a text to a result. -/
inductive Reads (step : σ → List Char → Option (ρ ⊕ σ × List Char)) : σ → List Char → ρ → Prop where
  | done {s : σ} {cs : List Char} {r : ρ} (h : step s cs = some (.inl r)) : Reads step s cs r
  | more {s s' : σ} {cs rest : List Char} {r : ρ} (h : step s cs = some (.inr (s', rest)))
    (tail : Reads step s' rest r) : Reads step s cs r

def resume (loop : σ → List Char → Option ρ) : Option (ρ ⊕ σ × List Char) → Option ρ
  | none => none
  | some (.inl r) => some r
  | some (.inr (s, rest)) => loop s rest

/-- A loop with a bound above the length of its text never reaches the bound. -/
theorem loop_eq_some_iff (step : σ → List Char → Option (ρ ⊕ σ × List Char))
    (loop : Nat → σ → List Char → Option ρ)
    (hloop : ∀ fuel s cs, loop (fuel + 1) s cs = resume (loop fuel) (step s cs))
    (hstep : ∀ s cs s' rest, step s cs = some (.inr (s', rest)) → Consumes cs rest)
    {fuel : Nat} {s : σ} {r : ρ} (hfuel : cs.length < fuel) :
    loop fuel s cs = some r ↔ Reads step s cs r := by
  induction fuel generalizing s cs with
  | zero => cases hfuel
  | succ fuel ih =>
    rw [hloop]
    cases hs : step s cs with
    | none =>
      refine iff_of_false nofun ?_
      intro h
      cases h with
      | done h => cases hs.symm.trans h
      | more h => cases hs.symm.trans h
    | some next =>
      cases next with
      | inl r' =>
        constructor
        · intro h
          cases h
          exact .done hs
        · intro h
          cases h with
          | done h =>
            cases hs.symm.trans h
            rfl
          | more h => cases hs.symm.trans h
      | inr next =>
        obtain ⟨s', rest⟩ := next
        have hrest : rest.length < fuel :=
          Nat.lt_of_lt_of_le (hstep s cs s' rest hs).shorter (Nat.le_of_lt_succ hfuel)
        refine (ih hrest).trans ⟨.more hs, ?_⟩
        intro h
        cases h with
        | done h => cases hs.symm.trans h
        | more h tail =>
          cases hs.symm.trans h
          exact tail

end

theorem suffix_of_drop {n : Nat} (h : cs.drop n = c :: rest) : rest <:+ cs := by
  have hdrop : cs.drop n <:+ cs := List.drop_suffix n cs
  rw [h] at hdrop
  exact (List.suffix_cons c rest).trans hdrop

/-! ## Characters -/

theorem afterSpace_suffix (comment : Bool) (cs : List Char) : afterSpace comment cs <:+ cs := by
  induction cs generalizing comment with
  | nil => cases comment <;> exact List.suffix_rfl
  | cons c cs ih =>
    have hall (comment : Bool) : afterSpace comment cs <:+ c :: cs :=
      (ih comment).trans (List.suffix_cons c cs)
    cases comment with
    | true => exact hall _
    | false =>
      rw [afterSpace]
      split
      · exact hall _
      · split
        · exact hall _
        · exact List.suffix_rfl

theorem Mode.skip_suffix (m : Mode) (cs : List Char) : m.skip cs <:+ cs := by
  rw [Mode.skip]
  split
  · exact afterSpace_suffix false cs
  · exact List.suffix_rfl

theorem hexDigits?_suffix {count : Nat} {digits : List Char}
    (h : hexDigits? m count cs = some (digits, rest)) : rest <:+ cs := by
  induction count generalizing cs digits with
  | zero =>
    cases h
    exact List.suffix_rfl
  | succ count ih =>
    rw [hexDigits?] at h
    have hskip := m.skip_suffix cs
    cases hcs : m.skip cs with
    | nil =>
      rw [hcs] at h
      cases h
    | cons c after =>
      simp only [hcs, Option.map_eq_some_iff, Prod.exists, Prod.mk.injEq] at h
      obtain ⟨others, rest', hread, -, rfl⟩ := h
      rw [hcs] at hskip
      exact (ih hread).trans ((List.suffix_cons c after).trans hskip)

theorem numbered?_suffix {count : Nat} (h : numbered? m count cs = some (c, rest)) :
    rest <:+ cs := by
  simp only [numbered?, bind, Option.bind_eq_some_iff, Prod.exists] at h
  obtain ⟨digits, rest', hread, n, -, hn⟩ := h
  split at hn
  · cases hn
    exact hexDigits?_suffix hread
  · cases hn

theorem escape?_suffix {atom : Atom} (h : escape? m cs = some (atom, rest)) : rest <:+ cs := by
  have hnumbered {count : Nat} {byte : Bool} {cs : List Char}
      (h : (numbered? m count cs).map (fun found => (Atom.scalar found.1 byte, found.2)) =
        some (atom, rest)) : rest <:+ cs := by
    obtain ⟨⟨c, rest'⟩, hread, hfound⟩ := Option.map_eq_some_iff.1 h
    cases hfound
    exact numbered?_suffix hread
  unfold escape? at h
  split at h
  · cases h
  · exact (hnumbered h).trans (List.suffix_cons _ _)
  · exact (hnumbered h).trans (List.suffix_cons _ _)
  · exact (hnumbered h).trans (List.suffix_cons _ _)
  · split at h
    · simp only [Option.map_eq_some_iff, Prod.mk.injEq] at h
      obtain ⟨atom', -, -, rfl⟩ := h
      exact List.suffix_cons _ _
    · split at h
      · cases h
        exact List.suffix_cons _ _
      · cases h

theorem atom?_consumes {atom : Atom} (h : atom? m cs = some (atom, rest)) : Consumes cs rest := by
  unfold atom? at h
  split at h
  · cases h
  · exact consumes_cons (escape?_suffix h)
  · cases h
    exact consumes_cons List.suffix_rfl

/-! ## Brackets -/

namespace Bracket

variable {b b' : Bracket} {outer : List Bracket}

theorem namedClass?_suffix {negated : Bool} (h : namedClass? cs = some (negated, rest)) :
    rest <:+ cs := by
  unfold namedClass? at h
  split at h
  · rename_i after
    split at h
    rename_i negated' unsigned hsign
    have hunsigned : unsigned <:+ after := by
      split at hsign
      · cases hsign
        exact List.suffix_cons _ _
      · cases hsign
        exact List.suffix_rfl
    have hdrop : unsigned.dropWhile (· ≠ ':') <:+ unsigned := List.dropWhile_suffix _
    split at h
    · rename_i last hlast
      split at h
      · cases h
        rw [hlast] at hdrop
        have hrest : rest <:+ ':' :: ']' :: rest :=
          (List.suffix_cons _ _).trans (List.suffix_cons _ _)
        exact ((hrest.trans hdrop).trans hunsigned).trans (List.suffix_cons ':' after)
      · cases h
    · cases h
  · cases h

theorem afterSign?_suffix (h : afterSign? m cs = some rest) : rest <:+ cs := by
  have hskip := m.skip_suffix cs
  rw [afterSign?] at h
  split at h
  · rename_i after hcs
    split at h
    · cases h
      rw [hcs] at hskip
      exact (List.suffix_cons _ _).trans hskip
    · cases h
  · cases h
    exact hskip

theorem member?_consumes (h : member? m cs = some rest) : Consumes cs rest := by
  simp only [member?, bind, Option.bind_eq_some_iff, Prod.exists] at h
  obtain ⟨first, after, hfirst, h⟩ := h
  have hafter := atom?_consumes hfirst
  have hskip := m.skip_suffix after
  split at h
  · rename_i afterSign hsign
    rw [hsign] at hskip
    split at h
    · split at h
      · cases h
        exact hafter.trans_suffix hskip
      · cases h
    · simp only [Option.bind_eq_some_iff, Prod.exists] at h
      obtain ⟨last, rest', hlast, h⟩ := h
      split at h
      · cases h
        have hend := (atom?_consumes hlast).suffix.trans (m.skip_suffix afterSign)
        exact hafter.trans_suffix (hend.trans ((List.suffix_cons _ _).trans hskip))
      · cases h
  · split at h
    · cases h
      exact hafter.trans_suffix hskip
    · cases h

theorem operation?_consumes (h : operation? cs = some rest) : Consumes cs rest := by
  unfold operation? at h
  split at h
  all_goals cases h
  all_goals exact consumes_cons (List.suffix_cons _ _)

theorem leading?_consumes (h : leading? b cs = some (b', rest)) : Consumes cs rest := by
  unfold leading? at h
  split at h
  · split at h
    all_goals cases h
    exact consumes_cons List.suffix_rfl
  · split at h
    all_goals cases h
    exact consumes_cons List.suffix_rfl
  · cases h

theorem next?_consumes (h : next? m b cs = some (b', rest)) : Consumes cs rest := by
  unfold next? at h
  split at h
  · rename_i after hoperation
    cases h
    exact operation?_consumes hoperation
  · simp only [Option.map_eq_some_iff, Prod.mk.injEq] at h
    obtain ⟨rest', hmember, -, rfl⟩ := h
    exact member?_consumes hmember

/-- One step of reading: the whole is read, or the innermost bracket, those around it and the rest
are as said. -/
def step? (m : Mode) : Bracket × List Bracket → List Char →
    Option ((Nat × List Char) ⊕ (Bracket × List Bracket) × List Char)
  | (b, outer), cs =>
    match b.leading? (m.skip cs) with
    | some (b, rest) => if m.knowsCase then some (.inr ((b, outer), rest)) else none
    | none =>
      match m.skip cs with
      | ']' :: rest =>
        match outer with
        | [] => some (.inl (b.depth, rest))
        | o :: outer => some (.inr ((o.add b.depth, outer), rest))
      | '[' :: rest =>
        match namedClass? rest with
        | some (negated, rest) =>
          if classAdmitted m negated then some (.inr ((b.add 0, outer), rest)) else none
        | none => (afterSign? m rest).map fun rest => .inr ((empty, b :: outer), rest)
      | cs => (b.next? m cs).map fun (b, rest) => .inr ((b, outer), rest)

theorem read?_succ (fuel : Nat) (cs : List Char) : read? m b outer (fuel + 1) cs =
    resume (fun place cs => read? m place.1 place.2 fuel cs) (step? m (b, outer) cs) := by
  rw [read?, step?]
  cases b.leading? (m.skip cs) with
  | some found => cases m.knowsCase <;> simp [resume]
  | none =>
    cases m.skip cs with
    | nil => cases next? m b [] <;> rfl
    | cons c rest =>
      by_cases hclose : c = ']'
      · subst hclose
        cases outer <;> rfl
      · by_cases hopen : c = '['
        · subst hopen
          cases hclass : namedClass? rest with
          | some found =>
            cases hadmitted : classAdmitted m found.1 <;> simp [hclass, hadmitted, resume]
          | none => cases hsign : afterSign? m rest <;> simp [hclass, hsign, resume]
        · cases hnext : next? m b (c :: rest) <;> simp [hclose, hopen, hnext, resume]

theorem step?_consumes {place next : Bracket × List Bracket}
    (h : step? m place cs = some (.inr (next, rest))) : Consumes cs rest := by
  obtain ⟨b, outer⟩ := place
  have hskip := m.skip_suffix cs
  rw [step?] at h
  split at h
  · rename_i b' rest' hleading
    split at h
    · cases h
      exact (leading?_consumes hleading).of_suffix hskip
    · cases h
  · split at h
    · rename_i rest' hcs
      rw [hcs] at hskip
      cases outer with
      | nil => cases h
      | cons o outer =>
        cases h
        exact (consumes_cons List.suffix_rfl).of_suffix hskip
    · rename_i rest' hcs
      rw [hcs] at hskip
      split at h
      · rename_i negated after hclass
        split at h
        · cases h
          exact (consumes_cons (namedClass?_suffix hclass)).of_suffix hskip
        · cases h
      · simp only [Option.map_eq_some_iff] at h
        obtain ⟨after, hsign, h⟩ := h
        cases h
        exact (consumes_cons (afterSign?_suffix hsign)).of_suffix hskip
    · simp only [Option.map_eq_some_iff, Prod.exists] at h
      obtain ⟨b', after, hnext, h⟩ := h
      cases h
      exact (next?_consumes hnext).of_suffix hskip

theorem read?_eq_some_iff {fuel : Nat} {r : Nat × List Char} (h : cs.length < fuel) :
    read? m b outer fuel cs = some r ↔ Reads (step? m) (b, outer) cs r :=
  loop_eq_some_iff (step? m) (fun fuel place cs => read? m place.1 place.2 fuel cs)
    (fun _ _ _ => read?_succ _ _) (fun _ _ _ _ => step?_consumes) h (s := (b, outer))

theorem step?_suffix_of_done {place : Bracket × List Bracket} {r : Nat × List Char}
    (h : step? m place cs = some (.inl r)) : r.2 <:+ cs := by
  obtain ⟨b, outer⟩ := place
  have hskip := m.skip_suffix cs
  rw [step?] at h
  split at h
  · split at h <;> cases h
  · split at h
    · rename_i after hcs
      rw [hcs] at hskip
      cases outer with
      | nil =>
        cases h
        exact (List.suffix_cons _ _).trans hskip
      | cons o outer => cases h
    · split at h
      · split at h <;> cases h
      · simp at h
    · simp at h

theorem suffix_of_reads {place : Bracket × List Bracket} {r : Nat × List Char}
    (h : Reads (step? m) place cs r) : r.2 <:+ cs := by
  induction h with
  | done h => exact step?_suffix_of_done h
  | more h _ ih => exact ih.trans (step?_consumes h).suffix

end Bracket

theorem bracket?_suffix {depth : Nat} (h : bracket? m cs = some (depth, rest)) : rest <:+ cs := by
  simp only [bracket?, Option.bind_eq_some_iff] at h
  obtain ⟨after, hsign, hread⟩ := h
  rw [Bracket.read?_eq_some_iff (Nat.lt_succ_self _)] at hread
  exact (Bracket.suffix_of_reads hread).trans (Bracket.afterSign?_suffix hsign)

/-! ## Items and groups -/

namespace State

variable {s s' : State}

inductive Moves (s s' : State) : Prop where
  | stayed (hnames : s'.names = s.names) (houter : s'.outer = s.outer)
  | opened (hnames : s'.names = s.names) (houter : s'.outer = (s.mode, s.body) :: s.outer)
  | named {name : List Char} (hname : isName name = true) (hfresh : name ∉ s.names)
    (hnames : s'.names = name :: s.names) (houter : s'.outer = (s.mode, s.body) :: s.outer)
  | closed {group : Mode × Body} (hnames : s'.names = s.names) (houter : s.outer = group :: s'.outer)

theorem namedGroup?_moves (h : s.namedGroup? cs = some (s', rest)) : s.Moves s' ∧ rest <:+ cs := by
  unfold namedGroup? at h
  simp only at h
  split at h
  · cases h
  · rename_i after hdrop
    split at h
    · rename_i hname
      cases h
      exact ⟨.named hname.1 hname.2 rfl rfl, suffix_of_drop hdrop⟩
    · cases h

theorem flagged?_moves (h : s.flagged? cs = some (s', rest)) : s.Moves s' ∧ rest <:+ cs := by
  unfold flagged? at h
  simp only at h
  split at h
  · split at h
    · rename_i after hdrop
      cases h
      exact ⟨.opened rfl rfl, suffix_of_drop hdrop⟩
    · rename_i after hdrop
      split at h
      · cases h
      · cases h
        exact ⟨.stayed rfl rfl, suffix_of_drop hdrop⟩
    · cases h
  · cases h

theorem group?_moves (h : s.group? cs = some (s', rest)) : s.Moves s' ∧ rest <:+ cs := by
  have hskip := s.mode.skip_suffix cs
  unfold group? at h
  split at h
  · rename_i after hcs
    obtain ⟨hmoves, hrest⟩ := namedGroup?_moves h
    have hafter : after <:+ s.mode.skip cs := ⟨['?', 'P', '<'], hcs.symm⟩
    exact ⟨hmoves, hrest.trans (hafter.trans hskip)⟩
  · rename_i after hcs
    obtain ⟨hmoves, hrest⟩ := namedGroup?_moves h
    have hafter : after <:+ s.mode.skip cs := ⟨['?', '<'], hcs.symm⟩
    exact ⟨hmoves, hrest.trans (hafter.trans hskip)⟩
  · rename_i after _ _ hcs
    obtain ⟨hmoves, hrest⟩ := flagged?_moves h
    have hafter : after <:+ s.mode.skip cs := ⟨['?'], hcs.symm⟩
    exact ⟨hmoves, hrest.trans (hafter.trans hskip)⟩
  · cases h
    exact ⟨.opened rfl rfl, hskip⟩

theorem repeat?_moves (h : s.repeat? cs = some (s', rest)) : s.Moves s' ∧ rest <:+ cs := by
  simp only [repeat?, Option.map_eq_some_iff, Prod.mk.injEq] at h
  obtain ⟨body, -, rfl, rfl⟩ := h
  refine ⟨.stayed rfl rfl, ?_⟩
  split
  · exact List.drop_suffix _ _
  · exact List.suffix_rfl

theorem leave?_moves (h : s.leave? = some s') : s.Moves s' := by
  unfold leave? at h
  split at h
  · cases h
  · rename_i mode body outer houter
    cases h
    exact .closed rfl houter

theorem step?_moves (h : s.step? c cs = some (s', rest)) : s.Moves s' ∧ rest <:+ cs := by
  have hadd (item : Item) : s.Moves (s.add item) := .stayed rfl rfl
  unfold step? at h
  split at h
  · exact group?_moves h
  · simp only [Option.map_eq_some_iff, Prod.mk.injEq] at h
    obtain ⟨t, hleave, rfl, rfl⟩ := h
    exact ⟨leave?_moves hleave, List.suffix_rfl⟩
  · cases h
    exact ⟨.stayed rfl rfl, List.suffix_rfl⟩
  · simp only [Option.map_eq_some_iff, Prod.exists, Prod.mk.injEq] at h
    obtain ⟨depth, after, hbracket, rfl, rfl⟩ := h
    exact ⟨hadd _, bracket?_suffix hbracket⟩
  · exact repeat?_moves h
  · exact repeat?_moves h
  · exact repeat?_moves h
  · cases h
  · split at h
    · cases h
      exact ⟨hadd _, List.suffix_rfl⟩
    · cases h
  · cases h
    exact ⟨hadd _, List.suffix_rfl⟩
  · cases h
    exact ⟨hadd _, List.suffix_rfl⟩
  · simp only [bind, Option.bind_eq_some_iff, Prod.exists] at h
    obtain ⟨atom, after, hatom, h⟩ := h
    have hconsumes := atom?_consumes hatom
    split at h
    · cases h
      rcases List.suffix_cons_iff.1 hconsumes.suffix with hall | hsuffix
      · -- An atom has at least one character.
        have hshorter := hconsumes.shorter
        rw [hall] at hshorter
        exact absurd hshorter (Nat.lt_irrefl _)
      · exact ⟨hadd _, hsuffix⟩
    · cases h

def advance? (s : State) (cs : List Char) : Option (State ⊕ State × List Char) :=
  match s.mode.skip cs with
  | [] => some (.inl s)
  | c :: rest => (s.step? c rest).map .inr

theorem run?_succ (s : State) (fuel : Nat) (cs : List Char) :
    s.run? (fuel + 1) cs = resume (fun s cs => s.run? fuel cs) (s.advance? cs) := by
  rw [run?, advance?]
  cases s.mode.skip cs with
  | nil => rfl
  | cons c rest =>
    simp only
    cases s.step? c rest <;> rfl

theorem advance?_moves (h : s.advance? cs = some (.inr (s', rest))) :
    s.Moves s' ∧ Consumes cs rest := by
  have hskip := s.mode.skip_suffix cs
  rw [advance?] at h
  split at h
  · cases h
  · rename_i c after hcs
    rw [hcs] at hskip
    simp only [Option.map_eq_some_iff, Sum.inr.injEq] at h
    obtain ⟨next, hstep, rfl⟩ := h
    obtain ⟨hmoves, hrest⟩ := step?_moves hstep
    exact ⟨hmoves, (consumes_cons hrest).of_suffix hskip⟩

theorem advance?_eq_done (h : s.advance? cs = some (.inl s')) : s' = s := by
  rw [advance?] at h
  split at h
  · cases h
    rfl
  · simp at h

theorem run?_eq_some_iff {fuel : Nat} (h : cs.length < fuel) :
    s.run? fuel cs = some s' ↔ Reads advance? s cs s' :=
  loop_eq_some_iff advance? (fun fuel s cs => s.run? fuel cs)
    (fun _ _ _ => run?_succ _ _ _) (fun _ _ _ _ h => (advance?_moves h).2) h

structure Named (s : State) : Prop where
  areNames : ∀ name ∈ s.names, isName name = true
  distinct : s.names.Nodup

theorem Named.of_moves (hs : s.Named) (h : s.Moves s') : s'.Named := by
  cases h with
  | stayed hnames | opened hnames | closed hnames =>
    constructor
    · rw [hnames]
      exact hs.areNames
    · rw [hnames]
      exact hs.distinct
  | named hname hfresh hnames =>
    constructor
    · rw [hnames, List.forall_mem_cons]
      exact ⟨hname, hs.areNames⟩
    · rw [hnames, List.nodup_cons]
      exact ⟨hfresh, hs.distinct⟩

theorem named_of_reads (h : Reads advance? s cs s') (hs : s.Named) : s'.Named := by
  induction h with
  | done h => rwa [advance?_eq_done h]
  | more h _ ih => exact ih (hs.of_moves (advance?_moves h).1)

end State

/-- A text is a pattern if its items lead to its end, where every group is closed and none is nested
too deep. The groups have names of their own then. -/
theorem isValid_iff {text : List Char} : isValid text = true ↔
    ∃ s, Reads State.advance? .initial text s ∧ s.Named ∧ s.outer = [] ∧
      s.body.depth ≤ nestingLimit := by
  have hinitial : State.initial.Named := ⟨nofun, List.nodup_nil⟩
  have hrun {s : State} : State.initial.run? (text.length + 1) text = some s ↔
      Reads State.advance? .initial text s := State.run?_eq_some_iff (Nat.lt_succ_self _)
  rw [isValid]
  cases hread : State.initial.run? (text.length + 1) text with
  | none =>
    refine iff_of_false nofun ?_
    rintro ⟨s, hs, -⟩
    cases hread.symm.trans (hrun.2 hs)
  | some s =>
    simp only [Bool.and_eq_true, List.isEmpty_iff, decide_eq_true_eq]
    constructor
    · rintro ⟨houter, hdepth⟩
      have hs := hrun.1 hread
      exact ⟨s, hs, State.named_of_reads hs hinitial, houter, hdepth⟩
    · rintro ⟨t, ht, -, houter, hdepth⟩
      cases hread.symm.trans (hrun.2 ht)
      exact ⟨houter, hdepth⟩

end SymbolIndex.Pattern
