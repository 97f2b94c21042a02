import SymbolIndex.Text.Split

/-! # What splitting undoes

Parts that do not hold the separator are what their joined text is split into, and no other parts
are. The separators that a text holds tell the number of its parts.
-/
namespace SymbolIndex.Text

variable {α : Type} [DecidableEq α] {sep : α}

theorem split_of_not_mem {part : List α} (h : sep ∉ part) : split sep part = [part] := by
  induction part with
  | nil => rfl
  | cons x part ih =>
    obtain ⟨hx, hp⟩ := not_or.1 (mt List.mem_cons.2 h)
    simp [split, Ne.symm hx, ih hp]

theorem split_append {part : List α} (h : sep ∉ part) (xs : List α) :
    split sep (part ++ sep :: xs) = part :: split sep xs := by
  induction part with
  | nil => simp [split]
  | cons x part ih =>
    obtain ⟨hx, hp⟩ := not_or.1 (mt List.mem_cons.2 h)
    simp [split, Ne.symm hx, ih hp]

theorem split_append_split (xs ys : List α) :
    split sep (xs ++ sep :: ys) = split sep xs ++ split sep ys := by
  induction xs with
  | nil => simp [split]
  | cons x xs ih =>
    by_cases hx : x = sep
    · simp [split, hx, ih]
    · obtain ⟨part, parts, hs⟩ := List.exists_cons_of_ne_nil (split_ne_nil sep xs)
      rw [hs] at ih
      simp [split, hx, ih, hs]

theorem split_prepend {part first : List α} {later : List (List α)} (h : sep ∉ part) {xs : List α}
    (hsplit : split sep xs = first :: later) : split sep (part ++ xs) = (part ++ first) :: later := by
  induction part with
  | nil => exact hsplit
  | cons x part ih =>
    obtain ⟨hx, hp⟩ := not_or.1 (mt List.mem_cons.2 h)
    simp [split, Ne.symm hx, ih hp]

/-- Items may be replaced by lists before or after splitting, if only `sep` becomes a separator. -/
theorem split_flatMap {β : Type} [DecidableEq β] {sep' : β} {f : α → List β} (hsep : f sep = [sep'])
    (h : ∀ x, x ≠ sep → sep' ∉ f x) (xs : List α) :
    split sep' (xs.flatMap f) = (split sep xs).map (List.flatMap f) := by
  induction xs with
  | nil => rfl
  | cons x xs ih =>
    obtain ⟨first, later, hs⟩ := List.exists_cons_of_ne_nil (split_ne_nil sep xs)
    by_cases hx : x = sep
    · simp [split, hx, hsep, ih]
    · rw [hs, List.map_cons] at ih
      rw [List.flatMap_cons, split_prepend (h x hx) ih]
      simp [split, hx, hs]

theorem length_split (sep : α) (xs : List α) : (split sep xs).length = xs.count sep + 1 := by
  induction xs with
  | nil => rfl
  | cons x xs ih =>
    by_cases hx : x = sep
    · simp [split, hx, ih]
    · obtain ⟨part, parts, hs⟩ := List.exists_cons_of_ne_nil (split_ne_nil sep xs)
      rw [hs] at ih
      rw [split, if_neg hx, hs, List.count_cons_of_ne hx]
      exact ih

theorem join_cons {β : Type} (sep : β) (part : List β) (parts : List (List β)) :
    join sep (part :: parts) = part ++ parts.flatMap (sep :: ·) := by
  induction parts generalizing part with
  | nil => simp [join]
  | cons next parts ih => rw [join, ih, List.flatMap_cons, List.cons_append]

theorem exists_split (sep : α) (xs : List α) :
    ∃ first later, split sep xs = first :: later ∧ sep ∉ first ∧
      xs = first ++ later.flatMap (sep :: ·) := by
  obtain ⟨first, later, h⟩ := List.exists_cons_of_ne_nil (split_ne_nil sep xs)
  have hfirst : sep ∉ first := not_mem_of_mem_split (by rw [h]; exact List.mem_cons_self)
  refine ⟨first, later, h, hfirst, ?_⟩
  rw [← join_cons, ← h, join_split]

theorem split_join {parts : List (List α)} (hne : parts ≠ []) (h : ∀ part ∈ parts, sep ∉ part) :
    split sep (join sep parts) = parts := by
  induction parts with
  | nil => exact absurd rfl hne
  | cons part parts ih =>
    have hp := h part List.mem_cons_self
    cases parts with
    | nil => exact split_of_not_mem hp
    | cons next parts =>
      rw [join, split_append hp, ih (by simp)]
      intro q hq
      exact h q (List.mem_cons_of_mem _ hq)

theorem split_eq_iff {xs : List α} {parts : List (List α)} :
    split sep xs = parts ↔
      xs = join sep parts ∧ parts ≠ [] ∧ ∀ part ∈ parts, sep ∉ part := by
  constructor
  · rintro rfl
    exact ⟨(join_split sep xs).symm, split_ne_nil sep xs, fun _ => not_mem_of_mem_split⟩
  · rintro ⟨rfl, hne, h⟩
    exact split_join hne h

end SymbolIndex.Text
