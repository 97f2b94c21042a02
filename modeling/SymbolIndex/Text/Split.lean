/-! # Splitting at a separator

`split sep xs` lists the parts of `xs` between the occurrences of `sep`. There is always at least
one part, no part holds the separator, and joining the parts with it gives `xs` back.
-/
namespace SymbolIndex.Text

variable {α : Type} [DecidableEq α]

def split (sep : α) : List α → List (List α)
  | [] => [[]]
  | x :: xs =>
    if x = sep then [] :: split sep xs
    else
      match split sep xs with
      | [] => [[x]]
      | part :: parts => (x :: part) :: parts

def join (sep : α) : List (List α) → List α
  | [] => []
  | [part] => part
  | part :: next :: parts => part ++ sep :: join sep (next :: parts)

theorem split_ne_nil (sep : α) (xs : List α) : split sep xs ≠ [] := by
  cases xs with
  | nil => simp [split]
  | cons x xs =>
    simp only [split]
    split
    · simp
    · split <;> simp

theorem join_split (sep : α) (xs : List α) : join sep (split sep xs) = xs := by
  induction xs with
  | nil => rfl
  | cons x xs ih =>
    obtain ⟨part, parts, h⟩ := List.exists_cons_of_ne_nil (split_ne_nil sep xs)
    rw [h] at ih
    by_cases hx : x = sep
    · simp [split, hx, h, join, ih]
    · cases parts with
      | nil => simp_all [split, join]
      | cons next parts => simp_all [split, join]

theorem not_mem_of_mem_split {sep : α} {xs part : List α} (h : part ∈ split sep xs) :
    sep ∉ part := by
  induction xs generalizing part with
  | nil => simp_all [split]
  | cons x xs ih =>
    obtain ⟨first, parts, hs⟩ := List.exists_cons_of_ne_nil (split_ne_nil sep xs)
    rw [hs] at ih
    by_cases hx : x = sep
    · simp only [split, hx, hs, if_true, List.mem_cons] at h
      rcases h with rfl | h
      · simp
      · exact ih (by simpa using h)
    · simp only [split, hx, hs, if_false, List.mem_cons] at h
      rcases h with rfl | h
      · have := ih (List.mem_cons_self ..)
        simp [this, Ne.symm hx]
      · exact ih (List.mem_cons_of_mem _ h)

end SymbolIndex.Text
