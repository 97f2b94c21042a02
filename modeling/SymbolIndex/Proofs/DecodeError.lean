import SymbolIndex.Identifier
import SymbolIndex.Proofs.Text.Hexadecimal

/-! # What the message of a decode error tells

A scalar in its escaped form can be told from whatever follows it, and no such form starts with a
quote. Quoted text therefore ends where its own closing quote stands, whatever stands inside and
behind it. A message begins with the kind of error, and the reason starts behind the closing quote of
the text that was refused, even if the text itself looks like a reason.
-/
namespace SymbolIndex.Quoted

def lettered : List Char := ['\x22', '\\', '\x00', '\t', '\r', '\n']

def meaning (c : Char) : Char :=
  if c = '0' then '\x00'
  else if c = 't' then '\t'
  else if c = 'r' then '\r'
  else if c = 'n' then '\n'
  else c

/-- The scalar in front, read back from its escaped form, and the rest; a quote in front ends the
text. -/
def unescape : List Char → Option (Char × List Char)
  | [] => none
  | '\\' :: 'u' :: '\x7b' :: cs =>
    some (Char.ofNat (Hexadecimal.number (cs.takeWhile (· ≠ '\x7d'))),
      (cs.dropWhile (· ≠ '\x7d')).drop 1)
  | '\\' :: c :: cs => some (meaning c, cs)
  | c :: cs => if c = '\x22' then none else some (c, cs)

variable {a b x y : List Char}

theorem unescape_quote (x : List Char) : unescape ('\x22' :: x) = none := rfl

theorem unescape_plain {c : Char} (hslash : c ≠ '\\') (hquote : c ≠ '\x22') (x : List Char) :
    unescape (c :: x) = some (c, x) := by
  simp [unescape, hslash, hquote]

theorem unescape_number (c : Char) (x : List Char) :
    unescape ('\\' :: 'u' :: '\x7b' :: (Nat.toDigits 16 c.toNat ++ '\x7d' :: x)) = some (c, x) := by
  have hdigits : ∀ d ∈ Nat.toDigits 16 c.toNat, d ≠ '\x7d' := by
    rintro d hd rfl
    exact absurd (Hexadecimal.mem_toDigits hd) (by decide)
  have htake : (Nat.toDigits 16 c.toNat ++ '\x7d' :: x).takeWhile (· ≠ '\x7d') =
      Nat.toDigits 16 c.toNat := by
    rw [List.takeWhile_append_of_pos (by simpa using hdigits)]
    simp
  have hdrop : (Nat.toDigits 16 c.toNat ++ '\x7d' :: x).dropWhile (· ≠ '\x7d') = '\x7d' :: x := by
    rw [List.dropWhile_append_of_pos (by simpa using hdigits)]
    simp
  rw [unescape, htake, hdrop, Hexadecimal.number_toDigits, Char.ofNat_toNat, List.drop_one,
    List.tail_cons]

theorem escape_of_not_lettered {c : Char} (h : c ∉ lettered) : escape c =
    if Text.isUnprintable c then ['\\', 'u', '\x7b'] ++ Nat.toDigits 16 c.toNat ++ ['\x7d']
    else [c] := by
  simp only [lettered, List.mem_cons, List.not_mem_nil, or_false, not_or] at h
  obtain ⟨hquote, hslash, hnull, htab, hreturn, hline⟩ := h
  rw [escape, if_neg (not_or.2 ⟨hquote, hslash⟩), if_neg hnull, if_neg htab, if_neg hreturn,
    if_neg hline]

theorem unescape_escape (c : Char) (x : List Char) : unescape (escape c ++ x) = some (c, x) := by
  by_cases h : c ∈ lettered
  · simp only [lettered, List.mem_cons, List.not_mem_nil, or_false] at h
    rcases h with rfl | rfl | rfl | rfl | rfl | rfl <;> rfl
  rw [escape_of_not_lettered h]
  by_cases hescaped : Text.isUnprintable c
  · rw [if_pos hescaped, List.append_assoc, List.append_assoc]
    exact unescape_number c x
  · rw [if_neg hescaped]
    apply unescape_plain
    · rintro rfl
      exact h (by decide)
    · rintro rfl
      exact h (by decide)

theorem escape_append_inj {c d : Char} (h : escape c ++ x = escape d ++ y) : c = d ∧ x = y := by
  have hread : some (c, x) = some (d, y) := by
    rw [← unescape_escape c x, h, unescape_escape]
  cases hread
  exact ⟨rfl, rfl⟩

theorem escape_append_ne_quote (c : Char) : escape c ++ x ≠ '\x22' :: y := by
  intro h
  have hread := unescape_escape c x
  rw [h, unescape_quote] at hread
  cases hread

theorem escaped_append_inj
    (h : a.flatMap escape ++ '\x22' :: x = b.flatMap escape ++ '\x22' :: y) : a = b ∧ x = y := by
  induction a generalizing b with
  | nil =>
    cases b with
    | nil =>
      cases h
      exact ⟨rfl, rfl⟩
    | cons d b =>
      rw [List.flatMap_cons, List.append_assoc] at h
      exact absurd h.symm (escape_append_ne_quote d)
  | cons c a ih =>
    rw [List.flatMap_cons, List.append_assoc] at h
    cases b with
    | nil => exact absurd h (escape_append_ne_quote c)
    | cons d b =>
      rw [List.flatMap_cons, List.append_assoc] at h
      obtain ⟨rfl, htail⟩ := escape_append_inj h
      obtain ⟨rfl, rfl⟩ := ih htail
      exact ⟨rfl, rfl⟩

theorem quote_append_inj {s t u v : String} :
    quote s ++ u = quote t ++ v ↔ s = t ∧ u = v := by
  constructor
  · intro h
    have hlist := congrArg String.toList h
    simp only [quote, String.toList_append, String.toList_ofList, List.cons_append,
      List.append_assoc, List.cons.injEq, true_and, List.nil_append] at hlist
    obtain ⟨htext, hrest⟩ := escaped_append_inj hlist
    exact ⟨String.toList_injective htext, String.toList_injective hrest⟩
  · rintro ⟨rfl, rfl⟩
    rfl

theorem quote_inj {s t : String} : quote s = quote t ↔ s = t := by
  constructor
  · intro h
    exact (quote_append_inj.1 (congrArg (· ++ "") h)).1
  · rintro rfl
    rfl

end SymbolIndex.Quoted

namespace SymbolIndex.DecodeError

open Quoted (quote)

def initial : DecodeError → Char
  | invalidOccName _ => 'O'
  | expectedText _ => 'E'
  | invalidFingerprint _ _ => 'F'
  | invalidSymbol _ _ => 'S'

theorem head?_message (e : DecodeError) : e.message.toList.head? = some e.initial := by
  unfold message
  cases e with
  | expectedText | invalidOccName =>
    rw [String.toList_append]
    rfl
  | invalidFingerprint | invalidSymbol =>
    simp only [String.append_assoc]
    rw [String.toList_append]
    rfl

theorem initial_eq_of_message_eq {e₁ e₂ : DecodeError} (h : e₁.message = e₂.message) :
    e₁.initial = e₂.initial := by
  have hhead := head?_message e₁
  rw [h, head?_message] at hhead
  exact (Option.some.inj hhead).symm

theorem quoted_reason_inj {before s t r q : String}
    (h : before ++ quote s ++ " (" ++ r ++ ")" = before ++ quote t ++ " (" ++ q ++ ")") :
    s = t ∧ r = q := by
  simp only [String.append_assoc, String.append_right_inj] at h
  obtain ⟨rfl, hreason⟩ := Quoted.quote_append_inj.1 h
  rw [String.append_right_inj, String.append_left_inj] at hreason
  exact ⟨rfl, hreason⟩

/-- The first letter tells the kind of error, and the rest of the message what it carries. -/
theorem message_eq_iff (e₁ e₂ : DecodeError) : e₁.message = e₂.message ↔ e₁ = e₂ := by
  constructor
  · intro h
    have hinitial := initial_eq_of_message_eq h
    cases e₁ with
    | invalidOccName encoded =>
      cases e₂ with
      | invalidOccName other =>
        unfold message at h
        rw [String.append_right_inj] at h
        rw [Quoted.quote_inj.1 h]
      | _ => simp [initial] at hinitial
    | expectedText what =>
      cases e₂ with
      | expectedText other =>
        unfold message at h
        rw [(String.append_right_inj _).1 h]
      | _ => simp [initial] at hinitial
    | invalidFingerprint text reason =>
      cases e₂ with
      | invalidFingerprint other reason' =>
        obtain ⟨rfl, rfl⟩ := quoted_reason_inj h
        rfl
      | _ => simp [initial] at hinitial
    | invalidSymbol key reason =>
      cases e₂ with
      | invalidSymbol other reason' =>
        obtain ⟨rfl, rfl⟩ := quoted_reason_inj h
        rfl
      | _ => simp [initial] at hinitial
  · rintro rfl
    rfl

end SymbolIndex.DecodeError
