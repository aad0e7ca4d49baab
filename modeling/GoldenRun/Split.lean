/-!
# Cutting a list at its separators

`cut p xs` is the list of stretches of `xs` between the elements that `p` marks. There is always one
stretch more than there are separators, so stretches may be empty: `cut` loses nothing but the
separators themselves. Paths are cut at slashes, command strings at blanks.

* `join_cut`: with a single separator, joining the stretches gives the list back.
* `not_mem_cut`: no stretch holds a separator.
* `cut_append_cons`: what stands before a separator and what stands behind it are cut apart.
-/

namespace GoldenRun

variable {α : Type}

/-- The stretches of a list between the elements that `p` marks. -/
def cut (p : α → Bool) : List α → List (List α)
  | [] => [[]]
  | x :: xs =>
    if p x then [] :: cut p xs
    else
      match cut p xs with
      | [] => [[x]]
      | piece :: pieces => (x :: piece) :: pieces

/-- The stretches written one after the other with `s` between them. -/
def join (s : α) : List (List α) → List α
  | [] => []
  | [piece] => piece
  | piece :: next :: pieces => piece ++ s :: join s (next :: pieces)

@[simp] theorem cut_nil (p : α → Bool) : cut p [] = [[]] := rfl

/-- There is always a first stretch. -/
theorem cut_ne_nil (p : α → Bool) (xs : List α) : cut p xs ≠ [] := by
  cases xs with
  | nil => simp [cut]
  | cons x xs =>
    rw [cut]
    split
    · simp
    · split <;> simp

/-- A marked element closes an empty stretch. -/
theorem cut_cons_of_pos {p : α → Bool} {x : α} (h : p x = true) (xs : List α) :
    cut p (x :: xs) = [] :: cut p xs := by
  simp [cut, h]

/-- An unmarked element belongs to the first stretch. -/
theorem cut_cons_of_neg {p : α → Bool} {x : α} (h : p x = false) (xs : List α) :
    ∃ piece pieces, cut p xs = piece :: pieces ∧ cut p (x :: xs) = (x :: piece) :: pieces := by
  cases hc : cut p xs with
  | nil => exact absurd hc (cut_ne_nil p xs)
  | cons piece pieces => exact ⟨piece, pieces, rfl, by simp [cut, h, hc]⟩

@[simp] theorem join_nil (s : α) : join s [] = [] := rfl

@[simp] theorem join_singleton (s : α) (piece : List α) : join s [piece] = piece := rfl

/-- Joining with a stretch in front, when something follows. -/
theorem join_cons (s : α) (piece : List α) {pieces : List (List α)} (h : pieces ≠ []) :
    join s (piece :: pieces) = piece ++ s :: join s pieces := by
  cases pieces with
  | nil => exact absurd rfl h
  | cons next pieces => rfl

/-- Cutting at one separator and joining with it gives the list back. -/
theorem join_cut [BEq α] [LawfulBEq α] (s : α) (xs : List α) : join s (cut (· == s) xs) = xs := by
  induction xs with
  | nil => rfl
  | cons x xs ih =>
    cases hx : (x == s) with
    | true =>
      rw [cut_cons_of_pos (p := (· == s)) hx, join_cons s [] (cut_ne_nil _ xs), ih,
        eq_of_beq hx]
      rfl
    | false =>
      obtain ⟨piece, pieces, h₁, h₂⟩ := cut_cons_of_neg (p := (· == s)) hx xs
      rw [h₂]
      rw [h₁] at ih
      cases pieces with
      | nil => rw [join_singleton] at ih ⊢; rw [ih]
      | cons next pieces =>
        rw [join_cons s _ (by simp)] at ih ⊢
        rw [List.cons_append, ih]

/-- Without a separator there is one stretch. -/
theorem cut_of_none {p : α → Bool} {xs : List α} (h : ∀ x ∈ xs, p x = false) : cut p xs = [xs] := by
  induction xs with
  | nil => rfl
  | cons x xs ih =>
    have hxs : cut p xs = [xs] := ih fun y hy => h y (List.mem_cons_of_mem _ hy)
    simp [cut, h x List.mem_cons_self, hxs]

/-- The two sides of a separator are cut on their own. -/
theorem cut_append_cons {p : α → Bool} {s : α} (h : p s = true) (xs ys : List α) :
    cut p (xs ++ s :: ys) = cut p xs ++ cut p ys := by
  induction xs with
  | nil => rw [List.nil_append, cut_cons_of_pos h, cut_nil]; rfl
  | cons x xs ih =>
    cases hx : p x with
    | true => rw [List.cons_append, cut_cons_of_pos hx, cut_cons_of_pos hx, ih, List.cons_append]
    | false =>
      obtain ⟨piece, pieces, h₁, h₂⟩ := cut_cons_of_neg hx xs
      rw [h₂, List.cons_append, cut, if_neg (by simp [hx]), ih, h₁]
      rfl

/-- No stretch holds a separator. -/
theorem not_mem_cut {p : α → Bool} {xs piece : List α} (h : piece ∈ cut p xs) {x : α}
    (hx : x ∈ piece) : p x = false := by
  induction xs generalizing piece with
  | nil =>
    rw [cut_nil, List.mem_singleton] at h
    subst h
    cases hx
  | cons y ys ih =>
    cases hy : p y with
    | true =>
      rw [cut_cons_of_pos hy, List.mem_cons] at h
      rcases h with rfl | h
      · cases hx
      · exact ih h hx
    | false =>
      obtain ⟨first, pieces, h₁, h₂⟩ := cut_cons_of_neg hy ys
      rw [h₂, List.mem_cons] at h
      rcases h with rfl | h
      · rcases List.mem_cons.1 hx with rfl | hx
        · exact hy
        · exact ih (h₁ ▸ List.mem_cons_self) hx
      · exact ih (h₁ ▸ List.mem_cons_of_mem _ h) hx

end GoldenRun
