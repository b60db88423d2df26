import SecretScan.Pattern.Parser
import Mathlib.Data.List.TakeDrop
import Mathlib.Tactic.SplitIfs

/-!
# In front of a closing parenthesis

A written pattern is read from its beginning, and each reader takes as much as belongs to its
item. So a parenthesis behind the pattern is still there when the pattern has been read, unless a
comment has swallowed it. What is refused by itself is refused in front of a parenthesis too, or
else the reader has taken the parenthesis for a part of its item; then nothing can follow that
would end well.
-/

namespace SecretScan.Pattern

open SecretScan.Unicode

/-- A text of so many characters at most, and the same text with a closing parenthesis behind it
or with none. -/
inductive Tail : Nat → List Char → List Char → Prop
  | lost (n : Nat) : Tail n [] []
  | closed (n : Nat) : Tail n [] [')']
  | cons {n : Nat} {text text' : List Char} (c : Char) (h : Tail n text text') :
      Tail (n + 1) (c :: text) (c :: text')

variable {n m : Nat} {text text' : List Char} {f : Flags}

namespace Tail

theorem append (text : List Char) : Tail text.length text (text ++ [')']) := by
  induction text with
  | nil => exact .closed 0
  | cons c text ih => exact .cons c ih

theorem length_le (h : Tail n text text') : text.length ≤ n := by
  induction h with
  | lost n => exact Nat.zero_le n
  | closed n => exact Nat.zero_le n
  | cons c _ ih => exact Nat.succ_le_succ ih

theorem mono (h : Tail n text text') (hle : n ≤ m) : Tail m text text' := by
  induction h generalizing m with
  | lost n => exact .lost m
  | closed n => exact .closed m
  | cons c _ ih =>
      obtain ⟨m, rfl⟩ := Nat.exists_eq_add_of_le' (Nat.le_of_add_left_le hle)
      exact .cons c (ih (Nat.le_of_succ_le_succ hle))

theorem exact (h : Tail n text text') : Tail text.length text text' := by
  induction h with
  | lost n => exact .lost 0
  | closed n => exact .closed 0
  | cons c _ ih => exact .cons c ih

theorem length_le_length (h : Tail n text text') : text.length ≤ text'.length := by
  induction h with
  | lost n => exact Nat.le_refl 0
  | closed n => exact Nat.zero_le 1
  | cons c _ ih => exact Nat.succ_le_succ ih

/-- Any other character comes next just if it comes next in both texts. -/
theorem head?_eq_iff (h : Tail n text text') {x : Char} (hx : x ≠ ')') :
    text'.head? = some x ↔ text.head? = some x := by
  cases h with
  | lost => exact Iff.rfl
  | closed => simp [hx.symm]
  | cons c h => exact Iff.rfl

theorem dropWhile (h : Tail n text text') {p : Char → Bool} (hp : p ')' = false) :
    Tail n (text.dropWhile p) (text'.dropWhile p) := by
  induction h with
  | lost n => exact .lost n
  | closed n => simpa [List.dropWhile_cons, hp] using .closed n
  | @cons n text text' c h ih =>
      rw [List.dropWhile_cons, List.dropWhile_cons]
      split
      · exact ih.mono (Nat.le_succ n)
      · exact .cons c h

theorem dropBlanks (h : Tail n text text') (inComment : Bool) :
    Tail n (dropBlanks inComment text) (Pattern.dropBlanks inComment text') := by
  induction h generalizing inComment with
  | lost n => exact .lost n
  | closed n =>
      -- Here a comment swallows the parenthesis.
      cases inComment with
      | true => exact .lost n
      | false => exact .closed n
  | @cons n text text' c h ih =>
      rw [Pattern.dropBlanks, Pattern.dropBlanks]
      split_ifs
      · exact (ih _).mono (Nat.le_succ n)
      · exact (ih _).mono (Nat.le_succ n)
      · exact (ih _).mono (Nat.le_succ n)
      · exact .cons c h

theorem skip (h : Tail n text text') (f : Flags) : Tail n (f.skip text) (f.skip text') := by
  rw [Flags.skip, Flags.skip]
  split
  · exact h.dropBlanks false
  · exact h

/-- What comes next: nothing in either text, the parenthesis, or the same character in both. -/
theorem skip_cases (h : Tail n text text') (f : Flags) :
    (f.skip text = [] ∧ f.skip text' = []) ∨ (f.skip text = [] ∧ f.skip text' = [')']) ∨
      ∃ m c rest rest', n = m + 1 ∧ f.skip text = c :: rest ∧ f.skip text' = c :: rest' ∧
        Tail m rest rest' := by
  replace h := h.skip f
  generalize f.skip text = text, f.skip text' = text' at h ⊢
  cases h with
  | lost => exact Or.inl ⟨rfl, rfl⟩
  | closed => exact Or.inr (Or.inl ⟨rfl, rfl⟩)
  | @cons m rest rest' c h => exact Or.inr (Or.inr ⟨m, c, rest, rest', rfl, rfl, rfl, h⟩)

/-- Up to a mark both texts are the same, and the parenthesis is behind it; or there is no mark. -/
theorem span (h : Tail n text text') {p : Char → Bool} (hp : p ')' = true) :
    ((text.span p).2 = [] ∧ (text'.span p).2 = []) ∨
      ∃ name mark rest rest', text.span p = (name, mark :: rest) ∧
        text'.span p = (name, mark :: rest') ∧ Tail n rest rest' := by
  induction h with
  | lost n => exact Or.inl ⟨rfl, rfl⟩
  | closed n => exact Or.inl ⟨rfl, by simp [List.span_eq_takeWhile_dropWhile, hp]⟩
  | @cons n text text' c h ih =>
      simp only [List.span_eq_takeWhile_dropWhile, List.takeWhile_cons, List.dropWhile_cons,
        Prod.mk.injEq] at ih ⊢
      by_cases hc : p c = true
      · simp only [hc, if_true]
        rcases ih with hnone | ⟨name, mark, rest, rest', ⟨hname, hrest⟩, ⟨hname', hrest'⟩, htail⟩
        · exact Or.inl hnone
        · exact Or.inr ⟨c :: name, mark, rest, rest', ⟨congrArg _ hname, hrest⟩,
            ⟨congrArg _ hname', hrest'⟩, htail.mono (Nat.le_succ n)⟩
      · simp only [hc]
        exact Or.inr ⟨[], c, text, text', ⟨rfl, rfl⟩, ⟨rfl, rfl⟩, h.mono (Nat.le_succ n)⟩

end Tail

/-! ## Comparing readers -/

/-- How what a reader makes of a text compares with what it makes of the text with a parenthesis
behind it: either both are read, or both are refused, or the reader has only come so far with the
parenthesis. -/
inductive Alike {α : Type} (R : α → α → Prop) (late : α → Prop) :
    Except Fault α → Except Fault α → Prop
  | read {a b : α} (h : R a b) : Alike R late (.ok a) (.ok b)
  | refused (e e' : Fault) : Alike R late (.error e) (.error e')
  | late (e : Fault) {b : α} (h : late b) : Alike R late (.error e) (.ok b)

/-- The same has been read, and the rests compare as the texts did. -/
def Same {α : Type} (n : Nat) (a b : α × List Char) : Prop := a.1 = b.1 ∧ Tail n a.2 b.2

theorem Same.mono {α : Type} {a b : α × List Char} (h : Same n a b) (hle : n ≤ m) : Same m a b :=
  ⟨h.1, h.2.mono hle⟩

/-- The same for readers with two results. -/
def Same₂ {α β : Type} (n : Nat) (a b : α × β × List Char) : Prop :=
  a.1 = b.1 ∧ a.2.1 = b.2.1 ∧ Tail n a.2.2 b.2.2

/-- The parenthesis never makes a difference. -/
def Never {α : Type} (_ : α) : Prop := False

namespace Alike

variable {α β : Type} {R R' : α → α → Prop} {late late' : α → Prop} {a b : Except Fault α}

theorem mono (h : Alike R late a b) (hR : ∀ x y, R x y → R' x y) (hlate : ∀ y, late y → late' y) :
    Alike R' late' a b := by
  cases h with
  | read h => exact .read (hR _ _ h)
  | refused e e' => exact .refused e e'
  | late e h => exact .late e (hlate _ h)

theorem of_error {R : α → α → Prop} {late : α → Prop} (e : Fault) {b : Except Fault α}
    (h : ∃ e', b = .error e') : Alike R late (.error e) b := by
  obtain ⟨e', rfl⟩ := h
  exact .refused e e'

theorem bind {S : β → β → Prop} {then' : β → Prop} {g g' : α → Except Fault β}
    (h : Alike R late a b) (hread : ∀ x y, R x y → Alike S then' (g x) (g' y))
    (hlate : ∀ e y, late y → Alike S then' (.error e) (g' y)) :
    Alike S then' (a >>= g) (b >>= g') := by
  cases h with
  | read h => exact hread _ _ h
  | refused e e' => exact .refused e e'
  | late e h => exact hlate e _ h

theorem map {S : β → β → Prop} {then' : β → Prop} {g g' : α → β} (h : Alike R late a b)
    (hread : ∀ x y, R x y → S (g x) (g' y)) (hlate : ∀ y, late y → then' (g' y)) :
    Alike S then' (a.map g) (b.map g') := by
  cases h with
  | read h => exact .read (hread _ _ h)
  | refused e e' => exact .refused e e'
  | late e h => exact .late e (hlate _ h)

/-- What does not depend on the text is the same for both. -/
theorem bind_same {S : β → β → Prop} {then' : β → Prop} {g g' : α → Except Fault β}
    (a : Except Fault α) (hread : ∀ x, Alike S then' (g x) (g' x)) :
    Alike S then' (a >>= g) (a >>= g') := by
  cases a with
  | error e => exact .refused e e
  | ok x => exact hread x

theorem map_same {S : β → β → Prop} {then' : β → Prop} {g g' : α → β} (a : Except Fault α)
    (hread : ∀ x, S (g x) (g' x)) : Alike S then' (a.map g) (a.map g') := by
  cases a with
  | error e => exact .refused e e
  | ok x => exact .read (hread x)

theorem bind_late {S : β → β → Prop} {then' : β → Prop} {g : α → Except Fault β} (e : Fault)
    (a : Except Fault α) (h : ∀ x, Alike S then' (.error e) (g x)) :
    Alike S then' (.error e) (a >>= g) := by
  cases a with
  | error e' => exact .refused e e'
  | ok x => exact h x

end Alike

end SecretScan.Pattern
