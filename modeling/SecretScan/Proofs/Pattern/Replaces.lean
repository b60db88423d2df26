import SecretScan.Proofs.Pattern.Complete
import SecretScan.Proofs.Text.Occurrence

/-!
# Where a stretch of the result comes from

Replacing the matches of a pattern leaves the gaps between them. A stretch of the result without
brackets stands within the word that a replacement puts in brackets, or within such a gap, and
there it stood in the text before. Only at the ends of a gap it has got other neighbours.
-/

namespace SecretScan

namespace Pattern

/-- One text becomes another by replacing the successive matches of a pattern, where the character
given stands before it. -/
inductive Replaces (p : Pattern) (replacement : List Char) :
    Option Char → List Char → List Char → Prop
  | rest {before : Option Char} {text : List Char} (nothing : p.TakesNothing before text) :
      Replaces p replacement before text text
  | found {before : Option Char} {gap w text result : List Char}
      (takes : p.Takes (gap.getLast?.or before) w text.head?)
      (nothing : p.TakesNothingFrom before gap (w ++ text))
      (greedy : ∀ s ∈ p.greedyEnd?, ∀ x ∈ text.head?, s.mem x = false)
      (later : Replaces p replacement (w.getLast?.or (gap.getLast?.or before)) text result) :
      Replaces p replacement before (gap ++ (w ++ text)) (gap ++ (replacement ++ result))

variable {p : Pattern} {replacement : List Char}

theorem replaces_replaced (hp : 0 < p.minLength) {n : Nat} {c : Cursor}
    (hn : c.rest.length < n) :
    p.Replaces replacement c.before c.rest (p.replaced replacement n c) := by
  induction n generalizing c with
  | zero => exact absurd hn (Nat.not_lt_zero _)
  | succ n ih =>
      cases hfind : p.findAfter? c with
      | none =>
          rw [replaced_of_none hfind]
          exact .rest (takesNothing_of_findFrom? hfind)
      | some m =>
          obtain ⟨gap, w, hgap, hw, htakes, hgreedy, hnothing⟩ := takes_of_findFrom? hfind
          have hlt := length_rest_lt_of_findAfter? hp hfind
          have hlater := ih (c := m.whole.last) (by omega)
          rw [hw.before_eq, hgap.before_eq] at hlater
          rw [replaced_of_some hfind hgap]
          have htext : c.rest = gap ++ (w ++ m.whole.last.rest) :=
            hgap.rest_eq.trans (by rw [hw.rest_eq])
          rw [htext]
          exact .found htakes hnothing hgreedy hlater

theorem replaces_replaceAll (hp : 0 < p.minLength) (replacement text : List Char) :
    p.Replaces replacement none text (p.replaceAll replacement text) := by
  rw [replaceAll_eq hp replacement (Nat.lt_succ_self text.length)]
  exact replaces_replaced (c := .atStart text) hp (Nat.lt_succ_self text.length)

/-- What stands between two replacements, or between one and an end of the text: what comes before
and behind it in the text, and with a prime in the result. -/
structure Gap (p : Pattern) (replacement : List Char) (before : Option Char)
    (text result front front' gap back back' : List Char) : Prop where
  text_eq : text = front ++ (gap ++ back)
  result_eq : result = front' ++ (gap ++ back')
  nothing : p.TakesNothingFrom (front.getLast?.or before) gap back
  behind : (front = [] ∧ front' = []) ∨ ∃ a m a', front = a ++ m ∧ front' = a' ++ replacement ∧
    p.Takes (a.getLast?.or before) m (gap ++ back).head? ∧
    ∀ s ∈ p.greedyEnd?, ∀ x ∈ (gap ++ back).head?, s.mem x = false
  ahead : (back = [] ∧ back' = []) ∨ ∃ m b b', back = m ++ b ∧ back' = replacement ++ b' ∧
    p.Takes (gap.getLast?.or (front.getLast?.or before)) m b.head?

theorem getLast?_append_append_or {α : Type} (a b c : List α) (before : Option α) :
    (a ++ (b ++ c)).getLast?.or before = c.getLast?.or (b.getLast?.or (a.getLast?.or before)) := by
  simp [List.getLast?_append, Option.or_assoc]

/-- A gap behind the first replacement, seen from the beginning of the text. -/
theorem Gap.later {before : Option Char}
    {first w text result front front' gap back back' : List Char}
    (htakes : p.Takes (first.getLast?.or before) w text.head?)
    (hgreedy : ∀ s ∈ p.greedyEnd?, ∀ x ∈ text.head?, s.mem x = false)
    (h : Gap p replacement (w.getLast?.or (first.getLast?.or before)) text result front front' gap
      back back') :
    Gap p replacement before (first ++ (w ++ text)) (first ++ (replacement ++ result))
      (first ++ (w ++ front)) (first ++ (replacement ++ front')) gap back back' where
  text_eq := by simp [h.text_eq]
  result_eq := by simp [h.result_eq]
  nothing := by
    rw [getLast?_append_append_or]
    exact h.nothing
  behind := by
    refine Or.inr ?_
    rcases h.behind with ⟨rfl, rfl⟩ | ⟨a, m, a', rfl, rfl, hm, hmgreedy⟩
    · have htext : text = gap ++ back := h.text_eq
      exact ⟨first, w, first, by simp, by simp, htext ▸ htakes, htext ▸ hgreedy⟩
    · refine ⟨first ++ (w ++ a), m, first ++ (replacement ++ a'), by simp, by simp, ?_, hmgreedy⟩
      rw [getLast?_append_append_or]
      exact hm
  ahead := by
    rw [getLast?_append_append_or]
    exact h.ahead

/-- A stretch of the result that has no brackets stands within the word that replaces matches, or
within a gap. -/
theorem Replaces.exists_gap {before : Option Char} {text result word a x b : List Char}
    (h : p.Replaces ('[' :: (word ++ [']'])) before text result) (hresult : result = a ++ (x ++ b))
    (hx : x ≠ []) (hopen : '[' ∉ x) (hclose : ']' ∉ x) :
    (∃ e e', word = e ++ (x ++ e')) ∨
      ∃ front front' e e' back back', Gap p ('[' :: (word ++ [']'])) before text result front front'
        (e ++ (x ++ e')) back back' ∧ a = front' ++ e ∧ b = e' ++ back' := by
  induction h generalizing a x b with
  | @rest before text hnothing =>
      refine Or.inr ⟨[], [], a, b, [], [], ?_, rfl, (List.append_nil b).symm⟩
      refine ⟨by simp [hresult], by simp [hresult], ?_, Or.inl ⟨rfl, rfl⟩, Or.inl ⟨rfl, rfl⟩⟩
      intro u w v htext _
      rw [List.append_nil, ← hresult] at htext
      exact hnothing u w v htext
  | @found before gap w text result htakes hnothing hgreedy _ ih =>
      have hsplit : gap ++ '[' :: (word ++ ']' :: result) = a ++ (x ++ b) := by
        rw [← hresult]
        simp
      rcases append_cons_eq_append hsplit hopen hx with ⟨e, rfl, hb⟩ | ⟨e, rfl, hrest⟩
      · refine Or.inr ⟨[], [], a, e, w ++ text, _, ?_, rfl, hb⟩
        exact ⟨rfl, by simp, hnothing, Or.inl ⟨rfl, rfl⟩,
          Or.inr ⟨w, text, result, rfl, by simp, htakes⟩⟩
      · rcases append_cons_eq_append hrest hclose hx with ⟨e', hword, -⟩ | ⟨e', rfl, hlater⟩
        · exact Or.inl ⟨e, e', hword⟩
        · refine (ih hlater hx hopen hclose).imp_right ?_
          rintro ⟨front, front', f, f', back, back', hgap, rfl, rfl⟩
          exact ⟨_, _, f, f', back, back', hgap.later htakes hgreedy, by simp, rfl⟩

/-! ## Words in brackets -/

variable {before : Option Char} {text result front front' gap back back' word e : List Char}

/-- A word in brackets that stood right behind a stretch stands there still. -/
theorem Gap.bracketed_ahead (h : Gap p replacement before text result front front' gap back back')
    (hp : 0 < p.minLength) (hopen : p.avoids '[' = true) (hclose : p.avoids ']' = true)
    (hword : p.spellable word = false) (hahead : '[' :: (word ++ [']']) <+: e ++ back) :
    '[' :: (word ++ [']']) <+: e ++ back' := by
  rcases h.ahead with ⟨rfl, rfl⟩ | ⟨m, b, b', rfl, -, hm⟩
  · exact hahead
  obtain ⟨rest, hrest⟩ := hahead
  have hne : m ≠ [] := List.ne_nil_of_length_pos (Nat.lt_of_lt_of_le hp hm.minLength_le)
  -- No match reaches into the word: it has no brackets, and more characters than those of the word.
  have hsplit : [] ++ '[' :: (word ++ ']' :: rest) = e ++ (m ++ b) := by
    rw [← hrest]
    simp
  rcases append_cons_eq_append hsplit (hm.not_mem_of_avoids hopen) hne with
    ⟨f, hnil, -⟩ | ⟨f, rfl, hwithin⟩
  · exact absurd (List.append_eq_nil_iff.mp (List.append_eq_nil_iff.mp hnil.symm).2).1 hne
  · rcases append_cons_eq_append hwithin (hm.not_mem_of_avoids hclose) hne with
      ⟨f', rfl, -⟩ | ⟨f', rfl, -⟩
    · exact absurd (fun x hx => by simp [hx]) (hm.not_forall_mem hword)
    · exact ⟨f' ++ back', by simp⟩

/-- A word in brackets that stood right before a stretch stands there still. -/
theorem Gap.bracketed_behind (h : Gap p replacement before text result front front' gap back back')
    (hp : 0 < p.minLength) (hopen : p.avoids '[' = true) (hclose : p.avoids ']' = true)
    (hword : p.spellable word = false) (hbehind : '[' :: (word ++ [']']) <:+ front ++ e) :
    '[' :: (word ++ [']']) <:+ front' ++ e := by
  rcases h.behind with ⟨rfl, rfl⟩ | ⟨a, m, a', rfl, -, hm, -⟩
  · exact hbehind
  obtain ⟨rest, hrest⟩ := hbehind
  have hne : m ≠ [] := List.ne_nil_of_length_pos (Nat.lt_of_lt_of_le hp hm.minLength_le)
  have hsplit : rest ++ '[' :: (word ++ [']']) = a ++ (m ++ e) := by
    rw [hrest, List.append_assoc]
  rcases append_cons_eq_append hsplit (hm.not_mem_of_avoids hopen) hne with
    ⟨f, -, rfl⟩ | ⟨f, rfl, hwithin⟩
  · exact ⟨front' ++ f, by simp⟩
  · rcases append_cons_eq_append hwithin (hm.not_mem_of_avoids hclose) hne with
      ⟨f', rfl, -⟩ | ⟨f', -, hnil⟩
    · exact absurd (fun x hx => by simp [hx]) (hm.not_forall_mem hword)
    · exact absurd (List.append_eq_nil_iff.mp (List.append_eq_nil_iff.mp hnil.symm).2).1 hne

end Pattern

end SecretScan
