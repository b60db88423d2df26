import SecretScan.Proofs.Pattern.Frame

/-!
# Searching stretch by stretch

A character that no set of a pattern has, and that its conditions take for an end of the text,
cuts a text in two: the successive matches in the whole are those in the front followed by those
in the back, and replacing them replaces the matches of the two parts by themselves.
-/

namespace SecretScan

/-! ## The text of a stretch -/

theorem Text.byteLength_pos {w : List Char} (h : w ≠ []) : 0 < byteLength w := by
  obtain ⟨c, w, rfl⟩ := List.exists_cons_of_ne_nil h
  have hsize := c.utf8Size_pos
  rw [byteLength_cons]
  omega

namespace Span

theorem takeBytes_byteLength (w rest taken : List Char) :
    takeBytes (Text.byteLength w) (w ++ rest) taken = taken.reverse ++ w := by
  induction w generalizing taken with
  | nil => cases rest <;> simp [takeBytes]
  | cons c w ih =>
      have hpos : c.utf8Size + Text.byteLength w ≠ 0 := by
        have hcons := Text.byteLength_pos (List.cons_ne_nil c w)
        rw [Text.byteLength_cons] at hcons
        omega
      rw [Text.byteLength_cons, List.cons_append, takeBytes, if_neg hpos, Nat.add_sub_cancel_left,
        ih]
      simp

theorem text_of_spells {c d : Cursor} {w : List Char} (h : c.Spells w d) :
    (Span.mk c d).text = w := by
  have hbytes : d.offset - c.offset = Text.byteLength w := by
    rw [h.offset_eq, Nat.add_sub_cancel_left]
  rw [text, start, stop, hbytes, h.rest_eq, takeBytes_byteLength]
  rfl

end Span

namespace Pattern

/-! ## How much a match takes -/

/-- At least so many characters are in a match. -/
def minLength : Pattern → Nat
  | empty => 0
  | set _ => 1
  | look _ => 0
  | seq p q => p.minLength + q.minLength
  | alt p q => min p.minLength q.minLength
  | group _ p => p.minLength
  | iter p min _ _ => min * p.minLength

theorem Repeats.mul_le_length {R : Cursor → Cursor → Prop} {least : Nat}
    (hR : ∀ c d, R c d → ∃ w, c.Spells w d ∧ least ≤ w.length) {n : Nat} {c d : Cursor}
    (h : Repeats R n c d) : ∃ w, c.Spells w d ∧ n * least ≤ w.length := by
  induction n generalizing c with
  | zero =>
      obtain rfl : c = d := h
      exact ⟨[], .refl c, by simp⟩
  | succ n ih =>
      obtain ⟨m, hfirst, hrest⟩ := h
      obtain ⟨v, hv, hvlen⟩ := hR c m hfirst
      obtain ⟨w, hw, hwlen⟩ := ih hrest
      refine ⟨v ++ w, hv.trans hw, ?_⟩
      rw [List.length_append, Nat.succ_mul]
      omega

theorem Matches.minLength_le {p : Pattern} {c d : Cursor} (h : p.Matches c d) :
    ∃ w, c.Spells w d ∧ p.minLength ≤ w.length := by
  induction p generalizing c d with
  | empty =>
      obtain rfl : c = d := h
      exact ⟨[], .refl c, Nat.le_refl 0⟩
  | set s =>
      obtain ⟨x, -, hx⟩ := Cursor.step?_eq_some_iff.mp h
      exact ⟨[x], hx, Nat.le_refl 1⟩
  | look l =>
      obtain ⟨-, rfl⟩ := h
      exact ⟨[], .refl c, Nat.le_refl 0⟩
  | seq p q ihp ihq =>
      obtain ⟨m, hp, hq⟩ := h
      obtain ⟨v, hv, hvlen⟩ := ihp hp
      obtain ⟨w, hw, hwlen⟩ := ihq hq
      refine ⟨v ++ w, hv.trans hw, ?_⟩
      rw [minLength, List.length_append]
      omega
  | alt p q ihp ihq =>
      rw [minLength]
      rcases h with hp | hq
      · obtain ⟨w, hw, hlen⟩ := ihp hp
        exact ⟨w, hw, by omega⟩
      · obtain ⟨w, hw, hlen⟩ := ihq hq
        exact ⟨w, hw, by omega⟩
  | group _ p ih => exact ih h
  | iter p least max greedy ih =>
      obtain ⟨more, -, h⟩ := h
      obtain ⟨w, hw, hlen⟩ := h.mul_le_length fun _ _ => ih
      refine ⟨w, hw, ?_⟩
      rw [Nat.add_mul] at hlen
      rw [minLength]
      omega

/-- Where a match is found, and what it takes. -/
theorem spells_of_findAfter? {p : Pattern} {c : Cursor} {m : Match} (hp : 0 < p.minLength)
    (h : p.findAfter? c = some m) : ∃ v w, c.Spells v m.whole.first ∧
      m.whole.first.Spells w m.whole.last ∧ w ≠ [] := by
  obtain ⟨⟨v, hv⟩, hmatches⟩ := finds_of_findFrom? h
  obtain ⟨w, hw, hlen⟩ := hmatches.minLength_le
  refine ⟨v, w, hv, hw, ?_⟩
  rintro rfl
  simp only [List.length_nil] at hlen
  omega

/-! ## Successive matches -/

/-- At most `n` successive matches from a place on, of a pattern that has no empty ones. -/
def successive (p : Pattern) : Nat → Cursor → List Match
  | 0, _ => []
  | n + 1, c =>
    match p.findAfter? c with
    | none => []
    | some m => m :: p.successive n m.whole.last

/-- The text from a place on with at most `n` matches replaced. -/
def replaced (p : Pattern) (replacement : List Char) : Nat → Cursor → List Char
  | 0, c => c.rest
  | n + 1, c =>
    match p.findAfter? c with
    | none => c.rest
    | some m =>
      (Span.mk c m.whole.first).text ++ (replacement ++ p.replaced replacement n m.whole.last)

variable {p : Pattern} {F : Frame}

theorem matchesFrom_eq (hp : 0 < p.minLength) (n : Nat) (c : Cursor) (last : Option Nat)
    (found : List Match) :
    p.matchesFrom n c last found = found.reverse ++ p.successive n c := by
  induction n generalizing c last found with
  | zero => simp [matchesFrom, successive]
  | succ n ih =>
      have hnext : p.nextMatch? c last = p.findAfter? c := by
        rw [nextMatch?]
        cases hfind : p.findAfter? c with
        | none => rfl
        | some m =>
            obtain ⟨v, w, -, hw, hne⟩ := spells_of_findAfter? hp hfind
            have hpos := Text.byteLength_pos hne
            have hfull : m.whole.isEmpty = false := by
              rw [Span.isEmpty, Span.start, Span.stop, beq_eq_false_iff_ne, hw.offset_eq]
              omega
            simp [hfull]
      rw [matchesFrom, hnext, successive]
      cases p.findAfter? c with
      | none => simp
      | some m => simp [ih]

theorem replaced_of_none {replacement : List Char} {n : Nat} {c : Cursor}
    (h : p.findAfter? c = none) : p.replaced replacement n c = c.rest := by
  cases n with
  | zero => rfl
  | succ n => rw [replaced, h]

theorem replaced_of_some {replacement : List Char} {n : Nat} {c : Cursor} {m : Match}
    {v : List Char} (h : p.findAfter? c = some m) (hv : c.Spells v m.whole.first) :
    p.replaced replacement (n + 1) c =
      v ++ (replacement ++ p.replaced replacement n m.whole.last) := by
  rw [replaced, h]
  exact congrArg (· ++ _) (Span.text_of_spells hv)

/-- What is passed over before the next match is looked for stays. -/
theorem replaced_of_findAfter?_eq (hp : 0 < p.minLength) {replacement u : List Char} {n : Nat}
    {c d : Cursor} (hd : c.Spells u d) (h : p.findAfter? c = p.findAfter? d) :
    p.replaced replacement n c = u ++ p.replaced replacement n d := by
  cases hfind : p.findAfter? d with
  | none => rw [replaced_of_none (h.trans hfind), replaced_of_none hfind, hd.rest_eq]
  | some m =>
      cases n with
      | zero => exact hd.rest_eq
      | succ n =>
          obtain ⟨v, w, hv, -, -⟩ := spells_of_findAfter? hp hfind
          rw [replaced_of_some (h.trans hfind) (hd.trans hv), replaced_of_some hfind hv,
            List.append_assoc]

theorem substitute_eq (replacement : List Char) (c : Cursor) (ms : List Match)
    (done : List Char) :
    substitute replacement c ms done = done.reverse ++ substitute replacement c ms [] := by
  induction ms generalizing c done with
  | nil => rfl
  | cons m ms ih =>
      rw [substitute, substitute, ih, ih m.whole.last (_ ++ (_ ++ []))]
      simp

theorem substitute_successive (replacement : List Char) (n : Nat) (c : Cursor) :
    substitute replacement c (p.successive n c) [] = p.replaced replacement n c := by
  induction n generalizing c with
  | zero => rfl
  | succ n ih =>
      rw [successive, replaced]
      cases p.findAfter? c with
      | none => rfl
      | some m =>
          simp only [substitute]
          rw [substitute_eq, ih]
          simp

theorem length_rest_lt_of_findAfter? {c : Cursor} {m : Match} (hp : 0 < p.minLength)
    (h : p.findAfter? c = some m) : m.whole.last.rest.length < c.rest.length := by
  obtain ⟨v, w, hv, hw, hne⟩ := spells_of_findAfter? hp h
  have hpos := List.length_pos_iff.mpr hne
  rw [hv.rest_eq, hw.rest_eq, List.length_append, List.length_append]
  omega

/-- There are no more matches than characters. -/
theorem successive_eq_of_lt (hp : 0 < p.minLength) {n n' : Nat} {c : Cursor}
    (hn : c.rest.length < n) (hn' : c.rest.length < n') :
    p.successive n c = p.successive n' c := by
  induction n generalizing n' c with
  | zero => omega
  | succ n ih =>
      obtain ⟨n', rfl⟩ := Nat.exists_eq_succ_of_ne_zero (Nat.ne_zero_of_lt hn')
      rw [successive, successive]
      cases hfind : p.findAfter? c with
      | none => rfl
      | some m =>
          have hlt := length_rest_lt_of_findAfter? hp hfind
          exact congrArg (m :: ·) (ih (by omega) (by omega))

theorem replaced_eq_of_lt (hp : 0 < p.minLength) {replacement : List Char} {n n' : Nat}
    {c : Cursor} (hn : c.rest.length < n) (hn' : c.rest.length < n') :
    p.replaced replacement n c = p.replaced replacement n' c := by
  rw [← substitute_successive, ← substitute_successive, successive_eq_of_lt hp hn hn']

/-- All matches are found within any bound that the text does not reach. -/
theorem findAll_eq (hp : 0 < p.minLength) {text : List Char} {n : Nat} (hn : text.length < n) :
    p.findAll text = p.successive n (.atStart text) := by
  rw [findAll, matchesFrom_eq hp]
  exact successive_eq_of_lt hp (Nat.lt_succ_self _) hn

theorem replaceAll_eq (hp : 0 < p.minLength) (replacement : List Char) {text : List Char} {n : Nat}
    (hn : text.length < n) :
    p.replaceAll replacement text = p.replaced replacement n (.atStart text) := by
  rw [replaceAll, findAll_eq hp hn, substitute_successive]

/-! ## Searching in a stretch -/

theorem matchAt?_cursor (h : F.Suits p) (c : Cursor) :
    p.matchAt? (F.cursor c) = (p.matchAt? c).map F.found := by
  have hrun := framed_run h ⟨c, []⟩ some some fun t _ => rfl
  have hstart : F.progress ⟨c, []⟩ = ⟨F.cursor c, []⟩ := rfl
  rw [matchAt?, matchAt?, ← hstart, hrun, Option.map_map, Option.map_map]
  rfl

end Pattern

namespace Frame

/-- The place behind a stretch and the character after it. -/
def beyond (F : Frame) (c : Cursor) : Option Cursor :=
  match F.after with
  | [] => none
  | x :: rest =>
    some ⟨some x, F.shift + (c.offset + Text.byteLength c.rest) + x.utf8Size, rest⟩

theorem spells_beyond {F : Frame} {c d : Cursor} (h : F.beyond c = some d) :
    ∃ x, F.after = x :: d.rest ∧ d.before = some x ∧ (F.cursor c).Spells (c.rest ++ [x]) d := by
  rw [beyond] at h
  cases hafter : F.after with
  | nil => simp [hafter] at h
  | cons x rest =>
      simp only [hafter, Option.some.injEq] at h
      subst h
      refine ⟨x, rfl, rfl, ?_, ?_, ?_⟩
      · simp [cursor, hafter]
      · simp
      · simp only [cursor, Text.byteLength_append, Text.byteLength_cons, Text.byteLength_nil]
        omega

theorem after_of_beyond_eq_none {F : Frame} {c : Cursor} (h : F.beyond c = none) :
    F.after = [] := by
  rw [beyond] at h
  cases hafter : F.after with
  | nil => rfl
  | cons x rest => simp [hafter] at h

theorem beyond_eq_of_spells {c d : Cursor} {w : List Char} (F : Frame) (h : c.Spells w d) :
    F.beyond d = F.beyond c := by
  rw [beyond, beyond, h.rest_eq, h.offset_eq, Text.byteLength_append, Nat.add_assoc c.offset]

end Frame

namespace Pattern

variable {p : Pattern} {F : Frame}

theorem findAfter?_nil (p : Pattern) (before : Option Char) (offset : Nat) :
    p.findAfter? ⟨before, offset, []⟩ = p.matchAt? ⟨before, offset, []⟩ := rfl

theorem findAfter?_cons (p : Pattern) (before : Option Char) (offset : Nat) (x : Char)
    (rest : List Char) :
    p.findAfter? ⟨before, offset, x :: rest⟩ = (p.matchAt? ⟨before, offset, x :: rest⟩).or
      (p.findAfter? ⟨some x, offset + x.utf8Size, rest⟩) := by
  rw [findAfter?, findFrom?]
  cases p.matchAt? ⟨before, offset, x :: rest⟩ with
  | none => rfl
  | some m => rfl

/-- What is found from a place of the stretch on is found in it, or else behind it. -/
theorem findAfter?_cursor (h : F.Suits p) (c : Cursor) :
    p.findAfter? (F.cursor c) =
      ((p.findAfter? c).map F.found).or ((F.beyond c).bind p.findAfter?) := by
  obtain ⟨before, offset, text⟩ := c
  induction text generalizing before offset with
  | nil =>
      rw [findAfter?_nil, ← matchAt?_cursor h]
      cases hafter : F.after with
      | nil => simp [Frame.cursor, Frame.beyond, hafter, findAfter?_nil]
      | cons x after => simp [Frame.cursor, Frame.beyond, hafter, findAfter?_cons]
  | cons x rest ih =>
      have hstart : F.cursor ⟨before, offset, x :: rest⟩ =
          ⟨before.or F.before, F.shift + offset, x :: (rest ++ F.after)⟩ := rfl
      have hnext : F.cursor ⟨some x, offset + x.utf8Size, rest⟩ =
          ⟨some x, F.shift + offset + x.utf8Size, rest ++ F.after⟩ := by
        simp [Frame.cursor, Nat.add_assoc]
      have hbeyond := F.beyond_eq_of_spells (.next before offset x rest)
      rw [hstart, findAfter?_cons, ← hnext, ih, ← hstart, matchAt?_cursor h, findAfter?_cons,
        hbeyond, Option.map_or, Option.or_assoc]

/-- The matches from a place of the stretch on are those in it and those behind it. -/
theorem successive_cursor (h : F.Suits p) (hp : 0 < p.minLength) {n : Nat} {c : Cursor}
    (hn : (F.cursor c).rest.length < n) :
    p.successive n (F.cursor c) =
      (p.successive n c).map F.found ++ ((F.beyond c).map (p.successive n)).getD [] := by
  induction n generalizing c with
  | zero => omega
  | succ n ih =>
      rw [successive, successive, findAfter?_cursor h]
      simp only [Frame.cursor, List.length_append] at hn
      cases hfind : p.findAfter? c with
      | none =>
          cases F.beyond c with
          | none => rfl
          | some d => rfl
      | some m =>
          obtain ⟨v, w, hv, hw, -⟩ := spells_of_findAfter? hp hfind
          have hlt := length_rest_lt_of_findAfter? hp hfind
          have hrest := @ih m.whole.last (by simp only [Frame.cursor, List.length_append]; omega)
          rw [F.beyond_eq_of_spells (hv.trans hw)] at hrest
          -- Behind the stretch one more match may be looked for; there are none.
          have hbeyond : (F.beyond c).map (p.successive n) =
              (F.beyond c).map (p.successive (n + 1)) := by
            refine Option.map_congr fun d hd => ?_
            obtain ⟨x, hafter, -, -⟩ := Frame.spells_beyond hd
            rw [hafter, List.length_cons] at hn
            exact successive_eq_of_lt hp (by omega) (by omega)
          rw [hbeyond] at hrest
          exact congrArg (F.found m :: ·) hrest

/-- The text from a place of the stretch on, with its matches replaced, is that of the stretch and
that of what lies behind it. -/
theorem replaced_cursor (h : F.Suits p) (hp : 0 < p.minLength) {replacement : List Char} {n : Nat}
    {c : Cursor} (hn : (F.cursor c).rest.length < n) :
    p.replaced replacement n (F.cursor c) = p.replaced replacement n c ++
      ((F.beyond c).map fun d => d.before.toList ++ p.replaced replacement n d).getD [] := by
  induction n generalizing c with
  | zero => omega
  | succ n ih =>
      simp only [Frame.cursor, List.length_append] at hn
      cases hfind : p.findAfter? c with
      | some m =>
          obtain ⟨v, w, hv, hw, -⟩ := spells_of_findAfter? hp hfind
          have hlt := length_rest_lt_of_findAfter? hp hfind
          have hrest := @ih m.whole.last (by simp only [Frame.cursor, List.length_append]; omega)
          rw [F.beyond_eq_of_spells (hv.trans hw)] at hrest
          have hfound : p.findAfter? (F.cursor c) = some (F.found m) := by
            rw [findAfter?_cursor h, hfind]
            rfl
          have hbeyond : (F.beyond c).map (fun d => d.before.toList ++ p.replaced replacement n d) =
              (F.beyond c).map fun d => d.before.toList ++ p.replaced replacement (n + 1) d := by
            refine Option.map_congr fun d hd => ?_
            obtain ⟨x, hafter, -, -⟩ := Frame.spells_beyond hd
            rw [hafter, List.length_cons] at hn
            exact congrArg (d.before.toList ++ ·) (replaced_eq_of_lt hp (by omega) (by omega))
          rw [hbeyond] at hrest
          rw [replaced_of_some hfound (hv.frame F), replaced_of_some hfind hv, List.append_assoc,
            List.append_assoc, ← hrest]
          rfl
      | none =>
          -- Nothing is replaced in the stretch, and the search goes on behind it.
          rw [replaced_of_none hfind]
          cases hbeyond : F.beyond c with
          | none =>
              have hnone : p.findAfter? (F.cursor c) = none := by
                rw [findAfter?_cursor h, hfind, hbeyond]
                rfl
              rw [replaced_of_none hnone, Frame.cursor, Frame.after_of_beyond_eq_none hbeyond]
              rfl
          | some d =>
              obtain ⟨x, hafter, hbefore, hd⟩ := Frame.spells_beyond hbeyond
              have hfound : p.findAfter? (F.cursor c) = p.findAfter? d := by
                rw [findAfter?_cursor h, hfind, hbeyond]
                rfl
              rw [replaced_of_findAfter?_eq hp hd hfound, Option.map_some, Option.getD_some,
                hbefore, Option.toList_some, List.append_assoc]

/-! ## Cutting at a character -/

end Pattern

/-- Does a condition take a character for an end of the text? -/
def Look.ignores (x : Char) : Look → Bool
  | wordBoundary ascii => !isWordAt ascii (some x)
  | notWordBoundary ascii => !isWordAt ascii (some x)
  | wordStart ascii => !isWordAt ascii (some x)
  | wordEnd ascii => !isWordAt ascii (some x)
  | wordStartHalf ascii => !isWordAt ascii (some x)
  | wordEndHalf ascii => !isWordAt ascii (some x)
  | _ => false

theorem Look.holds_of_ignores {x : Char} {l : Look} (h : l.ignores x = true)
    {ends ends' : Option Char} (hends : ends = none ∨ ends = some x)
    (hends' : ends' = none ∨ ends' = some x) (before after : Option Char) :
    l.holds (before.or ends) (after.or ends') = l.holds before after := by
  have hword (ascii : Bool) (hx : (!isWordAt ascii (some x)) = true) (c end' : Option Char)
      (hend : end' = none ∨ end' = some x) : isWordAt ascii (c.or end') = isWordAt ascii c := by
    rcases hend with rfl | rfl
    · rw [Option.or_none]
    · cases c with
      | some y => rfl
      | none => simpa [isWordAt] using hx
  cases l <;> simp only [ignores, Bool.false_eq_true] at h <;>
    simp only [holds, hword _ h _ _ hends, hword _ h _ _ hends']

namespace Pattern

/-- Does no set of a pattern have a character, and does every condition take it for an end of the
text? -/
def avoids (x : Char) : Pattern → Bool
  | empty => true
  | set s => !s.mem x
  | look l => l.ignores x
  | seq p q => p.avoids x && q.avoids x
  | alt p q => p.avoids x && q.avoids x
  | group _ p => p.avoids x
  | iter p _ _ _ => p.avoids x

theorem suits_of_avoids {p : Pattern} {F : Frame} {x : Char} (h : p.avoids x = true)
    (hbefore : F.before = none ∨ F.before = some x)
    (hafter : F.after.head? = none ∨ F.after.head? = some x) : F.Suits p := by
  induction p with
  | empty => trivial
  | set s =>
      intro y hy
      rcases hafter with hnone | hsome
      · simp [hnone] at hy
      · obtain rfl : x = y := by simpa [hsome] using hy
        simpa [avoids] using h
  | look l => exact Look.holds_of_ignores h hbefore hafter
  | seq p q ihp ihq =>
      obtain ⟨hp, hq⟩ := Bool.and_eq_true_iff.mp h
      exact ⟨ihp hp, ihq hq⟩
  | alt p q ihp ihq =>
      obtain ⟨hp, hq⟩ := Bool.and_eq_true_iff.mp h
      exact ⟨ihp hp, ihq hq⟩
  | group _ p ih => exact ih h
  | iter p _ _ _ ih => exact ih h

variable {p : Pattern} {x : Char}

/-- Where a text stands that a character and another text follow. -/
def front (x : Char) (rest : List Char) : Frame := ⟨none, 0, x :: rest⟩

/-- Where a text stands that follows another text and a character. -/
def back (text : List Char) (x : Char) : Frame :=
  ⟨some x, Text.byteLength text + x.utf8Size, []⟩

theorem front_suits (h : p.avoids x = true) (rest : List Char) : (front x rest).Suits p :=
  suits_of_avoids h (Or.inl rfl) (Or.inr rfl)

theorem back_suits (h : p.avoids x = true) (text : List Char) : (back text x).Suits p :=
  suits_of_avoids h (Or.inr rfl) (Or.inl rfl)

theorem front_atStart (text rest : List Char) :
    (front x rest).cursor (.atStart text) = .atStart (text ++ x :: rest) := rfl

theorem beyond_front (text rest : List Char) :
    (front x rest).beyond (.atStart text) = some ((back text x).cursor (.atStart rest)) := by
  simp [Frame.beyond, Frame.cursor, front, back, Cursor.atStart]

theorem beyond_back (text : List Char) (c : Cursor) : (back text x).beyond c = none := rfl

theorem length_back_atStart (text rest : List Char) :
    ((back text x).cursor (.atStart rest)).rest.length = rest.length := by
  simp [Frame.cursor, back, Cursor.atStart]

/-- The successive matches in two texts with a character between them that the pattern avoids. -/
theorem findAll_cut (h : p.avoids x = true) (hp : 0 < p.minLength) (text rest : List Char) :
    p.findAll (text ++ x :: rest) =
      (p.findAll text).map (front x rest).found ++ (p.findAll rest).map (back text x).found := by
  obtain ⟨n, hn⟩ : ∃ n, (text ++ x :: rest).length < n := ⟨_, Nat.lt_succ_self _⟩
  have hlength : (text ++ x :: rest).length = text.length + rest.length + 1 := by simp; omega
  rw [findAll_eq hp hn, ← front_atStart text rest, successive_cursor (front_suits h rest) hp hn,
    beyond_front, Option.map_some, Option.getD_some,
    successive_cursor (back_suits h text) hp (by rw [length_back_atStart]; omega), beyond_back,
    Option.map_none, Option.getD_none, List.append_nil, ← findAll_eq hp (by omega),
    ← findAll_eq hp (by omega)]

/-- Replacement in two texts with a character between them that the pattern avoids. -/
theorem replaceAll_cut (h : p.avoids x = true) (hp : 0 < p.minLength)
    (replacement text rest : List Char) :
    p.replaceAll replacement (text ++ x :: rest) =
      p.replaceAll replacement text ++ x :: p.replaceAll replacement rest := by
  obtain ⟨n, hn⟩ : ∃ n, (text ++ x :: rest).length < n := ⟨_, Nat.lt_succ_self _⟩
  have hlength : (text ++ x :: rest).length = text.length + rest.length + 1 := by simp; omega
  rw [replaceAll_eq hp _ hn, ← front_atStart text rest,
    replaced_cursor (front_suits h rest) hp hn, beyond_front, Option.map_some, Option.getD_some,
    replaced_cursor (back_suits h text) hp (by rw [length_back_atStart]; omega), beyond_back,
    Option.map_none, Option.getD_none, List.append_nil, ← replaceAll_eq hp _ (by omega),
    ← replaceAll_eq hp _ (by omega)]
  rfl

end Pattern

end SecretScan
