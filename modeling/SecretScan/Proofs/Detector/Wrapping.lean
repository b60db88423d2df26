import SecretScan.Proofs.Pattern.Enclosed
import SecretScan.Detector.Custom
import Mathlib.Data.List.Basic

/-!
# Reading a configured pattern

The pattern of a configured detector is read as the first capture of a larger one. With group
keywords a choice of the keywords in any case and a gap of a few characters stand in front of it.
-/

namespace SecretScan

open SecretScan.Unicode

namespace Pattern

/-! ## Readings on their way -/

/-- From one place a reading comes to another one. -/
def Reading.LeadsTo (a a' : Reading × List Char) : Prop :=
  ∀ b, a.2.length ≤ b → ∃ b', a'.2.length ≤ b' ∧ a.1.finish b a.2 = a'.1.finish b' a'.2

namespace Reading

variable {a a' a'' : Reading × List Char} {r : Reading} {c : Char} {text : List Char}

theorem LeadsTo.refl (a : Reading × List Char) : LeadsTo a a := fun b hb => ⟨b, hb, rfl⟩

theorem LeadsTo.trans (h : LeadsTo a a') (h' : LeadsTo a' a'') : LeadsTo a a'' := by
  intro b hb
  obtain ⟨b', hb', heq⟩ := h b hb
  obtain ⟨b'', hb'', heq'⟩ := h' b' hb'
  exact ⟨b'', hb'', heq.trans heq'⟩

theorem LeadsTo.of_step (hverbose : r.flags.verbose = false) (h : r.step c text = .ok a)
    (hlength : a.2.length ≤ text.length) : LeadsTo (r, c :: text) a := by
  intro b hb
  obtain ⟨b, rfl⟩ := Nat.exists_eq_add_of_le' (Nat.le_of_add_left_le hb)
  have hskip : r.flags.skip (c :: text) = c :: text := by simp [Flags.skip, hverbose]
  refine ⟨b, Nat.le_trans hlength (Nat.le_of_succ_le_succ hb), ?_⟩
  rw [finish_of_cons hskip, h]
  rfl

end Reading

/-! ## Escaped texts -/

/-- The characters that differ from `c` only by case, as a set. -/
def anyCase (c : Char) : CharSet := CharSet.foldedIf (.single c) ((caseVariants c).length > 1)

/-- A text in any case. -/
def textAnyCase (text : List Char) : Pattern := seqs (text.map fun c => set (anyCase c))

/-- The flags within the group of the keywords. -/
def caseless : Flags := { ignoreCase := true }

variable {r : Reading}

theorem readPrimitive_special (f : Flags) (rest : List Char) :
    ∀ c ∈ specialChars, Primitive.read f (c :: rest) = .ok (.char c false, rest) := by
  simp only [specialChars, List.forall_mem_cons]
  and_intros <;> first | rfl | nofun

theorem step_special (r : Reading) {c : Char} (h : c ∈ specialChars) (rest : List Char) :
    r.step '\\' (c :: rest) =
      (charSet r.flags c false).map fun s => (r.add (.set s) 0, rest) := by
  rw [Reading.step, readPrimitive_special r.flags rest c h]
  show ((charSet r.flags c false).map Pattern.set).bind _ = _
  cases charSet r.flags c false <;> rfl

theorem step_plain (r : Reading) {c : Char} (h : c ∉ specialChars) (rest : List Char) :
    r.step c rest = (charSet r.flags c false).map fun s => (r.add (.set s) 0, rest) := by
  rw [Reading.step]
  any_goals
    rintro rfl
    exact h (by decide)

/-- The items of a text in any case, the latest first. -/
def caselessItems (text : List Char) : List Piece :=
  (text.map fun c => ⟨some (.set (anyCase c)), 0⟩).reverse

/-- An escaped text is read character by character. -/
theorem leadsTo_escape (hflags : r.flags = caseless) (word rest : List Char) :
    Reading.LeadsTo (r, escape word ++ rest)
      ({ r with items := caselessItems word ++ r.items }, rest) := by
  induction word generalizing r with
  | nil => exact .refl _
  | cons c word ih =>
      have hcharSet : charSet r.flags c false = .ok (anyCase c) := by
        rw [hflags]
        rfl
      have hitems : caselessItems (c :: word) ++ r.items =
          caselessItems word ++ (r.add (.set (anyCase c)) 0).items := by
        simp [caselessItems, Reading.add]
      have hfirst : Reading.LeadsTo (r, escape (c :: word) ++ rest)
          (r.add (.set (anyCase c)) 0, escape word ++ rest) := by
        have hverbose : r.flags.verbose = false := by rw [hflags]; rfl
        by_cases hc : c ∈ specialChars
        · have htext : escape (c :: word) ++ rest = '\\' :: c :: (escape word ++ rest) := by
            simp [escape, hc]
          rw [htext]
          refine .of_step hverbose ?_ (Nat.le_succ _)
          rw [step_special r hc, hcharSet]
          rfl
        · have htext : escape (c :: word) ++ rest = c :: (escape word ++ rest) := by
            simp [escape, hc]
          rw [htext]
          refine .of_step hverbose ?_ (Nat.le_refl _)
          rw [step_plain r hc, hcharSet]
          rfl
      rw [hitems]
      exact hfirst.trans (ih (r := r.add (.set (anyCase c)) 0) hflags)

theorem pattern_branch (items : List Piece) :
    (branch items).pattern = some (seqs (items.reverse.filterMap (·.pattern))) := by
  match items with
  | [] => rfl
  | [⟨none, _⟩] => rfl
  | [⟨some _, _⟩] => rfl
  | _ :: _ :: _ => rfl

theorem pattern_choice (branches items : List Piece) :
    (choice branches items).pattern =
      some (alts ((branch items :: branches).reverse.filterMap (·.pattern))) := by
  cases branches with
  | nil => simp [choice, pattern_branch, alts]
  | cons _ _ => rfl

theorem pattern_caselessItems (word : List Char) :
    (branch (caselessItems word)).pattern = some (textAnyCase word) := by
  rw [pattern_branch, caselessItems, List.reverse_reverse, List.filterMap_map]
  exact congrArg (fun ps => some (seqs ps)) (congrFun List.filterMap_eq_map' word)

/-- Escaped words with bars between them are read as branches. -/
theorem leadsTo_words (words : List (List Char)) (hwords : words ≠ [])
    (hflags : r.flags = caseless) (hitems : r.items = []) (rest : List Char) :
    ∃ branches items, Reading.LeadsTo (r, ['|'].intercalate (words.map escape) ++ rest)
        ({ r with branches := branches, items := items }, rest) ∧
      branch items :: branches =
        (words.map fun w => branch (caselessItems w)).reverse ++ r.branches := by
  induction words generalizing r with
  | nil => exact absurd rfl hwords
  | cons w words ih =>
      cases words with
      | nil =>
          refine ⟨r.branches, caselessItems w, ?_, rfl⟩
          simpa [hitems] using leadsTo_escape hflags w rest
      | cons w' words =>
          have hword := leadsTo_escape hflags w ('|' :: (['|'].intercalate
            ((w' :: words).map escape) ++ rest))
          rw [hitems, List.append_nil] at hword
          have hbar : Reading.LeadsTo
              ({ r with items := caselessItems w },
                '|' :: (['|'].intercalate ((w' :: words).map escape) ++ rest))
              ({ r with branches := branch (caselessItems w) :: r.branches, items := [] },
                ['|'].intercalate ((w' :: words).map escape) ++ rest) :=
            .of_step (by rw [hflags]; rfl) rfl (Nat.le_refl _)
          obtain ⟨branches, items, hrest, hbranches⟩ :=
            ih (r := { r with branches := branch (caselessItems w) :: r.branches, items := [] })
              (List.cons_ne_nil _ _) hflags rfl
          refine ⟨branches, items, ?_, hbranches.trans (by simp)⟩
          have htext : ['|'].intercalate ((w :: w' :: words).map escape) ++ rest =
              escape w ++ '|' :: (['|'].intercalate ((w' :: words).map escape) ++ rest) := by
            simp [List.intercalate_cons_cons]
          rw [htext]
          exact (hword.trans hbar).trans hrest

/-! ## In front of the capture -/

/-- One of several words, in any case. -/
def wordsAnyCase (words : List (List Char)) : Pattern := alts (words.map textAnyCase)

/-- A few characters, whatever they are; as few as will do. -/
def gap : Pattern :=
  iter (set (.union .blank (.compl .blank))) 0 (some CustomDetector.groupWindow) false

/-- What is written behind the words: the gap, and the parenthesis of the capture. -/
def behindWords : List Char :=
  [')', ')', '[', '\\', 's', '\\', 'S', ']', '{', '0', ',', '4', '0', '}', '?', '(']

/-- A choice of escaped words in any case, and the gap behind it, up to the capture. -/
theorem leadsTo_context (words : List (List Char)) (hwords : words ≠ []) {rest : List Char}
    (hrest : rest.head? ≠ some '?') :
    ∃ items, Reading.LeadsTo
        ({}, '(' :: '?' :: 'i' :: ':' :: '(' :: '?' :: ':' ::
          (['|'].intercalate (words.map escape) ++ (behindWords ++ rest)))
        (Reading.atCapture items, rest) ∧
      items.reverse.filterMap (·.pattern) = [wordsAnyCase words, gap] := by
  let outside : Reading := ({} : Reading).openGroup none caseless
  let inside : Reading := outside.openGroup none caseless
  have hopen : Reading.LeadsTo
      ({}, '(' :: '?' :: 'i' :: ':' :: '(' :: '?' :: ':' ::
        (['|'].intercalate (words.map escape) ++ (behindWords ++ rest)))
      (inside, ['|'].intercalate (words.map escape) ++ (behindWords ++ rest)) :=
    (Reading.LeadsTo.of_step (a := (outside, _)) rfl rfl (Nat.le_add_right _ 3)).trans
      (.of_step rfl rfl (Nat.le_add_right _ 2))
  obtain ⟨branches, items, hread, hbranches⟩ :=
    leadsTo_words (r := inside) words hwords rfl rfl (behindWords ++ rest)
  have hchoice : (choice branches items).pattern = some (wordsAnyCase words) := by
    have hwords : (words.map fun w => branch (caselessItems w)).filterMap (·.pattern) =
        words.map textAnyCase := by
      rw [List.filterMap_map, ← List.filterMap_eq_map]
      exact List.filterMap_congr fun w _ => pattern_caselessItems w
    rw [pattern_choice, hbranches, List.reverse_append, List.reverse_reverse, List.filterMap_append,
      hwords]
    rfl
  obtain ⟨depth, hdepth⟩ : ∃ depth, choice branches items = ⟨some (wordsAnyCase words), depth⟩ :=
    ⟨_, congrArg (Piece.mk · _) hchoice⟩
  let word : Piece := ⟨some (wordsAnyCase words), depth + 2⟩
  let any : Piece := ⟨some (set (.union .blank (.compl .blank))), 2⟩
  have hclose : Reading.LeadsTo ({ inside with branches := branches, items := items },
      behindWords ++ rest) ({ items := [word] }, behindWords.drop 2 ++ rest) := by
    refine (Reading.LeadsTo.of_step
      (a := ({ outside with items := [⟨some (wordsAnyCase words), depth + 1⟩] }, _))
      rfl ?_ (Nat.le_refl _)).trans (.of_step rfl rfl (Nat.le_refl _))
    simp only [Reading.step, Reading.closeGroup, inside, Reading.openGroup, hdepth]
    rfl
  have hany : Reading.LeadsTo ({ items := [word] }, behindWords.drop 2 ++ rest)
      ({ items := [any, word] }, behindWords.drop 8 ++ rest) :=
    .of_step rfl rfl (Nat.le_add_right _ 5)
  have hgap : Reading.LeadsTo ({ items := [any, word] }, behindWords.drop 8 ++ rest)
      ({ items := [⟨some gap, 3⟩, word] }, '(' :: rest) :=
    .of_step rfl rfl (Nat.le_add_right _ 6)
  refine ⟨[⟨some gap, 3⟩, word], ?_, rfl⟩
  have hcapture : Reading.LeadsTo ({ items := [⟨some gap, 3⟩, word] }, '(' :: rest)
      (Reading.atCapture [⟨some gap, 3⟩, word], rest) :=
    .of_step rfl (openAny_eq_of_ne _ hrest) (Nat.le_refl _)
  exact hopen.trans (hread.trans (hclose.trans (hany.trans (hgap.trans hcapture))))

end Pattern

namespace CustomDetector

open Pattern

/-- What is searched for in front of the capture of a configured pattern. -/
def context (groupKeywords : List String) : List Pattern :=
  match (trimmedAll groupKeywords).map String.toList with
  | [] => []
  | words => [wordsAnyCase words, gap]

/-- The full pattern is read up to the capture, whatever the configured pattern is, unless a
question mark gives the parenthesis in front of it another meaning. -/
theorem parse_fullPattern (groupKeywords : List String) {p : List Char}
    (h : p.head? ≠ some '?') :
    ∃ items b, items.reverse.filterMap (·.pattern) = context groupKeywords ∧ p.length < b ∧
      parse (fullPattern groupKeywords p) =
        ((Reading.atCapture items).finish b (p ++ [')'])).bind Piece.checked := by
  have hrest : (p ++ [')']).head? ≠ some '?' := by
    cases p with
    | nil => simp
    | cons c p => exact h
  obtain ⟨items, hread, hitems⟩ : ∃ items, Reading.LeadsTo ({}, fullPattern groupKeywords p)
      (Reading.atCapture items, p ++ [')']) ∧
        items.reverse.filterMap (·.pattern) = context groupKeywords := by
    cases hwords : trimmedAll groupKeywords with
    | nil =>
        refine ⟨[], ?_, by simp [context, hwords]⟩
        rw [fullPattern, hwords]
        exact .of_step rfl (openAny_eq_of_ne _ hrest) (Nat.le_refl _)
    | cons word words =>
        obtain ⟨items, hread, hitems⟩ :=
          leadsTo_context ((word :: words).map String.toList) (List.cons_ne_nil _ _) hrest
        refine ⟨items, ?_, by rw [hitems, context, hwords]; rfl⟩
        have hfull : fullPattern groupKeywords p =
            '(' :: '?' :: 'i' :: ':' :: '(' :: '?' :: ':' :: (['|'].intercalate
              (((word :: words).map String.toList).map escape) ++
              (behindWords ++ (p ++ [')']))) := by
          have hfront : "(?i:(?:".toList = ['(', '?', 'i', ':', '(', '?', ':'] := by decide
          have hbehind : "))[\\s\\S]\x7b0,".toList ++ Decimal.natDigits groupWindow ++
              "\x7d?(".toList = behindWords := by decide
          rw [fullPattern, hwords, ← hbehind]
          simp [hfront, Function.comp_def]
        rw [hfull]
        exact hread
  obtain ⟨b, hb, hfinish⟩ := hread (fullPattern groupKeywords p).length (Nat.le_refl _)
  refine ⟨items, b, hitems, ?_, parse_of_finish hfinish⟩
  rw [List.length_append] at hb
  exact hb

end CustomDetector

end SecretScan
