import SecretScan.Proofs.History.Overflow
import SecretScan.Proofs.History.TwoRuns
import Mathlib.Data.List.Range

/-!
# Numbers that are counted

Behind the header of a stretch the added lines are numbered one after another, from the number in
the header on. The count is kept in 64 bits, and the number in the header may be any that they
hold. The numbers increase as long as the count does not run over in the stretch; if nothing of
the stretch is left out, they increase only then. Where it runs over, a program that was built
with checks breaks down.
-/

namespace SecretScan.DiffParser

/-! ## Numbers modulo a bound -/

theorem map_mod_range'_mod (bound first count : Nat) :
    (List.range' (first % bound) count).map (· % bound) =
      (List.range' first count).map (· % bound) := by
  rw [List.range'_eq_map_range, List.range'_eq_map_range, List.map_map, List.map_map]
  refine List.map_congr_left fun n _ => ?_
  exact Nat.mod_add_mod first bound n

/-- Numbers in a row increase just if none of them reaches the bound. -/
theorem pairwise_lt_map_mod_iff {bound first count : Nat} (hfirst : first < bound) :
    ((List.range' first count).map (· % bound)).Pairwise (· < ·) ↔ first + count ≤ bound := by
  constructor
  · intro hincrease
    by_contra hbeyond
    -- The last number below the bound is followed by zero.
    have hlt := List.pairwise_iff_getElem.mp hincrease (bound - 1 - first) (bound - first)
      (by rw [List.length_map, List.length_range']; omega)
      (by rw [List.length_map, List.length_range']; omega) (by omega)
    have hzero : first + (bound - first) = bound := by omega
    simp [hzero] at hlt
  · intro hle
    have hsmall : (List.range' first count).map (· % bound) = List.range' first count := by
      refine (List.map_congr_left fun n hn => ?_).trans (List.map_id _)
      have hn := List.mem_range'_1.mp hn
      exact Nat.mod_eq_of_lt (by omega)
    rw [hsmall]
    exact List.pairwise_lt_range'

/-! ## The lines of a stretch -/

/-- A line behind which a stretch does not go on. -/
def EndsStretch (line : List Char) : Prop :=
  (∃ h, IsCommitHeader line h) ∨ ∃ path, IsFileHeader line path

instance (line : List Char) : Decidable (EndsStretch line) :=
  decidable_of_iff ((commitHeader? line).isSome = true ∨ (fileHeader? line).isSome = true) <| by
    simp only [EndsStretch, Option.isSome_iff_exists, commitHeader?_eq_some_iff,
      fileHeader?_eq_some_iff]

/-- The lines that belong to a stretch, of those that follow its header. -/
def stretchOf (lines : List (List Char)) : List (List Char) :=
  lines.takeWhile fun line => decide ¬ EndsStretch line

theorem stretchOf_of_ends {line : List Char} (h : EndsStretch line) (rest : List (List Char)) :
    stretchOf (line :: rest) = [] := by
  simp [stretchOf, h]

theorem stretchOf_of_not_ends {line : List Char} (hcommit : ∀ h, ¬ IsCommitHeader line h)
    (hfile : ∀ path, ¬ IsFileHeader line path) (rest : List (List Char)) :
    stretchOf (line :: rest) = line :: stretchOf rest := by
  have h : ¬ EndsStretch line := not_or.mpr ⟨not_exists.mpr hcommit, not_exists.mpr hfile⟩
  simp [stretchOf, h]

theorem plusLines_cons (line : List Char) (lines : List (List Char)) :
    plusLines (line :: lines) = plusLines lines + if line.head? = some '+' then 1 else 0 := by
  simp [plusLines, List.countP_cons]

/-- A line behind a plus sign is counted, and the stretch goes on behind it. -/
theorem plusLines_stretchOf_plus (text : List Char) (rest : List (List Char)) :
    plusLines (stretchOf (('+' :: text) :: rest)) = plusLines (stretchOf rest) + 1 := by
  rw [stretchOf_of_not_ends (not_commitHeader_of_plus text) (not_fileHeader_of_plus text),
    plusLines_cons]
  rfl

theorem plusLines_stretchOf_of_ne {line : List Char} (hcommit : ∀ h, ¬ IsCommitHeader line h)
    (hfile : ∀ path, ¬ IsFileHeader line path) (hhead : line.head? ≠ some '+')
    (rest : List (List Char)) :
    plusLines (stretchOf (line :: rest)) = plusLines (stretchOf rest) := by
  rw [stretchOf_of_not_ends hcommit hfile, plusLines_cons, if_neg hhead, Nat.add_zero]

/-- A line that ends a stretch is not counted. -/
theorem EndsStretch.head?_ne {line : List Char} (h : EndsStretch line) : line.head? ≠ some '+' := by
  intro hhead
  obtain ⟨text, rfl⟩ := List.head?_eq_some_iff.mp hhead
  rcases h with ⟨header, hcommit⟩ | ⟨path, hfile⟩
  · exact not_commitHeader_of_plus text header hcommit
  · exact not_fileHeader_of_plus text path hfile

/-! ## Counting through a stretch -/

variable {p : DiffParser} {since : List (List Char)}

/-- Outside stretches nothing is given or counted before the header of one. -/
theorem quiet_of_place (hplace : p.place ≠ .inHunk)
    (hsince : ∀ line ∈ since, ∀ start, ¬ IsHunkHeader line start) :
    p.addedLines since = [] ∧ ¬ p.Overruns since := by
  induction since generalizing p with
  | nil => exact ⟨rfl, not_overruns_nil p⟩
  | cons line rest ih =>
      obtain ⟨hline, hrest⟩ := List.forall_mem_cons.mp hsince
      have hquiet : (p.feed line).2 = none ∧ (p.feed line).1.place ≠ .inHunk := by
        cases hstep : p.feed line with
        | mk q o =>
            have hstep : Step p line q o := by simpa [hstep] using feed_step p line
            cases hstep with
            | commit header => exact ⟨rfl, nofun⟩
            | file place no_commit header => exact ⟨rfl, nofun⟩
            | hunk place no_commit no_file header => exact absurd header (hline _)
            | added place => exact absurd place hplace
            | _ => exact ⟨rfl, hplace⟩
      obtain ⟨hlines, hcount⟩ := ih hquiet.2 hrest
      refine ⟨?_, ?_⟩
      · rw [addedLines_cons, hquiet.1, hlines]
        rfl
      · rw [overruns_cons_iff, not_or]
        exact ⟨fun h => hplace h.2.1, hcount⟩

/-- If nothing is left out, the numbers are in a row, as far as 64 bits go. -/
theorem numbers_eq (hplace : p.place = .inHunk) (hnext : p.nextLine < Decimal.twoTo 64)
    (hsince : ∀ line ∈ since, ∀ start, ¬ IsHunkHeader line start) :
    (p.unrestricted.addedLines since).map (·.commit.line) =
      (List.range' p.nextLine (plusLines (stretchOf since))).map (· % Decimal.twoTo 64) := by
  induction since generalizing p with
  | nil => rfl
  | cons line rest ih =>
      obtain ⟨hline, hrest⟩ := List.forall_mem_cons.mp hsince
      rw [addedLines_cons]
      cases hfeed : p.unrestricted.feed line with
      | mk q o =>
          have hstep : Step p.unrestricted line q o := by
            simpa [hfeed] using feed_step p.unrestricted line
          cases hstep with
          | commit header =>
              rw [stretchOf_of_ends (Or.inl ⟨_, header⟩),
                (quiet_of_place (p := p.unrestricted.startCommit _) nofun hrest).1]
              rfl
          | file place no_commit header =>
              rw [stretchOf_of_ends (Or.inr ⟨_, header⟩),
                (quiet_of_place (p := p.unrestricted.startFile _) nofun hrest).1]
              rfl
          | unread place => exact absurd (hplace.symm.trans place) nofun
          | message place => exact absurd (hplace.symm.trans place) nofun
          | hunk place no_commit no_file header => exact absurd header (hline _)
          | @added text place line_eq no_commit no_file no_hunk =>
              have hcount : (p.countLine.unrestricted.addedLines rest).map (·.commit.line) =
                  (List.range' (p.nextLine + 1) (plusLines (stretchOf rest))).map
                    (· % Decimal.twoTo 64) :=
                (ih (p := p.countLine) hplace (Nat.mod_lt _ (by decide)) hrest).trans
                  (map_mod_range'_mod _ _ _)
              rw [line_eq, plusLines_stretchOf_plus, List.range'_succ, List.map_cons,
                Nat.mod_eq_of_lt hnext, ← hcount]
              rfl
          | other place no_commit no_file no_hunk =>
              have hhead : line.head? ≠ some '+' := by
                rcases place with hfile | ⟨-, hhead⟩
                · exact absurd (hplace.symm.trans hfile) nofun
                · exact hhead
              rw [plusLines_stretchOf_of_ne no_commit no_file hhead]
              exact ih hplace hnext hrest

/-- In a stretch the count runs over just if so many lines follow. -/
theorem overruns_iff (hplace : p.place = .inHunk) (hnext : p.nextLine < Decimal.twoTo 64)
    (hsince : ∀ line ∈ since, ∀ start, ¬ IsHunkHeader line start) :
    p.Overruns since ↔ Decimal.twoTo 64 ≤ p.nextLine + plusLines (stretchOf since) := by
  induction since generalizing p with
  | nil => exact iff_of_false (not_overruns_nil p) (Nat.not_le.mpr hnext)
  | cons line rest ih =>
      obtain ⟨hline, hrest⟩ := List.forall_mem_cons.mp hsince
      rw [overruns_cons_iff]
      cases hfeed : p.feed line with
      | mk q o =>
          have hstep : Step p line q o := by simpa [hfeed] using feed_step p line
          -- A line that ends the stretch is not counted, nor is anything behind it.
          have hended (hends : EndsStretch line) (hq : q.place ≠ .inHunk) :
              line.head? = some '+' ∧ p.place = .inHunk ∧ Decimal.twoTo 64 ≤ p.nextLine + 1 ∨
                q.Overruns rest ↔
                  Decimal.twoTo 64 ≤ p.nextLine + plusLines (stretchOf (line :: rest)) := by
            rw [stretchOf_of_ends hends]
            refine iff_of_false ?_ (Nat.not_le.mpr hnext)
            exact not_or.mpr ⟨fun h => hends.head?_ne h.1, (quiet_of_place hq hrest).2⟩
          cases hstep with
          | commit header => exact hended (Or.inl ⟨_, header⟩) nofun
          | file place no_commit header => exact hended (Or.inr ⟨_, header⟩) nofun
          | unread place => simp [hplace] at place
          | message place => simp [hplace] at place
          | hunk place no_commit no_file header => exact absurd header (hline _)
          | @added text place line_eq no_commit no_file no_hunk =>
              rw [line_eq, plusLines_stretchOf_plus]
              by_cases hend : Decimal.twoTo 64 ≤ p.nextLine + 1
              · exact iff_of_true (Or.inl ⟨rfl, hplace, hend⟩) (by omega)
              · have hcount : p.countLine.nextLine = p.nextLine + 1 :=
                  Nat.mod_eq_of_lt (Nat.not_le.mp hend)
                have hlater := ih (p := p.countLine) hplace (by omega) hrest
                rw [hcount] at hlater
                rw [hlater]
                constructor
                · rintro (h | h)
                  · exact absurd h.2.2 hend
                  · omega
                · intro h
                  exact Or.inr (by omega)
          | other place no_commit no_file no_hunk =>
              have hhead : line.head? ≠ some '+' := by simpa [hplace] using place
              rw [plusLines_stretchOf_of_ne no_commit no_file hhead, ih hplace hnext hrest]
              exact or_iff_right fun h => hhead h.1

/-! ## From one header to the next -/

theorem IsHunkHeader.head?_eq {line start : List Char} (h : IsHunkHeader line start) :
    line.head? = some '@' := by
  obtain ⟨old, oldCount, count, rest, rfl, -⟩ := h
  rfl

theorem IsHunkHeader.not_commitHeader {line start : List Char} (h : IsHunkHeader line start)
    (c : CommitHeader) : ¬ IsCommitHeader line c := by
  intro hc
  have hhead := h.head?_eq
  rw [hc.line_eq] at hhead
  exact absurd hhead (by simp)

theorem IsHunkHeader.not_fileHeader {line start : List Char} (h : IsHunkHeader line start)
    (path : String) : ¬ IsFileHeader line path := by
  rintro ⟨text, old, rfl, -⟩
  exact absurd h.head?_eq (by simp)

theorem not_hunkHeader_of_eq_none {line : List Char} (h : hunkHeader? line = none)
    (start : List Char) : ¬ IsHunkHeader line start := by
  rw [← hunkHeader?_eq_some_iff, h]
  exact nofun

/-- The header of a stretch sets the count where there is a file, and does nothing anywhere else. -/
theorem feed_hunkHeader {header start : List Char} (h : IsHunkHeader header start) :
    ((p.place = .inFile ∨ p.place = .inHunk) →
      p.feed header = ({ p with place := .inHunk, nextLine := lineNumberOf start }, none)) ∧
    (¬ (p.place = .inFile ∨ p.place = .inHunk) → p.feed header = (p, none)) := by
  refine ⟨fun hplace => (Step.hunk hplace h.not_commitHeader h.not_fileHeader h).feed_eq, ?_⟩
  intro hplace
  cases hp : p.place with
  | noCommit => exact (Step.unread hp h.not_commitHeader).feed_eq
  | inCommit => exact (Step.message hp h.not_commitHeader h.not_fileHeader).feed_eq
  | inFile => exact absurd (Or.inl hp) hplace
  | inHunk => exact absurd (Or.inr hp) hplace

theorem knowsFile_feedAll (exclusions : List String) (lines : List (List Char)) :
    ((new exclusions).feedAll lines).1.KnowsFile := by
  induction lines using List.reverseRecOn with
  | nil => exact knowsFile_new exclusions
  | append_singleton lines line ih =>
      rw [feedAll_snoc]
      exact ((feed_step _ line).unrestricted ih).1

/-- From the header of a stretch to the next one the numbers of the added lines are in a row, as
far as 64 bits go. They increase if the count does not run over among them, and if no line of the
stretch is left out, only then. A header alone does not make it run over, whatever number it
gives. A program that was built with checks gives the same lines, or none where the count runs
over: there it breaks down. -/
theorem numbers_increase_unless_count_runs_over (exclusions : List String)
    (before : List (List Char)) {header start : List Char} (since : List (List Char))
    (hheader : IsHunkHeader header start)
    (hsince : ∀ line ∈ since, ∀ start, ¬ IsHunkHeader line start) :
    let p := ((new exclusions).feedAll before).1
    let numbers := (p.addedLines (header :: since)).map (·.commit.line)
    let first := lineNumberOf start
    let count := plusLines (stretchOf since)
    first < Decimal.twoTo 64 ∧
    ¬ p.Overruns [header] ∧
    (∀ b, p.feed? b header = .ok (p.feed header)) ∧
    (∀ b, (b = .checked → ¬ p.Overruns (header :: since)) →
      p.feedAll? b (header :: since) = .ok (p.feedAll (header :: since))) ∧
    (p.Overruns (header :: since) → p.feedAll? .checked (header :: since) = .error .overflow) ∧
    (p.Overruns (header :: since) ↔
      (p.place = .inFile ∨ p.place = .inHunk) ∧ Decimal.twoTo 64 ≤ first + count) ∧
    numbers.Sublist ((List.range' first count).map (· % Decimal.twoTo 64)) ∧
    (first + count ≤ Decimal.twoTo 64 →
      numbers.Pairwise (· < ·) ∧ ∀ n ∈ numbers, first ≤ n ∧ n < first + count) ∧
    (numbers.length = count → (numbers.Pairwise (· < ·) ↔ first + count ≤ Decimal.twoTo 64)) ∧
    (exclusions = [] → p.place = .inFile ∨ p.place = .inHunk → numbers.length = count) := by
  intro p numbers first count
  have hfirst : first < Decimal.twoTo 64 := lineNumberOf_lt start
  have hhead : header.head? ≠ some '+' := by simp [hheader.head?_eq]
  let all := (List.range' first count).map (· % Decimal.twoTo 64)
  have hall (hplace : p.place = .inFile ∨ p.place = .inHunk) :
      (p.unrestricted.addedLines (header :: since)).map (·.commit.line) = all := by
    rw [addedLines_cons, (feed_hunkHeader (p := p.unrestricted) hheader).1 hplace]
    exact numbers_eq (p := { p with place := .inHunk, nextLine := first }) rfl hfirst hsince
  have hsub : numbers.Sublist all := by
    by_cases hplace : p.place = .inFile ∨ p.place = .inHunk
    · rw [← hall hplace]
      have hknows : p.KnowsFile := knowsFile_feedAll exclusions before
      simp only [numbers, hknows.addedLines_eq]
      exact List.filter_sublist.map _
    · have hquiet := quiet_of_place (fun h => hplace (Or.inr h)) hsince
      simp only [numbers, addedLines_cons, (feed_hunkHeader hheader).2 hplace, hquiet.1]
      exact List.nil_sublist _
  refine ⟨hfirst, ?_, ?_, fun b => feedAll?_of_fits, ?_, ?_, hsub, ?_, ?_, ?_⟩
  · rw [overruns_cons_iff, not_or]
    exact ⟨fun h => hhead h.1, not_overruns_nil _⟩
  · intro b
    exact feed?_of_not_stopsAt fun hstops => hhead (runsOver_iff.mp hstops.2).1
  · intro hover
    exact feedAll?_of_not_fits fun hfits => hfits rfl hover
  · rw [overruns_cons_iff, or_iff_right fun h => hhead h.1]
    by_cases hplace : p.place = .inFile ∨ p.place = .inHunk
    · rw [(feed_hunkHeader hheader).1 hplace, and_iff_right hplace]
      exact overruns_iff rfl hfirst hsince
    · rw [(feed_hunkHeader hheader).2 hplace]
      exact iff_of_false (quiet_of_place (fun h => hplace (Or.inr h)) hsince).2
        fun h => hplace h.1
  · intro hle
    refine ⟨((pairwise_lt_map_mod_iff hfirst).mpr hle).sublist hsub, fun n hn => ?_⟩
    obtain ⟨k, hk, rfl⟩ := List.mem_map.mp (hsub.subset hn)
    have hk := List.mem_range'_1.mp hk
    rw [Nat.mod_eq_of_lt (by omega)]
    exact hk
  · intro hgiven
    have heq := hsub.eq_of_length (by rw [hgiven, List.length_map, List.length_range'])
    rw [heq]
    exact pairwise_lt_map_mod_iff hfirst
  · rintro rfl hplace
    have hopen : p.unrestricted = p := ((knowsFile_new []).feedAll_eq before).2
    have hnumbers : numbers = all := by rw [← hall hplace, hopen]
    rw [hnumbers, List.length_map, List.length_range']

/-- Two added lines are numbered in order, with a context line between them. -/
theorem two_lines_are_numbered_in_order :
    let p := ((new []).feedAll ["commit 1234567|a|b|c".toList, "diff --git a/x b/x".toList]).1
    let header := "@@ -1 +7,3 @@".toList
    let since := ["+one".toList, " two".toList, "+three".toList]
    let numbers := (p.addedLines (header :: since)).map (·.commit.line)
    IsHunkHeader header ['7'] ∧ (∀ line ∈ since, ∀ start, ¬ IsHunkHeader line start) ∧
      numbers = [7, 8] ∧ numbers.Pairwise (· < ·) ∧ ¬ p.Overruns (header :: since) := by
  intro p header since numbers
  have hheader : IsHunkHeader header ['7'] := hunkHeader?_eq_some_iff.mp (by decide)
  have hread : ∀ line ∈ since, hunkHeader? line = none := by decide
  have hsince : ∀ line ∈ since, ∀ start, ¬ IsHunkHeader line start := fun line hline =>
    not_hunkHeader_of_eq_none (hread line hline)
  obtain ⟨-, -, -, -, -, hover, -, hnumbers, -⟩ := numbers_increase_unless_count_runs_over []
    ["commit 1234567|a|b|c".toList, "diff --git a/x b/x".toList] since hheader hsince
  refine ⟨hheader, hsince, by decide +kernel, (hnumbers (by decide)).1, ?_⟩
  rw [hover]
  exact fun h => absurd h.2 (by decide)

/-- Behind the greatest number a header can give, the second added line has the number 0. With
checks the program breaks down before it has given the first one. -/
theorem zero_follows_the_greatest_number :
    let p := ((new []).feedAll ["commit 1111111|a|b|c".toList, "diff --git a/x b/x".toList]).1
    let header := "@@ -0,0 +18446744073709551615 @@".toList
    let since := ["+one".toList, "+two".toList]
    let numbers := (p.addedLines (header :: since)).map (·.commit.line)
    IsHunkHeader header "18446744073709551615".toList ∧
      (∀ line ∈ since, ∀ start, ¬ IsHunkHeader line start) ∧
      numbers = [18446744073709551615, 0] ∧ ¬ numbers.Pairwise (· < ·) ∧
      p.Overruns (header :: since) ∧
      p.feedAll? .checked (header :: since) = .error .overflow ∧
      p.feedAll? .wrapping (header :: since) = .ok (p.feedAll (header :: since)) := by
  intro p header since numbers
  have hread : ∀ line ∈ since, hunkHeader? line = none := by decide
  have hnumbers : numbers = [18446744073709551615, 0] := by decide +kernel
  have hover : p.Overruns (header :: since) :=
    ⟨[header], "one".toList, ["+two".toList], rfl, by decide +kernel, by decide +kernel⟩
  refine ⟨hunkHeader?_eq_some_iff.mp (by decide), ?_, hnumbers, ?_, hover, ?_, ?_⟩
  · exact fun line hline => not_hunkHeader_of_eq_none (hread line hline)
  · rw [hnumbers]
    decide
  · exact feedAll?_of_not_fits fun hfits => hfits rfl hover
  · exact feedAll?_of_fits (fits_wrapping p _)

end SecretScan.DiffParser
