import SecretScan.Proofs.History.LookBack

/-!
# The signature of a commit

The line that begins a commit is what the format of the log makes of the commit, and the parser
takes it apart again at the bars. Bars in the title do no harm. One in the name or the address of
the author moves everything behind it, since a bar that was written is not told from one that
separates.
-/

namespace SecretScan

/-- A format of the log with the parts of a commit put into it: its hash, the name and the address
of its author, and its title. -/
def Commit.fill (c : Commit) : List Char → List Char
  | '%' :: 'H' :: rest => c.hash.toList ++ c.fill rest
  | '%' :: 'a' :: 'n' :: rest => c.author.toList ++ c.fill rest
  | '%' :: 'a' :: 'e' :: rest => c.email.toList ++ c.fill rest
  | '%' :: 's' :: rest => c.title.toList ++ c.fill rest
  | x :: rest => x :: c.fill rest
  | [] => []

namespace DiffParser

open SecretScan.Text

/-! ## The line that is written -/

/-- The line of the log that begins a commit. -/
def headerLine (c : Commit) : List Char := c.fill logFormat.toList

/-- Author, address and title with bars between them. -/
def signatureText (c : Commit) : List Char :=
  c.author.toList ++ '|' :: (c.email.toList ++ '|' :: c.title.toList)

/-- A commit as a log writes it: the hash has 7 to 64 digits, and no part goes over a line. -/
structure IsWritten (c : Commit) : Prop where
  digits : ∀ x ∈ c.hash.toList, isHash x = true
  least : 7 ≤ c.hash.toList.length
  most : c.hash.toList.length ≤ 64
  no_feed : '\n' ∉ c.author.toList ∧ '\n' ∉ c.email.toList ∧ '\n' ∉ c.title.toList

/-- No bar in the name or the address of the author. -/
def AuthorUnbarred (c : Commit) : Prop := '|' ∉ c.author.toList ∧ '|' ∉ c.email.toList

variable {c d : Commit}

theorem headerLine_eq (c : Commit) :
    headerLine c = "commit ".toList ++ (c.hash.toList ++ '|' :: signatureText c) := by
  rw [headerLine, signatureText, logFormat]
  change "commit ".toList ++ (c.hash.toList ++ '|' :: (c.author.toList ++ '|' ::
    (c.email.toList ++ '|' :: (c.title.toList ++ [])))) = _
  rw [List.append_nil]

theorem IsWritten.isCommitHeader (h : IsWritten c) :
    IsCommitHeader (headerLine c) ⟨c.hash, signatureText c⟩ := by
  obtain ⟨hauthor, hemail, htitle⟩ := h.no_feed
  refine ⟨headerLine_eq c, h.digits, h.least, h.most, ?_⟩
  simp only [signatureText, List.mem_append, List.mem_cons, not_or]
  exact ⟨hauthor, by decide, hemail, by decide, htitle⟩

/-- Without bars in the name and the address, the line tells the parts of a commit. -/
theorem eq_of_signatureText_eq (hc : AuthorUnbarred c) (hd : AuthorUnbarred d)
    (h : signatureText c = signatureText d) :
    c.author = d.author ∧ c.email = d.email ∧ c.title = d.title := by
  have hcut (e : Commit) (he : AuthorUnbarred e) : cut? '|' (signatureText e) =
      some (e.author.toList, e.email.toList ++ '|' :: e.title.toList) :=
    cut?_eq_some_iff.mpr ⟨rfl, he.1⟩
  have hcut' (e : Commit) (he : AuthorUnbarred e) : cut? '|' (e.email.toList ++ '|' ::
      e.title.toList) = some (e.email.toList, e.title.toList) :=
    cut?_eq_some_iff.mpr ⟨rfl, he.2⟩
  have hfirst := (hcut c hc).symm.trans (h ▸ hcut d hd)
  obtain ⟨hauthor, hrest⟩ := Prod.mk.inj (Option.some.inj hfirst)
  have hsecond := (hcut' c hc).symm.trans (hrest ▸ hcut' d hd)
  obtain ⟨hemail, htitle⟩ := Prod.mk.inj (Option.some.inj hsecond)
  exact ⟨String.toList_injective hauthor, String.toList_injective hemail,
    String.toList_injective htitle⟩

/-! ## What is read from it -/

/-- A text with two bars in it is cut at the first two. -/
theorem exists_cuts {text : List Char} (h : 2 ≤ text.count '|') :
    ∃ author email title, text = author ++ '|' :: (email ++ '|' :: title) ∧ '|' ∉ author ∧
      '|' ∉ email := by
  obtain ⟨author, rest, rfl, hauthor⟩ :=
    List.eq_append_cons_of_mem (List.count_pos_iff.mp (by omega : 0 < text.count '|'))
  have hrest : 0 < rest.count '|' := by
    rw [List.count_append, List.count_cons_self, List.count_eq_zero_of_not_mem hauthor] at h
    omega
  obtain ⟨email, title, rfl, hemail⟩ := List.eq_append_cons_of_mem (List.count_pos_iff.mp hrest)
  exact ⟨author, email, title, rfl, hauthor, hemail⟩

/-- What is read from a line with the signature of a commit is one with the same signature, without
bars in the name and the address. -/
theorem commitOf_signatureText (c : Commit) :
    let read := commitOf ⟨c.hash, signatureText c⟩
    read.hash = c.hash ∧ AuthorUnbarred read ∧ signatureText read = signatureText c := by
  have hbars : 2 ≤ (signatureText c).count '|' := by
    simp only [signatureText, List.count_append, List.count_cons_self]
    omega
  obtain ⟨author, email, title, htext, hauthor, hemail⟩ := exists_cuts hbars
  have hread : commitOf ⟨c.hash, signatureText c⟩ =
      { hash := c.hash, author := String.ofList author, email := String.ofList email,
        title := String.ofList title } := by
    rw [commitOf, cut?_eq_some_iff.mpr ⟨htext, hauthor⟩]
    simp only [cut?_eq_some_iff.mpr ⟨rfl, hemail⟩]
  rw [hread]
  refine ⟨rfl, ?_, ?_⟩
  · simpa [AuthorUnbarred] using ⟨hauthor, hemail⟩
  · rw [htext]
    simp [signatureText]

/-! ## What the added lines carry -/

/-- Between two commits the parser stays with the first, and so do the lines that it gives. -/
theorem Step.keeps_commit {p q : DiffParser} {line : List Char} {o : Option AddedLine}
    (h : Step p line q o) (hline : ∀ h, ¬ IsCommitHeader line h) :
    q.commit = p.commit ∧ ∀ a ∈ o, a.commit = { p.commit with line := a.commit.line } := by
  cases h with
  | @commit header hheader => exact absurd hheader (hline header)
  | unread place no_commit => exact ⟨rfl, nofun⟩
  | file place no_commit header => exact ⟨rfl, nofun⟩
  | message place no_commit no_file => exact ⟨rfl, nofun⟩
  | hunk place no_commit no_file header => exact ⟨rfl, nofun⟩
  | other place no_commit no_file no_hunk => exact ⟨rfl, nofun⟩
  | added place line_eq no_commit no_file no_hunk =>
      refine ⟨rfl, fun a ha => ?_⟩
      obtain ⟨-, -, rfl⟩ := added?_eq_some_iff.mp ha
      rfl

theorem commit_of_mem_addedLines {p : DiffParser} {lines : List (List Char)}
    (hlines : ∀ l ∈ lines, ∀ h, ¬ IsCommitHeader l h) {a : AddedLine}
    (ha : a ∈ p.addedLines lines) : a.commit = { p.commit with line := a.commit.line } := by
  induction lines generalizing p with
  | nil => simp at ha
  | cons line lines ih =>
      obtain ⟨hline, hlines⟩ := List.forall_mem_cons.mp hlines
      obtain ⟨hcommit, hgiven⟩ := (feed_step p line).keeps_commit hline
      rw [addedLines_cons, List.mem_append, Option.mem_toList] at ha
      rcases ha with hfirst | hlater
      · exact hgiven a hfirst
      · rw [← hcommit]
        exact ih hlines hlater

/-- Behind the line that begins a commit, and up to the next one, every added line carries the
hash of the commit and a signature that is written the same. It is the signature of the commit
just if there is no bar in the name or the address of its author; else it is the one that has no
bars in these. -/
theorem added_lines_carry_signature_iff_unbarred (hc : IsWritten c) (p : DiffParser)
    {more : List (List Char)} (hmore : ∀ l ∈ more, ∀ h, ¬ IsCommitHeader l h) :
    ∀ a ∈ p.addedLines (headerLine c :: more),
      a.commit.hash = c.hash ∧ headerLine a.commit = headerLine c ∧ AuthorUnbarred a.commit ∧
      (a.commit.author = c.author ∧ a.commit.email = c.email ∧ a.commit.title = c.title ↔
        AuthorUnbarred c) := by
  intro a ha
  have hfeed := (Step.commit (p := p) hc.isCommitHeader).feed_eq
  rw [addedLines_cons, hfeed, Option.toList_none, List.nil_append] at ha
  obtain ⟨hhash, hunbarred, htext⟩ := commitOf_signatureText c
  have hcommit : a.commit =
      { commitOf ⟨c.hash, signatureText c⟩ with line := a.commit.line } :=
    commit_of_mem_addedLines hmore ha
  have hhash : a.commit.hash = c.hash := by rw [hcommit, hhash]
  have hunbarred : AuthorUnbarred a.commit := by rw [hcommit]; exact hunbarred
  have htext : signatureText a.commit = signatureText c := by rw [hcommit]; exact htext
  refine ⟨hhash, ?_, hunbarred, ?_, fun h => eq_of_signatureText_eq hunbarred h htext⟩
  · rw [headerLine_eq, headerLine_eq, hhash, htext]
  · rintro ⟨hauthor, hemail, -⟩
    rw [AuthorUnbarred, ← hauthor, ← hemail]
    exact hunbarred

/-- Bars in the title, one of them at its end. -/
theorem title_with_bars_is_carried :
    let c : Commit := ⟨"2222222", "Grace", "grace@example.com", "Tweak | pipes in title|", 0⟩
    let more := ["diff --git a/x b/x", "@@ -0,0 +1 @@", "+one", "+two"].map String.toList
    IsWritten c ∧ (∀ l ∈ more, ∀ h, ¬ IsCommitHeader l h) ∧
      ((new []).addedLines (headerLine c :: more)).length = 2 ∧
      ∀ a ∈ (new []).addedLines (headerLine c :: more),
        a.commit = { c with line := a.commit.line } := by
  intro c more
  have hc : IsWritten c :=
    ⟨List.all_eq_true.mp (by decide), by decide, by decide, by decide, by decide, by decide⟩
  have hmore : ∀ l ∈ more, ∀ h, ¬ IsCommitHeader l h := by
    have hnone : ∀ l ∈ more, commitHeader? l = none := by decide +kernel
    intro l hl h hheader
    rw [← commitHeader?_eq_some_iff, hnone l hl] at hheader
    simp at hheader
  refine ⟨hc, hmore, by decide +kernel, fun a ha => ?_⟩
  obtain ⟨hhash, -, -, hcarried⟩ := added_lines_carry_signature_iff_unbarred hc (new []) hmore a ha
  obtain ⟨hauthor, hemail, htitle⟩ := hcarried.mpr ⟨by decide, by decide⟩
  cases a with
  | mk commit path line =>
      cases commit
      simp_all

/-- A bar in the name of the author: what stands behind it is taken for the address, and the address
for a part of the title. -/
theorem bar_in_name_moves_address_and_title :
    let c : Commit := ⟨"1111111", "A|B", "c@d", "t", 0⟩
    headerLine c = "commit 1111111|A|B|c@d|t".toList ∧
      (new []).addedLines (headerLine c ::
        ["diff --git a/x b/x", "@@ -0,0 +1 @@", "+one"].map String.toList) =
          [⟨⟨"1111111", "A", "B", "c@d|t", 1⟩, "x", "one"⟩] := by
  decide +kernel

end DiffParser

end SecretScan
