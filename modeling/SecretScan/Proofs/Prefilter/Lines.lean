import SecretScan.Proofs.Prefilter.Presence
import SecretScan.Proofs.Text.Lines

/-!
# The prefilter line by line

Where no keyword goes over the end of a line, a text is tried on the same detectors as its lines
are, each taken by itself.
-/

namespace SecretScan.Prefilter

open SecretScan.Text

/-- A keyword without an end of a line stands in a text just if it stands in one of the lines, each
taken in lowercase by itself. -/
theorem lower_isInfix_lower_iff_exists_line {k text : List Char} (hk : '\n' ∉ k) :
    lower k <:+: lower text ↔ ∃ line ∈ text.splitOn '\n', lower k <:+: lower line := by
  rw [isInfix_iff_exists_line (newline_not_mem_lower hk), splitOn_lower]
  simp only [List.mem_map, exists_exists_and_eq_and]

/-- Where the keywords of a registry have no ends of lines, the detectors selected for a text are
those selected for its lines. -/
theorem selects_line_by_line (r : Registry)
    (hr : ∀ d ∈ r.detectors, ∀ k ∈ d.keywords, '\n' ∉ k.toList) (text : List Char) (i : Nat) :
    i ∈ (ofRegistry r).select text ↔
      ∃ line ∈ text.splitOn '\n', i ∈ (ofRegistry r).select line := by
  have hstands (d : Detector) (hd : r.get? i = some d) (k : String) (hk : k ∈ d.keywords) :
      lower k.toList <:+: lower text ↔
        ∃ line ∈ text.splitOn '\n', lower k.toList <:+: lower line :=
    lower_isInfix_lower_iff_exists_line (hr d (List.mem_of_getElem? hd) k hk)
  simp only [mem_select_iff]
  constructor
  · rintro ⟨d, hd, k, hk, hlow, htext⟩
    obtain ⟨line, hline, hthere⟩ := (hstands d hd k hk).mp htext
    exact ⟨line, hline, d, hd, k, hk, hlow, hthere⟩
  · rintro ⟨line, hline, d, hd, k, hk, hlow, hthere⟩
    exact ⟨d, hd, k, hk, hlow, (hstands d hd k hk).mpr ⟨line, hline, hthere⟩⟩

/-- The sigma at the end of the second line ends a word, though a letter comes after the line. -/
theorem sigma_at_line_end_selects :
    let r := soleKeyword "AΣ"
    (∀ d ∈ r.detectors, ∀ k ∈ d.keywords, '\n' ∉ k.toList) ∧
      0 ∈ (ofRegistry r).select "b\nxaΣ\nb".toList := by
  have hkeywords : ∀ d ∈ (soleKeyword "AΣ").detectors, ∀ k ∈ d.keywords, '\n' ∉ k.toList := by
    decide
  refine ⟨hkeywords, (selects_line_by_line (soleKeyword "AΣ") hkeywords _ 0).mpr
    ⟨"xaΣ".toList, by decide, ?_⟩⟩
  exact mem_select_soleKeyword_iff.mpr ⟨by decide, by decide +kernel⟩

end SecretScan.Prefilter
