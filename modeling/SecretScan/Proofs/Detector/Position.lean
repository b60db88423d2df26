import SecretScan.Proofs.Detector.Lines
import SecretScan.Proofs.Engine
import SecretScan.Proofs.Pattern.Successive

/-!
# Where a value stands

A search goes from place to place of the text that it was given, and so do its matches and their
captures. The position of a hit is the offset of such a place. It lies between two characters of the
text, and the bytes from there on are those of the value, whatever the pattern.
-/

namespace SecretScan

/-! ## Stretches of a text -/

/-- A stretch lies in a text: some characters from its beginning on, and some more to its end. -/
structure Span.Within (s : Span) (text : List Char) : Prop where
  front : ∃ v, (Cursor.atStart text).Spells v s.first
  stretch : ∃ w, s.first.Spells w s.last

theorem Span.Within.split {s : Span} {text : List Char} (h : s.Within text) :
    ∃ front back, text = front ++ (s.text ++ back) ∧ s.start = Text.byteLength front := by
  obtain ⟨v, hv⟩ := h.front
  obtain ⟨w, hw⟩ := h.stretch
  have htext : s.text = w := Span.text_of_spells hw
  refine ⟨v, s.last.rest, ?_, ?_⟩
  · rw [htext, ← hw.rest_eq]
    exact hv.rest_eq
  · rw [Span.start, hv.offset_eq]
    exact Nat.zero_add _

/-- A match and all its captures lie in a text. -/
structure Match.Within (m : Match) (text : List Char) : Prop where
  whole : m.whole.Within text
  captures : ∀ c ∈ m.captures, c.2.Within text

theorem Match.Within.group? {m : Match} {text : List Char} (h : m.Within text) {index : Nat}
    {s : Span} (hs : m.group? index = some s) : s.Within text := by
  rw [Match.group?] at hs
  split at hs
  · obtain rfl := Option.some.inj hs
    exact h.whole
  · obtain ⟨front, back, hcaptures, -⟩ := List.lookup_eq_some_iff.mp hs
    refine h.captures (index, s) ?_
    rw [hcaptures]
    exact List.mem_append_right front List.mem_cons_self

theorem PatternDetector.valueSpan_within {m : Match} {text : List Char} (h : m.Within text) :
    (valueSpan m).Within text := by
  rw [valueSpan]
  cases hcapture : m.group? 1 with
  | none => exact h.whole
  | some s => exact h.group? hcapture

namespace Pattern

variable {p : Pattern} {text : List Char} {m : Match}

theorem within_of_matchAt? {c : Cursor} (hc : ∃ v, (Cursor.atStart text).Spells v c)
    (h : p.matchAt? c = some m) : m.Within text := by
  obtain ⟨r, hrun, rfl⟩ := Option.map_eq_some_iff.mp h
  have hahead := ahead_of_run hrun
  refine ⟨⟨hc, hahead.spells⟩, fun capture hcapture => ?_⟩
  rcases hahead.captures capture hcapture with hbefore | ⟨⟨v, hv⟩, hstretch⟩
  · exact absurd hbefore List.not_mem_nil
  · obtain ⟨u, hu⟩ := hc
    exact ⟨⟨u ++ v, hu.trans hv⟩, hstretch⟩

theorem within_of_mem_findAll (h : m ∈ p.findAll text) : m.Within text := by
  obtain ⟨d, hd, hmatch⟩ := (p.successive_findAll text).exists_place h
  exact within_of_matchAt? hd hmatch

theorem within_of_find? (h : p.find? text = some m) : m.Within text := by
  rw [find?_eq_head? (p.successive_findAll text)] at h
  exact within_of_mem_findAll (List.mem_of_head? h)

end Pattern

/-! ## Hits -/

/-- Does a hit have the value that a stretch of a text holds, with its place? -/
def Hit.Marks (hit : Hit) (s : Span) : Prop :=
  hit.value = some (String.ofList s.text) ∧ hit.position = some s.start

/-- What a detector reports is a stretch of the text. -/
theorem Detector.exists_within_of_find? {d : Detector} {text : List Char} {hit : Hit}
    (h : d.find? text = some hit) : ∃ s : Span, s.Within text ∧ hit.Marks s := by
  cases d with
  | builtin d =>
      obtain ⟨m, second, hm, -, -, rfl⟩ := PatternDetector.exists_of_find?_eq_some h
      have hwithin := Pattern.within_of_mem_findAll hm
      exact ⟨_, PatternDetector.valueSpan_within hwithin, rfl, rfl⟩
  | custom d =>
      obtain ⟨variant, -, hvariant⟩ := List.exists_of_findSome?_eq_some h
      obtain ⟨s, hs, rfl⟩ := Option.map_eq_some_iff.mp hvariant
      obtain ⟨m, hm, hgroup⟩ := Option.bind_eq_some_iff.mp hs
      exact ⟨s, (Pattern.within_of_find? hm).group? hgroup, rfl, rfl⟩

/-! ## Bytes -/

theorem Text.utf8ByteSize_ofList (text : List Char) :
    (String.ofList text).utf8ByteSize = byteLength text := by
  induction text with
  | nil => rfl
  | cons c text ih =>
      rw [String.ofList_cons, String.utf8ByteSize_append, String.utf8ByteSize_singleton, ih,
        byteLength_cons]

/-- A string with this value at byte `position`: both ends of the value lie between two characters,
and the bytes from one to the other are those of the value. -/
structure StandsAt (text value : String) (position : Nat) : Prop where
  first : (String.Pos.Raw.mk position).IsValid text
  last : (String.Pos.Raw.mk (position + value.utf8ByteSize)).IsValid text
  bytes : text.toByteArray.extract position (position + value.utf8ByteSize) = value.toByteArray

theorem standsAt_append (front value back : String) :
    StandsAt (front ++ (value ++ back)) value front.utf8ByteSize where
  first := String.Pos.Raw.isValid_iff_exists_append.mpr ⟨front, value ++ back, rfl, rfl⟩
  last := by
    refine String.Pos.Raw.isValid_iff_exists_append.mpr ⟨front ++ value, back, ?_, ?_⟩
    · rw [String.append_assoc]
    · simp [String.Pos.Raw.ext_iff]
  bytes := by
    have hfront : front.toByteArray.extract front.utf8ByteSize
        (front.utf8ByteSize + value.utf8ByteSize) = ByteArray.empty :=
      ByteArray.extract_eq_empty_iff.mpr (Nat.min_le_right _ _)
    have hvalue : (value ++ back).toByteArray.extract 0 value.utf8ByteSize = value.toByteArray := by
      rw [String.toByteArray_append]
      exact ByteArray.extract_append_eq_left rfl
    rw [String.toByteArray_append, ByteArray.extract_append, hfront, String.size_toByteArray,
      Nat.sub_self, Nat.add_sub_cancel_left, hvalue, ByteArray.empty_append]

theorem Span.Within.standsAt {s : Span} {text : List Char} (h : s.Within text) :
    StandsAt (String.ofList text) (String.ofList s.text) s.start := by
  obtain ⟨front, back, htext, hstart⟩ := h.split
  have hstands := standsAt_append (String.ofList front) (String.ofList s.text) (String.ofList back)
  rwa [← String.ofList_append, ← String.ofList_append, ← htext, Text.utf8ByteSize_ofList,
    ← hstart] at hstands

/-- Every position that is reported is where the value is: for the detectors of every registry, with
any patterns, and for every text. -/
theorem value_stands_at_position (r : Registry) (text : List Char) :
    ∃ hits, (∀ {m : Type → Type} [Monad m] [LawfulMonad m] (ask : Inquiry m),
        (Engine.ofRegistry r).scanText ask false text = pure hits) ∧
      ∀ hit ∈ hits, ∃ value position, hit.value = some value ∧ hit.position = some position ∧
        StandsAt (String.ofList text) value position := by
  refine ⟨(Engine.ofRegistry r).hits text, fun ask => Engine.scanText_off _ ask text, ?_⟩
  intro hit hhit
  obtain ⟨d, -, hfind⟩ := List.mem_filterMap.mp hhit
  obtain ⟨s, hwithin, hvalue, hposition⟩ := Detector.exists_within_of_find? hfind
  exact ⟨_, _, hvalue, hposition, hwithin.standsAt⟩

end SecretScan
