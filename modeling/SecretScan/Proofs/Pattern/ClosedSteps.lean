import SecretScan.Proofs.Pattern.ClosedSets

/-!
# Items and groups in front of a closing parenthesis

Each step of a reading is the same with a parenthesis behind the text. A step that is refused by
itself is refused there too, or has used up the parenthesis; then no group can be closed any more.
-/

namespace SecretScan.Pattern

open SecretScan.Unicode

variable {n b b' : Nat} {text text' : List Char} {f : Flags}

/-! ## Groups -/

/-- The end of the flags is left in place. -/
theorem alike_flags (f : Flags) (used : List Char) (h : Tail n text text') :
    Alike (fun a b => Same₂ n a b ∧ a.2.2 ≠ []) (fun b => b.2.2 = [')']) (f.read used text)
      (f.read used text') := by
  induction h generalizing f used with
  | lost n => exact .refused _ _
  | closed n =>
      simp only [Flags.read]
      split
      · split
        · exact .refused _ _
        · exact .late _ rfl
      · rename_i hparenthesis
        exact absurd rfl hparenthesis
  | @cons n text text' c h ih =>
      have hlater (f : Flags) (used : List Char) :
          Alike (fun a b => Same₂ (n + 1) a b ∧ a.2.2 ≠ []) (fun b => b.2.2 = [')'])
            (f.read used text) (f.read used text') := by
        refine (ih f used).mono ?_ fun _ => id
        rintro a b ⟨⟨hflags, hread, htail⟩, hne⟩
        exact ⟨⟨hflags, hread, htail.mono (Nat.le_succ n)⟩, hne⟩
      rw [Flags.read, Flags.read]
      split_ifs
      · exact .refused _ _
      · exact .read ⟨⟨rfl, rfl, .cons c h⟩, List.cons_ne_nil c text⟩
      · exact .refused _ _
      · exact hlater _ _
      · cases f.put? c (!used.contains '-') with
        | none => exact .refused _ _
        | some g => exact hlater g _

theorem alike_readGroupName (h : Tail n text text') :
    Alike (Same n) Never (readGroupName text) (readGroupName text') := by
  rw [readGroupName, readGroupName]
  rcases h.span (p := (· != '>')) (by decide) with ⟨hnone, hnone'⟩ |
    ⟨name, mark, rest, rest', hspan, hspan', hrest⟩
  · generalize text.span (· != '>') = parts, text'.span (· != '>') = parts' at hnone hnone' ⊢
    obtain ⟨name, rest⟩ := parts
    obtain ⟨name', rest'⟩ := parts'
    obtain rfl : rest = [] := hnone
    obtain rfl : rest' = [] := hnone'
    exact .refused _ _
  · rw [hspan, hspan']
    cases name with
    | nil => exact .refused _ _
    | cons c more =>
        dsimp only
        split
        · exact .read ⟨rfl, hrest⟩
        · exact .refused _ _

theorem alike_openNamed (r : Reading) (h : Tail n text text') :
    Alike (Same n) Never (r.openNamed text) (r.openNamed text') := by
  refine (alike_readGroupName h).bind ?_ nofun
  rintro ⟨name, rest⟩ ⟨name', rest'⟩ ⟨hname, htail⟩
  obtain rfl : name = name' := hname
  dsimp only
  split
  · exact .refused _ _
  · exact .read ⟨rfl, htail⟩

/-- Does the beginning of a group say that it looks around? -/
def looksAround (text : List Char) : Prop :=
  text.head? = some '=' ∨ text.head? = some '!' ∨
    text.head? = some '<' ∧ ((text.drop 1).head? = some '=' ∨ (text.drop 1).head? = some '!')

instance (text : List Char) : Decidable (looksAround text) := by
  unfold looksAround
  infer_instance

/-- What stands behind the sign of a named group. -/
def behindName? (text : List Char) : Option (List Char) :=
  if text.head? = some '<' then some (text.drop 1)
  else if text.head? = some 'P' ∧ (text.drop 1).head? = some '<' then some (text.drop 2)
  else none

/-- A setting of flags, or a group without a number, behind its question mark. -/
def Reading.openFlags (r : Reading) (text : List Char) : Except Fault (Reading × List Char) := do
  let (flags, some?, rest) ← r.flags.read [] text
  match rest with
  | ')' :: rest =>
    if some? then return ({ r with flags := flags, items := ⟨none, 0⟩ :: r.items }, rest)
    else .error .nothingToRepeat
  | _ => return (r.openGroup none flags, rest.drop 1)

/-- A group with a number. -/
def Reading.openNumbered (r : Reading) : Reading :=
  { r with groups := r.groups + 1 }.openGroup (some (r.groups + 1)) r.flags

theorem openAny_eq_of_ne (r : Reading) (h : (r.flags.skip text).head? ≠ some '?') :
    r.openAny text = .ok (r.openNumbered, r.flags.skip text) := by
  rw [Reading.openAny]
  split <;> simp_all [Reading.openNumbered]

theorem head?_ne_of_forall {x : Char} (h : ∀ rest, text = x :: rest → False) :
    text.head? ≠ some x := by
  intro hhead
  obtain ⟨rest, hrest⟩ := List.head?_eq_some_iff.mp hhead
  exact h rest hrest

theorem openAny_eq (r : Reading) {rest : List Char} (hskip : r.flags.skip text = '?' :: rest) :
    r.openAny text =
      if looksAround rest then .error .lookAround
      else
        match behindName? rest with
        | some more => r.openNamed more
        | none => r.openFlags rest := by
  rw [Reading.openAny, hskip]
  dsimp only
  split
  · simp_all [looksAround]
  · simp_all [looksAround]
  · simp_all [looksAround]
  · simp_all [looksAround]
  · simp_all [looksAround, behindName?]
  · rename_i rest hequal hbang heq
    obtain ⟨-, rfl⟩ := List.cons.inj heq
    simp [looksAround, behindName?, head?_ne_of_forall fun rest h => hequal rest (h ▸ rfl),
      head?_ne_of_forall fun rest h => hbang rest (h ▸ rfl)]
  · rename_i hequal hbang _ _ hname hless heq
    obtain ⟨-, rfl⟩ := List.cons.inj heq
    have hlooks : ¬ looksAround rest := by
      rintro (h | h | ⟨h, -⟩)
      · exact head?_ne_of_forall hequal h
      · exact head?_ne_of_forall hbang h
      · exact head?_ne_of_forall hless h
    have hbehind : behindName? rest = none := by
      rw [behindName?, if_neg (head?_ne_of_forall hless), if_neg]
      rintro ⟨hP, h⟩
      obtain ⟨more, rfl⟩ := List.head?_eq_some_iff.mp hP
      exact head?_ne_of_forall (fun more' hmore => hname more' (congrArg _ hmore)) h
    rw [if_neg hlooks, hbehind]
    rfl
  · rename_i hquestion
    exact absurd rfl (hquestion rest)

theorem looksAround_iff (h : Tail n text text') : looksAround text' ↔ looksAround text := by
  rw [looksAround, looksAround, h.head?_eq_iff (by decide), h.head?_eq_iff (by decide),
    h.head?_eq_iff (by decide), h.drop_one.head?_eq_iff (by decide),
    h.drop_one.head?_eq_iff (by decide)]

theorem behindName?_cases (h : Tail n text text') :
    behindName? text = none ∧ behindName? text' = none ∨ ∃ more more',
      behindName? text = some more ∧ behindName? text' = some more' ∧ Tail n more more' := by
  have hless := h.head?_eq_iff (x := '<') (by decide)
  have hname := h.head?_eq_iff (x := 'P') (by decide)
  have hsecond := h.drop_one.head?_eq_iff (x := '<') (by decide)
  simp only [behindName?, hless, hname, hsecond]
  split_ifs
  · exact Or.inr ⟨_, _, rfl, rfl, h.drop_one⟩
  · have hdrop := h.drop_one.drop_one
    rw [List.drop_drop, List.drop_drop] at hdrop
    exact Or.inr ⟨_, _, rfl, rfl, hdrop⟩
  · exact Or.inl ⟨rfl, rfl⟩

theorem openFlags_eq (r : Reading) (text : List Char) :
    r.openFlags text = (r.flags.read [] text).bind fun a =>
      if a.2.2.head? = some ')' then
        if a.2.1 then .ok ({ r with flags := a.1, items := ⟨none, 0⟩ :: r.items }, a.2.2.drop 1)
        else .error .nothingToRepeat
      else .ok (r.openGroup none a.1, a.2.2.drop 1) := by
  refine congrArg _ (funext fun ⟨flags, some?, rest⟩ => ?_)
  dsimp only
  split
  · rfl
  · rename_i hne
    rw [if_neg (head?_ne_of_forall hne)]
    rfl

theorem alike_openFlags (r : Reading) (h : Tail n text text') :
    Alike (Same n) (fun b => b.2 = []) (r.openFlags text) (r.openFlags text') := by
  rw [openFlags_eq, openFlags_eq]
  refine (alike_flags r.flags [] h).bind ?_ ?_
  · rintro ⟨flags, some?, rest⟩ ⟨flags', some?', rest'⟩ ⟨⟨hflags, hsome, htail⟩, hne⟩
    obtain rfl : flags = flags' := hflags
    obtain rfl : some? = some?' := hsome
    cases htail with
    | lost => exact absurd rfl hne
    | closed => exact absurd rfl hne
    | cons c hrest =>
        dsimp only
        rw [List.head?_cons, List.head?_cons]
        split_ifs
        · exact .read ⟨rfl, hrest.mono (Nat.le_succ _)⟩
        · exact .refused _ _
        · exact .read ⟨rfl, hrest.mono (Nat.le_succ _)⟩
  · rintro e ⟨flags, some?, rest⟩ hrest
    obtain rfl : rest = [')'] := hrest
    cases some? with
    | true => exact .late e rfl
    | false => exact .refused e _

theorem alike_openAny (r : Reading) (h : Tail n text text') :
    Alike (Same n) (fun b => b.2 = []) (r.openAny text) (r.openAny text') := by
  have hskip := h.skip r.flags
  by_cases hhead : (r.flags.skip text).head? = some '?'
  · rcases h.skip_cases r.flags with ⟨hnil, -⟩ | ⟨hnil, -⟩ |
      ⟨m, c, rest, rest', rfl, hrest, hrest', htail⟩
    · simp [hnil] at hhead
    · simp [hnil] at hhead
    · rw [hrest] at hhead
      obtain rfl := Option.some.inj hhead
      rw [openAny_eq r hrest, openAny_eq r hrest']
      simp only [looksAround_iff htail]
      split
      · exact .refused _ _
      · have htail := htail.mono (Nat.le_succ m)
        rcases behindName?_cases htail with ⟨hnone, hnone'⟩ | ⟨more, more', hmore, hmore', hname⟩
        · rw [hnone, hnone']
          exact alike_openFlags r htail
        · rw [hmore, hmore']
          exact (alike_openNamed r hname).mono (fun _ _ => id) nofun
  · have hhead' : (r.flags.skip text').head? ≠ some '?' := by
      rwa [ne_eq, hskip.head?_eq_iff (by decide)]
    rw [openAny_eq_of_ne r hhead, openAny_eq_of_ne r hhead']
    exact .read ⟨rfl, hskip⟩

/-! ## Repetitions -/

theorem tail_readGreed (h : Tail n text text') :
    (readGreed text).1 = (readGreed text').1 ∧ Tail n (readGreed text).2 (readGreed text').2 := by
  cases h with
  | lost => exact ⟨rfl, .lost n⟩
  | closed => exact ⟨rfl, .closed n⟩
  | @cons n text text' c h =>
      by_cases hc : c = '?'
      · subst hc
        exact ⟨rfl, h.mono (Nat.le_succ n)⟩
      · have hgreed (rest : List Char) : readGreed (c :: rest) = (true, c :: rest) := by
          rw [readGreed]
          rintro rest' heq
          exact hc (List.cons.inj heq).1
        rw [hgreed, hgreed]
        exact ⟨rfl, .cons c h⟩

theorem readDigits_of_none {value : Option Nat}
    (h : ∀ c, text.head? = some c → isAsciiDigit c = false) :
    readDigits f b value text = (value, text) := by
  cases b with
  | zero => rfl
  | succ b =>
      cases text with
      | nil => rfl
      | cons c text =>
          rw [readDigits, h c rfl]
          rfl

theorem tail_readDigits (f : Flags) (value : Option Nat) (h : Tail n text text')
    (hb : n ≤ b) (hb' : n ≤ b') :
    (readDigits f b value text).1 = (readDigits f b' value text').1 ∧
      Tail n (readDigits f b value text).2 (readDigits f b' value text').2 := by
  have hnone {c : Char} (hc : isAsciiDigit c = false) (rest : List Char) :
      ∀ d, (c :: rest).head? = some d → isAsciiDigit d = false := by
    rintro d hd
    obtain rfl := Option.some.inj hd
    exact hc
  have hnil : ∀ d, ([] : List Char).head? = some d → isAsciiDigit d = false := by simp
  induction b generalizing n value text text' b' with
  | zero =>
      obtain rfl : n = 0 := Nat.le_zero.mp hb
      cases h with
      | lost =>
          rw [readDigits_of_none hnil, readDigits_of_none hnil]
          exact ⟨rfl, .lost 0⟩
      | closed =>
          rw [readDigits_of_none hnil, readDigits_of_none (hnone (by decide) [])]
          exact ⟨rfl, .closed 0⟩
  | succ b ih =>
      cases h with
      | lost =>
          rw [readDigits_of_none hnil, readDigits_of_none hnil]
          exact ⟨rfl, .lost n⟩
      | closed =>
          rw [readDigits_of_none hnil, readDigits_of_none (hnone (by decide) [])]
          exact ⟨rfl, .closed n⟩
      | @cons n text text' c h =>
          obtain ⟨b', rfl⟩ := Nat.exists_eq_succ_of_ne_zero
            (Nat.ne_of_gt (Nat.lt_of_lt_of_le (Nat.succ_pos n) hb'))
          by_cases hc : isAsciiDigit c = true
          · obtain ⟨hvalue, htail⟩ := ih (some (10 * value.getD 0 + (c.toNat - 0x30))) (h.skip f)
              (Nat.le_of_succ_le_succ hb) (Nat.le_of_succ_le_succ hb')
            rw [readDigits, readDigits, if_pos hc, if_pos hc]
            exact ⟨hvalue, htail.mono (Nat.le_succ n)⟩
          · have hc := Bool.not_eq_true _ ▸ hc
            rw [readDigits_of_none (hnone hc _), readDigits_of_none (hnone hc _)]
            exact ⟨rfl, .cons c h⟩

theorem alike_readNumber (f : Flags) (h : Tail n text text') :
    Alike (Same n) Never (readNumber f text) (readNumber f text') := by
  have hblanks : Tail n (text.dropWhile isBlank) (text'.dropWhile isBlank) :=
    h.dropWhile (by decide)
  obtain ⟨hvalue, htail⟩ :=
    tail_readDigits f none hblanks.exact (Nat.le_refl _) hblanks.length_le_length
  replace htail := htail.mono hblanks.length_le
  simp only [readNumber]
  generalize readDigits f _ none (text.dropWhile isBlank) = a at hvalue htail ⊢
  generalize readDigits f _ none (text'.dropWhile isBlank) = a' at hvalue htail ⊢
  obtain ⟨value, rest⟩ := a
  obtain ⟨value', rest'⟩ := a'
  obtain rfl : value = value' := hvalue
  cases value with
  | none => exact .read ⟨rfl, htail⟩
  | some k =>
      dsimp only
      split
      · exact .read ⟨rfl, (htail.dropWhile (by decide)).skip f⟩
      · exact .refused _ _

/-- The bounds of a counted repetition, behind the number that comes first. -/
def countBehind (f : Flags) (low : Option Nat) (text : List Char) :
    Except Fault (Nat × Option Nat × List Char) :=
  match low, text with
  | some n, '}' :: _ => .ok (n, some n, text)
  | some n, ',' :: rest =>
    match f.skip rest with
    | '}' :: rest => .ok (n, none, '}' :: rest)
    | rest => do
      let (high, rest) ← readNumber f rest
      match high with
      | some m => .ok (n, some m, rest)
      | none => .error .badCount
  | _, _ => .error .badCount

/-- The end of a counted repetition. -/
def Reading.closeCount (r : Reading) (low : Nat) (high : Option Nat) (text : List Char) :
    Except Fault (Reading × List Char) :=
  match text with
  | '}' :: rest =>
    if high.any (· < low) then .error .badCount
    else do
      let (greedy, rest) := readGreed (r.flags.skip rest)
      return (← r.repeatLast low high greedy, rest)
  | _ => .error .badCount

theorem countBehind_of_ne (low : Option Nat) (hclose : text.head? ≠ some '}')
    (hcomma : text.head? ≠ some ',') : countBehind f low text = .error .badCount := by
  rw [countBehind]
  · rintro n rest - rfl
    exact hclose rfl
  · rintro n rest - rfl
    exact hcomma rfl

theorem countBehind_open (low : Nat) {rest more : List Char} (h : f.skip rest = '}' :: more) :
    countBehind f (some low) (',' :: rest) = .ok (low, none, '}' :: more) := by
  simp only [countBehind, h]

theorem countBehind_comma (low : Nat) {rest : List Char} (h : (f.skip rest).head? ≠ some '}') :
    countBehind f (some low) (',' :: rest) = (readNumber f (f.skip rest)).bind fun a =>
      match a.1 with
      | some m => .ok (low, some m, a.2)
      | none => .error .badCount := by
  rw [countBehind]
  generalize f.skip rest = rest at h
  split
  · exact absurd rfl h
  · rfl

theorem readCount_eq (r : Reading) (text : List Char) :
    r.readCount text =
      if (r.items.head?.bind (·.pattern)).isNone then .error .nothingToRepeat
      else (readNumber r.flags (r.flags.skip text)).bind fun a =>
        (countBehind r.flags a.1 a.2).bind fun b => r.closeCount b.1 b.2.1 b.2.2 := by
  rw [Reading.readCount]
  split
  · rfl
  · refine congrArg (Except.bind (readNumber r.flags (r.flags.skip text)))
      (funext fun ⟨low, rest⟩ => ?_)
    dsimp only
    split
    · rfl
    · split
      · rename_i hskip
        rw [countBehind_open _ hskip]
        rfl
      · rename_i hne
        rw [countBehind_comma _ (head?_ne_of_forall hne)]
        cases readNumber r.flags _ with
        | error e => rfl
        | ok a =>
            obtain ⟨high, rest⟩ := a
            cases high <;> rfl
    · rename_i hclose hcomma
      cases low with
      | none => rfl
      | some low =>
          rw [countBehind_of_ne _ (head?_ne_of_forall fun more => hclose low more rfl)
            (head?_ne_of_forall fun more => hcomma low more rfl)]
          rfl

theorem alike_countBehind (f : Flags) (low : Option Nat) (h : Tail n text text') :
    Alike (Same₂ n) Never (countBehind f low text) (countBehind f low text') := by
  cases low with
  | none => exact .refused _ _
  | some low =>
      by_cases hclose : text.head? = some '}'
      · cases h with
        | lost => cases hclose
        | closed => cases hclose
        | cons c h =>
            obtain rfl := Option.some.inj hclose
            exact .read ⟨rfl, rfl, .cons '}' h⟩
      by_cases hcomma : text.head? = some ','
      · cases h with
        | lost => cases hcomma
        | closed => cases hcomma
        | @cons n text text' c h =>
            obtain rfl := Option.some.inj hcomma
            have hskip := h.skip f
            by_cases hopen : (f.skip text).head? = some '}'
            · obtain ⟨more, hmore⟩ := List.head?_eq_some_iff.mp hopen
              rw [hmore] at hskip
              generalize hmore' : f.skip text' = rest' at hskip
              cases hskip with
              | cons c hskip =>
                  rw [countBehind_open low hmore, countBehind_open low hmore']
                  exact .read ⟨rfl, rfl, (hskip.cons '}').mono (Nat.le_succ _)⟩
            · have hopen' : (f.skip text').head? ≠ some '}' := by
                rwa [ne_eq, hskip.head?_eq_iff (by decide)]
              rw [countBehind_comma low hopen, countBehind_comma low hopen']
              refine (alike_readNumber f hskip).bind ?_ nofun
              rintro ⟨high, rest⟩ ⟨high', rest'⟩ ⟨hhigh, htail⟩
              obtain rfl : high = high' := hhigh
              cases high with
              | none => exact .refused _ _
              | some high => exact .read ⟨rfl, rfl, htail.mono (Nat.le_succ n)⟩
      · have hclose' : text'.head? ≠ some '}' := by rwa [ne_eq, h.head?_eq_iff (by decide)]
        have hcomma' : text'.head? ≠ some ',' := by rwa [ne_eq, h.head?_eq_iff (by decide)]
        rw [countBehind_of_ne _ hclose hcomma, countBehind_of_ne _ hclose' hcomma']
        exact .refused _ _

theorem closeCount_of_ne (r : Reading) (low : Nat) (high : Option Nat)
    (h : text.head? ≠ some '}') : r.closeCount low high text = .error .badCount := by
  rw [Reading.closeCount]
  rintro rest rfl
  exact h rfl

theorem alike_closeCount (r : Reading) (low : Nat) (high : Option Nat) (h : Tail n text text') :
    Alike (Same n) Never (r.closeCount low high text) (r.closeCount low high text') := by
  by_cases hclose : text.head? = some '}'
  · cases h with
    | lost => cases hclose
    | closed => cases hclose
    | @cons n text text' c h =>
        obtain rfl := Option.some.inj hclose
        obtain ⟨hgreed, htail⟩ := tail_readGreed (h.skip r.flags)
        simp only [Reading.closeCount]
        split
        · exact .refused _ _
        · rw [hgreed]
          exact Alike.bind_same _ fun r' => .read ⟨rfl, htail.mono (Nat.le_succ n)⟩
  · have hclose' : text'.head? ≠ some '}' := by rwa [ne_eq, h.head?_eq_iff (by decide)]
    rw [closeCount_of_ne r low high hclose, closeCount_of_ne r low high hclose']
    exact .refused _ _

theorem alike_readCount (r : Reading) (h : Tail n text text') :
    Alike (Same n) Never (r.readCount text) (r.readCount text') := by
  rw [readCount_eq, readCount_eq]
  split
  · exact .refused _ _
  · refine (alike_readNumber r.flags (h.skip r.flags)).bind ?_ nofun
    rintro ⟨low, rest⟩ ⟨low', rest'⟩ ⟨hlow, htail⟩
    obtain rfl : low = low' := hlow
    refine (alike_countBehind r.flags low htail).bind ?_ nofun
    rintro ⟨low, high, rest⟩ ⟨low', high', rest'⟩ ⟨hlow, hhigh, htail⟩
    obtain rfl : low = low' := hlow
    obtain rfl : high = high' := hhigh
    exact alike_closeCount r low high htail

/-! ## Steps -/

/-- The next step of a reading is the same with a parenthesis behind the text. -/
theorem alike_step (r : Reading) (c : Char) (h : Tail n text text') :
    Alike (Same n) (fun b => Spent b.1.flags b.2) (r.step c text) (r.step c text') := by
  obtain ⟨hgreed, hbehind⟩ := tail_readGreed h
  simp only [Reading.step]
  split
  · exact (alike_openAny r h).mono (fun _ _ => id) fun _ => Or.inl
  · exact Alike.map_same _ fun r' => ⟨rfl, h⟩
  · exact .read ⟨rfl, h⟩
  · refine (alike_readSet r.flags h).map ?_ nofun
    rintro ⟨part, rest⟩ ⟨part', rest'⟩ ⟨hpart, htail⟩
    obtain rfl : part = part' := hpart
    exact ⟨rfl, htail⟩
  · rw [hgreed]
    exact Alike.map_same _ fun r' => ⟨rfl, hbehind⟩
  · rw [hgreed]
    exact Alike.map_same _ fun r' => ⟨rfl, hbehind⟩
  · rw [hgreed]
    exact Alike.map_same _ fun r' => ⟨rfl, hbehind⟩
  · exact (alike_readCount r h).mono (fun _ _ => id) nofun
  · exact Alike.map_same _ fun s => ⟨rfl, h⟩
  · exact .read ⟨rfl, h⟩
  · exact .read ⟨rfl, h⟩
  · refine (alike_primitive r.flags h).bind ?_ ?_
    · rintro ⟨p, rest⟩ ⟨p', rest'⟩ ⟨hp, htail⟩
      obtain rfl : p = p' := hp
      cases p with
      | char c byte => exact Alike.bind_same _ fun s => .read ⟨rfl, htail⟩
      | dot => exact Alike.bind_same _ fun s => .read ⟨rfl, htail⟩
      | look l => exact .read ⟨rfl, htail⟩
      | set s => exact .read ⟨rfl, htail⟩
    · rintro e ⟨p, rest⟩ hspent
      cases p with
      | char c byte => exact Alike.bind_late e _ fun s => .late e hspent
      | dot => exact Alike.bind_late e _ fun s => .late e hspent
      | look l => exact .late e hspent
      | set s => exact .late e hspent
  · exact Alike.map_same _ fun s => ⟨rfl, h⟩

end SecretScan.Pattern
