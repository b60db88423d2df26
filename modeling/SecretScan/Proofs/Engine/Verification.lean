import SecretScan.Engine.Dispatch
import SecretScan.Proofs.Detector.Hits
import SecretScan.Proofs.Engine
import SecretScan.Proofs.Schedule
import Mathlib.Data.List.Perm.Basic
import Mathlib.Logic.Relation

/-!
# Verification only annotates

A trial asks at most one question, and whatever the answer is, the hit that the detector makes by
itself comes out of it, with details added to it at most. So however the trials alternate, and
however long a gate holds some of them back, the same hits are made with verification and without.
-/

namespace SecretScan

/-! ## Details -/

namespace Details

theorem lookup_insertMember_of_ne {n m : String} {v : Json} (hne : m ≠ n) (all : Details) :
    (Json.insertMember n v all).lookup m = all.lookup m := by
  have hbeq : (m == n) = false := beq_eq_false_iff_ne.mpr hne
  induction all with
  | nil => simp [Json.insertMember, List.lookup_cons, hbeq]
  | cons member rest ih =>
      obtain ⟨k, w⟩ := member
      rw [Json.insertMember]
      split
      · simp [List.lookup_cons, hbeq]
      · split
        · rename_i heq
          simp [List.lookup_cons, hbeq, ← heq]
        · simp only [List.lookup_cons, ih]

theorem complete_cons (base : Details) (m : String) (w : Json) (rest : Details) :
    base.complete ((m, w) :: rest) =
      complete (if (base.lookup m).isSome then base else Json.insertMember m w base) rest := rfl

/-- A detail that is there keeps its value when others are added. -/
theorem lookup_complete {base more : Details} {n : String} {v : Json}
    (h : base.lookup n = some v) : (base.complete more).lookup n = some v := by
  induction more generalizing base with
  | nil => exact h
  | cons member rest ih =>
      obtain ⟨m, w⟩ := member
      rw [complete_cons]
      by_cases hm : (base.lookup m).isSome = true
      · rw [if_pos hm]
        exact ih h
      · rw [if_neg hm]
        have hne : n ≠ m := by
          rintro rfl
          simp [h] at hm
        exact ih ((lookup_insertMember_of_ne hne base).trans h)

end Details

/-! ## What is left of a computation -/

namespace Asking

/-- What a computation has left after these questions and answers. -/
inductive Reaches {α : Type} (p : Asking α) : List (Question × Answer) → Asking α → Prop
  | start : Reaches p [] p
  | answer {answers : List (Question × Answer)} {q : Question} {next : Answer → Asking α}
      (a : Answer) (h : Reaches p answers (ask q next)) :
      Reaches p (answers ++ [(q, a)]) (next a)

theorem reaches_done_iff {α : Type} {a : α} {answers : List (Question × Answer)}
    {rest : Asking α} : Reaches (done a) answers rest ↔ answers = [] ∧ rest = done a := by
  constructor
  · intro h
    induction h with
    | start => exact ⟨rfl, rfl⟩
    | answer a h ih => simp at ih
  · rintro ⟨rfl, rfl⟩
    exact .start

/-- A computation that asks once and is then done has nothing else before it. -/
theorem reaches_ask_done_iff {α : Type} {q : Question} {f : Answer → α}
    {answers : List (Question × Answer)} {rest : Asking α} :
    Reaches (ask q fun a => done (f a)) answers rest ↔
      (answers = [] ∧ rest = ask q fun a => done (f a)) ∨
        ∃ a, answers = [(q, a)] ∧ rest = done (f a) := by
  constructor
  · intro h
    induction h with
    | start => exact Or.inl ⟨rfl, rfl⟩
    | @answer answers q' next a h ih =>
        rcases ih with ⟨rfl, hask⟩ | ⟨b, -, hdone⟩
        · obtain ⟨rfl, rfl⟩ := Asking.ask.inj hask
          exact Or.inr ⟨a, rfl, rfl⟩
        · simp at hdone
  · rintro (⟨rfl, rfl⟩ | ⟨a, rfl, rfl⟩)
    · exact .start
    · exact .answer a .start

end Asking

/-! ## One trial -/

theorem Detector.plain_of_find? {d : Detector} {text : List Char} {hit : Hit}
    (h : d.find? text = some hit) : hit.verified = false ∧ ∃ value, hit.value = some value := by
  cases d with
  | builtin d =>
      obtain ⟨m, second, -, -, -, rfl⟩ := PatternDetector.exists_of_find?_eq_some h
      exact ⟨rfl, _, rfl⟩
  | custom d =>
      obtain ⟨v, -, hv⟩ := List.exists_of_findSome?_eq_some h
      obtain ⟨span, -, rfl⟩ := Option.map_eq_some_iff.mp hv
      exact ⟨rfl, _, rfl⟩

namespace Detector

/-- The question about what a detector finds in a text, if it finds anything and has a service. -/
def question? (d : Detector) (text : List Char) : Option Question :=
  d.service?.bind fun s => ((d.find? text).bind (·.value)).map fun v => ⟨s, v⟩

/-- What a trial of a detector comes to: the hit that the detector makes by itself, which a service
may have annotated if it could be asked. -/
inductive Tried (d : Detector) (verify : Bool) (text : List Char) :
    List (Question × Answer) → Option Hit → Prop
  | missed (find : d.find? text = none) : Tried d verify text [] none
  | plain {hit : Hit} (find : d.find? text = some hit)
      (unasked : verify = false ∨ d.service? = none) : Tried d verify text [] (some hit)
  | asked {hit : Hit} {q : Question} (a : Answer) (find : d.find? text = some hit)
      (asks : verify = true) (question : d.question? text = some q) :
      Tried d verify text [(q, a)] (some (PatternDetector.annotated hit a))

/-- A trial asks nothing, or one question, and is then done. -/
theorem scan_open (d : Detector) (verify : Bool) (text : List Char) :
    (∃ hit, d.scan Asking.inquiry verify text = .done hit ∧ d.Tried verify text [] hit) ∨
      ∃ q hit, d.scan Asking.inquiry verify text =
          (.ask q fun a => .done (some (PatternDetector.annotated hit a))) ∧
        ∀ a, d.Tried verify text [(q, a)] (some (PatternDetector.annotated hit a)) := by
  cases hfind : d.find? text with
  | none =>
      refine Or.inl ⟨none, ?_, .missed hfind⟩
      cases d with
      | builtin d =>
          have hfind : d.find? text = none := hfind
          rw [scan, PatternDetector.scan, hfind]
          rfl
      | custom d => exact congrArg Asking.done hfind
  | some hit =>
      cases d with
      | builtin d =>
          obtain ⟨-, value, hvalue⟩ := plain_of_find? hfind
          have hfind' : d.find? text = some hit := hfind
          rw [scan, PatternDetector.scan, hfind']
          cases verify with
          | false => exact Or.inl ⟨some hit, rfl, .plain hfind (Or.inl rfl)⟩
          | true =>
              cases hservice : d.service with
              | none => exact Or.inl ⟨some hit, rfl, .plain hfind (Or.inr hservice)⟩
              | some service =>
                  have hquestion : (builtin d).question? text = some ⟨service, value⟩ := by
                    simp [question?, service?, hservice, hfind, hvalue]
                  refine Or.inr ⟨⟨service, value⟩, hit, ?_, fun a => .asked a hfind rfl hquestion⟩
                  simp only [hvalue]
                  rfl
      | custom d => exact Or.inl ⟨some hit, congrArg Asking.done hfind, .plain hfind (Or.inr rfl)⟩

/-- A trial that is done has come to what the detector finds. -/
theorem Tried.of_reaches {d : Detector} {verify : Bool} {text : List Char}
    {answers : List (Question × Answer)} {hit : Option Hit}
    (h : Asking.Reaches (d.scan Asking.inquiry verify text) answers (.done hit)) :
    d.Tried verify text answers hit := by
  rcases d.scan_open verify text with ⟨found, hscan, htried⟩ | ⟨q, found, hscan, htried⟩
  · rw [hscan, Asking.reaches_done_iff] at h
    obtain ⟨rfl, hhit⟩ := h
    obtain rfl := Asking.done.inj hhit
    exact htried
  · rw [hscan, Asking.reaches_ask_done_iff] at h
    rcases h with ⟨-, hask⟩ | ⟨a, rfl, hhit⟩
    · simp at hask
    · obtain rfl := Asking.done.inj hhit
      exact htried a

/-- An answer ends a trial. -/
theorem exists_done_of_reaches {d : Detector} {verify : Bool} {text : List Char}
    {answers : List (Question × Answer)} {q : Question} {next : Answer → Asking (Option Hit)}
    (h : Asking.Reaches (d.scan Asking.inquiry verify text) answers (.ask q next)) (a : Answer) :
    ∃ hit, next a = .done hit := by
  rcases d.scan_open verify text with ⟨found, hscan, -⟩ | ⟨q', found, hscan, -⟩
  · rw [hscan, Asking.reaches_done_iff] at h
    simp at h
  · rw [hscan, Asking.reaches_ask_done_iff] at h
    rcases h with ⟨-, hask⟩ | ⟨b, -, hdone⟩
    · obtain ⟨-, rfl⟩ := Asking.ask.inj hask
      exact ⟨_, rfl⟩
    · simp at hdone

/-- Without questions left open, a trial does what a scan does. -/
theorem run_scan {m : Type → Type} [Monad m] (d : Detector) (ask : Inquiry m) (verify : Bool)
    (text : List Char) : (d.scan Asking.inquiry verify text).run ask = d.scan ask verify text := by
  cases d with
  | custom d => rfl
  | builtin d =>
      rw [scan, scan, PatternDetector.scan, PatternDetector.scan]
      cases d.find? text with
      | none => rfl
      | some hit =>
          cases verify with
          | false => rfl
          | true =>
              cases d.service with
              | none => rfl
              | some service =>
                  cases hvalue : hit.value with
                  | none => simp only [hvalue]; rfl
                  | some value => simp only [hvalue]; rfl

end Detector

/-! ## All trials together -/

namespace Trial

/-- The questions that a trial has asked. -/
def questions (t : Trial) : List Question :=
  t.answers.map Prod.fst ++ match t.stage with
    | .ready _ => []
    | .waiting q _ => [q]

/-- What a trial has left to do. -/
def rest (t : Trial) : Asking (Option Hit) :=
  match t.stage with
  | .ready rest => rest
  | .waiting q next => .ask q next

theorem rest_of_ready {t : Trial} {rest : Asking (Option Hit)} (h : t.stage = .ready rest) :
    t.rest = rest := by
  rw [Trial.rest, h]

theorem rest_of_waiting {t : Trial} {q : Question} {next : Answer → Asking (Option Hit)}
    (h : t.stage = .waiting q next) : t.rest = .ask q next := by
  rw [Trial.rest, h]

/-- A bound for the number of steps that a trial still takes. -/
def work (t : Trial) : Nat :=
  match t.stage with
  | .ready (.done _) => 1
  | .ready (.ask _ _) => 3
  | .waiting _ _ => 2

end Trial

namespace Dispatch

/-- The questions of the trials that have come to their ends and of those that have not. -/
def questions (s : Dispatch) : List Question :=
  s.outcomes.flatMap (·.answers.map Prod.fst) ++ s.trials.flatMap Trial.questions

/-- The detectors of all trials. -/
def detectors (s : Dispatch) : List Detector :=
  s.outcomes.map (·.detector) ++ s.trials.map (·.detector)

/-- A bound for the number of steps that are still to be taken. -/
def work (s : Dispatch) : Nat := (s.trials.map Trial.work).sum

/-- Every trial goes the way of its detector. -/
structure OnCourse (verify : Bool) (text : List Char) (s : Dispatch) : Prop where
  trials : ∀ t ∈ s.trials,
    Asking.Reaches (t.detector.scan Asking.inquiry verify text) t.answers t.rest
  outcomes : ∀ o ∈ s.outcomes,
    Asking.Reaches (o.detector.scan Asking.inquiry verify text) o.answers (.done o.hit)

variable {verify : Bool} {text : List Char} {s t : Dispatch}

theorem onCourse_start (e : Engine) (verify : Bool) (text : List Char) :
    OnCourse verify text (start e verify text) := by
  refine ⟨?_, List.forall_mem_nil _⟩
  intro t ht
  obtain ⟨d, -, rfl⟩ := List.mem_map.mp ht
  rw [Trial.rest_of_ready rfl]
  exact .start

/-- Of several trials one takes a step; the others stay as they are. -/
theorem OnCourse.replace (h : OnCourse verify text s) {front back : List Trial} {old new : Trial}
    (htrials : s.trials = front ++ old :: back) (hnew : Asking.Reaches
      (new.detector.scan Asking.inquiry verify text) new.answers new.rest) :
    ∀ t ∈ front ++ new :: back,
      Asking.Reaches (t.detector.scan Asking.inquiry verify text) t.answers t.rest := by
  intro t ht
  rcases List.mem_append.mp ht with hfront | hback
  · exact h.trials t (by simp [htrials, hfront])
  · rcases List.mem_cons.mp hback with rfl | hback
    · exact hnew
    · exact h.trials t (by simp [htrials, hback])

theorem OnCourse.reaches (h : OnCourse verify text s) {front back : List Trial} {t : Trial}
    (htrials : s.trials = front ++ t :: back) :
    Asking.Reaches (t.detector.scan Asking.inquiry verify text) t.answers t.rest :=
  h.trials t (by simp [htrials])

theorem Next.onCourse (hnext : Next s t) (h : OnCourse verify text s) :
    OnCourse verify text t := by
  cases hnext with
  | @ask front back trial q next trials stage =>
      refine ⟨h.replace trials ?_, h.outcomes⟩
      have hreaches := h.reaches trials
      rw [Trial.rest_of_ready stage] at hreaches
      rw [Trial.rest_of_waiting rfl]
      exact hreaches
  | @answer front back trial q next a trials stage =>
      refine ⟨h.replace trials ?_, h.outcomes⟩
      have hreaches := h.reaches trials
      rw [Trial.rest_of_waiting stage] at hreaches
      rw [Trial.rest_of_ready rfl]
      exact .answer a hreaches
  | @finish front back trial hit trials stage =>
      refine ⟨fun t ht => h.trials t ?_, ?_⟩
      · rw [trials]
        exact (List.sublist_cons_self trial back).append_left front |>.subset ht
      · intro o ho
        rcases List.mem_append.mp ho with hold | hnew
        · exact h.outcomes o hold
        · obtain rfl := List.mem_singleton.mp hnew
          have hreaches := h.reaches trials
          rw [Trial.rest_of_ready stage] at hreaches
          exact hreaches

/-- A question is asked by one trial, and stays with it. -/
theorem Next.questions_perm (hnext : Next s t) (h : s.asked.Perm s.questions) :
    t.asked.Perm t.questions := by
  rw [List.perm_iff_count] at h ⊢
  intro q
  have hq := h q
  cases hnext with
  | ask trials stage =>
      simp only [questions, trials, Trial.questions, stage, List.flatMap_append, List.flatMap_cons,
        List.count_append, List.count_nil] at hq ⊢
      omega
  | answer a trials stage =>
      simp only [questions, trials, Trial.questions, stage, List.flatMap_append, List.flatMap_cons,
        List.map_append, List.map_cons, List.map_nil, List.count_append, List.count_nil] at hq ⊢
      omega
  | finish trials stage =>
      simp only [questions, trials, Trial.questions, stage, List.flatMap_append, List.flatMap_cons,
        List.flatMap_nil, List.count_append, List.count_nil] at hq ⊢
      omega

theorem Next.detectors_perm (hnext : Next s t) : t.detectors.Perm s.detectors := by
  cases hnext with
  | ask trials stage => simp [detectors, trials]
  | answer a trials stage => simp [detectors, trials]
  | @finish front back trial hit trials stage =>
      simp only [detectors, trials, List.map_append, List.map_cons, List.map_nil,
        List.append_assoc, List.singleton_append]
      exact List.Perm.append_left _ List.perm_middle.symm

theorem Next.work_lt (hnext : Next s t) (h : OnCourse verify text s) : t.work < s.work := by
  cases hnext with
  | ask trials stage => simp [work, trials, Trial.work, stage]
  | @answer front back trial q next a trials stage =>
      have hreaches := h.reaches trials
      rw [Trial.rest_of_waiting stage] at hreaches
      obtain ⟨hit, hhit⟩ := Detector.exists_done_of_reaches hreaches a
      simp [work, trials, Trial.work, stage, hhit]
  | finish trials stage => simp [work, trials, Trial.work, stage]

/-- As long as there are trials, each of them can take a step. -/
theorem isOver_or_exists_next (s : Dispatch) : s.IsOver ∨ ∃ t, Next s t := by
  cases htrials : s.trials with
  | nil => exact Or.inl htrials
  | cons trial back =>
      have htrials : s.trials = [] ++ trial :: back := htrials
      refine Or.inr ?_
      cases hstage : trial.stage with
      | waiting q next => exact ⟨_, .answer (.error .permits) htrials hstage⟩
      | ready rest =>
          cases rest with
          | done hit => exact ⟨_, .finish htrials hstage⟩
          | ask q next => exact ⟨_, .ask htrials hstage⟩

/-! ## Whole schedules -/

theorem of_reaches {e : Engine} (hreach : Relation.ReflTransGen Next (start e verify text) s) :
    OnCourse verify text s ∧ s.asked.Perm s.questions ∧
      s.detectors.Perm (e.candidates (e.prefilter.select text)) := by
  induction hreach with
  | refl =>
      refine ⟨onCourse_start e verify text, ?_, ?_⟩
      · simp [start, questions, Trial.questions]
      · simp [start, detectors, Function.comp_def]
  | tail _ hnext ih =>
      exact ⟨hnext.onCourse ih.1, hnext.questions_perm ih.2.1, hnext.detectors_perm.trans ih.2.2⟩

theorem not_endless {e : Engine} (schedule : ℕ → Dispatch) (h0 : schedule 0 = start e verify text) :
    ¬ ∀ n, Next (schedule n) (schedule (n + 1)) := by
  have hstart : OnCourse verify text (schedule 0) := h0 ▸ onCourse_start e verify text
  exact not_endless_of_work_lt (OnCourse verify text) work (fun _ _ hnext hs => hnext.onCourse hs)
    (fun _ _ hnext hs => hnext.work_lt hs) hstart

end Dispatch

/-! ## What a trial comes to -/

/-- What a hit says but for what verification can add. -/
def Hit.core (h : Hit) : String × Option String × Option Nat := (h.detector, h.value, h.position)

namespace Detector

variable {d : Detector} {verify : Bool} {text : List Char} {answers : List (Question × Answer)}

/-- Only built-in detectors have questions. -/
theorem question?_eq_some_iff {q : Question} : d.question? text = some q ↔
    ∃ d' hit, d = .builtin d' ∧ d'.service = some q.service ∧ d'.find? text = some hit ∧
      hit.value = some q.value := by
  obtain ⟨service, value⟩ := q
  cases d with
  | builtin d =>
      simp only [question?, service?, find?, Option.bind_eq_some_iff, Option.map_eq_some_iff,
        Question.mk.injEq, builtin.injEq]
      constructor
      · rintro ⟨service, hservice, value, ⟨hit, hfind, hvalue⟩, rfl, rfl⟩
        exact ⟨d, hit, rfl, hservice, hfind, hvalue⟩
      · rintro ⟨d', hit, rfl, hservice, hfind, hvalue⟩
        exact ⟨service, hservice, value, ⟨hit, hfind, hvalue⟩, rfl, rfl⟩
  | custom d =>
      constructor
      · intro h
        simp [question?, service?] at h
      · rintro ⟨d', hit, hd, -⟩
        simp at hd

theorem Tried.map_core {hit : Option Hit} (h : d.Tried verify text answers hit) :
    hit.map Hit.core = (d.find? text).map Hit.core := by
  cases h with
  | missed find => rw [find]
  | plain find unasked => rw [find]
  | asked a find asks question =>
      rw [find]
      cases a with
      | ok verdict => rfl
      | error failure => rfl

/-- The hit of a trial is the one that its detector makes, but for what a service has added. -/
theorem Tried.exists_plain {hit : Hit} (h : d.Tried verify text answers (some hit)) :
    ∃ plain, d.find? text = some plain ∧ hit.detector = plain.detector ∧
      hit.value = plain.value ∧ hit.position = plain.position := by
  have hcore := h.map_core
  rw [Option.map_some, eq_comm, Option.map_eq_some_iff] at hcore
  obtain ⟨plain, hfind, heq⟩ := hcore
  obtain ⟨hdetector, hrest⟩ := Prod.mk.inj heq
  obtain ⟨hvalue, hposition⟩ := Prod.mk.inj hrest
  exact ⟨plain, hfind, hdetector.symm, hvalue.symm, hposition.symm⟩

theorem Tried.eq_find? {hit : Option Hit} (h : d.Tried false text answers hit) :
    hit = d.find? text := by
  cases h with
  | missed find => rw [find]
  | plain find unasked => rw [find]
  | asked a find asks question => simp at asks

theorem Tried.questions_eq {hit : Option Hit} (h : d.Tried true text answers hit) :
    answers.map Prod.fst = (d.question? text).toList := by
  cases h with
  | missed find => simp [question?, find]
  | plain find unasked =>
      have hservice : d.service? = none := by simpa using unasked
      simp [question?, hservice]
  | asked a find asks question => simp [question]

/-- The details of a hit stay, and it is verified just if a built-in detector has made it and the
service of that detector has accepted its value. -/
theorem Tried.annotates {hit : Hit} (h : d.Tried verify text answers (some hit)) :
    ∃ plain, d.find? text = some plain ∧
      (∀ n v, plain.details.lookup n = some v → hit.details.lookup n = some v) ∧
      (hit.verified = true ↔ ∃ d' service value verdict, d = .builtin d' ∧
        d'.service = some service ∧ plain.value = some value ∧
        answers = [(⟨service, value⟩, .ok verdict)] ∧ verdict.valid = true) := by
  cases h with
  | plain find unasked =>
      refine ⟨hit, find, fun n v hv => hv, ?_⟩
      simp [(plain_of_find? find).1]
  | @asked plain q a find asks question =>
      obtain ⟨d', hit', rfl, hservice, hfind, hvalue⟩ := question?_eq_some_iff.mp question
      obtain rfl : plain = hit' := Option.some.inj (find.symm.trans hfind)
      cases a with
      | ok verdict =>
          refine ⟨plain, find, fun n v hv => Details.lookup_complete hv, fun hvalid => ?_, ?_⟩
          · exact ⟨d', q.service, q.value, verdict, rfl, hservice, hvalue, rfl, hvalid⟩
          · rintro ⟨-, service, value, verdict', -, -, -, hanswers, hvalid⟩
            obtain ⟨-, hverdict⟩ := Prod.mk.inj (List.cons.inj hanswers).1
            obtain rfl := Except.ok.inj hverdict
            exact hvalid
      | error failure =>
          refine ⟨plain, find, fun n v hv => hv, ?_⟩
          simp [PatternDetector.annotated, (plain_of_find? find).1]

end Detector

/-! ## What all trials come to -/

namespace Dispatch

variable {e : Engine} {verify : Bool} {text : List Char} {s : Dispatch}

/-- Whatever is read off the trials that are over can be read off the candidates. -/
theorem filterMap_outcomes_perm {α : Type}
    (hreach : Relation.ReflTransGen Next (start e verify text) s) (hover : s.IsOver)
    {f : Outcome → Option α} {g : Detector → Option α}
    (h : ∀ o ∈ s.outcomes, o.detector.Tried verify text o.answers o.hit → f o = g o.detector) :
    (s.outcomes.filterMap f).Perm ((e.candidates (e.prefilter.select text)).filterMap g) := by
  obtain ⟨hcourse, -, hdetectors⟩ := of_reaches hreach
  have hover : s.trials = [] := hover
  rw [detectors, hover, List.map_nil, List.append_nil] at hdetectors
  calc
    (s.outcomes.filterMap f) = s.outcomes.filterMap fun o => g o.detector :=
      List.filterMap_congr fun o ho =>
        h o ho (Detector.Tried.of_reaches (hcourse.outcomes o ho))
    _ = (s.outcomes.map (·.detector)).filterMap g := by rw [List.filterMap_map]; rfl
    List.Perm _ _ := hdetectors.filterMap g

theorem questions_off (hreach : Relation.ReflTransGen Next (start e false text) s) :
    s.asked = [] := by
  obtain ⟨hcourse, hasked, -⟩ := of_reaches hreach
  have htrials : s.trials.flatMap Trial.questions = [] := by
    refine List.flatMap_eq_nil_iff.mpr fun t ht => ?_
    have hreaches := hcourse.trials t ht
    rw [Detector.scan_off] at hreaches
    obtain ⟨hanswers, hrest⟩ := Asking.reaches_done_iff.mp hreaches
    rw [Trial.questions, hanswers]
    cases hstage : t.stage with
    | ready rest => rfl
    | waiting q next =>
        rw [Trial.rest_of_waiting hstage] at hrest
        simp at hrest
  have houtcomes : s.outcomes.flatMap (·.answers.map Prod.fst) = [] := by
    refine List.flatMap_eq_nil_iff.mpr fun o ho => ?_
    have hreaches := hcourse.outcomes o ho
    rw [Detector.scan_off] at hreaches
    rw [(Asking.reaches_done_iff.mp hreaches).1, List.map_nil]
  rw [questions, htrials, houtcomes] at hasked
  exact hasked.eq_nil

/-- The questions that were asked when all is over are those of the candidates. -/
theorem asked_perm (hreach : Relation.ReflTransGen Next (start e true text) s)
    (hover : s.IsOver) :
    s.asked.Perm ((e.candidates (e.prefilter.select text)).filterMap (·.question? text)) := by
  obtain ⟨hcourse, hasked, -⟩ := of_reaches hreach
  have hquestions : s.questions = s.outcomes.filterMap fun o => o.detector.question? text := by
    have hover : s.trials = [] := hover
    rw [questions, hover, List.flatMap_nil, List.append_nil, List.filterMap_eq_flatMap_toList]
    refine List.flatMap_congr fun o ho => ?_
    exact (Detector.Tried.of_reaches (hcourse.outcomes o ho)).questions_eq
  rw [hquestions] at hasked
  exact hasked.trans (filterMap_outcomes_perm hreach hover fun o ho htried => rfl)

end Dispatch

/-- In every schedule and whatever the services answer, the hits with verification are the hits
without, but for what verification adds. Their details stay; a hit is verified just if it was made
by a built-in detector and the service of that detector has accepted its value; and the values
that are asked about are those of the hits whose detectors have a service, each once. Without
verification nothing is asked. Trials one after the other are what a scan of the text does. -/
theorem verification_only_annotates (r : Registry) (text : List Char) :
    let e := Engine.ofRegistry r
    let candidates := e.candidates (e.prefilter.select text)
    (∀ s, Relation.ReflTransGen Dispatch.Next (.start e false text) s →
      s.asked = [] ∧ (s.IsOver → s.hits.Perm (e.hits text))) ∧
    (∀ s, Relation.ReflTransGen Dispatch.Next (.start e true text) s → s.IsOver →
      (s.hits.map Hit.core).Perm ((e.hits text).map Hit.core) ∧
      s.asked.Perm (candidates.filterMap (·.question? text)) ∧
      ∀ o ∈ s.outcomes, ∀ hit, o.hit = some hit → ∃ plain,
        o.detector.find? text = some plain ∧
        (∀ n v, plain.details.lookup n = some v → hit.details.lookup n = some v) ∧
        (hit.verified = true ↔ ∃ d service value verdict, o.detector = .builtin d ∧
          d.service = some service ∧ plain.value = some value ∧
          o.answers = [(⟨service, value⟩, .ok verdict)] ∧ verdict.valid = true)) ∧
    (∀ verify s, Relation.ReflTransGen Dispatch.Next (.start e verify text) s →
      s.IsOver ∨ ∃ t, Dispatch.Next s t) ∧
    (∀ verify, ∀ schedule : ℕ → Dispatch, schedule 0 = .start e verify text →
      ¬ ∀ n, Dispatch.Next (schedule n) (schedule (n + 1))) ∧
    ∀ {m : Type → Type} [Monad m] (ask : Inquiry m) (verify : Bool),
      e.scanText ask verify text = do
        let hits ← candidates.mapM fun d => (d.scan Asking.inquiry verify text).run ask
        return hits.filterMap id := by
  intro e candidates
  refine ⟨?_, ?_, fun verify s hs => s.isOver_or_exists_next,
    fun verify schedule h0 => Dispatch.not_endless schedule h0, ?_⟩
  · intro s hs
    refine ⟨Dispatch.questions_off hs, fun hover => ?_⟩
    exact Dispatch.filterMap_outcomes_perm hs hover fun o ho htried => htried.eq_find?
  · intro s hs hover
    refine ⟨?_, Dispatch.asked_perm hs hover, ?_⟩
    · rw [Dispatch.hits, Engine.hits, List.map_filterMap, List.map_filterMap]
      exact Dispatch.filterMap_outcomes_perm hs hover fun o ho htried => htried.map_core
    · intro o ho hit hhit
      have htried := Detector.Tried.of_reaches ((Dispatch.of_reaches hs).1.outcomes o ho)
      rw [hhit] at htried
      exact htried.annotates
  · intro m _ ask verify
    simp only [Engine.scanText, Engine.scanCandidates, Detector.run_scan]
    rfl

end SecretScan
