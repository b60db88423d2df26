import SecretScan.CommandLine.Run
import Mathlib.Data.List.Forall2

/-!
# What the steps of a run come to

What a run prints is put together from what its steps print, and no step looks at what has been
printed before. The journal is left out of account here.
-/

namespace SecretScan.CommandLine.Run

variable {α β : Type}

/-- Whatever has been printed before, the steps print this text and come to this result. -/
def Prints (x : Steady Id α) (text : String) (a : α) : Prop :=
  ∀ t : Transcript, (x.run t).1 = a ∧ (x.run t).2.output = t.output ++ text

/-- The steps print nothing, and their result has a property. -/
def Yields (x : Steady Id α) (P : α → Prop) : Prop := ∃ a, Prints x "" a ∧ P a

/-! ## Steps that cannot fail -/

theorem prints_pure (a : α) : Prints (pure a) "" a := by
  intro t
  exact ⟨rfl, (String.append_empty).symm⟩

theorem prints_lift (x : Id α) : Prints (StateT.lift x) "" x.run := by
  intro t
  exact ⟨rfl, (String.append_empty).symm⟩

theorem prints_say (text : String) : Prints (say text) text () := by
  intro t
  exact ⟨rfl, rfl⟩

theorem prints_tell (entries : List LogEntry) : Prints (tell entries) "" () := by
  intro t
  exact ⟨rfl, (String.append_empty).symm⟩

theorem Prints.bind {x : Steady Id α} {f : α → Steady Id β} {text more : String} {a : α} {b : β}
    (hx : Prints x text a) (hf : Prints (f a) more b) : Prints (x >>= f) (text ++ more) b := by
  intro t
  obtain ⟨ha, htext⟩ := hx t
  obtain ⟨hb, hmore⟩ := hf (x.run t).2
  have hrun : (x >>= f).run t = (f a).run (x.run t).2 := by
    rw [← ha]
    rfl
  rw [hrun, hb, hmore, htext, String.append_assoc]
  exact ⟨rfl, rfl⟩

/-- After steps that print nothing. -/
theorem Prints.after {x : Steady Id α} {f : α → Steady Id β} {text : String} {a : α} {b : β}
    (hx : Prints x "" a) (hf : Prints (f a) text b) : Prints (x >>= f) text b := by
  have h := hx.bind hf
  rwa [String.empty_append] at h

theorem Prints.map {x : Steady Id α} {text : String} {a : α} (hx : Prints x text a) (f : α → β) :
    Prints (f <$> x) text (f a) := by
  have h : Prints (x >>= fun a => pure (f a)) (text ++ "") (f a) := hx.bind (prints_pure (f a))
  rwa [String.append_empty, bind_pure_comp] at h

/-! ## Steps that print nothing -/

theorem yields_pure {P : α → Prop} {a : α} (h : P a) : Yields (pure a) P := ⟨a, prints_pure a, h⟩

theorem Yields.imp {x : Steady Id α} {P Q : α → Prop} (hx : Yields x P) (h : ∀ a, P a → Q a) :
    Yields x Q := by
  obtain ⟨a, hprints, ha⟩ := hx
  exact ⟨a, hprints, h a ha⟩

theorem Yields.bind {x : Steady Id α} {f : α → Steady Id β} {P : α → Prop} {Q : β → Prop}
    (hx : Yields x P) (hf : ∀ a, P a → Yields (f a) Q) : Yields (x >>= f) Q := by
  obtain ⟨a, hprints, ha⟩ := hx
  obtain ⟨b, hprints', hb⟩ := hf a ha
  exact ⟨b, hprints.bind hprints', hb⟩

theorem yields_mapM {f : α → Steady Id β} {R : α → β → Prop} (h : ∀ a, Yields (f a) (R a))
    (items : List α) : Yields (items.mapM f) (List.Forall₂ R items) := by
  induction items with
  | nil => exact yields_pure .nil
  | cons a items ih =>
      rw [List.mapM_cons]
      refine (h a).bind fun b hb => ih.bind fun bs hbs => yields_pure (.cons hb hbs)

/-- The result is the one that shows when nothing has been printed before. -/
theorem Yields.prints {x : Steady Id α} {P : α → Prop} (h : Yields x P) :
    Prints x "" (x.run {}).1 := by
  obtain ⟨a, ha, -⟩ := h
  rw [(ha {}).1]
  exact ha

/-! ## Steps that can fail -/

theorem Prints.lift {x : Steady Id α} {text : String} {a : α} (hx : Prints x text a) :
    Prints (ExceptT.lift x : Step Id α).run text (.ok a) :=
  hx.map Except.ok

theorem Prints.bind_ok {x : Step Id α} {f : α → Step Id β} {text more : String} {a : α}
    {b : Except RunFailure β} (hx : Prints x.run text (.ok a)) (hf : Prints (f a).run more b) :
    Prints (x >>= f).run (text ++ more) b := by
  rw [ExceptT.run_bind]
  exact hx.bind hf

/-- After steps that print nothing and do not fail. -/
theorem Prints.after_ok {x : Step Id α} {f : α → Step Id β} {text : String} {a : α}
    {b : Except RunFailure β} (hx : Prints x.run "" (.ok a)) (hf : Prints (f a).run text b) :
    Prints (x >>= f).run text b := by
  have h := hx.bind_ok hf
  rwa [String.empty_append] at h

theorem Prints.bind_error {x : Step Id α} {f : α → Step Id β} {text : String} {e : RunFailure}
    (hx : Prints x.run text (.error e)) : Prints (x >>= f).run text (.error e) := by
  have hrest : Prints (pure (.error e) : Steady Id (Except RunFailure β)) "" (.error e) :=
    prints_pure _
  rw [ExceptT.run_bind, ← String.append_empty (s := text)]
  exact hx.bind hrest

theorem prints_orFail (failure : Failure → RunFailure) (x : Except Failure α) :
    Prints (orFail (m := Id) failure x).run "" (x.mapError failure) := by
  cases x with
  | ok a => exact prints_pure _
  | error f => exact prints_pure _

end SecretScan.CommandLine.Run
