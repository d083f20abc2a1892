import C4Diagram.Command.Run
import C4Diagram.Proofs.Edit.Accepted
import C4Diagram.Proofs.Files

/-! Commands are all or nothing. The steps of a command only read until the last of them, which
shows or writes the result, so together they come to one effect: a step that fails has changed
nothing, and a command that succeeds leaves behind what the library makes of its input. -/

namespace C4Diagram

variable {σ : Type} {fs : FileSystem σ} {platform : Option Text}

namespace Steps

def carriedOut (fs : FileSystem σ) (w : World σ) : Effect → Except Failure Unit × World σ
  | .show t => (.ok (), { w with shown := w.shown ++ t })
  | .write path t =>
    match fs.write w.files path t with
    | .error e => (.error (.file e), w)
    | .ok files => (.ok (), { w with files := files })

/-- The steps fail with the world as it was, or they carry out the effect. -/
def ComeTo (fs : FileSystem σ) (steps : Steps σ Unit)
    (effect : FileReader → Except Failure Effect) : Prop :=
  ∀ w : World σ, steps.run.run w =
    match effect (fs.read w.files) with
    | .error f => (.error f, w)
    | .ok e => carriedOut fs w e

variable {α : Type} {next : α → Steps σ Unit} {rest : FileReader → α → Except Failure Effect}

theorem comeTo_ofExcept_bind {x : Except Failure α}
    (h : ∀ a, ComeTo fs (next a) fun read => rest read a) :
    ComeTo fs (MonadExcept.ofExcept x >>= next) fun read => x >>= rest read := by
  intro w
  cases x with
  | error f => rfl
  | ok a => exact h a w

theorem comeTo_query_bind {ask : FileReader → Except Failure α}
    (h : ∀ a, ComeTo fs (next a) fun read => rest read a) :
    ComeTo fs (query fs ask >>= next) fun read => ask read >>= rest read := by
  intro w
  change (MonadExcept.ofExcept (ask (fs.read w.files)) >>= next).run.run w = _
  exact comeTo_ofExcept_bind h w

theorem comeTo_say (t : Text) : ComeTo fs (say t) fun _ => pure (.show t) := fun _ => rfl

theorem comeTo_say_say (s t : Text) :
    ComeTo fs (do say s; say t) fun _ => pure (.show (s ++ t)) := by
  intro w
  change (Except.ok (), World.mk w.files (w.shown ++ s ++ t)) =
    (Except.ok (), World.mk w.files (w.shown ++ (s ++ t)))
  rw [List.append_assoc]

theorem comeTo_save (path t : Text) :
    ComeTo fs (save fs path t) fun _ => pure (.write path t) := by
  intro w
  change (match fs.write w.files path t with
    | .error e => throw (.file e)
    | .ok files => set { w with files := files } : Steps σ Unit).run.run w =
    match fs.write w.files path t with
    | .error e => (.error (.file e), w)
    | .ok files => (.ok (), { w with files := files })
  cases fs.write w.files path t <;> rfl

theorem comeTo_emit (t : Text) (output : Option Text) :
    ComeTo fs (emit fs t output) fun _ => pure (.ofText t output) := by
  cases output with
  | some path => exact comeTo_save path t
  | none =>
    unfold emit Effect.ofText
    by_cases hlast : t.getLast? = some '\n'
    · simp only [hlast, ne_eq, not_true_eq_false, if_false, if_true]
      exact comeTo_say t
    · simp only [hlast, ne_eq, not_false_eq_true, if_false, if_true]
      exact comeTo_say_say t _

/-- Every command comes to its effect: each step before the last one only asks. -/
theorem comeTo_effect (fs : FileSystem σ) (platform : Option Text) (i : Invocation) :
    ComeTo fs (i.steps fs platform) fun read => i.effect read platform := by
  obtain ⟨settingsPath, command⟩ := i
  cases command with
  | new output => exact comeTo_emit _ _
  | outline input =>
    exact comeTo_query_bind fun text => comeTo_query_bind fun _ => comeTo_say _
  | check input =>
    exact comeTo_query_bind fun text => comeTo_query_bind fun _ =>
      comeTo_ofExcept_bind fun warnings => comeTo_say _
  | addElement input element level output =>
    exact comeTo_query_bind fun text => comeTo_query_bind fun settings =>
      comeTo_ofExcept_bind fun changed => comeTo_emit _ _
  | addRelation input relation output =>
    exact comeTo_query_bind fun text => comeTo_query_bind fun _ =>
      comeTo_ofExcept_bind fun changed => comeTo_emit _ _
  | normalize input level output =>
    exact comeTo_query_bind fun text => comeTo_query_bind fun settings => comeTo_emit _ _
  | url input level =>
    refine comeTo_query_bind fun text => comeTo_query_bind fun settings =>
      comeTo_ofExcept_bind fun address => ?_
    cases address with
    | some url => exact comeTo_say_say _ _
    | none =>
      intro w
      change (Except.ok (), w) = (Except.ok (), World.mk w.files (w.shown ++ []))
      rw [List.append_nil]

end Steps

namespace FileSystem

theorem run_eq (fs : FileSystem σ) (files : σ) (platform : Option Text) (i : Invocation) :
    fs.run files platform i =
      match i.effect (fs.read files) platform with
      | .error f => ⟨files, [], some f⟩
      | .ok (.show t) => ⟨files, t, none⟩
      | .ok (.write path t) =>
        match fs.write files path t with
        | .error e => ⟨files, [], some (.file e)⟩
        | .ok after => ⟨after, [], none⟩ := by
  unfold run
  rw [Steps.comeTo_effect fs platform i ⟨files, []⟩]
  dsimp only
  cases i.effect (fs.read files) platform with
  | error f => rfl
  | ok e =>
    cases e with
    | «show» t => rfl
    | write path t =>
      unfold Steps.carriedOut
      dsimp only
      cases fs.write files path t <;> rfl

end FileSystem

namespace Effect

end Effect

namespace Invocation

section Checked

variable {ε α β : Type} {P : β → Prop}

end Checked

end Invocation

end C4Diagram
