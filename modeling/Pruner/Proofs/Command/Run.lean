import Pruner.Command.Run
import Pruner.Proofs.Files.Tree
import Pruner.Proofs.Fix.Round

namespace Pruner.Command

open Pruner.Text Pruner.Fix Pruner.Files

variable {tools : Tools} {settings : Settings} {session next : Session} {path : Text}
  {content : Bytes}

section FixFile

theorem draft_eq_ok {options : Options} {encoding source fixed : Text} :
    draft tools options content = .ok ⟨encoding, source, fixed⟩ ↔
      readSource tools.codecs content = .ok (encoding, source) ∧
        (fixCode options (fun _ => tools.check) tools.rounds source).outcome = .done fixed := by
  rw [draft]
  cases readSource tools.codecs content with
  | error e => simp
  | ok found =>
    obtain ⟨encoding', source'⟩ := found
    dsimp only
    constructor
    · intro h
      split at h
      · rename_i hdone
        obtain ⟨rfl, rfl, rfl⟩ := Draft.mk.inj (Except.ok.inj h)
        exact ⟨rfl, hdone⟩
      · cases h
      · cases h
    · rintro ⟨hsource, hdone⟩
      obtain ⟨rfl, rfl⟩ := Prod.mk.inj (Except.ok.inj hsource)
      rw [hdone]

theorem store_eq_ok {codecs : Codecs} {encoding fixed : Text} :
    store codecs session path encoding fixed = .ok next ↔
      ∃ place bytes, session.tree.openForWriting path = .ok place ∧
        codecs.store encoding fixed = .ok bytes ∧
        session.tree.device.shortfall? place bytes = none ∧
        next = { session with tree := session.tree.withFile place bytes } := by
  rw [store]
  cases session.tree.openForWriting path with
  | error e => simp
  | ok place =>
    cases codecs.store encoding fixed with
    | error e => simp
    | ok bytes =>
      cases hshort : session.tree.device.shortfall? place bytes with
      | none => simp [FileTree.write, hshort, eq_comm]
      | some short => simp [FileTree.write, hshort]

theorem fixFile_of_draft (settings : Settings) (hread : session.tree.read path = .ok content)
    {encoding source fixed : Text}
    (hdraft : draft tools settings.options content = .ok ⟨encoding, source, fixed⟩) :
    fixFile tools settings session path =
      if fixed = source then .ok session
      else if settings.inPlace then store tools.codecs session path encoding fixed
      else .ok { session with
        output := session.output ++ [Diff.unified (lines source) (lines fixed) path] } := by
  rw [fixFile, hread]
  dsimp only
  rw [hdraft]
  exact if_congr beq_iff_eq rfl rfl

theorem fixFile_of_trouble (settings : Settings) (hread : session.tree.read path = .ok content)
    {trouble : Trouble} (hdraft : draft tools settings.options content = .error trouble) :
    fixFile tools settings session path = .error (session, trouble) := by
  rw [fixFile, hread]
  dsimp only
  rw [hdraft]

end FixFile

section Effect

/-- What fixing one file comes to: the bytes that are stored and their place, what is printed, and
what has gone wrong. -/
structure Effect where
  stored : Option (List Text × Bytes) := none
  output : List Text := []
  trouble : Option Trouble := none

namespace Effect

def change (effect : Effect) (tree : FileTree) : FileTree :=
  match effect.stored with
  | some (place, content) => tree.withFile place content
  | none => tree

def result (effect : Effect) (session : Session) : Except (Session × Trouble) Session :=
  let after := { session with
    tree := effect.change session.tree
    output := session.output ++ effect.output }
  match effect.trouble with
  | none => .ok after
  | some trouble => .error (after, trouble)

def errors (effect : Effect) : List Text :=
  match effect.trouble with
  | some (.access message) => [message]
  | _ => []

/-- Nothing has gone wrong that ends the run. -/
def IsBearable (effect : Effect) : Prop :=
  ∀ trouble, effect.trouble = some trouble → ∃ message, trouble = .access message

def apply (effect : Effect) (session : Session) : Session where
  tree := effect.change session.tree
  output := session.output ++ effect.output
  errors := session.errors ++ effect.errors
  failed := session.failed || !effect.errors.isEmpty

variable {effect : Effect}

theorem change_of_none (h : effect.stored = none) (tree : FileTree) : effect.change tree = tree := by
  rw [change, h]

theorem change_of_some {place : List Text} {content : Bytes}
    (h : effect.stored = some (place, content)) (tree : FileTree) :
    effect.change tree = tree.withFile place content := by
  rw [change, h]

end Effect

/-- Two trees in which a path leads to the same: what can be read there, and what can be opened for
writing. -/
structure AgreeAt (path : Text) (a b : FileTree) : Prop where
  read : a.read path = b.read path
  openForWriting : a.openForWriting path = b.openForWriting path
  device : a.device = b.device

theorem AgreeAt.refl (path : Text) (tree : FileTree) : AgreeAt path tree tree := ⟨rfl, rfl, rfl⟩

theorem AgreeAt.trans {path : Text} {a b c : FileTree} (hab : AgreeAt path a b)
    (hbc : AgreeAt path b c) : AgreeAt path a c where
  read := hab.read.trans hbc.read
  openForWriting := hab.openForWriting.trans hbc.openForWriting
  device := hab.device.trans hbc.device

/-- The effect of fixing the file at a path is the same in all trees where the path leads to the
same. It stores bytes nowhere but in that file. -/
structure HasEffect (tools : Tools) (settings : Settings) (tree : FileTree) (path : Text)
    (effect : Effect) : Prop where
  fixFile_eq : ∀ session, AgreeAt path session.tree tree →
    fixFile tools settings session path = effect.result session
  opened : ∀ place content, effect.stored = some (place, content) →
    tree.openForWriting path = .ok place

variable {tree : FileTree} {effect : Effect}

theorem exists_effect_of_store (codecs : Codecs) (tree : FileTree) (path encoding fixed : Text) :
    ∃ effect : Effect,
      (∀ session, AgreeAt path session.tree tree →
        store codecs session path encoding fixed = effect.result session) ∧
      ∀ place content, effect.stored = some (place, content) →
        tree.openForWriting path = .ok place := by
  cases hopen : tree.openForWriting path with
  | error e =>
    refine ⟨{ trouble := some (.access (e.message path)) }, fun session h => ?_, by simp⟩
    rw [store, h.openForWriting, hopen]
    simp [Effect.result, Effect.change]
  | ok place =>
    cases hbytes : codecs.store encoding fixed with
    | error e =>
      -- The file has been emptied by the time its text turns out not to fit the codec.
      refine ⟨{ stored := some (place, []), trouble := some (.codec e) }, fun session h => ?_,
        by simp⟩
      rw [store, h.openForWriting, hopen]
      simp [hbytes, Effect.result, Effect.change]
    | ok bytes =>
      cases hshort : tree.device.shortfall? place bytes with
      | none =>
        refine ⟨{ stored := some (place, bytes) }, fun session h => ?_, by simp⟩
        rw [store, h.openForWriting, hopen]
        simp [hbytes, FileTree.write, h.device, hshort, Effect.result, Effect.change]
      | some short =>
        refine ⟨{ stored := some (place, short.1), trouble := some (.access (short.2.message path)) },
          fun session h => ?_, by simp⟩
        rw [store, h.openForWriting, hopen]
        simp [hbytes, FileTree.write, h.device, hshort, Effect.result, Effect.change]

theorem exists_hasEffect (tools : Tools) (settings : Settings) (tree : FileTree) (path : Text) :
    ∃ effect, HasEffect tools settings tree path effect := by
  cases hread : tree.read path with
  | error e =>
    refine ⟨{ trouble := some (.access (e.message path)) }, fun session h => ?_, by simp⟩
    rw [fixFile, h.read, hread]
    simp [Effect.result, Effect.change]
  | ok content =>
    cases hdraft : draft tools settings.options content with
    | error trouble =>
      refine ⟨{ trouble := some trouble }, fun session h => ?_, by simp⟩
      rw [fixFile_of_trouble settings (h.read.trans hread) hdraft]
      simp [Effect.result, Effect.change]
    | ok d =>
      obtain ⟨encoding, source, fixed⟩ := d
      -- The draft is told from what was read. Only a file that is stored is looked at again.
      have hfix (session : Session) (h : AgreeAt path session.tree tree) :=
        fixFile_of_draft settings (h.read.trans hread) hdraft
      by_cases hsame : fixed = source
      · refine ⟨{}, fun session h => ?_, by simp⟩
        rw [hfix session h, if_pos hsame]
        simp [Effect.result, Effect.change]
      · by_cases hplace : settings.inPlace = true
        · obtain ⟨effect, hstore, hopened⟩ :=
            exists_effect_of_store tools.codecs tree path encoding fixed
          refine ⟨effect, fun session h => ?_, hopened⟩
          rw [hfix session h, if_neg hsame, if_pos hplace, hstore session h]
        · refine ⟨{ output := [Diff.unified (lines source) (lines fixed) path] },
            fun session h => ?_, by simp⟩
          rw [hfix session h, if_neg hsame, if_neg hplace]
          simp [Effect.result, Effect.change]

namespace HasEffect

/-- A visit goes on if nothing but access to the file has failed. -/
theorem visitFile_eq_ok (h : HasEffect tools settings tree path effect)
    (hagree : AgreeAt path session.tree tree) :
    visitFile tools settings session path = .ok next ↔
      effect.IsBearable ∧ effect.apply session = next := by
  rw [visitFile, h.fixFile_eq session hagree]
  cases htrouble : effect.trouble with
  | none =>
    simp [Effect.result, Effect.IsBearable, Effect.apply, Effect.errors, htrouble]
  | some trouble =>
    cases trouble <;>
      simp [Effect.result, Effect.IsBearable, Effect.apply, Effect.errors, htrouble]

theorem congr {other : FileTree} (h : HasEffect tools settings tree path effect)
    (hagree : AgreeAt path other tree) : HasEffect tools settings other path effect where
  fixFile_eq session hsession := h.fixFile_eq session (hsession.trans hagree)
  opened place content hstored := hagree.openForWriting.trans (h.opened place content hstored)

/-- An error is reported exactly if the file could not be accessed. -/
theorem errors_isEmpty_eq_false_iff (h : HasEffect tools settings tree path effect) :
    effect.errors.isEmpty = false ↔
      ∃ after message, fixFile tools settings { tree } path = .error (after, .access message) := by
  rw [h.fixFile_eq _ (.refl path tree), Effect.errors, Effect.result]
  cases effect.trouble with
  | none => simp
  | some trouble => cases trouble <;> simp

/-- What a bearable effect leaves behind is what fixing the file alone leaves behind. -/
theorem exists_alone (h : HasEffect tools settings tree path effect) (hbear : effect.IsBearable) :
    ∃ alone, (fixFile tools settings { tree } path = .ok alone ∨
      ∃ message, fixFile tools settings { tree } path = .error (alone, .access message)) ∧
      alone.tree = effect.change tree := by
  rw [h.fixFile_eq _ (.refl path tree), Effect.result]
  cases htrouble : effect.trouble with
  | none => exact ⟨_, Or.inl rfl, rfl⟩
  | some trouble =>
    obtain ⟨message, rfl⟩ := hbear trouble htrouble
    exact ⟨_, Or.inr ⟨message, rfl⟩, rfl⟩

/-- What can be read of a file after a visit depends on what could be read before. -/
theorem read_change (h : HasEffect tools settings tree path effect) :
    (effect.change tree).read path =
      (tree.read path).map fun content => (effect.stored.map Prod.snd).getD content := by
  cases hstored : effect.stored with
  | none =>
    rw [Effect.change_of_none hstored]
    cases tree.read path <;> rfl
  | some stored =>
    obtain ⟨hplace, old, hfile⟩ := FileTree.exists_file_of_openForWriting (h.opened _ _ hstored)
    rw [Effect.change_of_some hstored, FileTree.read_withFile_self hfile _ hplace]
    rfl

end HasEffect

theorem exists_effect_of_visitFile (h : visitFile tools settings session path = .ok next) :
    ∃ effect, HasEffect tools settings session.tree path effect ∧ effect.IsBearable ∧
      effect.apply session = next := by
  obtain ⟨effect, heffect⟩ := exists_hasEffect tools settings session.tree path
  exact ⟨effect, heffect, (heffect.visitFile_eq_ok (.refl _ _)).mp h⟩

end Effect

section Rounds

variable (more : Nat)

theorem draft_of_finished {options : Options}
    (h : draft tools options content ≠ .error .unfinished) :
    draft { tools with rounds := tools.rounds + more } options content =
      draft tools options content := by
  unfold draft at h ⊢
  dsimp only
  cases hsource : readSource tools.codecs content with
  | error e => rfl
  | ok found =>
    rw [hsource] at h
    dsimp only at h ⊢
    rw [fixCode_of_finished _ more]
    intro houtcome
    rw [houtcome] at h
    exact h rfl

theorem fixFile_of_finished
    (h : ∀ after, fixFile tools settings session path ≠ .error (after, .unfinished)) :
    fixFile { tools with rounds := tools.rounds + more } settings session path =
      fixFile tools settings session path := by
  unfold fixFile at h ⊢
  cases hread : session.tree.read path with
  | error e => rfl
  | ok content =>
    rw [hread] at h
    dsimp only at h ⊢
    rw [draft_of_finished more]
    intro hdraft
    rw [hdraft] at h
    exact h session rfl

theorem visitFile_of_finished
    (h : ∀ after, visitFile tools settings session path ≠ .error (after, .unfinished)) :
    visitFile { tools with rounds := tools.rounds + more } settings session path =
      visitFile tools settings session path := by
  have hfix : fixFile { tools with rounds := tools.rounds + more } settings session path =
      fixFile tools settings session path := by
    apply fixFile_of_finished
    intro after hfix
    apply h after
    rw [visitFile, hfix]
  rw [visitFile, visitFile, hfix]

/-- Visits that agree unless they end in certain errors lead to the same, unless they end so. -/
theorem visitNames_congr {ε σ : Type} {walked : σ → Text → Bool}
    {look : σ → Text → Except ε (List Text)} {visit visit' : σ → Text → Except ε σ} {P : ε → Prop}
    (hvisit : ∀ state name, (∀ e, visit state name = .error e → ¬P e) →
      visit' state name = visit state name)
    {found names : List Text} {state : σ}
    (h : ∀ e, visitNames walked look visit found state names = .error e → ¬P e) :
    visitNames walked look visit' found state names =
      visitNames walked look visit found state names := by
  -- An error of one visit is that of the whole, so no visit that is made ends in such an error.
  induction names generalizing found state with
  | nil =>
    rw [visitNames] at h ⊢
    rw [visitNames]
    induction found generalizing state with
    | nil => rfl
    | cons name found ih =>
      rw [List.foldlM_cons] at h ⊢
      rw [List.foldlM_cons, hvisit state name fun e he => h e (by rw [he]; rfl)]
      cases hstate : visit state name with
      | error e => rfl
      | ok next =>
        rw [hstate] at h
        exact ih h
  | cons name names ih =>
    rw [visitNames] at h ⊢
    rw [visitNames]
    split
    · rename_i hwalked
      rw [if_pos hwalked] at h
      cases hlook : look state name with
      | error e => rfl
      | ok files =>
        rw [hlook] at h
        exact ih h
    · rename_i hself
      rw [if_neg hself] at h
      rw [hvisit state name fun e he => h e (by rw [he]; rfl)]
      cases hstate : visit state name with
      | error e => rfl
      | ok next =>
        rw [hstate] at h
        exact ih h

theorem runSettings_of_finished {tree : FileTree}
    (h : (runSettings tools tree settings).2 ≠ .trouble .unfinished) :
    runSettings { tools with rounds := tools.rounds + more } tree settings =
      runSettings tools tree settings := by
  unfold runSettings at h ⊢
  split
  · rfl
  · rename_i hallowed
    rw [if_neg hallowed] at h
    dsimp only at h ⊢
    rw [visitNames_congr (P := fun e => e.2 = .unfinished)]
    · intro session name hvisit
      apply visitFile_of_finished
      intro after hafter
      exact hvisit _ hafter rfl
    · intro e he hbad
      rw [he] at h
      exact h (congrArg Ending.trouble hbad)

/-- More rounds than a command line needs do not change its outcome. -/
theorem run_of_finished {tree : FileTree} {arguments : List Text}
    (h : (run tools tree arguments).2 ≠ .trouble .unfinished) :
    run { tools with rounds := tools.rounds + more } tree arguments = run tools tree arguments := by
  unfold run at h ⊢
  cases harguments : readArguments arguments with
  | ok settings =>
    rw [harguments] at h
    exact runSettings_of_finished more h
  | error reply => cases reply <;> rfl

end Rounds

end Pruner.Command
